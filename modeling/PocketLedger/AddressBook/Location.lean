import PocketLedger.AddressBook.Path

/-!
# Where an address book is kept

Each network has an address book of its own, in a file named after the network. Network and
folder come from the environment or are the usual ones.
-/

namespace PocketLedger

/-- The network and the folder of an address book. -/
structure Location where
  network : String
  folder : Path

namespace Location

/-- The test network, in the working folder. -/
def default : Location := ⟨"testnet", .ofText "."⟩

/-- The location that the environment gives. A network that is not text counts as not given;
a folder need not be text. -/
def ofEnvironment (network folder : Option Bytes) : Location where
  network := (network.bind fun bytes => String.fromUTF8? ⟨bytes.toArray⟩).getD default.network
  folder := (folder.map Path.mk).getD default.folder

/-- The name of the file. -/
def fileName (location : Location) : String := "addresses." ++ location.network

/-- The path of the file. -/
def path (location : Location) : Path := location.folder.join (Bytes.ofText location.fileName)

/-- Whether two locations are the same. -/
def same (left right : Location) : Bool :=
  left.network == right.network && left.folder.same right.folder

end Location
end PocketLedger
