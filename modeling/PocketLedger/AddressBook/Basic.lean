import PocketLedger.AddressBook.Folder
import PocketLedger.AddressBook.Location
import PocketLedger.Json.Format
import PocketLedger.Notice
import Std.Data.ExtTreeMap

/-!
# Address books

An address book is a list of records, read from a JSON text. Records are found by address;
of several records with one address the last counts.
-/

namespace PocketLedger

open Json (Fault Format)

/-- One record of an address book. -/
structure AddressRecord where
  address : String
  privateKey : String
  publicKeyHash : String
  assetAddress : String
  assetId : String
  /-- A description of the asset, which can be any JSON value. -/
  assetDefinition : Json.Value
  assetDefinitionHash : String

/-- Records. -/
def AddressRecord.format : Format AddressRecord :=
  .record
    (.cons "bitcoinAddress" .text none
      (.cons "privateKey" .text none
        (.cons "publicKeyHashHex" .text none
          (.cons "assetAddress" .text none
            (.cons "assetId" .text none
              (.cons "asset_definition" .value none
                (.cons "asset_definition_hash" .text none .nil)))))))
    (fun record => (record.address, record.privateKey, record.publicKeyHash, record.assetAddress,
      record.assetId, record.assetDefinition, record.assetDefinitionHash, ()))
    (fun (address, privateKey, publicKeyHash, assetAddress, assetId, definition, hash, ()) =>
      ⟨address, privateKey, publicKeyHash, assetAddress, assetId, definition, hash⟩)

/-- Why a file could not be read as an address book. -/
inductive ContentError where
  /-- The contents are not a list of records. -/
  | badText (fault : Fault)
  /-- There are no contents, because the path leads to a folder. -/
  | unreadable
  deriving DecidableEq

/-- The category that a content error is reported as. -/
def ContentError.category : ContentError → String
  | .badText fault => fault.category
  | .unreadable => "io"

/-- Why there is no address book, or no record in it. -/
inductive AddressBookError where
  /-- The file could not be opened. -/
  | load (path : Path) (error : OpenError)
  /-- The file could not be read. -/
  | parse (path : Path) (error : ContentError)
  /-- There is no record for this key. -/
  | lookup (key : String)
  deriving DecidableEq

/-- The wording of an error. -/
def AddressBookError.message : AddressBookError → String
  | .load path error => "Cannot read fixture file " ++ path.text ++ ": " ++ error.message
  | .parse path error => "Cannot parse fixture file " ++ path.text ++ ": " ++ error.category
  | .lookup key => "No fixture record for " ++ key

/-- The records of an address book, in order. -/
structure AddressBook where
  records : Array AddressRecord
  /-- The position of the last record of each address. -/
  positions : Std.ExtTreeMap String Nat

namespace AddressBook

/-- The address book of a list of records. -/
def ofRecords (records : List AddressRecord) : AddressBook where
  records := records.toArray
  positions := records.zipIdx.foldl (fun positions (record, position) =>
    positions.insert record.address position) ∅

/-- The number of records. -/
def size (book : AddressBook) : Nat := book.records.size

/-- Whether there are no records. -/
def isEmpty (book : AddressBook) : Bool := book.records.isEmpty

/-- Read an address book from bytes; the path stands for their origin in errors. -/
def ofBytes (bytes : Bytes) (origin : Path) : Except AddressBookError AddressBook :=
  match (Format.list AddressRecord.format).ofBytes bytes with
  | .error fault => .error (.parse origin (.badText fault))
  | .ok records => .ok (ofRecords records)

/-- Load the address book of a location, from a working folder. -/
def load (working : Node) (location : Location) : Step Unit AddressBookError AddressBook :=
  let path := location.path
  match working.locate path with
  | .error error => .failed () (.load path error)
  | .ok (.folder _) => .failed () (.parse path .unreadable)
  | .ok (.file contents) =>
    match ofBytes contents path with
    | .error error => .failed () error
    | .ok book => ⟨(), [.recordsLoaded book.size path.text], .ok book⟩

/-- The record of an address. -/
def record (book : AddressBook) (address : String) : Except AddressBookError AddressRecord :=
  match book.positions[address]?.bind fun position => book.records[position]? with
  | none => .error (.lookup address)
  | some record => .ok record

/-- The address of the record at a position. -/
def addressAt (book : AddressBook) (position : Nat) : Except AddressBookError String :=
  match book.records[position]? with
  | none => .error (.lookup ("record #" ++ toString position))
  | some record => .ok record.address

/-- The asset id of an address. -/
def assetId (book : AddressBook) (address : String) : Except AddressBookError String :=
  (book.record address).map AddressRecord.assetId

/-- The asset address of an address. -/
def assetAddress (book : AddressBook) (address : String) : Except AddressBookError String :=
  (book.record address).map AddressRecord.assetAddress

/-- The asset definition of an address. -/
def assetDefinition (book : AddressBook) (address : String) :
    Except AddressBookError Json.Value :=
  (book.record address).map AddressRecord.assetDefinition

/-- The hash of the asset definition of an address. -/
def assetDefinitionHash (book : AddressBook) (address : String) :
    Except AddressBookError String :=
  (book.record address).map AddressRecord.assetDefinitionHash

/-- The public key hash of an address. -/
def publicKeyHash (book : AddressBook) (address : String) : Except AddressBookError String :=
  (book.record address).map AddressRecord.publicKeyHash

/-- The secret key of an address. -/
def privateKey (book : AddressBook) (address : String) : Except AddressBookError String :=
  (book.record address).map AddressRecord.privateKey

end AddressBook
end PocketLedger
