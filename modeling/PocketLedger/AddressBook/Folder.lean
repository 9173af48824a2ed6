import PocketLedger.AddressBook.Path

/-!
# Folders

The part of a file system that an address book is loaded from: the working folder with all
that is in it. A path is followed piece by piece; what lies outside the working folder is not
found.
-/

namespace PocketLedger

/-- What a name in a folder stands for. -/
inductive Node where
  | file (contents : Bytes)
  | folder (entries : List (Bytes × Node))

/-- Why a path leads to nothing that can be opened. -/
inductive OpenError where
  /-- A name on the way does not exist. -/
  | notFound
  /-- A name on the way, or before a final slash, is a file. -/
  | notAFolder
  /-- The path holds a zero byte. -/
  | zeroByte
  deriving DecidableEq, Repr

/-- The wording of an error. -/
def OpenError.message : OpenError → String
  | .notFound => "No such file or directory (os error 2)"
  | .notAFolder => "Not a directory (os error 20)"
  | .zeroByte => "file name contained an unexpected NUL byte"

namespace Node

/-- What a name stands for among entries. -/
def entry? (name : Bytes) : List (Bytes × Node) → Option Node
  | [] => none
  | (other, node) :: rest => if other = name then some node else entry? name rest

/-- Follow the pieces of a path from a node. The folders above it are given, nearest first. -/
def follow : (pieces : List Bytes) → (above : List Node) → Node → Except OpenError Node
  | [], _, node => .ok node
  | _ :: _, _, .file _ => .error .notAFolder
  | piece :: rest, above, .folder entries =>
    if piece = [] ∨ piece = [0x2e] then follow rest above (.folder entries)
    else if piece = [0x2e, 0x2e] then
      match above with
      | [] => .error .notFound
      | parent :: above => follow rest above parent
    else
      match entry? piece entries with
      | none => .error .notFound
      | some node => follow rest (.folder entries :: above) node

/-- What a path leads to from the working folder. -/
def locate (working : Node) (path : Path) : Except OpenError Node :=
  if 0x00 ∈ path.bytes then .error .zeroByte
  else if path.bytes = [] ∨ path.bytes.head? = some Path.slash then .error .notFound
  else follow (Path.pieces path.bytes) [] working

end Node
end PocketLedger
