import PocketLedger.Text.Glyph

/-!
# Paths

A path is a byte string in which slashes divide the names. Paths that lead the same way are
the same: doubled and final slashes do not count, nor does a dot, unless it comes first.
-/

namespace PocketLedger

/-- A path to a file or folder. -/
structure Path where
  bytes : Bytes
  deriving DecidableEq

namespace Path

/-- The byte that divides names. -/
def slash : UInt8 := 0x2f

/-- The path of a text. -/
def ofText (text : String) : Path := ⟨Bytes.ofText text⟩

/-- A path as text. -/
def text (path : Path) : String := Text.shownText path.bytes

/-- A path below another. The name below does not start with a slash. -/
def join (path : Path) (below : Bytes) : Path :=
  match path.bytes.getLast? with
  | none => ⟨below⟩
  | some last => if last = slash then ⟨path.bytes ++ below⟩ else ⟨path.bytes ++ (slash :: below)⟩

/-- The pieces between slashes, in order; there is one more than slashes. -/
def pieces : Bytes → List Bytes
  | [] => [[]]
  | byte :: rest =>
    match pieces rest with
    | [] => [[byte]]
    | first :: more => if byte = slash then [] :: first :: more else (byte :: first) :: more

/-- One step of the way that a path leads. -/
inductive Leg where
  /-- From the root. -/
  | root
  /-- Stay in the folder. -/
  | here
  /-- To the folder above. -/
  | up
  /-- To what has this name. -/
  | down (name : Bytes)
  deriving DecidableEq

/-- The leg of one piece. -/
def leg (piece : Bytes) : Leg :=
  if piece = [0x2e] then .here
  else if piece = [0x2e, 0x2e] then .up
  else .down piece

/-- The pieces that lead somewhere. -/
def legsOf (pieces : List Bytes) : List Leg :=
  (pieces.filter fun piece => piece ≠ [] ∧ piece ≠ [0x2e]).map leg

/-- The way that a path leads. -/
def legs (path : Path) : List Leg :=
  match pieces path.bytes with
  | [] => []
  | first :: rest =>
    if first = [] then (if rest = [] then [] else .root :: legsOf rest)
    else if first = [0x2e] then .here :: legsOf rest
    else legsOf (first :: rest)

/-- Whether two paths lead the same way. -/
def same (left right : Path) : Bool := left.legs = right.legs

end Path
end PocketLedger
