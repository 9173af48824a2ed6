import PocketLedger.Hashing.Digest
import PocketLedger.Json.Value

/-!
# JSON formats of typed values

A format writes the values of a type and reads them back. Reading goes from left to right and
stops at the first fault. A value of the wrong kind is refused as soon as its kind is known:
a list or an object at its bracket, anything else after it has been scanned.

A record is written as an object. It is read from an object whose entries come in any order,
where unknown entries are passed over, or from a list of its fields in order.
-/

namespace PocketLedger.Json

open Text (Glyph)

/-- How the values of a type are written and read. -/
structure Format (α : Type) where
  /-- The text of a value. -/
  write : α → List Char
  /-- A value at the front of a text, with at most `room` levels of lists and objects. -/
  read : (room : Nat) → List Glyph → Scanned α

namespace Format

/-- A format for values that are written as JSON scalars; `accept` tells which scalars are
values of the type. -/
def ofScalar {α : Type} (write : α → List Char) (accept : Value → Option α) : Format α where
  write := write
  read _ glyphs :=
    match skipBlanks glyphs with
    | .char '[' :: _ => .error .mistyped
    | .char '{' :: _ => .error .mistyped
    | other =>
      (scalar other).andThen fun value rest =>
        match accept value with
        | some found => .ok (found, rest)
        | none => .error .mistyped

/-- Texts. -/
def text : Format String :=
  ofScalar writeText fun
    | .text value => some value
    | _ => none

/-- Texts that may be absent, which is written as null. -/
def optionalText : Format (Option String) :=
  ofScalar
    (fun
      | none => "null".toList
      | some value => writeText value)
    fun
      | .null => some none
      | .text value => some (some value)
      | _ => none

/-- The natural number that a value is, if it is one below the bound. -/
def natBelow? (bound : Nat) : Value → Option Nat
  | .number (.integer (.ofNat value)) => if value < bound then some value else none
  | _ => none

/-- Bytes. -/
def uint8 : Format UInt8 :=
  ofScalar (fun value => Nat.toDigits 10 value.toNat) fun value =>
    (natBelow? UInt8.size value).map Nat.toUInt8

/-- Words of 32 bits. -/
def uint32 : Format UInt32 :=
  ofScalar (fun value => Nat.toDigits 10 value.toNat) fun value =>
    (natBelow? UInt32.size value).map Nat.toUInt32

/-- Words of 64 bits. -/
def uint64 : Format UInt64 :=
  ofScalar (fun value => Nat.toDigits 10 value.toNat) fun value =>
    (natBelow? UInt64.size value).map Nat.toUInt64

/-- Digests, written as their hexadecimal digits. -/
def digest : Format Digest :=
  ofScalar (fun value => writeText value.text) fun
    | .text value => (Digest.ofText value).toOption
    | _ => none

/-- Values of any kind. -/
def value : Format Value := ⟨Value.write, Value.read⟩

/-- What is wrong with a value that should have been a list or an object. -/
def refusal : List Glyph → Fault
  | .char '[' :: _ => .mistyped
  | .char '{' :: _ => .mistyped
  | other =>
    match scalar other with
    | .error fault => fault
    | .ok _ => .mistyped

/-- One level further down, if there is room for it. -/
def descend {α : Type} (room : Nat) (read : (room : Nat) → Scanned α) : Scanned α :=
  match room with
  | 0 => .error .malformed
  | room + 1 => read room

/-- Lists. -/
def list {α : Type} (item : Format α) : Format (List α) where
  write values := writeList (values.map item.write)
  read room glyphs :=
    match skipBlanks glyphs with
    | .char '[' :: rest => descend room fun room => items (item.read room) rest
    | other => .error (refusal other)

/-- Byte strings, written as lists of numbers. -/
def bytes : Format Bytes := list uint8

end Format

/-! ## Records -/

/-- The fields of a record: their names and formats, and the value of a field that may be
missing. -/
inductive Fields : List Type → Type 1 where
  | nil : Fields []
  | cons {τ : Type} {τs : List Type} (name : String) (format : Format τ) (missing : Option τ)
      (rest : Fields τs) : Fields (τ :: τs)

/-- One value for each field. -/
def Row : List Type → Type
  | [] => Unit
  | τ :: τs => τ × Row τs

/-- At most one value for each field. -/
def Slots : List Type → Type
  | [] => Unit
  | τ :: τs => Option τ × Slots τs

/-- No values. -/
def Slots.empty : (τs : List Type) → Slots τs
  | [] => ()
  | _ :: τs => (none, Slots.empty τs)

namespace Fields

/-- The entries of a record. -/
def entries : {τs : List Type} → Fields τs → Row τs → List (String × List Char)
  | _, .nil, _ => []
  | _, .cons name format _ rest, (value, row) => (name, format.write value) :: rest.entries row

/-- Read the value of one entry into its slot, from after the key. An unknown entry is passed
over; a known one may occur only once. -/
def fill (room : Nat) : {τs : List Type} → Fields τs → Slots τs → String → List Glyph →
    Scanned (Slots τs)
  | _, .nil, slots, _, glyphs =>
    match skipColon glyphs with
    | .error fault => .error fault
    | .ok rest => (skipValue rest).map fun rest => (slots, rest)
  | _, .cons name format _ rest, (slot, slots), key, glyphs =>
    if key = name then
      match slot with
      | some _ => .error .mistyped
      | none => (entryValue (format.read room) glyphs).mapValue fun value => (some value, slots)
    else (rest.fill room slots key glyphs).mapValue fun slots => (slot, slots)

/-- The row of filled slots, if no field is missing that has to be there. -/
def complete? : {τs : List Type} → Fields τs → Slots τs → Option (Row τs)
  | _, .nil, _ => some ()
  | _, .cons _ _ missing rest, (slot, slots) =>
    match slot.or missing, rest.complete? slots with
    | some value, some row => some (value, row)
    | _, _ => none

/-- The values of the fields in order, from after the opening bracket of a list or, if
`first` is false, from after another value. -/
def inOrder (room : Nat) : {τs : List Type} → Fields τs → (first : Bool) → List Glyph →
    Scanned (Row τs)
  | _, .nil, _, glyphs => .ok ((), glyphs)
  | _, .cons _ format _ rest, first, glyphs =>
    let value (glyphs : List Glyph) :=
      (format.read room glyphs).andThen fun value glyphs =>
        (rest.inOrder room false glyphs).mapValue fun row => (value, row)
    match skipBlanks glyphs with
    | [] => .error .truncated
    | .char ']' :: _ => .error .mistyped
    | .char ',' :: after => if first then value glyphs else value after
    | _ => if first then value glyphs else .error .malformed

/-- The end of a list. -/
def closeList {α : Type} (row : α) (glyphs : List Glyph) : Scanned α :=
  match skipBlanks glyphs with
  | [] => .error .truncated
  | .char ']' :: rest => .ok (row, rest)
  | _ => .error .malformed

/-- A row, from an object or a list. -/
def read {τs : List Type} (fields : Fields τs) (room : Nat) (glyphs : List Glyph) :
    Scanned (Row τs) :=
  match skipBlanks glyphs with
  | .char '[' :: rest =>
    Format.descend room fun room => (fields.inOrder room true rest).andThen closeList
  | .char '{' :: rest =>
    Format.descend room fun room =>
      (Json.entries (fields.fill room) (Slots.empty τs) rest).andThen fun slots rest =>
        match fields.complete? slots with
        | some row => .ok (row, rest)
        | none => .error .mistyped
  | other => .error (Format.refusal other)

end Fields

/-- The format of a record, given its fields and how values correspond to rows. -/
def Format.record {α : Type} {τs : List Type} (fields : Fields τs) (toRow : α → Row τs)
    (ofRow : Row τs → α) : Format α where
  write value := writeObject (fields.entries (toRow value))
  read room glyphs := (fields.read room glyphs).mapValue ofRow

/-! ## Whole texts -/

/-- How many levels of lists and objects a text may have. -/
def maximalDepth : Nat := 127

/-- Read a text that holds one value and nothing else. -/
def Format.decode {α : Type} (format : Format α) (glyphs : List Glyph) : Except Fault α :=
  match format.read maximalDepth glyphs with
  | .error fault => .error fault
  | .ok (value, rest) =>
    match skipBlanks rest with
    | [] => .ok value
    | _ :: _ => .error .malformed

/-- Read a text. -/
def Format.ofText {α : Type} (format : Format α) (text : String) : Except Fault α :=
  format.decode (Text.glyphs text.toList)

/-- Read bytes, which may not all be text. -/
def Format.ofBytes {α : Type} (format : Format α) (bytes : Bytes) : Except Fault α :=
  format.decode (Text.glyphsOfBytes bytes)

/-- The text of a value. -/
def Format.toText {α : Type} (format : Format α) (value : α) : String :=
  String.ofList (format.write value)

end PocketLedger.Json
