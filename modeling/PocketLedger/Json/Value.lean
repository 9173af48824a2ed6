import PocketLedger.Json.Number

/-!
# JSON values

A value of any kind, its compact text, and its reader. The entries of an object are kept in
ascending order of their keys, and of repeated keys the last entry counts. Reading descends
into at most `room` levels of lists and objects.
-/

namespace PocketLedger.Json

open Text (Glyph)

/-- A JSON value. -/
inductive Value where
  | null
  | bool (value : Bool)
  | number (value : Number)
  | text (value : String)
  | list (items : List Value)
  | object (entries : List (String × Value))

instance : Inhabited Value := ⟨.null⟩

/-! ## Writing -/

/-- The spelling of one character of a text. -/
def writeChar (c : Char) : List Char :=
  if c = '"' then ['\\', '"']
  else if c = '\\' then ['\\', '\\']
  else if c = '\x08' then ['\\', 'b']
  else if c = '\x0c' then ['\\', 'f']
  else if c = '\n' then ['\\', 'n']
  else if c = '\r' then ['\\', 'r']
  else if c = '\t' then ['\\', 't']
  else if c.toNat < 0x20 then '\\' :: 'u' :: '0' :: '0' :: Hex.encode [c.toNat.toUInt8]
  else [c]

/-- The text of a text. -/
def writeText (text : String) : List Char :=
  '"' :: (text.toList.flatMap writeChar ++ ['"'])

/-- Texts divided by commas. -/
def commas : List (List Char) → List Char
  | [] => []
  | [item] => item
  | item :: next :: rest => item ++ (',' :: commas (next :: rest))

/-- The text of a list, given the texts of its items. -/
def writeList (items : List (List Char)) : List Char := '[' :: (commas items ++ [']'])

/-- The text of an entry, given its key and the text of its value. -/
def writeEntry (entry : String × List Char) : List Char := writeText entry.1 ++ (':' :: entry.2)

/-- The text of an object, given its keys and the texts of their values. -/
def writeObject (entries : List (String × List Char)) : List Char :=
  '{' :: (commas (entries.map writeEntry) ++ ['}'])

mutual

/-- The compact text of a value. -/
def Value.write : Value → List Char
  | .null => "null".toList
  | .bool true => "true".toList
  | .bool false => "false".toList
  | .number value => value.write
  | .text value => writeText value
  | .list items => writeList (writeItems items)
  | .object entries => writeObject (writeEntries entries)

/-- The texts of the items of a list. -/
def writeItems : List Value → List (List Char)
  | [] => []
  | item :: rest => item.write :: writeItems rest

/-- The keys of an object with the texts of their values. -/
def writeEntries : List (String × Value) → List (String × List Char)
  | [] => []
  | (key, value) :: rest => (key, value.write) :: writeEntries rest

end

/-! ## Reading -/

/-- A value that is neither a list nor an object, from its first glyph. -/
def scalar : List Glyph → Scanned Value
  | [] => .error .truncated
  | .char '"' :: rest => (text rest).mapValue fun characters => .text (String.ofList characters)
  | .char 'n' :: rest => (expect ['u', 'l', 'l'] rest).map fun rest => (.null, rest)
  | .char 't' :: rest => (expect ['r', 'u', 'e'] rest).map fun rest => (.bool true, rest)
  | .char 'f' :: rest => (expect ['a', 'l', 's', 'e'] rest).map fun rest => (.bool false, rest)
  | .char '-' :: rest => (number true rest).mapValue .number
  | glyph :: rest =>
    match digit? glyph with
    | some _ => (number false (glyph :: rest)).mapValue .number
    | none => .error .malformed

/-- The items of a list that has one at least, up to its closing bracket. Each item takes at
least one glyph. -/
def itemsWith {α : Type} (item : List Glyph → Scanned α) :
    (fuel : Nat) → List Glyph → Scanned (List α)
  | 0, _ => .error .truncated
  | fuel + 1, glyphs =>
    (item glyphs).andThen fun value rest =>
      match skipBlanks rest with
      | [] => .error .truncated
      | .char ',' :: rest => (itemsWith item fuel rest).mapValue (value :: ·)
      | .char ']' :: rest => .ok ([value], rest)
      | _ => .error .malformed

/-- The items of a list, read after its opening bracket. -/
def items {α : Type} (item : List Glyph → Scanned α) (glyphs : List Glyph) : Scanned (List α) :=
  match skipBlanks glyphs with
  | .char ']' :: rest => .ok ([], rest)
  | rest => itemsWith item (rest.length + 1) rest

/-- The entries of an object that has one at least, up to its closing brace. The step reads
what follows a key, from the colon on. -/
def entriesWith {σ : Type} (step : σ → String → List Glyph → Scanned σ) :
    (fuel : Nat) → σ → List Glyph → Scanned σ
  | 0, _, _ => .error .truncated
  | fuel + 1, state, glyphs =>
    match skipBlanks glyphs with
    | [] => .error .truncated
    | .char '"' :: rest =>
      (text rest).andThen fun key rest =>
        (step state (String.ofList key) rest).andThen fun state rest =>
          match skipBlanks rest with
          | [] => .error .truncated
          | .char ',' :: rest => entriesWith step fuel state rest
          | .char '}' :: rest => .ok (state, rest)
          | _ => .error .malformed
    | _ => .error .malformed

/-- The entries of an object, read after its opening brace. -/
def entries {σ : Type} (step : σ → String → List Glyph → Scanned σ) (start : σ)
    (glyphs : List Glyph) : Scanned σ :=
  match skipBlanks glyphs with
  | .char '}' :: rest => .ok (start, rest)
  | rest => entriesWith step (rest.length + 1) start rest

/-- What follows a key: a colon and a value. -/
def entryValue {α : Type} (value : List Glyph → Scanned α) (glyphs : List Glyph) : Scanned α :=
  match skipColon glyphs with
  | .error fault => .error fault
  | .ok rest => value rest

/-- Entries in ascending order of keys, with one more entry; it replaces an entry of the same
key. -/
def insertEntry {α : Type} (key : String) (value : α) : List (String × α) → List (String × α)
  | [] => [(key, value)]
  | (other, old) :: rest =>
    if key < other then (key, value) :: (other, old) :: rest
    else if key = other then (key, value) :: rest
    else (other, old) :: insertEntry key value rest

/-- A value, with at most `room` levels of lists and objects. -/
def Value.read : (room : Nat) → List Glyph → Scanned Value
  | 0, glyphs =>
    match skipBlanks glyphs with
    | .char '[' :: _ => .error .malformed
    | .char '{' :: _ => .error .malformed
    | other => scalar other
  | room + 1, glyphs =>
    match skipBlanks glyphs with
    | .char '[' :: rest => (items (Value.read room) rest).mapValue .list
    | .char '{' :: rest =>
      (entries (fun found key rest =>
        (entryValue (Value.read room) rest).mapValue fun value => insertEntry key value found)
        [] rest).mapValue .object
    | other => scalar other

end PocketLedger.Json
