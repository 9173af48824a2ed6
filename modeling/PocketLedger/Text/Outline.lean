import PocketLedger.Text.Quoted

/-!
# Outlines

The outline of a value is its canonical one-line text: records with their field names in
declared order, lists in brackets, numbers in decimal and texts in quotes. Transaction ids
are digests of outlines, so an outline determines its value.
-/

namespace PocketLedger.Text

/-- Values with a canonical one-line text. -/
class Outline (α : Type) where
  /-- The canonical text of a value. -/
  outline : α → List Char

export Outline (outline)

/-- Texts one after the other, divided by a comma and a space. -/
def joined : List (List Char) → List Char
  | [] => []
  | [item] => item
  | item :: rest => item ++ (',' :: ' ' :: joined rest)

/-- Texts in brackets, divided by a comma and a space. -/
def bracketed (items : List (List Char)) : List Char :=
  '[' :: (joined items ++ [']'])

/-- A named value with its argument in parentheses. -/
def applied (name : String) (argument : List Char) : List Char :=
  name.toList ++ ('(' :: (argument ++ [')']))

/-- The outline of one field of a record. -/
def field (name : String) (value : List Char) : List Char :=
  name.toList ++ (':' :: ' ' :: value)

/-- The outline of a record with at least one field. -/
def record (name : String) (fields : List (List Char)) : List Char :=
  name.toList ++ (' ' :: '{' :: ' ' :: (joined fields ++ [' ', '}']))

instance : Outline Nat := ⟨fun n => Nat.toDigits 10 n⟩

instance : Outline UInt8 := ⟨fun n => outline n.toNat⟩

instance : Outline UInt32 := ⟨fun n => outline n.toNat⟩

instance : Outline UInt64 := ⟨fun n => outline n.toNat⟩

instance : Outline String := ⟨fun text => quoted text.toList⟩

instance {α : Type} [Outline α] : Outline (List α) :=
  ⟨fun items => bracketed (items.map outline)⟩

instance {α : Type} [Outline α] : Outline (Option α) where
  outline
    | none => "None".toList
    | some value => applied "Some" (outline value)

end PocketLedger.Text
