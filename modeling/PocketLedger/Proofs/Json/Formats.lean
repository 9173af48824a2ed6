import PocketLedger.Json.Format
import PocketLedger.Proofs.Digest
import PocketLedger.Proofs.Json.Containers

/-!
# Formats that read back what they write

`Format.ReadsBack` says of one value that its text is read as that value, behind blanks and in
front of whatever may follow, given enough room for its lists and objects. It holds of all
scalars, and of a list if it holds of the items. A whole text is then decoded.
-/

namespace PocketLedger.Json

open Text (Glyph glyphs)

/-- A scan that passes over blanks first. -/
def Idles {α : Type} (scan : List Glyph → Scanned α) : Prop :=
  ∀ ⦃before⦄, IsBlanks before → ∀ rest, scan (glyphs before ++ rest) = scan rest

/-- What an idling scan settles it also finds behind blanks. -/
theorem Settles.finds {α : Type} {scan : List Glyph → Scanned α} {text : List Char}
    {outcome : Option α} (settles : Settles scan text outcome) (idles : Idles scan) :
    Finds scan text outcome :=
  fun before blanks => settles.behind before (idles blanks)

namespace Format

variable {α : Type} {depth : Nat}

/-- A format for scalars passes over blanks first. -/
theorem idles_ofScalar (write : α → List Char) (accept : Value → Option α) (room : Nat) :
    Idles ((ofScalar write accept).read room) := by
  intro before blanks rest
  simp only [ofScalar, skipBlanks_append blanks]

/-- What a format for scalars makes of a scalar. -/
theorem finds_ofScalar {text : List Char} {outcome : Option Value}
    (settles : Settles scalar text outcome)
    (opens : ∃ first others, text = first :: others ∧ opensScalar first = true)
    (write : α → List Char) (accept : Value → Option α) (room : Nat) :
    Finds ((ofScalar write accept).read room) text (outcome.bind accept) := by
  obtain ⟨first, others, rfl, opensFirst⟩ := opens
  have notList : first ≠ '[' := ne_of_opensScalar opensFirst rfl
  have notObject : first ≠ '{' := ne_of_opensScalar opensFirst rfl
  have tested : Settles ((ofScalar write accept).read room) (first :: others)
      (outcome.bind accept) := by
    refine (settles.tested accept .mistyped).congr fun rest => ?_
    rw [Text.glyphs_cons, List.cons_append]
    simp only [ofScalar, skipBlanks_solid (solid_of_opensScalar opensFirst)]
    split
    next same => exact absurd (Text.char_inj same) notList
    next same => exact absurd (Text.char_inj same) notObject
    next => rfl
  exact tested.finds (idles_ofScalar write accept room)

/-- The format of lists passes over blanks first. -/
theorem idles_list (item : Format α) (room : Nat) : Idles ((list item).read room) := by
  intro before blanks rest
  simp only [list, skipBlanks_append blanks]

/-- What the format of lists makes of a list. -/
theorem finds_list {item : Format α} {room : Nat} {texts : List (List Char)} {text : List Char}
    (enclosed : Enclosed '[' ']' texts text) {outcomes : List (Option α)}
    (finds : List.Forall₂ (Finds (item.read room)) texts outcomes)
    (opens : ∀ text ∈ texts, Opens text) :
    Finds ((list item).read (room + 1)) text (gather outcomes) := by
  obtain ⟨inner, rfl, settles⟩ := settles_items enclosed finds opens
  exact Settles.finds (settles.behind ['['] fun rest => rfl) (idles_list item _)

/-! ## Reading back -/

/-- The text of a value is one, and is read as that value if there is room for `depth` levels of
lists and objects. -/
structure ReadsBack (format : Format α) (depth : Nat) (value : α) : Prop where
  isValue : IsValue (format.write value)
  finds : ∀ room, depth ≤ room → Finds (format.read room) (format.write value) (some value)

/-- A scalar is read back if the format accepts what its text is read as. It needs no room. -/
theorem readsBack_ofScalar {write : α → List Char} {accept : Value → Option α} {value : α}
    {found : Value} (settles : Settles scalar (write value) (some found))
    (isScalar : IsScalar (write value)) (accepted : accept found = some value) :
    (ofScalar write accept).ReadsBack depth value where
  isValue := .scalar isScalar
  finds room _ := by
    have finds := finds_ofScalar settles isScalar.starts write accept room
    rwa [Option.bind_some, accepted] at finds

/-- A text is read back. -/
theorem readsBack_text (value : String) : Format.text.ReadsBack depth value :=
  readsBack_ofScalar (settles_scalar_writeText value) (isScalar_writeText value) rfl

/-- A text that may be missing is read back, as null where it is. -/
theorem readsBack_optionalText (value : Option String) : optionalText.ReadsBack depth value := by
  cases value with
  | none => exact readsBack_ofScalar settles_scalar_null (.word (by decide)) rfl
  | some value =>
    exact readsBack_ofScalar (settles_scalar_writeText value) (isScalar_writeText value) rfl

/-- Numbers of a type that fits 64 bits. -/
theorem readsBack_natural {toNat : α → Nat} {ofNat : Nat → α} {bound : Nat}
    (fits : bound ≤ UInt64.size) (value : α) (below : toNat value < bound)
    (same : ofNat (toNat value) = value) :
    (ofScalar (fun value => Nat.toDigits 10 (toNat value)) fun value =>
      (natBelow? bound value).map ofNat).ReadsBack depth value := by
  have isNumber := isNumber_toDigits (toNat value)
  have settles := settles_number_toDigits (Nat.lt_of_lt_of_le below fits)
  refine readsBack_ofScalar (settles_scalar_number isNumber settles) (.number isNumber) ?_
  change (if toNat value < bound then some (toNat value) else none).map ofNat = some value
  rw [if_pos below, Option.map_some, same]

/-- A byte is read back. -/
theorem readsBack_uint8 (value : UInt8) : uint8.ReadsBack depth value :=
  readsBack_natural (by decide) value value.toNat_lt value.ofNat_toNat

/-- A word of 32 bits is read back. -/
theorem readsBack_uint32 (value : UInt32) : uint32.ReadsBack depth value :=
  readsBack_natural (by decide) value value.toNat_lt value.ofNat_toNat

/-- A word of 64 bits is read back: it is the largest that a number can hold. -/
theorem readsBack_uint64 (value : UInt64) : uint64.ReadsBack depth value :=
  readsBack_natural (Nat.le_refl _) value value.toNat_lt value.ofNat_toNat

/-- A digest is read back from its hexadecimal text. -/
theorem readsBack_digest (value : Digest) : digest.ReadsBack depth value := by
  refine readsBack_ofScalar (settles_scalar_writeText value.text) (isScalar_writeText value.text) ?_
  simp only [Digest.ofText_text, Except.toOption]

/-- A list is read back if its items are. -/
theorem readsBack_list {item : Format α} {values : List α}
    (each : ∀ value ∈ values, item.ReadsBack depth value) :
    (list item).ReadsBack (depth + 1) values := by
  have areValues : ∀ text ∈ values.map item.write, IsValue text :=
    List.forall_mem_map.mpr fun value mem => (each value mem).isValue
  refine ⟨.list (enclosed_writeList _) areValues, fun room enough => ?_⟩
  obtain ⟨room, rfl⟩ : ∃ less, room = less + 1 := ⟨room - 1, by omega⟩
  rw [← gather_map_some values]
  refine finds_list (enclosed_writeList _) ?_ fun text mem => (areValues text mem).opens
  rw [List.forall₂_map_left_iff, List.forall₂_map_right_iff, List.forall₂_same]
  exact fun value mem => (each value mem).finds room (by omega)

/-- Bytes are read back, as a list of numbers. -/
theorem readsBack_bytes (value : Bytes) : bytes.ReadsBack (depth + 1) value :=
  readsBack_list fun byte _ => readsBack_uint8 byte

/-! ## Whole texts -/

/-- What is made of a text decides what it is decoded to, also with blanks around it. -/
theorem decode_iff {format : Format α} {text : List Char} {outcome : Option α}
    (finds : Finds (format.read maximalDepth) text outcome) {before after : List Char}
    (beforeBlank : IsBlanks before) (afterBlank : IsBlanks after) (value : α) :
    format.decode (glyphs (before ++ text ++ after)) = .ok value ↔ outcome = some value := by
  have ends : EndsNumber (glyphs after ++ []) := endsNumber_blanks_append afterBlank trivial
  have blankRest : skipBlanks (glyphs after ++ []) = [] := skipBlanks_append afterBlank []
  rw [List.append_nil] at ends blankRest
  rw [decode, Text.glyphs_append]
  cases outcome with
  | none =>
    obtain ⟨fault, failed⟩ := finds beforeBlank _ ends
    rw [failed]
    exact ⟨nofun, nofun⟩
  | some found =>
    rw [finds beforeBlank _ ends]
    simp only [blankRest, Except.ok.injEq, Option.some.injEq]

/-- A text that is found to be a value is decoded. -/
theorem decode_of_finds {format : Format α} {text : List Char} {value : α}
    (finds : Finds (format.read maximalDepth) text (some value)) :
    format.decode (glyphs text) = .ok value := by
  have decoded := (decode_iff finds isBlanks_nil isBlanks_nil value).mpr rfl
  rwa [List.append_nil, List.nil_append] at decoded

/-- The text of every value is read as that value. -/
def Faithful (format : Format α) : Prop :=
  ∀ value, format.ofText (format.toText value) = .ok value

/-- A format is faithful if every value is read back within the depth that a decoder allows. -/
theorem Faithful.of_readsBack {format : Format α}
    (readsBack : ∀ value, format.ReadsBack maximalDepth value) : format.Faithful := by
  intro value
  rw [ofText, toText, String.toList_ofList]
  exact decode_of_finds ((readsBack value).finds maximalDepth (Nat.le_refl _))

end Format
end PocketLedger.Json
