import PocketLedger.Text.Glyph

/-!
# Scanning JSON text

The lexical layer of the reader: blanks, words, texts and number literals, read from the
front of a list of glyphs. A scan gives what it read and the glyphs that follow, or the first
fault. `skipValue` passes over a whole value without building it; it asks for less than
reading does, since it accepts half a surrogate pair, numbers of any size and any depth.
-/

namespace PocketLedger.Json

open Text (Glyph)

/-- What is wrong with a text at the place where reading stops. -/
inductive Fault where
  /-- The text is not JSON. -/
  | malformed
  /-- The text is JSON up to here, but not of the wanted type. -/
  | mistyped
  /-- The text ends too early. -/
  | truncated
  deriving DecidableEq, Repr

/-- The category that a fault is reported as. -/
def Fault.category : Fault → String
  | .malformed => "syntax"
  | .mistyped => "data"
  | .truncated => "eof"

/-- A value read from the front of a text, with the rest of it. -/
abbrev Scanned (α : Type) := Except Fault (α × List Glyph)

namespace Scanned

/-- Go on with the value read and the rest of the text. -/
def andThen {α β : Type} : Scanned α → (α → List Glyph → Scanned β) → Scanned β
  | .error fault, _ => .error fault
  | .ok (value, rest), next => next value rest

/-- Change the value read. -/
def mapValue {α β : Type} (f : α → β) : Scanned α → Scanned β
  | .error fault => .error fault
  | .ok (value, rest) => .ok (f value, rest)

/-- Keep only the rest of the text. -/
def rest {α : Type} : Scanned α → Except Fault (List Glyph)
  | .error fault => .error fault
  | .ok (_, rest) => .ok rest

end Scanned

/-- Whether a character may stand between tokens. -/
def isBlank (c : Char) : Bool := c = ' ' || c = '\n' || c = '\t' || c = '\r'

/-- The text from its first glyph that is not blank. -/
def skipBlanks : List Glyph → List Glyph
  | [] => []
  | .stray bytes :: rest => .stray bytes :: rest
  | .char c :: rest => if isBlank c then skipBlanks rest else .char c :: rest

/-- The text after the given characters. -/
def expect : List Char → List Glyph → Except Fault (List Glyph)
  | [], text => .ok text
  | _ :: _, [] => .error .truncated
  | _ :: _, .stray _ :: _ => .error .malformed
  | wanted :: word, .char c :: rest =>
    if c = wanted then expect word rest else .error .malformed

/-! ## Texts -/

/-- The value of a hexadecimal digit of either case. -/
def hexValue? : Glyph → Option Nat
  | .stray _ => none
  | .char c =>
    if '0' ≤ c ∧ c ≤ '9' then some (c.toNat - 0x30)
    else if 'a' ≤ c ∧ c ≤ 'f' then some (c.toNat - 0x57)
    else if 'A' ≤ c ∧ c ≤ 'F' then some (c.toNat - 0x37)
    else none

/-- The number in the four hexadecimal digits of an escape. The text is too short only if
fewer than four bytes of it are left. -/
def hexEscape : List Glyph → Scanned Nat
  | a :: b :: c :: d :: rest =>
    match hexValue? a, hexValue? b, hexValue? c, hexValue? d with
    | some a, some b, some c, some d => .ok (((a * 16 + b) * 16 + c) * 16 + d, rest)
    | _, _, _, _ => .error .malformed
  | short =>
    if short.foldr (fun glyph total => glyph.width + total) 0 < 4 then .error .truncated else .error .malformed

/-- Whether a number is the first half of a surrogate pair. -/
def isHighSurrogate (unit : Nat) : Bool := 0xd800 ≤ unit && unit ≤ 0xdbff

/-- Whether a number is the second half of a surrogate pair. -/
def isLowSurrogate (unit : Nat) : Bool := 0xdc00 ≤ unit && unit ≤ 0xdfff

/-- The character that a surrogate pair stands for. -/
def surrogatePair (high low : Nat) : Char :=
  Char.ofNat (0x10000 + (high - 0xd800) * 0x400 + (low - 0xdc00))

/-- The character that a letter after a backslash stands for. -/
def letterEscape? (letter : Char) : Option Char :=
  if letter = '"' ∨ letter = '\\' ∨ letter = '/' then some letter
  else if letter = 'b' then some '\x08'
  else if letter = 'f' then some '\x0c'
  else if letter = 'n' then some '\n'
  else if letter = 'r' then some '\r'
  else if letter = 't' then some '\t'
  else none

/-- One step through a text. -/
inductive Piece where
  /-- The closing quote. -/
  | close
  /-- A character. -/
  | char (c : Char)
  /-- Something that is no character. -/
  | stray
  deriving DecidableEq

/-- How strictly a text is looked at. -/
inductive Care where
  /-- The text is wanted, so its escapes have to stand for characters. -/
  | kept
  /-- The text is passed over, so its escapes only have to be well formed. -/
  | skipped
  deriving DecidableEq

/-- The second half of a surrogate pair, which has to follow the first half `high`. -/
def lowEscape (high : Nat) : List Glyph → Scanned Piece
  | [] => .error .truncated
  | [.char c] => if c = '\\' then .error .truncated else .error .malformed
  | .char c :: .char d :: rest =>
    if c = '\\' ∧ d = 'u' then
      match hexEscape rest with
      | .error fault => .error fault
      | .ok (low, rest) =>
        if isLowSurrogate low then .ok (.char (surrogatePair high low), rest)
        else .error .malformed
    else .error .malformed
  | _ => .error .malformed

/-- What an escape by number stands for, read after the `u`. -/
def unitEscape (care : Care) (text : List Glyph) : Scanned Piece :=
  match hexEscape text with
  | .error fault => .error fault
  | .ok (unit, rest) =>
    match care with
    | .skipped =>
      if isHighSurrogate unit || isLowSurrogate unit then .ok (.stray, rest)
      else .ok (.char (Char.ofNat unit), rest)
    | .kept =>
      if isLowSurrogate unit then .error .malformed
      else if isHighSurrogate unit then lowEscape unit rest
      else .ok (.char (Char.ofNat unit), rest)

/-- What an escape stands for, read after the backslash. -/
def escape (care : Care) : List Glyph → Scanned Piece
  | [] => .error .truncated
  | .stray _ :: _ => .error .malformed
  | .char letter :: rest =>
    match letterEscape? letter with
    | some c => .ok (.char c, rest)
    | none => if letter = 'u' then unitEscape care rest else .error .malformed

/-- The next piece of a text. Controls may not stand in a text. -/
def piece (care : Care) : List Glyph → Scanned Piece
  | [] => .error .truncated
  | .stray _ :: rest => .ok (.stray, rest)
  | .char c :: rest =>
    if c = '"' then .ok (.close, rest)
    else if c = '\\' then escape care rest
    else if c.toNat < 0x20 then .error .malformed
    else .ok (.char c, rest)

theorem length_of_hexEscape {text rest : List Glyph} {unit : Nat}
    (h : hexEscape text = .ok (unit, rest)) : rest.length < text.length := by
  unfold hexEscape at h
  split at h
  · split at h
    · simp only [Except.ok.injEq, Prod.mk.injEq] at h
      simp only [List.length_cons, ← h.2]
      omega
    · simp at h
  · split at h <;> simp at h

theorem length_of_lowEscape {high : Nat} {text rest : List Glyph} {found : Piece}
    (h : lowEscape high text = .ok (found, rest)) : rest.length < text.length := by
  unfold lowEscape at h
  split at h
  · simp at h
  · split at h <;> simp at h
  · split at h
    · split at h
      · simp at h
      · rename_i scanned
        split at h
        · simp only [Except.ok.injEq, Prod.mk.injEq] at h
          have := length_of_hexEscape scanned
          simp only [List.length_cons, ← h.2]
          omega
        · simp at h
    · simp at h
  · simp at h

theorem length_of_unitEscape {care : Care} {text rest : List Glyph} {found : Piece}
    (h : unitEscape care text = .ok (found, rest)) : rest.length < text.length := by
  unfold unitEscape at h
  split at h
  · simp at h
  · rename_i scanned
    have shorter := length_of_hexEscape scanned
    split at h
    · split at h <;> simp only [Except.ok.injEq, Prod.mk.injEq] at h <;> simpa [← h.2] using shorter
    · split at h
      · simp at h
      · split at h
        · exact Nat.lt_trans (length_of_lowEscape h) shorter
        · simp only [Except.ok.injEq, Prod.mk.injEq] at h
          simpa [← h.2] using shorter

theorem length_of_escape {care : Care} {text rest : List Glyph} {found : Piece}
    (h : escape care text = .ok (found, rest)) : rest.length < text.length := by
  unfold escape at h
  split at h
  · simp at h
  · simp at h
  · split at h
    · simp only [Except.ok.injEq, Prod.mk.injEq] at h
      simp [← h.2]
    · split at h
      · exact Nat.lt_succ_of_lt (length_of_unitEscape h)
      · simp at h

/-- Every piece takes at least one glyph. -/
theorem length_of_piece {care : Care} {text rest : List Glyph} {found : Piece}
    (h : piece care text = .ok (found, rest)) : rest.length < text.length := by
  unfold piece at h
  split at h
  · simp at h
  · simp only [Except.ok.injEq, Prod.mk.injEq] at h
    simp [← h.2]
  · split at h
    · simp only [Except.ok.injEq, Prod.mk.injEq] at h
      simp [← h.2]
    · split at h
      · exact Nat.lt_succ_of_lt (length_of_escape h)
      · split at h
        · simp at h
        · simp only [Except.ok.injEq, Prod.mk.injEq] at h
          simp [← h.2]

/-- The pieces of a text up to its closing quote, as characters; `none` if one is no
character. -/
def pieces (care : Care) (text : List Glyph) : Scanned (Option (List Char)) :=
  match _h : piece care text with
  | .error fault => .error fault
  | .ok (.close, rest) => .ok (some [], rest)
  | .ok (.char c, rest) =>
    match pieces care rest with
    | .error fault => .error fault
    | .ok (found, rest) => .ok (found.map (c :: ·), rest)
  | .ok (.stray, rest) =>
    match pieces care rest with
    | .error fault => .error fault
    | .ok (_, rest) => .ok (none, rest)
termination_by text.length
decreasing_by all_goals exact length_of_piece _h

/-- A wanted text, read after its opening quote. That all of it is characters is tested at
its end. -/
def text (glyphs : List Glyph) : Scanned (List Char) :=
  match pieces .kept glyphs with
  | .error fault => .error fault
  | .ok (none, _) => .error .malformed
  | .ok (some characters, rest) => .ok (characters, rest)

/-- The text after a text that is passed over, from after its opening quote. -/
def skipText (glyphs : List Glyph) : Except Fault (List Glyph) :=
  (pieces .skipped glyphs).rest

/-! ## Numbers -/

/-- The value of a decimal digit. -/
def digit? : Glyph → Option Nat
  | .stray _ => none
  | .char c => if '0' ≤ c ∧ c ≤ '9' then some (c.toNat - 0x30) else none

/-- The decimal digits at the front of a text. -/
def digits : List Glyph → List Nat × List Glyph
  | [] => ([], [])
  | glyph :: rest =>
    match digit? glyph with
    | none => ([], glyph :: rest)
    | some value => (value :: (digits rest).1, (digits rest).2)

/-- A number as it is written. -/
structure Literal where
  negative : Bool
  /-- The digits before the point. -/
  whole : List Nat
  /-- The digits after the point; empty if there is no point. -/
  fraction : List Nat
  /-- The exponent of ten, if one is written. -/
  exponent : Option Int
  deriving DecidableEq, Repr

/-- At least one digit. `atEnd` is the fault if the text ends instead. -/
def someDigits (atEnd : Fault) (glyphs : List Glyph) : Scanned (List Nat) :=
  match digits glyphs with
  | ([], []) => .error atEnd
  | ([], _ :: _) => .error .malformed
  | (first :: more, rest) => .ok (first :: more, rest)

/-- The digits before the point. Only zero itself starts with a zero. -/
def wholePart (atEnd : Fault) (glyphs : List Glyph) : Scanned (List Nat) :=
  match someDigits atEnd glyphs with
  | .ok (0 :: _ :: _, _) => .error .malformed
  | other => other

/-- The digits after a point, if there is one. -/
def fractionPart (atEnd : Fault) : List Glyph → Scanned (List Nat)
  | .char '.' :: rest => someDigits atEnd rest
  | other => .ok ([], other)

/-- The sign of an exponent: whether it is negative. -/
def exponentSign : List Glyph → Bool × List Glyph
  | .char '-' :: rest => (true, rest)
  | .char '+' :: rest => (false, rest)
  | other => (false, other)

/-- The number that decimal digits stand for. -/
def decimalValue (digits : List Nat) : Nat := digits.foldl (fun total digit => 10 * total + digit) 0

/-- The exponent that follows the mark, with its sign. -/
def exponentPart (atEnd : Fault) (glyphs : List Glyph) : Scanned Int :=
  let (negative, rest) := exponentSign glyphs
  (someDigits atEnd rest).mapValue fun digits =>
    if negative then -(decimalValue digits : Int) else (decimalValue digits : Int)

/-- The exponent of a number, if there is one. -/
def exponentPart? (atEnd : Fault) : List Glyph → Scanned (Option Int)
  | .char c :: rest =>
    if c = 'e' ∨ c = 'E' then (exponentPart atEnd rest).mapValue some
    else .ok (none, .char c :: rest)
  | other => .ok (none, other)

/-- A number, read after its sign. `atEnd` is the fault if the text ends inside it. -/
def literal (atEnd : Fault) (negative : Bool) (glyphs : List Glyph) : Scanned Literal :=
  (wholePart atEnd glyphs).andThen fun whole rest =>
    (fractionPart atEnd rest).andThen fun fraction rest =>
      (exponentPart? atEnd rest).mapValue fun exponent => ⟨negative, whole, fraction, exponent⟩

/-- The text after a number that is passed over, from after its sign. -/
def skipNumber (glyphs : List Glyph) : Except Fault (List Glyph) :=
  (literal .malformed false glyphs).rest

/-! ## Passing over a value -/

/-- The text after a colon. -/
def skipColon (glyphs : List Glyph) : Except Fault (List Glyph) :=
  match skipBlanks glyphs with
  | [] => .error .truncated
  | .char ':' :: rest => .ok rest
  | _ => .error .malformed

/-- The text after a value that is neither a list nor an object, from its first glyph. -/
def skipScalar : List Glyph → Except Fault (List Glyph)
  | [] => .error .truncated
  | .char '"' :: rest => skipText rest
  | .char 'n' :: rest => expect ['u', 'l', 'l'] rest
  | .char 't' :: rest => expect ['r', 'u', 'e'] rest
  | .char 'f' :: rest => expect ['a', 'l', 's', 'e'] rest
  | .char '-' :: rest => skipNumber rest
  | glyph :: rest =>
    match digit? glyph with
    | some _ => skipNumber (glyph :: rest)
    | none => .error .malformed

mutual

/-- The text after a value. Each step passes at least one glyph, so the length of the text is
enough fuel. -/
def skipValueWith : (fuel : Nat) → List Glyph → Except Fault (List Glyph)
  | 0, _ => .error .truncated
  | fuel + 1, glyphs =>
    match skipBlanks glyphs with
    | .char '[' :: rest =>
      match skipBlanks rest with
      | .char ']' :: rest => .ok rest
      | rest => skipItemsWith fuel rest
    | .char '{' :: rest =>
      match skipBlanks rest with
      | .char '}' :: rest => .ok rest
      | rest => skipEntriesWith fuel rest
    | scalar => skipScalar scalar

/-- The text after the items of a list that has one at least. -/
def skipItemsWith : (fuel : Nat) → List Glyph → Except Fault (List Glyph)
  | 0, _ => .error .truncated
  | fuel + 1, glyphs =>
    match skipValueWith fuel glyphs with
    | .error fault => .error fault
    | .ok rest =>
      match skipBlanks rest with
      | [] => .error .truncated
      | .char ',' :: rest => skipItemsWith fuel rest
      | .char ']' :: rest => .ok rest
      | _ => .error .malformed

/-- The text after the entries of an object that has one at least. -/
def skipEntriesWith : (fuel : Nat) → List Glyph → Except Fault (List Glyph)
  | 0, _ => .error .truncated
  | fuel + 1, glyphs =>
    match skipBlanks glyphs with
    | [] => .error .truncated
    | .char '"' :: rest =>
      match skipText rest with
      | .error fault => .error fault
      | .ok rest =>
        match skipColon rest with
        | .error fault => .error fault
        | .ok rest =>
          match skipValueWith fuel rest with
          | .error fault => .error fault
          | .ok rest =>
            match skipBlanks rest with
            | [] => .error .truncated
            | .char ',' :: rest => skipEntriesWith fuel rest
            | .char '}' :: rest => .ok rest
            | _ => .error .malformed
    | _ => .error .malformed

end

/-- The text after a value, whatever the value is. -/
def skipValue (glyphs : List Glyph) : Except Fault (List Glyph) :=
  skipValueWith (2 * glyphs.length + 2) glyphs

end PocketLedger.Json
