import PocketLedger.Bytes.Hex

/-!
# Text in bytes that may not be text

Files and paths are bytes, and mostly UTF-8. Their glyphs are the characters, with every
ill-formed stretch of bytes kept apart as one stray. A stretch is as long as it could still
have become a character.
-/

namespace PocketLedger.Text

/-- A character, or bytes that are no character. -/
inductive Glyph where
  | char (c : Char)
  | stray (bytes : Bytes)
  deriving DecidableEq

/-- The number of bytes of a glyph. -/
def Glyph.width : Glyph → Nat
  | .char c => c.utf8Size
  | .stray bytes => bytes.length

/-- A glyph as a character, with the replacement character for a stray. -/
def Glyph.shown : Glyph → Char
  | .char c => c
  | .stray _ => '�'

/-- The glyphs of a text. -/
def glyphs (text : List Char) : List Glyph := text.map .char

/-- Whether a byte can follow the first byte of a character. -/
def isContinuation (byte : UInt8) : Bool := 0x80 ≤ byte && byte ≤ 0xbf

/-- How many bytes follow the given first byte of a character, and the range of the second;
`none` if no character starts so. The ranges leave out overlong forms and surrogates. -/
def following (first : UInt8) : Option (Nat × UInt8 × UInt8) :=
  if first ≤ 0x7f then some (0, 0x80, 0xbf)
  else if first < 0xc2 then none
  else if first ≤ 0xdf then some (1, 0x80, 0xbf)
  else if first = 0xe0 then some (2, 0xa0, 0xbf)
  else if first = 0xed then some (2, 0x80, 0x9f)
  else if first ≤ 0xef then some (2, 0x80, 0xbf)
  else if first = 0xf0 then some (3, 0x90, 0xbf)
  else if first ≤ 0xf3 then some (3, 0x80, 0xbf)
  else if first = 0xf4 then some (3, 0x80, 0x8f)
  else none

/-- A character in the making: its first bytes, latest first, the number of bytes it lacks,
and the range of the next one. -/
structure Unfinished where
  bytes : Bytes
  lacks : Nat
  low : UInt8
  high : UInt8

/-- The glyph of the bytes of one character, latest first. -/
def Glyph.ofReversed (bytes : Bytes) : Glyph :=
  match (String.fromUTF8? ⟨bytes.reverse.toArray⟩).map String.toList with
  | some [c] => .char c
  | _ => .stray bytes.reverse

/-- What follows a byte that begins a glyph: the glyphs it completes, and what it leaves
unfinished. -/
def beginGlyph (byte : UInt8) : List Glyph × Option Unfinished :=
  match following byte with
  | none => ([.stray [byte]], none)
  | some (0, _, _) => ([Glyph.ofReversed [byte]], none)
  | some (lacks, low, high) => ([], some ⟨[byte], lacks, low, high⟩)

/-- Take in one byte after the unfinished ones. -/
def takeByte (unfinished : Option Unfinished) (byte : UInt8) : List Glyph × Option Unfinished :=
  match unfinished with
  | none => beginGlyph byte
  | some state =>
    if state.low ≤ byte ∧ byte ≤ state.high then
      if state.lacks ≤ 1 then ([Glyph.ofReversed (byte :: state.bytes)], none)
      else ([], some ⟨byte :: state.bytes, state.lacks - 1, 0x80, 0xbf⟩)
    else
      let (done, next) := beginGlyph byte
      (.stray state.bytes.reverse :: done, next)

/-- The glyphs of bytes that follow unfinished ones. -/
def glyphsAfter : Option Unfinished → Bytes → List Glyph
  | none, [] => []
  | some state, [] => [.stray state.bytes.reverse]
  | unfinished, byte :: rest =>
    let (done, next) := takeByte unfinished byte
    done ++ glyphsAfter next rest

/-- The glyphs of a byte string: its characters if it is UTF-8. -/
def glyphsOfBytes (bytes : Bytes) : List Glyph :=
  match String.fromUTF8? ⟨bytes.toArray⟩ with
  | some text => glyphs text.toList
  | none => glyphsAfter none bytes

/-- A byte string as text, each stray replaced. -/
def shownText (bytes : Bytes) : String :=
  String.ofList ((glyphsOfBytes bytes).map Glyph.shown)

end PocketLedger.Text
