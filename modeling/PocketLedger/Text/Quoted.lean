import PocketLedger.Text.Shapeless

/-!
# Quoted text

A quoted text can be shown on one line and read back without doubt: the quote itself, the
backslash and every character without a shape of its own are spelled out. Only the
delimiting quote is escaped, so a text in double quotes keeps its apostrophes.
-/

namespace PocketLedger.Text

/-- The spelling of one character between two `quote` marks. Four controls and the
backslash have a letter of their own; other shapeless characters are written by number. -/
def escaped (quote c : Char) : List Char :=
  if c = '\x00' then ['\\', '0']
  else if c = '\t' then ['\\', 't']
  else if c = '\r' then ['\\', 'r']
  else if c = '\n' then ['\\', 'n']
  else if c = '\\' then ['\\', '\\']
  else if c = quote then ['\\', quote]
  else if isShapeless c then '\\' :: 'u' :: '{' :: (Nat.toDigits 16 c.toNat ++ ['}'])
  else [c]

/-- A text between double quotes. -/
def quoted (text : List Char) : List Char :=
  '"' :: (text.flatMap (escaped '"') ++ ['"'])

/-- One character between single quotes. -/
def quotedChar (c : Char) : List Char :=
  '\x27' :: (escaped '\x27' c ++ ['\x27'])

end PocketLedger.Text
