import KeyChart.Text.Printable

/-!
# Quoted text

How messages show a text or a list of texts: between double quotes, with the
quote itself, the backslash and everything that cannot be seen escaped. A
single character is shown between single quotes by the same rule.
-/

namespace KeyChart.Text

/-- A code point in braces, in lower-case hexadecimal. -/
def codePoint (c : Char) : String :=
  "\\u\x7b" ++ String.ofList (Nat.toDigits 16 c.toNat) ++ "\x7d"

/-- One character of quoted text; `quote` is the mark around the whole. -/
def escape (quote : Char) (c : Char) : String :=
  if c = quote || c = '\\' then String.ofList ['\\', c]
  else if c = '\n' then "\\n"
  else if c = '\r' then "\\r"
  else if c = '\t' then "\\t"
  else if c = '\x00' then "\\0"
  else if isPrintable c then String.ofList [c]
  else codePoint c

/-- A text between double quotes. -/
def quoted (s : String) : String :=
  "\"" ++ String.join (s.toList.map (escape '"')) ++ "\""

/-- A character between single quotes. -/
def quotedChar (c : Char) : String :=
  "'" ++ escape '\'' c ++ "'"

/-- A list of shown items between brackets. -/
def bracketed (items : List String) : String :=
  "[" ++ ", ".intercalate items ++ "]"

/-- A list of quoted texts. -/
def quotedList (items : List String) : String :=
  bracketed (items.map quoted)

end KeyChart.Text
