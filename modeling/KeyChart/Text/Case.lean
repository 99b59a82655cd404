/-!
# Letter case, as far as ASCII words need it

Words are compared with ASCII words by their full upper-case or lower-case
form. Few characters beyond ASCII have an ASCII one: the dotless `ı`, the long
`ſ`, `ß` and seven ligatures on the way up, the Kelvin sign on the way down.
-/

namespace KeyChart.Text

/-- The full upper-case form of a character, if it is ASCII. -/
def upperAscii? (c : Char) : Option (List Char) :=
  match c with
  | 'ß' => some ['S', 'S']
  | 'ı' => some ['I']
  | 'ſ' => some ['S']
  | 'ﬀ' => some ['F', 'F']
  | 'ﬁ' => some ['F', 'I']
  | 'ﬂ' => some ['F', 'L']
  | 'ﬃ' => some ['F', 'F', 'I']
  | 'ﬄ' => some ['F', 'F', 'L']
  | 'ﬅ' => some ['S', 'T']
  | 'ﬆ' => some ['S', 'T']
  | c => if c.toNat < 0x80 then some [c.toUpper] else none

/-- The full upper-case form of a word, if all of it is ASCII. -/
def upperWord? (cs : List Char) : Option (List Char) :=
  (cs.mapM upperAscii?).map List.flatten

/-- The lower-case form of a character, where that form is ASCII; any other
character stays as it is. -/
def lowerAscii (c : Char) : Char :=
  if c.toNat = 0x212A then 'k' else c.toLower

end KeyChart.Text
