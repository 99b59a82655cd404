import KeyChart.Text.WidthTables

/-!
# Width of text in columns

How many columns of a fixed-width font a text takes. Most characters take one,
wide ones two, marks none, but neighbours join: `\r\n` is one line break, a
picture made of several characters takes two columns, and some scripts write
two letters as one. What a character adds therefore depends on what follows
it, so the text is read from its end, carrying what the character to the right
offers to join with.
-/

namespace KeyChart.Text

/-- What the text to the right offers the next character to join with. -/
inductive Joint where
  | plain
  | lineFeed
  /-- An Arabic alef, and nothing but transparent marks before it. -/
  | alef
  /-- A Hebrew lamed; `joined` once a zero-width joiner precedes it. -/
  | lamed (joined : Bool)
  /-- A Buginese ya. -/
  | buginYa (joined : Bool)
  /-- A Buginese vowel sign i before a joined ya. -/
  | buginVowelYa
  /-- A Tifinagh consonant. -/
  | tifinagh (joined : Bool)
  /-- The Tifinagh joiner before a consonant. -/
  | tifinaghJoiner
  /-- An Old Turkic letter orkhon i. -/
  | orkhonI (joined : Bool)
  /-- A Khmer letter that can stand below the line. -/
  | khmer
  /-- A Lisu tone letter that closes a pair. -/
  | lisuTone
  /-- The Kirat Rai vowel sign e. -/
  | kiratE
  /-- The Kirat Rai vowel sign ai, or the two signs that make it up. -/
  | kiratAi
  /-- A picture. -/
  | picture
  /-- A skin tone. -/
  | skinTone
  /-- One regional indicator. -/
  | region
  /-- Two or more regional indicators. -/
  | regions
  /-- A zero-width joiner before a picture. -/
  | joiner
  /-- An enclosing keycap before such a joiner. -/
  | joinedKeycap
  /-- Regional indicators before such a joiner: one, then an even or an odd count. -/
  | joinedRegion
  | joinedRegionsEven
  | joinedRegionsOdd
  /-- The tags of a flag before such a joiner: letters, and digits before these. -/
  | joinedTags (letters digits : Nat)
  deriving DecidableEq

/-- The state of the scan: the joint, and what the variation selectors between it
and the next character ask for. -/
structure Rest where
  joint : Joint := .plain
  asPicture : Bool := false
  asText : Bool := false
  /-- A quotation mark that takes two columns. -/
  asWide : Bool := false

/-- Whether ignorable marks may stand inside the ligature that the joint offers. -/
def Joint.isLigature : Joint → Bool
  | .alef | .lamed _ | .buginYa _ | .buginVowelYa | .tifinagh _ | .tifinaghJoiner | .orkhonI _
  | .khmer | .lisuTone => true
  | _ => false

/-- Whether a picture may come to stand before the joint, and take no column. -/
def Joint.isJoinedPicture : Joint → Bool
  | .joiner | .joinedKeycap => true
  | _ => false

/-- The rest that a variation selector keeps: that of a ligature, and nothing of
any other. -/
def Rest.underSelector (rest : Rest) : Rest := if rest.joint.isLigature then rest else {}

/-- The joint once a zero-width joiner stands before it, if it is a ligature. -/
def Joint.join : Joint → Joint
  | .alef => .plain
  | .lamed _ => .lamed true
  | .buginYa _ => .buginYa true
  | .tifinagh _ => .tifinagh true
  | .orkhonI _ => .orkhonI true
  | j => j

/-- Columns and joint of a character on its own. -/
def alone (c : Char) : Int × Rest :=
  let n := c.toNat
  if n = 0x0A then (1, { joint := .lineFeed })
  else if n ≤ 0xA0 then (1, {})
  else if zeroWidth.covers c then (0, {})
  else if 0x1F3FB ≤ n && n ≤ 0x1F3FF then (2, { joint := .skinTone })
  else if 0x1F1E6 ≤ n && n ≤ 0x1F1FF then (1, { joint := .region })
  else if pictures.covers c then (2, { joint := .picture })
  else if n = 0x17D8 then (3, {})
  else if doubleWidth.covers c then (2, {})
  else if alefs.covers c then (1, { joint := .alef })
  else if n = 0x05DC then (1, { joint := .lamed false })
  else if n = 0x1A10 then (1, { joint := .buginYa false })
  else if (0x2D31 ≤ n && n ≤ 0x2D65) || n = 0x2D6F then (1, { joint := .tifinagh false })
  else if n = 0x10C03 then (1, { joint := .orkhonI false })
  else if coengLetters.covers c then (1, { joint := .khmer })
  else if n = 0xA4FC || n = 0xA4FD then (1, { joint := .lisuTone })
  else if n = 0x16D67 then (1, { joint := .kiratE })
  else if n = 0x16D68 then (1, { joint := .kiratAi })
  else (1, {})

/-- Columns that a character adds by joining with what follows it, and what the
two offer together; `none` if they do not join. -/
def joined? (c : Char) (joint : Joint) : Option (Int × Joint) :=
  let n := c.toNat
  let region := 0x1F1E6 ≤ n && n ≤ 0x1F1FF
  let consonant := (0x2D31 ≤ n && n ≤ 0x2D65) || n = 0x2D6F
  match joint with
  | .lineFeed => if n = 0x0D then some (0, .plain) else none
  | .alef =>
    if lams.covers c then some (0, .plain)
    else if joinTransparent.covers c then some (0, .alef)
    else none
  | .lamed true => if n = 0x05D0 then some (0, .plain) else none
  | .khmer => if n = 0x17D2 then some (-1, .plain) else none
  | .buginYa true => if n = 0x1A17 then some (0, .buginVowelYa) else none
  | .buginVowelYa => if n = 0x1A15 then some (0, .plain) else none
  | .tifinagh joined =>
    if n = 0x2D7F then some (1, .tifinaghJoiner)
    else if joined && consonant then some (0, .plain)
    else none
  | .tifinaghJoiner => if consonant then some (-1, .plain) else none
  | .lisuTone => if 0xA4F8 ≤ n && n ≤ 0xA4FB then some (0, .plain) else none
  | .orkhonI true => if n = 0x10C32 then some (0, .plain) else none
  | .kiratE =>
    if n = 0x16D63 || n = 0x16D69 then some (0, .plain)
    else if n = 0x16D67 then some (0, .kiratAi)
    else none
  | .kiratAi => if n = 0x16D63 then some (0, .plain) else none
  | .skinTone =>
    if modifiable.covers c then some (0, .picture)
    else if n = 0x200D then some (0, .joiner)
    else none
  | .region => if region then some (1, .regions) else none
  | .regions =>
    if region then some (1, .regions) else if n = 0x200D then some (0, .joiner) else none
  | .picture | .joinedRegionsEven =>
    if n = 0x200D then some (0, .joiner)
    else if joint = .joinedRegionsEven && region then some (3, .joinedRegionsOdd)
    else none
  | .joiner =>
    if n = 0x20E3 then some (0, .joinedKeycap)
    else if region then some (1, .joinedRegion)
    else if 0x1F3FB ≤ n && n ≤ 0x1F3FF then some (0, .skinTone)
    else if n = 0xE007F then some (0, .joinedTags 0 0)
    else if pictures.covers c then some (0, .picture)
    else none
  | .joinedRegion | .joinedRegionsOdd => if region then some (-1, .joinedRegionsEven) else none
  | .joinedTags letters digits =>
    if 0xE0061 ≤ n && n ≤ 0xE007A && digits = 0 && letters < 6 then
      some (0, .joinedTags (letters + 1) 0)
    else if 0xE0030 ≤ n && n ≤ 0xE0039 && letters < 5 && digits < 3 then
      some (0, .joinedTags letters (digits + 1))
    else if n = 0x1F3F4 && (digits = 3 || digits = 0 && 3 ≤ letters) then some (0, .picture)
    else none
  | _ => none

/-- Columns that a character adds before the given rest, and the rest that the
character leaves. A selector asks something of the character right before it, and
does not part a ligature. -/
def stepLeft (c : Char) (rest : Rest) : Int × Rest :=
  let n := c.toNat
  if rest.asPicture && selectable.covers c then
    (if rest.joint.isJoinedPicture then 0 else 2, { joint := .picture })
  else
    let rest := if rest.asPicture then { rest.underSelector with asPicture := false } else rest
    if n = 0xFE0F then
      let kept := if rest.joint.isJoinedPicture then rest else rest.underSelector
      (0, { kept with asPicture := true })
    else if n = 0xFE0E then (0, { rest.underSelector with asText := true })
    else if n = 0xFE01 then (0, { rest.underSelector with asWide := true })
    else if rest.asText && textSelectable.covers c then (1, {})
    else if !rest.asText && rest.asWide && quotationMarks.covers c then (2, {})
    else
      let rest :=
        if rest.asText then { rest with asText := false } else { rest with asWide := false }
      if rest.joint.isLigature && n = 0x200D then (0, { rest with joint := rest.joint.join })
      else if rest.joint.isLigature && ligatureTransparent.covers c then (0, rest)
      else if rest.asWide then alone c
      else
        match joined? c rest.joint with
        | some (columns, joint) => (columns, { joint := joint })
        | none => alone c

/-- The columns of a text. -/
def width (s : String) : Nat :=
  let (columns, _) := s.toList.foldr
    (fun c (acc : Int × Rest) =>
      let (added, rest) := stepLeft c acc.2
      (acc.1 + added, rest))
    (0, {})
  columns.toNat

end KeyChart.Text
