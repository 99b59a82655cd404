import KeyChart.Ddl.Token
import KeyChart.Text.Blank
import KeyChart.Text.Case
import KeyChart.Text.Letter

/-!
# From script text to tokens

White space and comments separate tokens and are dropped. Names stand between
double quotes, grave accents or brackets, texts between single quotes; inside,
the closing mark is written twice. A quoted part that is never closed runs to
the end of the script.
-/

namespace KeyChart.Ddl

/-- What follows the end of the line. -/
def afterLine : List Char → List Char
  | [] => []
  | c :: rest => if c = '\n' then rest else afterLine rest

/-- What follows the next `*/`; `prev` is the character before. -/
def afterComment (prev : Char) : List Char → List Char
  | [] => []
  | c :: rest => if prev = '*' && c = '/' then rest else afterComment c rest

/-- The text up to the closing mark and what follows the mark. A doubled mark
stands for itself. -/
def delimited (close : Char) : List Char → List Char × List Char
  | [] => ([], [])
  | c :: rest =>
    if c = close then
      match rest with
      | d :: rest' =>
        if d = close then
          let (text, tail) := delimited close rest'
          (close :: text, tail)
        else ([], d :: rest')
      | [] => ([], [])
    else
      let (text, tail) := delimited close rest
      (c :: text, tail)

/-- Whether a character continues a number. -/
def isNumberPart (c : Char) : Bool := c.isDigit || c = '.'

/-- Whether a character starts a bare word. -/
def startsWord (c : Char) : Bool := Text.isLetter c || c = '_'

/-- Whether a character continues a bare word. -/
def isWordPart (c : Char) : Bool := Text.isLetterOrNumeral c || c = '_' || c = '$'

/-- A bare word: a keyword in any letter case, or else an identifier. -/
def wordToken (word : List Char) : Token :=
  match (Text.upperWord? word).bind fun upper => Keyword.ofSpelling? (String.ofList upper) with
  | some keyword => .keyword keyword
  | none => .ident (String.ofList word)

theorem length_afterLine_le (cs : List Char) : (afterLine cs).length ≤ cs.length := by
  induction cs with
  | nil => simp [afterLine]
  | cons c rest ih =>
    simp only [afterLine]
    split
    · simp
    · simp; omega

theorem length_afterComment_le (prev : Char) (cs : List Char) :
    (afterComment prev cs).length ≤ cs.length := by
  induction cs generalizing prev with
  | nil => simp [afterComment]
  | cons c rest ih =>
    simp only [afterComment]
    split
    · simp
    · have := ih c
      simp; omega

theorem length_delimited_le (close : Char) (cs : List Char) :
    (delimited close cs).2.length ≤ cs.length := by
  fun_induction delimited close cs <;> simp_all <;> omega

theorem length_dropWhile_le (p : Char → Bool) (cs : List Char) :
    (cs.dropWhile p).length ≤ cs.length :=
  (List.dropWhile_sublist p).length_le

/-- The closing mark of a quoted part that starts with the given mark. -/
def closing? : Char → Option Char
  | '"' => some '"'
  | '\x60' => some '\x60'
  | '[' => some ']'
  | '\'' => some '\''
  | _ => none

/-- The token that one punctuation mark is, if it is one by itself. -/
def punctuation? : Char → Option Token
  | '(' => some .lparen
  | ')' => some .rparen
  | ',' => some .comma
  | ';' => some .semicolon
  | '.' => some .dot
  | _ => none

/-- The tokens of a text. -/
def tokens (cs : List Char) : List Token :=
  match cs with
  | [] => []
  | c :: rest =>
    if Text.isBlank c then tokens rest
    else if c = '#' || (c = '-' && rest.head? = some '-') then tokens (afterLine rest)
    else if c = '/' && rest.head? = some '*' then tokens (afterComment '\x00' rest.tail)
    else
      match punctuation? c, closing? c with
      | some token, _ => token :: tokens rest
      | none, some close =>
        let text := String.ofList (delimited close rest).1
        (if c = '\'' then .str text else .ident text) :: tokens (delimited close rest).2
      | none, none =>
        if c.isDigit || (c = '-' && rest.head?.any Char.isDigit) then
          .num (String.ofList (c :: rest.takeWhile isNumberPart)) ::
            tokens (rest.dropWhile isNumberPart)
        else if startsWord c then
          wordToken (c :: rest.takeWhile isWordPart) :: tokens (rest.dropWhile isWordPart)
        else .symbol c :: tokens rest
termination_by cs.length
decreasing_by
  all_goals simp only [List.length_cons]
  · omega
  · have := length_afterLine_le rest
    omega
  · have := length_afterComment_le '\x00' rest.tail
    simp only [List.length_tail] at this
    omega
  · omega
  · have := length_delimited_le close rest
    omega
  · have := length_dropWhile_le isNumberPart rest
    omega
  · have := length_dropWhile_le isWordPart rest
    omega
  · omega

end KeyChart.Ddl
