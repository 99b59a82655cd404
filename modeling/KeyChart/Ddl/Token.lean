import KeyChart.Text.Quoted

/-!
# Tokens of data definition scripts

A script is read as words and punctuation. Of the words only the ones below
mean something to the reader of declarations; every other word, and every
quoted name, is an identifier.
-/

namespace KeyChart.Ddl

/-- The words with a meaning in declarations. -/
inductive Keyword where
  | create | alter | add | table | only | primary | key | foreign | references
  | not | null | unique | default | on | constraint | index | ifWord | existsWord | check
  deriving DecidableEq, Repr

namespace Keyword

/-- Every keyword with its upper-case spelling. -/
def spellings : List (Keyword × String) :=
  [(create, "CREATE"), (alter, "ALTER"), (add, "ADD"), (table, "TABLE"), (only, "ONLY"),
   (primary, "PRIMARY"), (key, "KEY"), (foreign, "FOREIGN"), (references, "REFERENCES"),
   (not, "NOT"), (null, "NULL"), (unique, "UNIQUE"), (default, "DEFAULT"), (on, "ON"),
   (constraint, "CONSTRAINT"), (index, "INDEX"), (ifWord, "IF"), (existsWord, "EXISTS"),
   (check, "CHECK")]

/-- The keyword with the given upper-case spelling. -/
def ofSpelling? (word : String) : Option Keyword :=
  (spellings.find? fun e => e.2 == word).map (·.1)

/-- The name of a keyword in messages. -/
def label : Keyword → String
  | create => "Create"
  | alter => "Alter"
  | add => "Add"
  | table => "Table"
  | only => "Only"
  | primary => "Primary"
  | key => "Key"
  | foreign => "Foreign"
  | references => "References"
  | not => "Not"
  | null => "Null"
  | unique => "Unique"
  | default => "Default"
  | on => "On"
  | constraint => "Constraint"
  | index => "Index"
  | ifWord => "If"
  | existsWord => "Exists"
  | check => "Check"

end Keyword

/-- A word, a number, a quoted text or a punctuation mark. -/
inductive Token where
  | keyword (word : Keyword)
  | ident (name : String)
  | str (text : String)
  | num (digits : String)
  | lparen
  | rparen
  | comma
  | semicolon
  | dot
  /-- Any other character; it matters only inside expressions, which are skipped. -/
  | symbol (c : Char)
  deriving DecidableEq, Repr

/-- How messages show a token. -/
def Token.shown : Token → String
  | keyword word => "Keyword(" ++ word.label ++ ")"
  | ident name => "Ident(" ++ Text.quoted name ++ ")"
  | str text => "Str(" ++ Text.quoted text ++ ")"
  | num digits => "Num(" ++ Text.quoted digits ++ ")"
  | lparen => "LParen"
  | rparen => "RParen"
  | comma => "Comma"
  | semicolon => "Semicolon"
  | dot => "Dot"
  | symbol c => "Symbol(" ++ Text.quotedChar c ++ ")"

/-- Why a script cannot be read. `found` is the token in the place of what was
expected, if the script does not end there. -/
inductive Fault where
  | expectedTarget (found : Option Token)
  | unexpectedEnd
  deriving DecidableEq, Repr

/-- The text of a fault. -/
def Fault.message : Fault → String
  | expectedTarget found =>
    "Expected referenced table, found " ++ (found.map Token.shown).getD "Eof"
  | unexpectedEnd => "Unexpected end of input"

end KeyChart.Ddl
