import KeyChart.SortedMap
import KeyChart.Text.Blank
import KeyChart.Text.Case

/-!
# Columns and schemas

What a table's columns are called and what kind of values they hold. Every
table has a row identity under the name `id`, whether it declares a column of
that name or not.
-/

namespace KeyChart

/-- The attribute by which every table identifies its rows. -/
def rowId : String := "id"

/-- The engine's name for the row identity of a table that declares none. -/
def implicitRowId : String := "rowid"

/-- The column by which a query's rows name the outer row they belong to. -/
def parentId : String := "__parent_id"

/-- A name of query text: between double quotes, a quote inside doubled. -/
def quoteIdent (name : String) : String :=
  "\"" ++ String.ofList (name.toList.flatMap fun c => if c = '"' then ['"', '"'] else [c]) ++ "\""

/-- A column as query text names it. -/
inductive ColumnName where
  /-- The row identity that the engine keeps for a table that declares none. -/
  | implicitRowId
  | declared (name : String)
  deriving DecidableEq, Repr, Inhabited

/-- The query text for a column. -/
def ColumnName.toSql : ColumnName → String
  | .implicitRowId => KeyChart.implicitRowId
  | .declared name => quoteIdent name

/-- What kind of values a column holds. -/
inductive ColumnType where
  | numeric
  | string
  | datetime
  deriving DecidableEq, Repr, Inhabited

namespace ColumnType

/-- Declared types that hold numbers. -/
def numericWords : List String :=
  ["int", "integer", "int2", "int4", "int8", "bigint", "smallint", "tinyint", "mediumint",
   "serial", "bigserial", "smallserial", "real", "float", "float4", "float8", "double",
   "double precision", "decimal", "numeric", "boolean", "bool"]

/-- Declared types that hold points in time. -/
def datetimeWords : List String :=
  ["timestamp", "timestamptz", "datetime", "date", "time", "timetz", "year"]

/-- The kind of a declared type: its words in any letter case, up to the first
parenthesis. What is not known is text. -/
def ofSql (declared : String) : ColumnType :=
  let words := Text.trim (String.ofList
    ((declared.toList.map Text.lowerAscii).takeWhile (· ≠ '(')))
  if numericWords.contains words then numeric
  else if datetimeWords.contains words || "timestamp".toList.isPrefixOf words.toList then datetime
  else string

/-- The type with which a column of this kind is created. -/
def toSql : ColumnType → String
  | numeric => "REAL"
  | string => "TEXT"
  | datetime => "TIMESTAMP"

/-- The name of a kind. -/
def label : ColumnType → String
  | numeric => "numeric"
  | string => "string"
  | datetime => "datetime"

end ColumnType

/-- A named column of some kind. -/
structure Attribute where
  name : String
  type : ColumnType
  deriving DecidableEq, Repr, Inhabited

/-- Attributes in order, no two of one name. -/
structure Schema where
  attributes : List Attribute
  nodup : (attributes.map Attribute.name).Nodup

instance : DecidableEq Schema := fun a b =>
  decidable_of_iff (a.attributes = b.attributes) (by cases a; cases b; simp)

namespace Schema

/-- The attribute names in order. -/
def names (s : Schema) : List String := s.attributes.map Attribute.name

/-- The attribute of a name. -/
def find? (s : Schema) (name : String) : Option Attribute :=
  s.attributes.find? (·.name == name)

/-- Whether the schema declares an attribute. -/
def declares (s : Schema) (name : String) : Bool := s.names.contains name

/-- The first name of a list that stands earlier in it, too. -/
def repeated? : List String → List String → Option String
  | _, [] => none
  | seen, name :: rest => if name ∈ seen then some name else repeated? (name :: seen) rest

theorem nodup_of_repeated? {seen names : List String} (h : repeated? seen names = none) :
    names.Nodup ∧ ∀ n ∈ names, n ∉ seen := by
  induction names generalizing seen with
  | nil => simp
  | cons name rest ih =>
    simp only [repeated?] at h
    split at h
    case isTrue => simp at h
    case isFalse hname =>
      obtain ⟨hnodup, hseen⟩ := ih h
      refine ⟨List.nodup_cons.mpr ⟨fun hmem => ?_, hnodup⟩, ?_⟩
      · exact hseen name hmem (by simp)
      · intro n hn
        rcases List.mem_cons.mp hn with rfl | hn
        · exact hname
        · exact fun hs => hseen n hn (by simp [hs])

/-- The schema of some attributes, or the first name that is repeated. -/
def ofAttributes (attributes : List Attribute) : Except String Schema :=
  match h : repeated? [] (attributes.map Attribute.name) with
  | none => .ok ⟨attributes, (nodup_of_repeated? h).1⟩
  | some name => .error name

end Schema

/-- A candidate key: a set of attribute names. -/
abbrev Key := SortedSet String

end KeyChart
