import KeyChart.Mark.Channel

/-!
# Query statements

The queries that marks ask, as data: a chain of joined tables is wrapped into a
named sub-query, and the statement joins the sub-queries to the one that holds
the mark's own rows. A column inside a chain is qualified by the place of its
table in the chain, one of a sub-query by the name of the sub-query.
-/

namespace KeyChart.Query

/-- How a row's value is compared with a constant. -/
inductive Comparison where
  | eq
  | ne
  | lt
  | le
  | gt
  | ge
  deriving DecidableEq, Repr, Inhabited

/-- The operator of query text. -/
def Comparison.toSql : Comparison → String
  | eq => "="
  | ne => "!="
  | lt => "<"
  | le => "<="
  | gt => ">"
  | ge => ">="

/-! ## Chains -/

/-- A column of the table at a place of a chain. -/
structure ChainColumn where
  place : Nat
  name : ColumnName
  deriving DecidableEq, Repr

/-- A table joined to the one before it: the columns that have to agree. -/
structure ChainJoin where
  table : String
  pairs : List (ChainColumn × ChainColumn)
  deriving DecidableEq, Repr

/-- Tables joined one to the next. An outer chain keeps the rows of the first
table that meet nothing. -/
structure Chain where
  first : String
  joins : List ChainJoin
  isOuter : Bool
  deriving DecidableEq, Repr

/-- The tables of a chain, in order. -/
def Chain.tables (c : Chain) : List String := c.first :: c.joins.map ChainJoin.table

/-! ## Sub-queries and statements -/

/-- A selected column of a sub-query, possibly summarised. Without a result name
the column keeps its own. -/
structure SubqueryItem where
  aggregate : Option Aggregate
  column : ChainColumn
  resultName : Option String
  deriving DecidableEq, Repr

/-- A named sub-query. -/
structure Subquery where
  name : String
  items : List SubqueryItem
  chain : Chain
  groupBy : List ChainColumn
  deriving DecidableEq, Repr

/-- The name under which a sub-query exposes an item. -/
def SubqueryItem.exposed (i : SubqueryItem) : String :=
  i.resultName.getD (match i.column.name with
    | .declared name => name
    | .implicitRowId => implicitRowId)

/-- A column of a named sub-query. -/
structure QualifiedColumn where
  subquery : String
  column : String
  deriving DecidableEq, Repr

/-- A sub-query joined to the mark's own rows by the row identity. -/
structure SubqueryJoin where
  name : String
  isOuter : Bool
  deriving DecidableEq, Repr

/-- A condition on the rows. -/
structure Condition where
  column : QualifiedColumn
  comparison : Comparison
  value : Value

/-- A sort key. -/
structure SortKey where
  column : QualifiedColumn
  descending : Bool
  deriving DecidableEq, Repr

/-- The name of the sub-query that holds the mark's own rows. -/
def baseName : String := "base"

/-- The name of the sub-query that pairs the rows with their outer rows. -/
def parentName : String := "parent"

/-- A mark's query: every column of its own rows and some of the joined
sub-queries. -/
structure Statement where
  subqueries : List Subquery
  selected : List QualifiedColumn
  joins : List SubqueryJoin
  conditions : List Condition
  order : List SortKey

/-! ## Query text -/

/-- The short name of the table at a place of a chain. -/
def placeName (place : Nat) : String := "t" ++ toString place

/-- A column of a chain in query text. -/
def ChainColumn.toSql (c : ChainColumn) : String := placeName c.place ++ "." ++ c.name.toSql

/-- The joins of a chain in query text, the first at the given place. -/
def joinsSql (isOuter : Bool) : Nat → List ChainJoin → String
  | _, [] => ""
  | place, j :: rest =>
    (if isOuter then " LEFT JOIN " else " JOIN ") ++ quoteIdent j.table ++ " " ++
      placeName place ++ " ON " ++
      " AND ".intercalate (j.pairs.map fun p => p.1.toSql ++ " = " ++ p.2.toSql) ++
      joinsSql isOuter (place + 1) rest

/-- A chain in query text. -/
def Chain.toSql (c : Chain) : String :=
  "FROM " ++ quoteIdent c.first ++ " " ++ placeName 0 ++ joinsSql c.isOuter 1 c.joins

/-- A selected column in query text. -/
def SubqueryItem.toSql (i : SubqueryItem) : String :=
  let column :=
    match i.aggregate with
    | some aggregate => aggregate.toSql ++ "(" ++ i.column.toSql ++ ")"
    | none => i.column.toSql
  column ++ (match i.resultName with
    | some name => " AS " ++ quoteIdent name
    | none => "")

/-- A sub-query in query text. -/
def Subquery.toSql (s : Subquery) : String :=
  quoteIdent s.name ++ " AS (SELECT " ++ ", ".intercalate (s.items.map SubqueryItem.toSql) ++
    " " ++ s.chain.toSql ++
    (if s.groupBy.isEmpty then ""
      else " GROUP BY " ++ ", ".intercalate (s.groupBy.map ChainColumn.toSql)) ++ ")"

/-- A column of a sub-query in query text. -/
def QualifiedColumn.toSql (c : QualifiedColumn) : String :=
  quoteIdent c.subquery ++ "." ++ quoteIdent c.column

/-- A joined sub-query in query text. -/
def SubqueryJoin.toSql (j : SubqueryJoin) : String :=
  (if j.isOuter then " LEFT JOIN " else " JOIN ") ++ quoteIdent j.name ++ " ON " ++
    (QualifiedColumn.mk j.name rowId).toSql ++ " = " ++ (QualifiedColumn.mk baseName rowId).toSql

/-- A condition in query text. -/
def Condition.toSql (c : Condition) : String :=
  c.column.toSql ++ " " ++ c.comparison.toSql ++ " " ++ c.value.toLiteral

/-- A sort key in query text. -/
def SortKey.toSql (k : SortKey) : String :=
  k.column.toSql ++ (if k.descending then " DESC" else "")

/-- A statement in query text. -/
def Statement.toSql (s : Statement) : String :=
  "WITH " ++ ", ".intercalate (s.subqueries.map Subquery.toSql) ++
    " SELECT DISTINCT " ++
    ", ".intercalate ((quoteIdent baseName ++ ".*") :: s.selected.map QualifiedColumn.toSql) ++
    " FROM " ++ quoteIdent baseName ++ String.join (s.joins.map SubqueryJoin.toSql) ++
    (if s.conditions.isEmpty then ""
      else " WHERE " ++ " AND ".intercalate (s.conditions.map Condition.toSql)) ++
    " ORDER BY " ++ ", ".intercalate (s.order.map SortKey.toSql)

end KeyChart.Query
