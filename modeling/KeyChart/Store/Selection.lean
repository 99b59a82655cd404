import KeyChart.Store.ScanOrder

/-!
# Selections

What a selection of named columns makes of a table, or of another selection. A
name that no column has stands for the row identity, if it is one of that one's
names and the selection is from a table, and otherwise for itself as a text.
-/

namespace KeyChart.Store

/-- Where a selected cell comes from: a cell of the row, its identity, or a text
that is the same for all rows. -/
inductive Origin where
  | cell (position : Nat)
  | identity
  | text (s : String)
  deriving DecidableEq, Repr

/-- Columns of a table. Only a selection of all of them lets the row identity be
seen. -/
structure Selection where
  table : StoreTable
  columns : List (StoreColumn × Origin)
  isWhole : Bool

/-- All columns of a table. -/
def StoreTable.whole (t : StoreTable) : Selection :=
  ⟨t, t.columns.mapIdx fun i c => (c, .cell i), true⟩

namespace Selection

/-- The names of the columns. -/
def names (s : Selection) : List String := s.columns.map fun c => c.1.name

/-- What a name stands for, as declared, and where its cells come from. A text goes by
its quoted form and has no type. -/
def lookup (s : Selection) (name : String) : StoreColumn × Origin :=
  let text : StoreColumn × Origin := (⟨quoteIdent name, ""⟩, .text name)
  match position? s.names name with
  | some i => s.columns.getD i text
  | none =>
    if s.isWhole && isIdentityName name then (⟨s.table.identityName, "INTEGER"⟩, .identity)
    else text

/-- A name without a colon and a number at its end. -/
def unnumbered (name : String) : String :=
  match name.toList.reverse.dropWhile Char.isDigit with
  | ':' :: rest => String.ofList rest.reverse
  | _ => name

/-- A name that is not taken: the name itself, or it with the least number that
makes it new. -/
def freshColumn (taken : List String) (name : String) : String :=
  let isTaken (n : String) : Bool := (position? taken n).isSome
  if !isTaken name then name
  else
    let candidate (k : Nat) : String := unnumbered name ++ ":" ++ toString (k + 1)
    (((List.range (taken.length + 1)).map candidate).find? fun n => !isTaken n).getD name

/-- The names of the columns of a selection: those of the selected ones, made
different; the words for truth values are replaced by a number. -/
def resultNames (names : List String) : List String :=
  (names.mapIdx fun i n =>
    if folded n == "true" || folded n == "false" then "column" ++ toString (i + 1) else n).foldl
      (fun taken n => taken ++ [freshColumn taken n]) []

/-- A selection of columns. -/
def select (s : Selection) (names : List String) : Selection :=
  let columns := names.map s.lookup
  ⟨s.table,
    (resultNames (columns.map fun c => c.1.name)).zipWith
      (fun name (column, origin) => ({ column with name := name }, origin)) columns,
    false⟩

/-- The cells of the table that are read. The row identity is at hand without. -/
def wanted (s : Selection) : List Nat :=
  s.columns.filterMap fun (_, origin) =>
    match origin with
    | .cell i => if s.table.identityColumn? = some i then none else some i
    | _ => none

/-- A selected cell of a row. -/
def cellOf (row : StoreRow) : Origin → Value
  | .cell i => row.cells.getD i .null
  | .identity => .int row.identity
  | .text s => .text s

/-- The selected cells of all rows. -/
def rows (s : Selection) : List (List Value) :=
  (s.table.rowsFor s.wanted).map fun row => s.columns.map fun (_, origin) => cellOf row origin

end Selection

end KeyChart.Store
