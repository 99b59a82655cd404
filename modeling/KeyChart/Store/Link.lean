import KeyChart.Store.Table

/-!
# What a foreign key refers to

A row of a table with a foreign key has to find its counterpart in the target
table, unless a column of the key is null. The target is matched by its row
identity or by one of its keys; a foreign key to anything else is a mistake
that shows when rows are added.
-/

namespace KeyChart.Store

/-- How rows are matched: by the target's row identity, or column by column. -/
inductive Link where
  | identity (column : Nat)
  | columns (pairs : List (Nat × Nat))
  deriving DecidableEq, Repr

namespace Link

/-- The pairs of columns by which a foreign key matches one of the target's keys:
in order if it names no target columns, by name otherwise. -/
def pairs? (columns : List Nat) (targetColumns : List String) (target : StoreTable)
    (key : List String) : Option (List (Nat × Nat)) :=
  if key.length ≠ columns.length then none
  else if targetColumns.isEmpty then
    if key == target.primaryKey then some (columns.zip (target.positions key)) else none
  else
    key.mapM fun name => do
      let i ← position? targetColumns name
      return (← columns[i]?, ← position? target.names name)

/-- How the rows of a table are matched with those of the target of one of its
foreign keys. Of several keys the last declared is taken. -/
def between? (source target : StoreTable) (k : StoreKey) : Option Link :=
  let columns := source.positions k.columns
  let byIdentity : Bool :=
    k.columns.length = 1 && target.identityColumn?.isSome &&
      (k.targetColumns.isEmpty || k.targetColumns.map folded == [folded target.identityName])
  if byIdentity then columns.head?.map .identity
  else
    (target.rowKeys.reverse.findSome? (pairs? columns k.targetColumns target)).map .columns

/-- The columns on the side of the foreign key. -/
def sources : Link → List Nat
  | identity column => [column]
  | columns pairs => pairs.map Prod.fst

/-- Whether a row has a counterpart among the rows of the target, or is its own. -/
def holds (link : Link) (target : StoreTable) (own : Bool) (row : StoreRow) : Bool :=
  let cell (i : Nat) : Value := row.cells.getD i .null
  link.sources.any (fun i => (cell i).isNull) ||
    match link with
    | identity column =>
      match Affinity.numeric.store (cell column) with
      | .int n => (own && n == row.identity) || target.rows.any fun r => r.identity == n
      | _ => false
    | columns pairs =>
      (own && pairs.all fun (i, j) => clash (cell i) (cell j)) ||
        target.rows.any fun r => pairs.all fun (i, j) =>
          clash ((target.affinityAt j).ofKey.store (cell i)) (r.cells.getD j .null)

/-- Whether a row refers to a row of the target, as far as comparing their columns
can tell. -/
def refers (link : Link) (source target : StoreTable) (row found : StoreRow) : Bool :=
  match link with
  | identity column =>
    clashAcross .integer (source.affinityAt column) (.int found.identity)
      (row.cells.getD column .null)
  | columns pairs => pairs.all fun (i, j) =>
      clashAcross (target.affinityAt j) (source.affinityAt i) (found.cells.getD j .null)
        (row.cells.getD i .null)

end Link

end KeyChart.Store
