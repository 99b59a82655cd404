import KeyChart.Engine

/-!
# Foreign keys from rows

A store lists the foreign keys of a table as rows, one for each column, with the
number of the key that the column belongs to. The rows of one key stand
together; a row may leave the target column open.
-/

namespace KeyChart.Store

/-- One column of a foreign key. -/
structure KeyRow where
  key : Nat
  target : String
  column : String
  targetColumn : Option String
  deriving DecidableEq, Repr

/-- A foreign key whose rows are being read. -/
structure OpenKey where
  key : Nat
  columns : List String
  target : String
  targetColumns : List String
  deriving DecidableEq, Repr

/-- The foreign key that has been read. -/
def OpenKey.close (k : OpenKey) : TableConstraint := .foreignKey k.columns k.target k.targetColumns

/-- Reads rows after an open key. A row of the same key extends it, and any other
row closes it and opens the next. -/
def readKeyRows (openTarget : String → String) : Option OpenKey → List KeyRow → List TableConstraint
  | k, [] => (k.map OpenKey.close).toList
  | k, row :: rest =>
    let column := row.targetColumn.getD (openTarget row.target)
    let fresh : OpenKey := ⟨row.key, [row.column], row.target, [column]⟩
    match k with
    | none => readKeyRows openTarget (some fresh) rest
    | some k =>
      if k.key = row.key then
        readKeyRows openTarget
          (some { k with
            columns := k.columns ++ [row.column]
            targetColumns := k.targetColumns ++ [column] }) rest
      else k.close :: readKeyRows openTarget (some fresh) rest

/-- The foreign keys that some rows list. `openTarget` names the column of a
target that is meant where a row leaves it open. -/
def foreignKeysOf (openTarget : String → String) (rows : List KeyRow) : List TableConstraint :=
  readKeyRows openTarget none rows

end KeyChart.Store
