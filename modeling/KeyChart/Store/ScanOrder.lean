import KeyChart.Store.Table

/-!
# The order in which rows are read

A table's rows are read in the order of their identities, unless one of its keys
holds all the columns that are asked for and is narrower than the table: then they
are read from that key, in its order. The widths are estimates from the declared
types.
-/

namespace KeyChart.Store

/-! ## Widths -/

/-- What is left of a text after the last place where a word stands in it. -/
def afterWord? (word : List Char) : List Char → Option (List Char)
  | [] => none
  | c :: rest =>
    (afterWord? word rest).or
      (if word.isPrefixOf (c :: rest) then some ((c :: rest).drop word.length) else none)

/-- The first number in a text, zero if there is none or it exceeds 31 bits. -/
def firstNumber (s : List Char) : Nat :=
  let digits := (s.dropWhile fun c => !c.isDigit).takeWhile Char.isDigit
  let n := digits.foldl (fun n c => 10 * n + (c.toNat - 48)) 0
  if n < Decimal.pow2 31 then n else 0

/-- The estimated width of a column, where a number has width one. Texts are as wide
as the type says, or else five. -/
def columnWidth (declared : String) : Nat :=
  let upper := declared.toList.map Char.toUpper
  match Affinity.ofType declared with
  | .numeric | .integer | .real => 1
  | .blob | .text =>
    if declared = "" then 1
    else
      let length :=
        match afterWord? "CHAR".toList upper with
        | some rest => firstNumber rest
        | none => ((afterWord? "BLOB(".toList upper).map firstNumber).getD 16
      min 255 (length / 4 + 1)

/-- Ten times the binary logarithm, about. -/
def tenLog2 (x : Nat) : Nat :=
  10 * x.log2 + [0, 2, 3, 5, 6, 7, 8, 9].getD (8 * x / Decimal.pow2 x.log2 % 8) 0

namespace StoreTable

/-- The width of some columns together, those that no column stands for counting
as one. -/
def widthOf (t : StoreTable) (columns : List Nat) : Nat :=
  columns.foldl (fun width i => width + ((t.columns[i]?).map fun c => columnWidth c.sqlType).getD 1)
    0

/-- The width of a whole row, with its identity. -/
def rowWidth (t : StoreTable) : Nat :=
  tenLog2 (4 * (t.widthOf (List.range t.columns.length) +
    if t.identityColumn?.isSome then 0 else 1))

/-- The width of a key with the identity of its row. -/
def keyWidth (t : StoreTable) (key : List Nat) : Nat := tenLog2 (4 * (t.widthOf key + 1))

/-! ## Order -/

/-- The key from which some columns are read: of those that hold them all and are
narrower than the table one of the least, by fifteenths of the table's width, and
of these the last declared. -/
def coveringKey? (t : StoreTable) (wanted : List Nat) : Option (List Nat) :=
  let usable := (t.rowKeys.reverse.map t.positions).filter fun key =>
    wanted.all key.contains && t.keyWidth key < t.rowWidth
  let cost (key : List Nat) : Nat := 15 * t.keyWidth key / t.rowWidth
  (usable.map cost).min?.bind fun least => usable.find? fun key => cost key == least

/-- Whether a row does not stand after another in the order of some columns. -/
def upTo (key : List Nat) (a b : StoreRow) : Bool :=
  match key with
  | [] => true
  | i :: rest =>
    match compareCells (a.cells.getD i .null) (b.cells.getD i .null) with
    | .lt => true
    | .eq => upTo rest a b
    | .gt => false

/-- The rows in the order in which some of their columns are read. -/
def rowsFor (t : StoreTable) (wanted : List Nat) : List StoreRow :=
  match t.coveringKey? wanted with
  | some key => t.rows.mergeSort (upTo key)
  | none => t.rows

end StoreTable

end KeyChart.Store
