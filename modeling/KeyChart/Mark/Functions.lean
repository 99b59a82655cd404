import KeyChart.Value

/-!
# Stock functions

Functions of a value, to transform a referenced column, and functions of a
row's record, to compute a channel.
-/

namespace KeyChart

namespace ValueFunction

/-- Twice a number; null for anything that is no number. -/
def double (v : Value) : Value :=
  match v.toFloat? with
  | some x => .float (x * 2)
  | none => .null

/-- The label of a value. -/
def label (v : Value) : Value := .text v.toLabel

/-- One for null and zero for anything else. -/
def nullFlag (v : Value) : Value := .int (if v.isNull then 1 else 0)

end ValueFunction

namespace RecordFunction

/-- The sum of some entries; what is no number adds nothing. -/
def sum (names : List String) (r : Record) : Value :=
  .float (names.foldl (fun total name =>
    total + ((r.find? name).bind Value.toFloat?).getD 0) 0)

/-- The labels of some entries with bars between them, a question mark for an
entry that is missing. -/
def concat (names : List String) (r : Record) : Value :=
  .text ("|".intercalate (names.map fun name => ((r.find? name).map Value.toLabel).getD "?"))

/-- The names of all entries. -/
def keys (r : Record) : Value := .text (",".intercalate r.keys)

/-- One entry, null if it is missing. -/
def entry (names : List String) (r : Record) : Value :=
  (names.head?.bind r.find?).getD .null

end RecordFunction

end KeyChart
