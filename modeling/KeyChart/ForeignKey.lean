import KeyChart.Ids
import KeyChart.Schema

/-!
# Foreign keys

A foreign key ties attributes of one table to attributes of another. How many
rows it joins on either side is its cardinality; of a one-to-many key the first
side is always the one side.
-/

namespace KeyChart

/-- How many rows on each side of a foreign key agree. -/
inductive Cardinality where
  | oneOne
  | oneMany
  | manyMany
  deriving DecidableEq, Repr, Inhabited

/-- A cardinality in messages. -/
def Cardinality.label : Cardinality → String
  | oneOne => "1:1"
  | oneMany => "1:*"
  | manyMany => "*:*"

/-- The names of attributes, as messages list them. -/
def commaList (names : List String) : String := ", ".intercalate names

/-- One side of a foreign key: attributes of a table. -/
structure KeySide where
  table : String
  attrs : List String
  deriving DecidableEq, Repr, Inhabited

/-- A side in messages: `T(a, b)`. -/
def KeySide.label (s : KeySide) : String := s.table ++ "(" ++ commaList s.attrs ++ ")"

/-- The side's attributes as a set. -/
def KeySide.key (s : KeySide) : Key := SortedSet.ofList s.attrs

/-- A foreign key between two sides. -/
structure ForeignKey where
  first : KeySide
  second : KeySide
  cardinality : Cardinality
  deriving DecidableEq, Repr, Inhabited

namespace ForeignKey

/-- A foreign key in messages. -/
def label (fk : ForeignKey) : String :=
  fk.first.label ++ " " ++ fk.cardinality.label ++ " " ++ fk.second.label

/-- Whether both sides are on one table. -/
def isSelfJoin (fk : ForeignKey) : Bool := fk.first.table == fk.second.table

/-- Whether a side is on the table. -/
def involves (fk : ForeignKey) (table : String) : Bool :=
  fk.first.table == table || fk.second.table == table

/-- The sides on a table, the second one first: a join leaves by it. -/
def sidesOn (fk : ForeignKey) (table : String) : List KeySide :=
  [fk.second, fk.first].filter (·.table == table)

/-- The attributes on a table; of a self join, those of the second side. -/
def attrsOn? (fk : ForeignKey) (table : String) : Option (List String) :=
  (fk.sidesOn table).head?.map KeySide.attrs

/-- The table at the other end. -/
def otherEnd? (fk : ForeignKey) (table : String) : Option String :=
  if fk.second.table = table then some fk.first.table
  else if fk.first.table = table then some fk.second.table
  else none

/-- Whether some attributes are, as a set, those of a side on the table. -/
def matchesSide (fk : ForeignKey) (table : String) (attrs : List String) : Bool :=
  (fk.sidesOn table).any (·.key == SortedSet.ofList attrs)

end ForeignKey

end KeyChart
