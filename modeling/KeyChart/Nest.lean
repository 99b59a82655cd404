import KeyChart.Catalog.Paths

/-!
# Nesting by foreign keys

An inner mark stands inside the rows of an outer one, joined along a path from
the inner table to the outer table. The path is the shortest one, or it starts
with a key of the inner table, or it crosses a given foreign key.
-/

namespace KeyChart

/-- One end of a nesting: a mark and the table whose rows it draws. -/
structure NestEnd where
  mark : MarkId
  table : String
  deriving DecidableEq, Repr

/-- A mark inside the rows of another. `constraint` is none if both draw the same
table, row by row. -/
structure MarkNest where
  constraint : Option ConstraintId
  path : JoinPath
  inner : MarkId
  outer : MarkId
  deriving DecidableEq, Repr

namespace MarkNest

/-- Nests along the first shortest path. If there are several, a warning lists
them. -/
def shortest (c : Catalog) (inner outer : NestEnd) : Except Error (MarkNest × List Warning) :=
  if inner.table = outer.table then
    .ok (⟨none, JoinPath.stay inner.table, inner.mark, outer.mark⟩, [])
  else
    match c.shortestPaths inner.table outer.table with
    | .error e => .error e
    | .ok [] => .error (.noPath inner.table outer.table)
    | .ok (path :: others) =>
      let warnings : List Warning :=
        if others.isEmpty then []
        else [⟨outer.table, (path :: others).map JoinPath.label, path.label⟩]
      .ok (⟨path.firstConstraint?, path, inner.mark, outer.mark⟩, warnings)

/-- The first of some foreign keys along which the tables can be joined. A key
that does not lead to the outer table is passed over. -/
def firstAlong (c : Catalog) (inner outer : NestEnd) :
    List ConstraintId → Except Error (Option MarkNest)
  | [] => .ok none
  | id :: rest =>
    match c.pathAcross inner.table outer.table id with
    | .ok path => .ok (some ⟨some id, path, inner.mark, outer.mark⟩)
    | .error (.noPath _ _) => firstAlong c inner outer rest
    | .error e => .error e

/-- Nests along the first foreign key with the given attributes on the inner
table's side. -/
def byAttributes (c : Catalog) (inner outer : NestEnd) (attrs : List String) :
    Except Error MarkNest :=
  let candidates := c.foreignKeys.filter fun k => k.2.matchesSide inner.table attrs
  let usable := candidates.filter fun k => k.2.cardinality ≠ .manyMany
  match firstAlong c inner outer (usable.map (·.1)) with
  | .error e => .error e
  | .ok (some nest) => .ok nest
  | .ok none =>
    if candidates.any fun k => k.2.cardinality = .manyMany then
      .error (.onlyManyToMany ⟨inner.table, attrs⟩)
    else .error (.noMatchingConstraint inner.table outer.table attrs)

/-- Nests along a given foreign key. -/
def across (c : Catalog) (inner outer : NestEnd) (constraint : ConstraintId) :
    Except Error MarkNest :=
  match c.foreignKey constraint with
  | .error e => .error e
  | .ok fk =>
    if fk.cardinality = .manyMany then .error (.nestAlongManyToMany fk)
    else
      (c.pathAcross inner.table outer.table constraint).map fun path =>
        ⟨some constraint, path, inner.mark, outer.mark⟩

end MarkNest

end KeyChart
