import KeyChart.Ddl.Token
import KeyChart.ForeignKey
import KeyChart.Schedule.Task
import KeyChart.Text.Quoted

/-!
# Errors and warnings

Why an operation fails, one cause each, and the text that tells it. Warnings do
not stop anything; they are collected.
-/

namespace KeyChart

/-- Why a channel cannot be used. -/
inductive ChannelFault where
  | reservedName
  | notScalable
  | noLayoutPart
  | aggregateNeedsTable
  deriving DecidableEq, Repr

/-- The text of a fault. -/
def ChannelFault.message : ChannelFault → String
  | reservedName => "reserved channel name"
  | notScalable => "only column and foreign references can be scaled"
  | noLayoutPart => "cannot infer layout component from channel name"
  | aggregateNeedsTable => "an aggregate without a column needs an explicit table"

/-- Why an operation failed. -/
inductive Error where
  /-- No joins lead from one table to the other. -/
  | noPath (source target : String)
  /-- The sides of a foreign key are empty or of different lengths. -/
  | arityMismatch (first second : KeySide)
  | notForeignKey (id : ConstraintId)
  | alreadyNested (mark : MarkId)
  | nestedInItself (mark : MarkId)
  /-- Every foreign key with these attributes is many-to-many. -/
  | onlyManyToMany (side : KeySide)
  | nestAlongManyToMany (key : ForeignKey)
  | noMatchingConstraint (inner outer : String) (attrs : List String)
  | missingAttribute (table attr : String)
  | cycle (marks : List MarkId)
  | taskFailure (task : Task) (cause : Error)
  | unknownTable (name : String)
  | duplicateTable (name : String)
  | unknownMark (mark : MarkId)
  | duplicateAttribute (name : String)
  | invalidChannel (channel : String) (fault : ChannelFault)
  | ddl (fault : Ddl.Fault)
  /-- The table store refused an operation. -/
  | store
  /-- The renderer, or what stands in for it, refused an operation. -/
  | render (reason : String)
  deriving DecidableEq, Repr, Inhabited

/-- A name as messages set it off. -/
def tick (name : String) : String := "\x60" ++ name ++ "\x60"

/-- The text of an error. -/
def Error.message : Error → String
  | noPath source target =>
    "no foreign-key path from " ++ tick source ++ " to " ++ tick target
  | arityMismatch first second =>
    "invalid constraint: foreign key " ++ first.label ++ " -> " ++ second.label ++
      " has mismatched arity"
  | notForeignKey id => "invalid constraint: " ++ id.label ++ " is not a foreign key"
  | alreadyNested mark => "invalid constraint: " ++ mark.label ++ " is already nested"
  | nestedInItself mark => "invalid constraint: " ++ mark.label ++ " cannot nest in itself"
  | onlyManyToMany side =>
    "invalid constraint: only many-to-many constraints on " ++ side.label ++ " match"
  | nestAlongManyToMany key =>
    "invalid constraint: cannot nest along many-to-many constraint " ++ key.label
  | noMatchingConstraint inner outer attrs =>
    "no constraint on " ++ tick inner ++ " with attributes " ++ Text.quotedList attrs ++
      " leads to " ++ tick outer
  | missingAttribute table attr => "attribute " ++ tick attr ++ " not found in " ++ tick table
  | cycle marks =>
    "dependency cycle between marks " ++ Text.bracketed (marks.map MarkId.shown)
  | taskFailure task cause => "task " ++ task.label ++ " failed: " ++ cause.message
  | unknownTable name => "unknown table " ++ tick name
  | duplicateTable name => "table " ++ tick name ++ " already exists"
  | unknownMark mark => "unknown mark " ++ mark.label
  | duplicateAttribute name => "invalid schema: duplicate attribute " ++ tick name
  | invalidChannel channel fault => "invalid channel " ++ tick channel ++ ": " ++ fault.message
  | ddl fault => "DDL error: " ++ fault.message
  | store => "table store error"
  | render reason => "render error: " ++ reason

/-- More than one candidate could supply an attribute; one was chosen. -/
structure Warning where
  attr : String
  candidates : List String
  chosen : String
  deriving DecidableEq, Repr, Inhabited

/-- The text of a warning. -/
def Warning.message (w : Warning) : String :=
  "ambiguous reference to " ++ tick w.attr ++ " (candidates: " ++ commaList w.candidates ++
    "), using " ++ tick w.chosen

end KeyChart
