import KeyChart.Drawing.Shape
import KeyChart.Query.MarkQuery
import KeyChart.ResultSet

/-!
# Marks

A mark draws each row of a table as a shape. It is declared by mappings for its
channels; a registered mark holds the classified channels and what became of
them so far: its query, the rows that it returned, their places and what was
drawn.
-/

namespace KeyChart

/-- A mark as declared. -/
structure MarkSpec where
  source : String
  shape : Shape
  name : Option String := none
  channels : List (String × Mapping) := []
  filters : List Filter := []
  orderBy : List OrderBy := []

/-- The rows of one outer row, placed inside its box. -/
structure Partition where
  parent : Value
  box : Box
  arrays : ChannelArrays

/-- A registered mark. `table` is where its drawn rows are stored, and
`attributes` are the drawn rows by row identity. -/
structure Mark where
  id : MarkId
  name : String
  source : String
  shape : Shape
  channels : List (String × Channel)
  filters : List Filter
  orderBy : List OrderBy
  table : String
  query : Option MarkQuery := none
  result : Option ResultSet := none
  partitions : List Partition := []
  scales : ScaleMap := .empty
  attributes : SortedMap Int Record := .empty
  level : Nat := 0

namespace Mark

/-- A mark of which nothing has been computed. Without a name it is called by
its identity. -/
def ofSpec (id : MarkId) (spec : MarkSpec) (channels : List (String × Channel)) (table : String) :
    Mark :=
  { id, channels, table
    name := spec.name.getD id.label
    source := spec.source
    shape := spec.shape
    filters := spec.filters
    orderBy := spec.orderBy }

/-- The marks that a mark refers to. -/
def refs (m : Mark) : SortedSet MarkId :=
  SortedSet.ofList (m.channels.filterMap fun c => c.2.referencedMark?)

/-- The channel of a name; of several, the first. -/
def channel? (m : Mark) (name : String) : Option Channel :=
  (m.channels.find? (·.1 == name)).map (·.2)

/-- What the mark asks the engine for. -/
def request (m : Mark) : Request := ⟨m.source, m.channels, m.filters, m.orderBy⟩

/-- The query of a mark. -/
def compile (c : Catalog) (m : Mark) (parent : Option JoinPath)
    (markTables : SortedMap MarkId String) : Except Error MarkQuery :=
  MarkQuery.compile c m.request parent markTables

end Mark

/-- Classifies the channels of a declared mark. -/
def MarkSpec.classify (c : Catalog) (spec : MarkSpec) : Except Error (List (String × Channel)) :=
  spec.channels.mapM fun (name, mapping) =>
    (Channel.classify c spec.source name mapping).map fun channel => (name, channel)

end KeyChart
