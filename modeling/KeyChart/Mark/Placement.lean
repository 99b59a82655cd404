import KeyChart.Grouping
import KeyChart.Mark.Basic

/-!
# Placing the rows of a mark

The rows of a mark's result are grouped by outer row, and each group is placed
inside the box of its outer row; rows of an outer row without a box are dropped.
Every channel then has one value for each row of the group. Scales span the
whole result, so that groups can be compared, and functions of a row see its
result columns and its other channels.
-/

namespace KeyChart.Mark

/-- The result column of a channel: the one that the query names, or else the
attribute behind the channel, or else the channel's own name. -/
def resultColumn (m : Mark) (name : String) (channel : Channel) : String :=
  (((m.query.bind fun q => q.columns.find? name).or channel.column?)).getD name

/-- The values of some rows behind a channel, after its transformation. -/
def sourceValues (m : Mark) (result : ResultSet) (name : String) (channel : Channel)
    (rows : List Nat) : List Value :=
  let values := result.pick (m.resultColumn name channel) rows
  match channel.transform? with
  | some f => values.map f
  | none => values

/-- The domains of the scaled channels over the whole result. Of channels with
one name the last counts. -/
def domains (m : Mark) (result : ResultSet) : SortedMap String Domain :=
  SortedMap.ofList (m.channels.filterMap fun (name, channel) =>
    match channel with
    | .scaled _ scale =>
      let rows := List.range result.rows.length
      some (name, scale.domainOf (m.sourceValues result name channel rows))
    | _ => none)

/-- The scale of a channel inside a box. -/
def fittedScale (domains : SortedMap String Domain) (name : String) (scale : Scale) (box : Box) :
    FittedScale :=
  scale.fit ((domains.find? name).getD (scale.domainOf [])) (scale.rangeIn name box)

/-- The weights of some rows for an arrangement; what is no number weighs nothing. -/
def weights (result : ResultSet) (arrangement : Arrangement) (rows : List Nat) : List Float :=
  match arrangement.weightColumn? with
  | some column => (result.pick column rows).map fun v => v.toFloat?.getD 0
  | none => []

/-- The values of a channel for the rows of a group; none for a function of the
row, which comes last. -/
def channelValues? (m : Mark) (result : ResultSet) (domains : SortedMap String Domain)
    (rows : List Nat) (box : Box) (name : String) (channel : Channel) : Option (List Value) :=
  match channel with
  | .constant v => some (rows.map fun _ => v)
  | .column .. | .foreign .. => some (m.sourceValues result name channel rows)
  | .scaled _ scale =>
    let fitted := fittedScale domains name scale box
    some ((m.sourceValues result name channel rows).map fitted.position)
  | .layout arrangement part =>
    let cells := arrangement.place box rows.length (weights result arrangement rows)
    some (cells.map fun cell => .float (part.of cell))
  | .callback _ => none

/-- The values of all channels but the functions of the row. -/
def plainArrays (m : Mark) (result : ResultSet) (domains : SortedMap String Domain)
    (rows : List Nat) (box : Box) : ChannelArrays :=
  m.channels.foldl
    (fun arrays (name, channel) =>
      match m.channelValues? result domains rows box name channel with
      | some values => arrays.insert name values
      | none => arrays)
    (SortedMap.empty.insert rowId (result.pick rowId rows))

/-- What a function of the row sees: the row's result columns and, over them,
the channels. -/
def rowRecord (result : ResultSet) (arrays : ChannelArrays) (row place : Nat) : Record :=
  (arrays.row place).entries.foldl (fun record e => record.insert e.1 e.2)
    ((result.record? row).getD .empty)

/-- The values of all channels; a function of the row also sees those before it. -/
def callbackArrays (m : Mark) (result : ResultSet) (rows : List Nat) (arrays : ChannelArrays) :
    ChannelArrays :=
  m.channels.foldl
    (fun arrays (name, channel) =>
      match channel with
      | .callback f =>
        arrays.insert name (rows.mapIdx fun place row => f (rowRecord result arrays row place))
      | _ => arrays)
    arrays

/-- A value moved by an offset, if it is a number. -/
def shift (offset : Float) (v : Value) : Value :=
  match v with
  | .int n => .float (Float.ofInt n + offset)
  | .float x _ => .float (x + offset)
  | v => v

/-- Positions inside a box as positions of the drawing. -/
def toAbsolute (box : Box) (arrays : ChannelArrays) : ChannelArrays :=
  arrays.mapValues fun name values =>
    match BoxPart.ofChannel? name with
    | some .x => values.map (shift box.x)
    | some .y => values.map (shift box.y)
    | _ => values

/-- A group of rows inside a box. -/
def placeGroup (m : Mark) (result : ResultSet) (domains : SortedMap String Domain)
    (group : RowGroup) (box : Box) : Partition :=
  let plain := m.plainArrays result domains group.rows box
  ⟨group.parent, box, toAbsolute box (m.callbackArrays result group.rows plain)⟩

/-- The placed groups of a result. `boxOf` gives the box of an outer row, if the
outer row was drawn. -/
def place (m : Mark) (result : ResultSet) (boxOf : Value → Option Box) : List Partition :=
  let domains := m.domains result
  (RowGroup.ofResult result).filterMap fun group =>
    (boxOf group.parent).map fun box => m.placeGroup result domains group box

/-- The scales of the first placed group, by channel; of channels with one name
the first counts. -/
def placedScales (m : Mark) (result : ResultSet) (boxOf : Value → Option Box) : ScaleMap :=
  let domains := m.domains result
  match (RowGroup.ofResult result).findSome? fun group => boxOf group.parent with
  | none => .empty
  | some box =>
    m.channels.foldl
      (fun scales (name, channel) =>
        match channel with
        | .scaled _ scale =>
          if scales.contains name then scales
          else scales.insert name (fittedScale domains name scale box)
        | _ => scales)
      .empty

/-- The mark with its rows placed. A mark that has not been queried has none,
and keeps its scales. -/
def layOut (m : Mark) (boxOf : Value → Option Box) : Mark :=
  match m.result with
  | none => { m with partitions := [] }
  | some result =>
    { m with partitions := m.place result boxOf, scales := m.placedScales result boxOf }

end KeyChart.Mark
