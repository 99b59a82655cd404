import KeyChart.Drawing.Svg
import KeyChart.Mark.Placement
import KeyChart.Proofs.Grid
import KeyChart.Proofs.Grouping
import KeyChart.Proofs.Mark.Classification
import Mathlib.Data.List.Nodup

/-!
# Where the rows of a mark go

Every row of a result whose outer row was drawn is placed in one partition, and no other
row is. In a partition each channel has one value for each row, in the order of the rows:
the arrays are made channel by channel, but they are what comes out row by row. So nothing
is missing where a function of a row or a drawing looks for the values of that row.
-/

namespace KeyChart

/-- No channel is called as the row identity or as the outer row. -/
theorem Channel.name_of_classify {c : Catalog} {source name : String} {mapping : Mapping}
    {channel : Channel} (h : classify c source name mapping = .ok channel) :
    name ≠ rowId ∧ name ≠ parentId := by
  unfold classify at h
  split at h
  case isTrue => cases h
  case isFalse hfree => simpa using hfree

/-! ## Cells of an arrangement -/

namespace Arrangement

theorem length_rowCells (size : Float × Float) (y step x : Float) (count : Nat) :
    (rowCells size y step x count).length = count := by
  induction count generalizing x with
  | zero => rfl
  | succ count ih => rw [rowCells, List.length_cons, ih]

theorem length_gridCells (size : Float × Float) (padding : Float) (columns rows : Nat) (y : Float)
    (count : Nat) : (gridCells size padding columns rows y count).length =
      min count (rows * columns) := by
  induction rows generalizing y count with
  | zero => simp [gridCells]
  | succ rows ih =>
    rw [gridCells, List.length_append, length_rowCells, ih, Nat.succ_mul]
    omega

/-- A grid has room for all rows if it has a column. -/
theorem length_placeGrid (box : Box) {count columns : Nat} (padding : Float)
    (h : 0 < count → columns = 0 → 0 < squareColumns count) :
    (placeGrid box count columns padding).length = count := by
  unfold placeGrid
  split
  case isTrue hzero => rw [hzero, List.length_nil]
  case isFalse hpos =>
    have hwidth : 0 < gridColumns count columns := by
      unfold gridColumns
      split
      case isTrue hzero => exact h (Nat.pos_of_ne_zero hpos) hzero
      case isFalse hne => exact Nat.pos_of_ne_zero hne
    have hroom : count ≤ gridRows count (gridColumns count columns) * gridColumns count columns :=
      le_gridRows_mul hwidth
    exact (length_gridCells _ _ _ _ _ _).trans (Nat.min_eq_left hroom)

theorem length_stackCells (box : Box) (axis : Axis) (padding available total offset : Float)
    (weights : List Float) :
    (stackCells box axis padding available total offset weights).length = weights.length := by
  induction weights generalizing offset with
  | nil => rfl
  | cons weight rest ih => simp [stackCells, ih]

/-- Every row has a cell. -/
theorem length_place (a : Arrangement) (box : Box) {count : Nat} (weights : List Float)
    (h : 0 < count → 0 < squareColumns count) : (a.place box count weights).length = count := by
  cases a with
  | fill => exact List.length_replicate
  | grid columns padding => exact length_placeGrid box padding fun hpos _ => h hpos
  | stack axis weight padding =>
    refine (length_stackCells _ _ _ _ _ _ _).trans ?_
    split
    case isTrue hall =>
      rw [Bool.and_eq_true, decide_eq_true_eq] at hall
      rw [List.length_map, hall.2]
    case isFalse => exact List.length_replicate

end Arrangement

/-! ## Reading a result -/

namespace ResultSet

variable {r : ResultSet} {rows : List Nat}

/-- Every row has a cell in each column. -/
def Rectangular (r : ResultSet) : Prop := ∀ row ∈ r.rows, row.length = r.columns.length

/-- The cell of a row in a column, empty if there is no such column. -/
def cell (r : ResultSet) (name : String) (row : Nat) : Value := (r.value? row name).getD .null

/-- The outer row that a row names. -/
def outerRow (r : ResultSet) (row : Nat) : Value := r.cell parentId row

/-- The values of some rows in one column if each of them has one. -/
def pick? (r : ResultSet) (name : String) (rows : List Nat) : Option (List Value) :=
  match r.columnIndex? name with
  | some i => rows.mapM fun row => r.rows[row]?.bind fun cells => cells[i]?
  | none => some (rows.map fun _ => .null)

theorem pick_eq (r : ResultSet) (name : String) (rows : List Nat) :
    r.pick name rows = rows.map (r.cell name) := by
  unfold pick cell value?
  cases r.columnIndex? name with
  | none => rfl
  | some i =>
    refine List.map_congr_left ?_
    intro row _
    rw [Option.bind_some]
    cases r.rows[row]? <;> rfl

/-- No cell is missing in a rectangular result. -/
theorem Rectangular.pick? (h : r.Rectangular) (name : String)
    (hrows : ∀ row ∈ rows, row < r.rows.length) :
    r.pick? name rows = some (r.pick name rows) := by
  rw [pick_eq]
  unfold ResultSet.pick? cell value?
  cases hi : r.columnIndex? name with
  | none => rfl
  | some i =>
    refine Except.mapM_eq_pure ?_
    intro row hrow
    have hlt := hrows row hrow
    have hcell : i < r.rows[row].length := by
      rw [h _ (List.getElem_mem hlt)]
      exact (List.findIdx?_eq_some_iff_findIdx_eq.mp hi).1
    simp [hlt, hcell]

/-! ### Rows by outer row -/

/-- How rows are grouped: one group for each outer row, with just its rows, in the order of
their first rows. If rows cannot name an outer row, all of them are one group under null. -/
structure Grouped (r : ResultSet) (groups : List RowGroup) : Prop where
  rows : ∀ g ∈ groups,
    g.rows = (List.range r.rows.length).filter fun row => (r.outerRow row).same g.parent
  apart : groups.Pairwise fun g g' => g.parent.same g'.parent = false
  ordered : groups.Pairwise fun g g' => g.firstRow < g'.firstRow
  covers : ∀ row < r.rows.length, ∃ g ∈ groups, (r.outerRow row).same g.parent = true
  named : (r.column? parentId).isSome = true → ∀ g ∈ groups, g.rows ≠ []
  unnamed : r.column? parentId = none → groups = [⟨.null, List.range r.rows.length⟩]

theorem outerRow_of_none (h : r.column? parentId = none) (row : Nat) : r.outerRow row = .null := by
  rw [outerRow, cell, value?, Option.map_eq_none_iff.mp h]
  rfl

theorem getD_column {parents : List Value} (h : r.column? parentId = some parents) (row : Nat) :
    parents.getD row .null = r.outerRow row := by
  obtain ⟨i, hi, rfl⟩ := Option.map_eq_some_iff.mp h
  simp [outerRow, cell, value?, hi]

theorem length_column {name : String} {values : List Value} (h : r.column? name = some values) :
    values.length = r.rows.length := by
  obtain ⟨i, -, rfl⟩ := Option.map_eq_some_iff.mp h
  exact List.length_map _

theorem grouped_ofResult (r : ResultSet) : r.Grouped (RowGroup.ofResult r) := by
  cases hparents : r.column? parentId with
  | none =>
    have houter := outerRow_of_none hparents
    rw [RowGroup.ofResult_of_none hparents]
    refine ⟨?_, List.pairwise_singleton _ _, List.pairwise_singleton _ _, ?_, ?_, fun _ => rfl⟩
    · simp [houter, Value.same_refl]
    · simp [houter, Value.same_refl]
    · simp [hparents]
  | some parents =>
    have hgroups := RowGroup.groups_ofResult hparents
    have hlength := length_column hparents
    refine ⟨?_, hgroups.apart, hgroups.ordered, ?_, fun _ => hgroups.nonempty, ?_⟩
    · intro g hg
      rw [hgroups.rows g hg, RowGroup.rowsOf, hlength]
      simp only [getD_column hparents]
    · intro row hrow
      rw [← hlength] at hrow
      obtain ⟨g, hg, hsame⟩ := hgroups.covers parents[row] (List.getElem_mem hrow)
      refine ⟨g, hg, ?_⟩
      rw [← getD_column hparents, List.getD_eq_getElem _ _ hrow]
      exact Value.same_symm hsame
    · simp [hparents]

/-- The groups of the outer rows that were drawn. -/
def drawnGroups (r : ResultSet) (boxOf : Value → Option Box) : List RowGroup :=
  (RowGroup.ofResult r).filter fun g => (boxOf g.parent).isSome

/-- The rows of drawn outer rows are in one of their groups, and no others are in any. -/
theorem rows_drawnGroups (r : ResultSet) (boxOf : Value → Option Box) :
    ((r.drawnGroups boxOf).flatMap RowGroup.rows).Perm
      ((List.range r.rows.length).filter fun row => (boxOf (r.outerRow row)).isSome) := by
  have hgrouped := r.grouped_ofResult
  have hmem : ∀ g ∈ RowGroup.ofResult r, ∀ row,
      row ∈ g.rows ↔ row < r.rows.length ∧ r.outerRow row = g.parent := by
    intro g hg row
    rw [hgrouped.rows g hg, List.mem_filter, List.mem_range, Value.same_iff_eq]
  refine (List.perm_ext_iff_of_nodup ?_ (List.nodup_range.filter _)).mpr ?_
  · refine List.nodup_flatMap.mpr ⟨?_, ?_⟩
    · intro g hg
      rw [hgrouped.rows g (List.mem_of_mem_filter hg)]
      exact List.nodup_range.filter _
    · refine (hgrouped.apart.filter _).imp_of_mem ?_
      intro g g' hg hg' hapart row hrow hrow'
      have hparent := ((hmem g (List.mem_of_mem_filter hg) row).mp hrow).2
      have hparent' := ((hmem g' (List.mem_of_mem_filter hg') row).mp hrow').2
      rw [← hparent, ← hparent', Value.same_refl] at hapart
      cases hapart
  · intro row
    simp only [drawnGroups, List.mem_flatMap, List.mem_filter, List.mem_range]
    constructor
    · rintro ⟨g, ⟨hg, hdrawn⟩, hrow⟩
      obtain ⟨hlt, hparent⟩ := (hmem g hg row).mp hrow
      exact ⟨hlt, hparent ▸ hdrawn⟩
    · rintro ⟨hlt, hdrawn⟩
      obtain ⟨g, hg, hsame⟩ := hgrouped.covers row hlt
      have hparent := Value.same_iff_eq.mp hsame
      exact ⟨g, ⟨hg, hparent ▸ hdrawn⟩, (hmem g hg row).mpr ⟨hlt, hparent⟩⟩

end ResultSet

/-! ## Arrays row by row -/

/-- A list for each channel, with a value for each of so many rows. -/
def ChannelArrays.Filled (arrays : ChannelArrays) (count : Nat) : Prop :=
  ∀ name values, arrays.find? name = some values → values.length = count

/-- The values of one row if every channel has one for it. -/
def ChannelArrays.row? (arrays : ChannelArrays) (i : Nat) : Option Record :=
  if arrays.values.all fun values => i < values.length then some (arrays.row i) else none

namespace ChannelArrays

variable {arrays : ChannelArrays} {count : Nat}

theorem Filled.row? (h : arrays.Filled count) {i : Nat} (hi : i < count) :
    arrays.row? i = some (arrays.row i) := by
  rw [ChannelArrays.row?, if_pos]
  rw [List.all_eq_true]
  intro values hvalues
  obtain ⟨⟨name, values⟩, he, rfl⟩ := List.mem_map.mp hvalues
  rw [decide_eq_true_eq, h name values (SortedMap.find?_eq_some_iff_mem.mpr he)]
  exact hi

theorem Filled.insert (h : arrays.Filled count) (name : String) {values : List Value}
    (hvalues : values.length = count) : ChannelArrays.Filled (arrays.insert name values) count := by
  intro name' values' hfind
  rw [SortedMap.find?_insert] at hfind
  split at hfind
  · cases hfind
    exact hvalues
  · exact h name' values' hfind

end ChannelArrays

/-- Whether a channel is a function of the row. -/
def Channel.isCallback : Channel → Bool
  | callback _ => true
  | _ => false

namespace Mark

variable {m : Mark} {result : ResultSet} {domains : SortedMap String Domain} {rows : List Nat}
  {box : Box} {name : String} {channel : Channel}

/-- The value of one row behind a channel, after its transformation. -/
def sourceValue (m : Mark) (result : ResultSet) (name : String) (channel : Channel) (row : Nat) :
    Value :=
  (channel.transform?.getD fun v => v) (result.cell (m.resultColumn name channel) row)

/-- The value of a channel for a row of a group, at the given place among its rows. -/
def entry (m : Mark) (result : ResultSet) (domains : SortedMap String Domain) (rows : List Nat)
    (box : Box) (arrays : ChannelArrays) (name : String) (channel : Channel) (place row : Nat) :
    Value :=
  match channel with
  | .constant v => v
  | .column .. | .foreign .. => m.sourceValue result name channel row
  | .scaled _ scale =>
    (fittedScale domains name scale box).position (m.sourceValue result name channel row)
  | .layout arrangement part =>
    let cells := arrangement.place box rows.length (weights result arrangement rows)
    .float (part.of (cells.getD place default))
  | .callback f => f (rowRecord result arrays row place)

/-- The channels in the order in which they get their values: functions of the row come last. -/
def inOrder (m : Mark) : List (String × Channel) :=
  m.channels.filter (fun c => !c.2.isCallback) ++ m.channels.filter fun c => c.2.isCallback

/-- The values of all channels for the rows of a group, row by row. Of channels with one name
the last counts, and a function of the row sees the channels before it. -/
def rowwise (m : Mark) (result : ResultSet) (domains : SortedMap String Domain) (rows : List Nat)
    (box : Box) : ChannelArrays :=
  m.inOrder.foldl
    (fun arrays (name, channel) =>
      arrays.insert name (rows.mapIdx (m.entry result domains rows box arrays name channel)))
    (SortedMap.empty.insert rowId (rows.map (result.cell rowId)))

theorem sourceValues_eq (m : Mark) (result : ResultSet) (name : String) (channel : Channel)
    (rows : List Nat) :
    m.sourceValues result name channel rows = rows.map (m.sourceValue result name channel) := by
  rw [sourceValues, ResultSet.pick_eq]
  unfold sourceValue
  cases channel.transform? with
  | none => rfl
  | some f => exact List.map_map

theorem mapIdx_row {α : Type} (g : Nat → α) (rows : List Nat) :
    (rows.mapIdx fun _ row => g row) = rows.map g := by
  apply List.ext_getElem? fun i => ?_
  simp

/-- The values of a channel are those for the single rows. -/
theorem channelValues?_eq (hsquare : 0 < rows.length → 0 < Arrangement.squareColumns rows.length)
    (arrays : ChannelArrays) :
    m.channelValues? result domains rows box name channel =
      if channel.isCallback then none
      else some (rows.mapIdx (m.entry result domains rows box arrays name channel)) := by
  cases channel with
  | constant v => exact congrArg some (mapIdx_row _ rows).symm
  | column attr transform =>
    exact congrArg some ((sourceValues_eq ..).trans (mapIdx_row _ rows).symm)
  | foreign ref => exact congrArg some ((sourceValues_eq ..).trans (mapIdx_row _ rows).symm)
  | scaled source scale =>
    refine congrArg some (Eq.trans ?_ (mapIdx_row _ rows).symm)
    rw [sourceValues_eq, List.map_map]
    rfl
  | layout arrangement part =>
    have hlength := arrangement.length_place box (weights result arrangement rows) hsquare
    refine congrArg some (List.ext_getElem (by simp [hlength]) ?_)
    intro i hi hi'
    have hcell : i <
        (arrangement.place box rows.length (weights result arrangement rows)).length := by
      simpa using hi
    simp [entry, hcell]
  | callback f => rfl

theorem plainArrays_eq (hsquare : 0 < rows.length → 0 < Arrangement.squareColumns rows.length) :
    m.plainArrays result domains rows box =
      (m.channels.filter fun c => !c.2.isCallback).foldl
        (fun arrays c => arrays.insert c.1
          (rows.mapIdx (m.entry result domains rows box arrays c.1 c.2)))
        (SortedMap.empty.insert rowId (rows.map (result.cell rowId))) := by
  rw [plainArrays, List.foldl_filter, ResultSet.pick_eq]
  congr 1
  funext arrays c
  obtain ⟨name, channel⟩ := c
  dsimp only
  rw [channelValues?_eq hsquare arrays]
  cases channel.isCallback <;> rfl

/-- The arrays are made channel by channel, and come out row by row. -/
theorem callbackArrays_plainArrays
    (hsquare : 0 < rows.length → 0 < Arrangement.squareColumns rows.length) :
    m.callbackArrays result rows (m.plainArrays result domains rows box) =
      m.rowwise result domains rows box := by
  rw [rowwise, inOrder, List.foldl_append, callbackArrays, List.foldl_filter,
    plainArrays_eq hsquare]
  congr 1
  funext arrays c
  obtain ⟨name, channel⟩ := c
  cases channel <;> rfl

/-! ### What is in the arrays -/

section Entered

variable {values : ChannelArrays → String × Channel → List Value}
  {channels : List (String × Channel)} {arrays : ChannelArrays}

theorem filled_foldl {count : Nat} (h : arrays.Filled count)
    (hvalues : ∀ arrays c, (values arrays c).length = count) :
    ChannelArrays.Filled
      (channels.foldl (fun arrays c => arrays.insert c.1 (values arrays c)) arrays) count := by
  induction channels generalizing arrays with
  | nil => exact h
  | cons c rest ih => exact ih (h.insert c.1 (hvalues arrays c))

theorem exists_foldl_iff :
    (∃ found, (channels.foldl (fun arrays c => arrays.insert c.1 (values arrays c)) arrays).find?
        name = some found) ↔
      (∃ found, arrays.find? name = some found) ∨ ∃ channel, (name, channel) ∈ channels := by
  induction channels generalizing arrays with
  | nil => simp
  | cons c rest ih =>
    obtain ⟨name', channel'⟩ := c
    rw [List.foldl_cons, ih, SortedMap.find?_insert]
    by_cases hname : name = name'
    · simp [hname]
    · simp [hname]

theorem find?_foldl_of_not_mem (h : ∀ channel, (name, channel) ∉ channels) :
    (channels.foldl (fun arrays c => arrays.insert c.1 (values arrays c)) arrays).find? name =
      arrays.find? name := by
  induction channels generalizing arrays with
  | nil => rfl
  | cons c rest ih =>
    have hname : name ≠ c.1 := by
      rintro rfl
      exact h c.2 List.mem_cons_self
    rw [List.foldl_cons, ih fun channel hmem => h channel (List.mem_cons_of_mem _ hmem),
      SortedMap.find?_insert, if_neg hname]

end Entered

theorem mem_inOrder {c : String × Channel} : c ∈ m.inOrder ↔ c ∈ m.channels := by
  rw [inOrder, List.mem_append, List.mem_filter, List.mem_filter]
  cases c.2.isCallback <;> simp

/-- The row identities are there before any channel. -/
theorem filled_ids (result : ResultSet) (rows : List Nat) : ChannelArrays.Filled
    (SortedMap.empty.insert rowId (rows.map (result.cell rowId))) rows.length := by
  intro name values hfind
  rw [SortedMap.find?_insert] at hfind
  split at hfind
  · cases hfind
    exact List.length_map _
  · cases hfind

theorem filled_rowwise : (m.rowwise result domains rows box).Filled rows.length :=
  filled_foldl (filled_ids result rows) fun _ _ => List.length_mapIdx

theorem filled_plainArrays (hsquare : 0 < rows.length → 0 < Arrangement.squareColumns rows.length) :
    (m.plainArrays result domains rows box).Filled rows.length := by
  rw [plainArrays_eq hsquare]
  exact filled_foldl (filled_ids result rows) fun _ _ => List.length_mapIdx

theorem exists_rowwise_iff :
    (∃ values, (m.rowwise result domains rows box).find? name = some values) ↔
      name = rowId ∨ ∃ channel, (name, channel) ∈ m.channels := by
  rw [rowwise, exists_foldl_iff]
  simp [mem_inOrder]

theorem find?_rowwise_rowId (h : ∀ c ∈ m.channels, c.1 ≠ rowId) :
    (m.rowwise result domains rows box).find? rowId = some (rows.map (result.cell rowId)) := by
  refine (find?_foldl_of_not_mem ?_).trans (by simp)
  intro channel hmem
  exact h _ (mem_inOrder.mp hmem) rfl

/-! ### Positions of the drawing -/

theorem find?_toAbsolute {arrays : ChannelArrays} :
    (toAbsolute box arrays).find? name = (arrays.find? name).map fun values =>
      match BoxPart.ofChannel? name with
      | some .x => values.map (shift box.x)
      | some .y => values.map (shift box.y)
      | _ => values := SortedMap.find?_mapValues _ _ _

theorem filled_toAbsolute {arrays : ChannelArrays} {count : Nat} (h : arrays.Filled count) :
    (toAbsolute box arrays).Filled count := by
  intro name values hfind
  obtain ⟨before, hbefore, rfl⟩ := Option.map_eq_some_iff.mp (find?_toAbsolute.symm.trans hfind)
  rw [← h name before hbefore]
  split <;> simp

theorem find?_toAbsolute_rowId {arrays : ChannelArrays} :
    (toAbsolute box arrays).find? rowId = arrays.find? rowId := by
  have hpart : BoxPart.ofChannel? rowId = none := by decide
  rw [find?_toAbsolute, hpart]
  exact Option.map_id'

/-! ### Functions of a row -/

/-- What a function of the row sees if every channel before it has a value for the row. -/
def rowRecord? (result : ResultSet) (arrays : ChannelArrays) (row place : Nat) : Option Record :=
  (arrays.row? place).map fun channels =>
    channels.entries.foldl (fun record e => record.insert e.1 e.2)
      ((result.record? row).getD .empty)

/-- What a function of the row sees of all rows. -/
def rowRecords? (result : ResultSet) (rows : List Nat) (arrays : ChannelArrays) :
    Option (List Record) :=
  rows.zipIdx.mapM fun (row, place) => rowRecord? result arrays row place

/-- The values of all channels if no function of the row misses a value. -/
def callbackArrays? (m : Mark) (result : ResultSet) (rows : List Nat) (arrays : ChannelArrays) :
    Option ChannelArrays :=
  m.channels.foldlM
    (fun arrays (name, channel) =>
      match channel with
      | .callback f =>
        (rowRecords? result rows arrays).map fun records => arrays.insert name (records.map f)
      | _ => some arrays)
    arrays

theorem rowRecords?_eq {arrays : ChannelArrays} (h : arrays.Filled rows.length) :
    rowRecords? result rows arrays =
      some (rows.mapIdx fun place row => rowRecord result arrays row place) := by
  rw [List.mapIdx_eq_zipIdx_map]
  refine Except.mapM_eq_pure ?_
  rintro ⟨row, place⟩ hmem
  have hplace : place < rows.length := by simpa using List.snd_lt_of_mem_zipIdx hmem
  show rowRecord? result arrays row place = _
  rw [rowRecord?, h.row? hplace]
  rfl

/-- No function of the row misses a value. -/
theorem callbackArrays?_eq {arrays : ChannelArrays} (h : arrays.Filled rows.length) :
    m.callbackArrays? result rows arrays = some (m.callbackArrays result rows arrays) := by
  unfold callbackArrays? callbackArrays
  induction m.channels generalizing arrays with
  | nil => rfl
  | cons c rest ih =>
    obtain ⟨name, channel⟩ := c
    rw [List.foldlM_cons, List.foldl_cons]
    cases channel with
    | callback f =>
      have hvalues : (rows.mapIdx fun place row => rowRecord result arrays row place).map f =
          rows.mapIdx fun place row => f (rowRecord result arrays row place) := by
        simp [List.mapIdx_eq_zipIdx_map]
      dsimp only
      rw [rowRecords?_eq h, Option.map_some, hvalues]
      exact ih (h.insert name List.length_mapIdx)
    | _ => exact ih h

end Mark

/-! ## Drawing a group -/

namespace Svg

/-- Draws a group of rows if every row that is drawn has a value for each channel. -/
def draw? (m : TextMetrics) (shape : Shape) (arrays : ChannelArrays) (box : Box) :
    Option Drawing :=
  let count := ((arrays.find? rowId).map List.length).getD 0
  ((List.range count).mapM arrays.row?).map fun rows => drawRows m shape rows box

variable {arrays : ChannelArrays} {count : Nat}

/-- No value is missing in a drawing. -/
theorem draw?_eq (h : arrays.Filled count) (m : TextMetrics) (shape : Shape) (box : Box) :
    draw? m shape arrays box = some (draw m shape arrays box) := by
  have hrows : (List.range (((arrays.find? rowId).map List.length).getD 0)).mapM arrays.row? =
      some ((List.range (((arrays.find? rowId).map List.length).getD 0)).map arrays.row) := by
    refine Except.mapM_eq_pure ?_
    intro i hi
    rw [List.mem_range] at hi
    refine h.row? ?_
    cases hids : arrays.find? rowId with
    | none =>
      rw [hids] at hi
      exact absurd hi (Nat.not_lt_zero i)
    | some ids =>
      rw [hids] at hi
      exact h rowId ids hids ▸ hi
  rw [draw?, hrows]
  rfl

/-- Every row becomes one element. -/
theorem length_elements {ids : List Value} (h : arrays.find? rowId = some ids) (m : TextMetrics)
    (shape : Shape) (box : Box) : (draw m shape arrays box).elements.length = ids.length := by
  simp [draw, drawRows, h]

end Svg

/-! ## Placing a result -/

/-- What a partition holds of a group of rows: for each channel one value for each row, in
the order of the rows, and nothing that a function of a row or a drawing would miss. -/
structure Partition.Holds (m : Mark) (result : ResultSet) (g : RowGroup) (p : Partition) :
    Prop where
  parent : p.parent = g.parent
  rowwise : p.arrays = Mark.toAbsolute p.box (m.rowwise result (m.domains result) g.rows p.box)
  channels : ∀ name, (∃ values, p.arrays.find? name = some values) ↔
    name = rowId ∨ ∃ channel, (name, channel) ∈ m.channels
  filled : p.arrays.Filled g.rows.length
  ids : p.arrays.find? rowId = some (g.rows.map (result.cell rowId))
  read : ∀ name, result.pick? name g.rows = some (result.pick name g.rows)
  called : m.callbackArrays? result g.rows
      (m.plainArrays result (m.domains result) g.rows p.box) =
    some (m.callbackArrays result g.rows (m.plainArrays result (m.domains result) g.rows p.box))
  drawn : ∀ metrics shape, Svg.draw? metrics shape p.arrays p.box =
      some (Svg.draw metrics shape p.arrays p.box) ∧
    (Svg.draw metrics shape p.arrays p.box).elements.length = g.rows.length

/-- How the rows of a result are placed: there is one partition for each group whose outer
row was drawn, in the same order, and a row is in one of them just if its outer row was drawn.
An index puts the rows into the same groups. -/
structure Mark.Places (m : Mark) (result : ResultSet) (boxOf : Value → Option Box)
    (partitions : List Partition) : Prop where
  grouped : result.Grouped (RowGroup.ofResult result)
  indexed : ∀ parents, result.column? parentId = some parents →
    (IndexedGroups.putAll ⟨[], []⟩ 0 parents).groups = RowGroup.ofResult result
  held : List.Forall₂ (fun g p => boxOf g.parent = some p.box ∧ p.Holds m result g)
    (result.drawnGroups boxOf) partitions
  once : ((result.drawnGroups boxOf).flatMap RowGroup.rows).Perm
    ((List.range result.rows.length).filter fun row => (boxOf (result.outerRow row)).isSome)
  read : ∀ name, result.pick? name (List.range result.rows.length) =
    some (result.pick name (List.range result.rows.length))

namespace Mark

variable {m : Mark} {result : ResultSet} {g : RowGroup} {box : Box}

/-- The rows of one group inside a box. -/
theorem holds_placeGroup (hnames : ∀ c ∈ m.channels, c.1 ≠ rowId) (hresult : result.Rectangular)
    (hrows : ∀ row ∈ g.rows, row < result.rows.length)
    (hsquare : 0 < g.rows.length → 0 < Arrangement.squareColumns g.rows.length) :
    (m.placeGroup result (m.domains result) g box).Holds m result g := by
  have harrays : (m.placeGroup result (m.domains result) g box).arrays =
      toAbsolute box (m.rowwise result (m.domains result) g.rows box) := by
    rw [placeGroup, callbackArrays_plainArrays hsquare]
  have hfilled := harrays ▸ filled_toAbsolute filled_rowwise
  have hids : (m.placeGroup result (m.domains result) g box).arrays.find? rowId =
      some (g.rows.map (result.cell rowId)) := by
    rw [harrays, find?_toAbsolute_rowId, find?_rowwise_rowId hnames]
  refine ⟨rfl, harrays, ?_, hfilled, hids, fun name => hresult.pick? name hrows,
    callbackArrays?_eq (filled_plainArrays hsquare), ?_⟩
  · intro name
    have hrowwise : (∃ values, (m.rowwise result (m.domains result) g.rows box).find? name =
        some values) ↔ _ := exists_rowwise_iff
    rw [← hrowwise, harrays, find?_toAbsolute]
    simp
  · intro metrics shape
    refine ⟨Svg.draw?_eq hfilled metrics shape _, ?_⟩
    rw [Svg.length_elements hids, List.length_map]

/-- The partitions of a result are its groups inside the boxes of their outer rows. -/
theorem forall₂_place {boxOf : Value → Option Box} {P : RowGroup → Partition → Prop}
    (h : ∀ g ∈ RowGroup.ofResult result, ∀ box, boxOf g.parent = some box →
      P g (m.placeGroup result (m.domains result) g box)) :
    List.Forall₂ P (result.drawnGroups boxOf) (m.place result boxOf) := by
  unfold ResultSet.drawnGroups place
  generalize RowGroup.ofResult result = groups at h ⊢
  induction groups with
  | nil => exact .nil
  | cons g rest ih =>
    have hrest := ih fun g' hg' => h g' (List.mem_cons_of_mem _ hg')
    cases hbox : boxOf g.parent with
    | none => simpa [hbox] using hrest
    | some box =>
      simp only [hbox, List.filter_cons, List.filterMap_cons, Option.isSome_some, if_true,
        Option.map_some]
      exact .cons (h g List.mem_cons_self box hbox) hrest

end Mark

/-- Sales with their days, by the shops that made them. -/
def shopSales : ResultSet where
  columns := [rowId, parentId, "day"]
  rows :=
    [[.int 0, .int 7, .int 2], [.int 1, .int 3, .null], [.int 2, .int 7, .text "5"],
      [.int 3, .null, .int 4]]

/-- A rectangle for each sale: over its day, in a cell of a grid, and named by what is known of
it so far. The second channel for the height counts. -/
def saleRects : MarkSpec where
  source := "sales"
  shape := .rect
  channels :=
    [("title", .callback fun row => .text (toString (row.entries.map (·.1)))),
     ("x", .scaled (.field "day") { kind := .linear }),
     ("height", .literal (.int 1)),
     ("width", .layout (.grid 0 1) none),
     ("height", .layout (.stack .y (some "day") 0) none),
     ("day", .field "day")]

/-- The box of a shop. Sales of no shop have none. -/
def shopBox : Value → Option Box
  | .null => none
  | _ => some ⟨10, 20, 100, 50⟩

/-- The mark of the sales, after its query. -/
def queriedSales (channels : List (String × Channel)) : Mark :=
  { Mark.ofSpec ⟨0⟩ saleRects channels "mark_0" with result := some shopSales }

end KeyChart
