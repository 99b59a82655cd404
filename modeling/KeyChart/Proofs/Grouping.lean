import KeyChart.Grouping
import Mathlib.Data.List.GetD

/-!
# Groups of rows

Rows are put into groups by the outer rows that they name. Each group holds just the rows
of its outer row, no outer row has two groups, and the groups stand in the order of their
first rows. An index of the outer rows that have a group puts the rows into the same groups.
-/

namespace KeyChart

/-! ## The same outer row -/

namespace Value

theorem same_refl (v : Value) : v.same v = true := by
  cases v <;> simp [same]

theorem same_symm {v w : Value} (h : v.same w = true) : w.same v = true := by
  cases v <;> cases w <;> simp_all [same]

theorem same_trans {u v w : Value} (h : u.same v = true) (h' : v.same w = true) :
    u.same w = true := by
  cases u <;> cases v <;> cases w <;> simp_all [same]

/-- A float is its bits. -/
theorem toBits_eq_iff {x y : Float} : x.toBits = y.toBits ↔ x = y := by
  constructor
  · intro h
    obtain ⟨⟨bits, _⟩⟩ := x
    obtain ⟨⟨_, _⟩⟩ := y
    cases (h : bits = _)
    rfl
  · rintro rfl
    rfl

/-- Values are the same just if they are equal. -/
theorem same_iff_eq {v w : Value} : v.same w = true ↔ v = w := by
  cases v <;> cases w <;> simp [same, toBits_eq_iff]

end Value

namespace RowGroup

variable {parents : List Value} {groups : List RowGroup} {v : Value} {row : Nat}

/-! ## The specification -/

/-- The rows that name an outer row, by position, if `parents` are the outer rows named. -/
def rowsOf (parents : List Value) (v : Value) : List Nat :=
  (List.range parents.length).filter fun i => (parents.getD i .null).same v

/-- The first row of a group. -/
def firstRow (g : RowGroup) : Nat := g.rows.headD 0

/-- The groups of rows that name the given outer rows. -/
structure Groups (parents : List Value) (groups : List RowGroup) : Prop where
  rows : ∀ g ∈ groups, g.rows = rowsOf parents g.parent
  nonempty : ∀ g ∈ groups, g.rows ≠ []
  parent : ∀ g ∈ groups, parents[g.firstRow]? = some g.parent
  apart : groups.Pairwise fun g g' => g.parent.same g'.parent = false
  ordered : groups.Pairwise fun g g' => g.firstRow < g'.firstRow
  covers : ∀ v ∈ parents, ∃ g ∈ groups, g.parent.same v = true

theorem groups_nil : Groups [] [] where
  rows := by simp
  nonempty := by simp
  parent := by simp
  apart := .nil
  ordered := .nil
  covers := by simp

theorem rowsOf_concat (parents : List Value) (w v : Value) :
    rowsOf (parents ++ [w]) v =
      rowsOf parents v ++ if w.same v then [parents.length] else [] := by
  have hbefore : ∀ i ∈ List.range parents.length,
      ((parents ++ [w]).getD i .null).same v = (parents.getD i .null).same v := by
    intro i hi
    rw [List.getD_append _ _ _ _ (List.mem_range.mp hi)]
  rw [rowsOf, List.length_append, List.length_singleton, List.range_succ, List.filter_append,
    List.filter_congr hbefore, ← rowsOf]
  cases hw : w.same v <;> simp [hw]

/-! ## Adding a row -/

/-- The group with one more row, if it is that of the outer row. -/
def extend (v : Value) (row : Nat) (g : RowGroup) : RowGroup :=
  if g.parent.same v then ⟨g.parent, g.rows ++ [row]⟩ else g

@[simp] theorem extend_parent (v : Value) (row : Nat) (g : RowGroup) :
    (extend v row g).parent = g.parent := by
  unfold extend
  split <;> rfl

theorem extend_rows (v : Value) (row : Nat) (g : RowGroup) :
    (extend v row g).rows = g.rows ++ if g.parent.same v then [row] else [] := by
  unfold extend
  split <;> simp

theorem extend_firstRow (v : Value) (row : Nat) {g : RowGroup} (hg : g.rows ≠ []) :
    (extend v row g).firstRow = g.firstRow := by
  rw [firstRow, extend_rows, firstRow]
  cases hrows : g.rows with
  | nil => exact absurd hrows hg
  | cons i rest => rfl

/-- A row of an outer row that has no group makes a group of its own, behind the others. -/
theorem add_of_new (h : ∀ g ∈ groups, g.parent.same v = false) :
    add v row groups = groups ++ [⟨v, [row]⟩] := by
  induction groups with
  | nil => rfl
  | cons g rest ih =>
    have hg : ¬ g.parent.same v = true := by simp [h g (by simp)]
    rw [add, if_neg hg, ih fun g' hg' => h g' (by simp [hg'])]
    rfl

/-- A row of an outer row that has a group is put into it. Only one group is that of the
outer row, as the groups are apart. -/
theorem add_of_known (hapart : groups.Pairwise fun g g' => g.parent.same g'.parent = false)
    (h : ∃ g ∈ groups, g.parent.same v = true) :
    add v row groups = groups.map (extend v row) := by
  induction groups with
  | nil =>
    obtain ⟨g, hg, -⟩ := h
    cases hg
  | cons g rest ih =>
    obtain ⟨hfirst, hrest⟩ := List.pairwise_cons.mp hapart
    rw [add, List.map_cons, extend]
    by_cases hg : g.parent.same v = true
    · have hothers : ∀ g' ∈ rest, extend v row g' = g' := by
        intro g' hg'
        rw [extend, if_neg]
        intro hsame
        have hboth := Value.same_trans hg (Value.same_symm hsame)
        rw [hfirst g' hg'] at hboth
        cases hboth
      rw [if_pos hg, if_pos hg, List.map_congr_left hothers, List.map_id']
    · have hlater : ∃ g' ∈ rest, g'.parent.same v = true := by
        obtain ⟨g', hg', hsame⟩ := h
        rcases List.mem_cons.mp hg' with rfl | hg'
        · exact absurd hsame hg
        · exact ⟨g', hg', hsame⟩
      rw [if_neg hg, if_neg hg, ih hrest hlater]

theorem Groups.firstRow_lt (h : Groups parents groups) {g : RowGroup} (hg : g ∈ groups) :
    g.firstRow < parents.length := by
  obtain ⟨hlt, -⟩ := List.getElem?_eq_some_iff.mp (h.parent g hg)
  exact hlt

theorem Groups.parent_concat (h : Groups parents groups) (v : Value) :
    ∀ g ∈ groups, (parents ++ [v])[g.firstRow]? = some g.parent := by
  intro g hg
  rw [List.getElem?_append_left (h.firstRow_lt hg)]
  exact h.parent g hg

/-- A row that is put into a group. -/
theorem Groups.known (h : Groups parents groups) (hknown : ∃ g ∈ groups, g.parent.same v = true) :
    Groups (parents ++ [v]) (groups.map (extend v parents.length)) where
  rows := by
    intro g' hg'
    obtain ⟨g, hg, rfl⟩ := List.mem_map.mp hg'
    have hsymm : g.parent.same v = v.same g.parent :=
      Bool.eq_iff_iff.mpr ⟨Value.same_symm, Value.same_symm⟩
    rw [extend_rows, extend_parent, rowsOf_concat, h.rows g hg, hsymm]
  nonempty := by
    intro g' hg'
    obtain ⟨g, hg, rfl⟩ := List.mem_map.mp hg'
    rw [extend_rows]
    exact List.append_ne_nil_of_left_ne_nil (h.nonempty g hg) _
  parent := by
    intro g' hg'
    obtain ⟨g, hg, rfl⟩ := List.mem_map.mp hg'
    rw [extend_firstRow v _ (h.nonempty g hg), extend_parent]
    exact h.parent_concat v g hg
  apart := by
    rw [List.pairwise_map]
    simpa using h.apart
  ordered := by
    rw [List.pairwise_map]
    apply h.ordered.imp_of_mem
    intro g g' hg hg' hlt
    rwa [extend_firstRow v _ (h.nonempty g hg), extend_firstRow v _ (h.nonempty g' hg')]
  covers := by
    have hextended : ∀ w, (∃ g ∈ groups, g.parent.same w = true) →
        ∃ g ∈ groups.map (extend v parents.length), g.parent.same w = true := by
      rintro w ⟨g, hg, hsame⟩
      exact ⟨_, List.mem_map_of_mem hg, by rwa [extend_parent]⟩
    intro w hw
    rcases List.mem_append.mp hw with hw | hw
    · exact hextended w (h.covers w hw)
    · rw [List.mem_singleton.mp hw]
      exact hextended v hknown

/-- A row that makes a group of its own. -/
theorem Groups.new (h : Groups parents groups) (hnew : ∀ g ∈ groups, g.parent.same v = false) :
    Groups (parents ++ [v]) (groups ++ [⟨v, [parents.length]⟩]) where
  rows := by
    intro g hg
    rw [rowsOf_concat]
    rcases List.mem_append.mp hg with hg | hg
    · have hother : ¬ v.same g.parent = true := by
        intro hsame
        have hsame' := Value.same_symm hsame
        rw [hnew g hg] at hsame'
        cases hsame'
      rw [if_neg hother, List.append_nil]
      exact h.rows g hg
    · have hnone : rowsOf parents v = [] := by
        rw [rowsOf, List.filter_eq_nil_iff]
        intro i hi hsame
        have hi := List.mem_range.mp hi
        rw [List.getD_eq_getElem _ _ hi] at hsame
        obtain ⟨g, hg, hsame'⟩ := h.covers _ (List.getElem_mem hi)
        have hboth := Value.same_trans hsame' hsame
        rw [hnew g hg] at hboth
        cases hboth
      rw [List.mem_singleton.mp hg]
      simp [hnone, Value.same_refl]
  nonempty := by
    intro g hg
    rcases List.mem_append.mp hg with hg | hg
    · exact h.nonempty g hg
    · simp [List.mem_singleton.mp hg]
  parent := by
    intro g hg
    rcases List.mem_append.mp hg with hg | hg
    · exact h.parent_concat v g hg
    · simp [List.mem_singleton.mp hg, firstRow]
  apart := by
    apply List.pairwise_append.mpr ⟨h.apart, List.pairwise_singleton _ _, ?_⟩
    intro g hg g' hg'
    rw [List.mem_singleton.mp hg']
    exact hnew g hg
  ordered := by
    apply List.pairwise_append.mpr ⟨h.ordered, List.pairwise_singleton _ _, ?_⟩
    intro g hg g' hg'
    rw [List.mem_singleton.mp hg']
    exact h.firstRow_lt hg
  covers := by
    intro w hw
    rcases List.mem_append.mp hw with hw | hw
    · obtain ⟨g, hg, hsame⟩ := h.covers w hw
      exact ⟨g, List.mem_append_left _ hg, hsame⟩
    · rw [List.mem_singleton.mp hw]
      exact ⟨_, List.mem_append_right _ (List.mem_singleton_self _), v.same_refl⟩

/-- One more row keeps the rows in groups. -/
theorem Groups.add (h : Groups parents groups) (v : Value) :
    Groups (parents ++ [v]) (add v parents.length groups) := by
  by_cases hknown : ∃ g ∈ groups, g.parent.same v = true
  · rw [add_of_known h.apart hknown]
    exact h.known hknown
  · have hnew : ∀ g ∈ groups, g.parent.same v = false := by
      intro g hg
      cases hsame : g.parent.same v with
      | false => rfl
      | true => exact absurd ⟨g, hg, hsame⟩ hknown
    rw [add_of_new hnew]
    exact h.new hnew

/-- Rows that are added one by one are put into groups. -/
theorem Groups.addAll (h : Groups parents groups) (more : List Value) :
    Groups (parents ++ more) (addAll groups parents.length more) := by
  induction more generalizing parents groups with
  | nil => simpa [RowGroup.addAll] using h
  | cons v rest ih =>
    have hrest := ih (h.add v)
    rw [List.append_assoc, List.length_append] at hrest
    exact hrest

/-- The rows of a result with a column of outer rows are put into groups by it. -/
theorem groups_ofResult {r : ResultSet} (h : r.column? parentId = some parents) :
    Groups parents (ofResult r) := by
  rw [ofResult, h]
  exact groups_nil.addAll parents

/-- Without such a column all rows are one group. -/
theorem ofResult_of_none {r : ResultSet} (h : r.column? parentId = none) :
    ofResult r = [⟨.null, List.range r.rows.length⟩] := by
  rw [ofResult, h]

end RowGroup

/-! ## Groups by an index -/

/-- What the outer rows of one group have in common. -/
inductive GroupKey where
  | null
  | int (n : Int)
  | float (bits : UInt64) (signed : Bool)
  | text (s : String)
  deriving DecidableEq

namespace GroupKey

/-- The key of an outer row. -/
def of : Value → GroupKey
  | .null => null
  | .int n => int n
  | .float x signed => float x.toBits signed
  | .text s => text s

theorem of_eq_of_iff {v w : Value} : of v = of w ↔ v.same w = true := by
  cases v <;> cases w <;> simp [of, Value.same]

end GroupKey

/-- The groups so far, and for each key the place of its group. -/
structure IndexedGroups where
  index : List (GroupKey × Nat)
  groups : List RowGroup

namespace IndexedGroups

variable {s : IndexedGroups} {v : Value} {row : Nat}

/-- The place of the group of an outer row. A new group comes behind the others. -/
def slot (s : IndexedGroups) (v : Value) : Nat × IndexedGroups :=
  match s.index.lookup (.of v) with
  | some slot => (slot, s)
  | none =>
    (s.groups.length, ⟨(.of v, s.groups.length) :: s.index, s.groups ++ [⟨v, []⟩]⟩)

/-- Puts a row into the group of its outer row. -/
def put (s : IndexedGroups) (v : Value) (row : Nat) : IndexedGroups :=
  { (s.slot v).2 with
    groups := (s.slot v).2.groups.modify (s.slot v).1 fun g => ⟨g.parent, g.rows ++ [row]⟩ }

/-- Puts rows into the groups of the outer rows that they name, counting from `row`. -/
def putAll (s : IndexedGroups) (row : Nat) : List Value → IndexedGroups
  | [] => s
  | v :: rest => (s.put v row).putAll (row + 1) rest

/-- The index knows just the groups and their places. -/
def Right (s : IndexedGroups) : Prop :=
  ∀ v slot, s.index.lookup (.of v) = some slot ↔
    ∃ g, s.groups[slot]? = some g ∧ g.parent.same v = true

theorem Right.apart (h : s.Right) :
    s.groups.Pairwise fun g g' => g.parent.same g'.parent = false := by
  rw [List.pairwise_iff_getElem]
  intro i j hi hj hlt
  rw [← Bool.not_eq_true]
  intro hsame
  have hfirst := (h s.groups[j].parent i).mpr ⟨_, List.getElem?_eq_getElem hi, hsame⟩
  have hsecond := (h s.groups[j].parent j).mpr
    ⟨_, List.getElem?_eq_getElem hj, Value.same_refl _⟩
  have heq := Option.some.inj (hfirst.symm.trans hsecond)
  omega

/-- Asking for the place of a group keeps the index right. -/
theorem Right.slot (h : s.Right) (v : Value) : (s.slot v).2.Right := by
  unfold IndexedGroups.slot
  split
  · exact h
  case h_2 hnone =>
    intro w slot
    have hgroups : ∀ g, (s.groups ++ [⟨v, []⟩])[slot]? = some g ↔
        s.groups[slot]? = some g ∨ slot = s.groups.length ∧ ⟨v, []⟩ = g := by
      intro g
      rw [List.getElem?_append]
      split
      case isTrue hlt => simp [Nat.ne_of_lt hlt]
      case isFalse hge =>
        rw [List.getElem?_singleton, List.getElem?_eq_none (Nat.le_of_not_lt hge)]
        have hplace : slot - s.groups.length = 0 ↔ slot = s.groups.length := by omega
        simp [hplace]
    simp only [hgroups, or_and_right, exists_or, ← h w slot, and_assoc, exists_and_left,
      exists_eq_left', List.lookup_cons]
    by_cases hw : v.same w = true
    · have hkey : GroupKey.of w = GroupKey.of v := (GroupKey.of_eq_of_iff.mpr hw).symm
      simp [hkey, hnone, hw, eq_comm]
    · have hkey : ¬ GroupKey.of w = GroupKey.of v :=
        fun heq => hw (GroupKey.of_eq_of_iff.mp heq.symm)
      simp [beq_eq_false_iff_ne.mpr hkey, hw]

/-- The place is that of a group of the outer row. -/
theorem Right.exists_group (h : s.Right) (v : Value) :
    ∃ g, (s.slot v).2.groups[(s.slot v).1]? = some g ∧ g.parent.same v = true := by
  unfold IndexedGroups.slot
  split
  case h_1 hsome => exact (h v _).mp hsome
  case h_2 => exact ⟨⟨v, []⟩, by simp, v.same_refl⟩

theorem Right.add_eq_map (h : s.Right) (v : Value) (row : Nat) :
    RowGroup.add v row s.groups = (s.slot v).2.groups.map (RowGroup.extend v row) := by
  unfold IndexedGroups.slot
  split
  case h_1 hsome =>
    obtain ⟨g, hg, hsame⟩ := (h v _).mp hsome
    exact RowGroup.add_of_known h.apart ⟨g, List.mem_of_getElem? hg, hsame⟩
  case h_2 hnone =>
    have hnew : ∀ g ∈ s.groups, g.parent.same v = false := by
      intro g hg
      rw [← Bool.not_eq_true]
      intro hsame
      obtain ⟨slot, hslot⟩ := List.mem_iff_getElem?.mp hg
      cases hnone.symm.trans ((h v slot).mpr ⟨g, hslot, hsame⟩)
    have hsame : s.groups.map (RowGroup.extend v row) = s.groups := by
      refine (List.map_congr_left ?_).trans (List.map_id' _)
      intro g hg
      rw [RowGroup.extend, hnew g hg]
      rfl
    rw [RowGroup.add_of_new hnew, List.map_append, hsame]
    simp [RowGroup.extend, Value.same_refl]

/-- The row goes into the one group of its outer row. -/
theorem Right.modify_eq_map (h : s.Right) {g : RowGroup} {slot : Nat}
    (hg : s.groups[slot]? = some g) (hsame : g.parent.same v = true) (row : Nat) :
    (s.groups.modify slot fun g => ⟨g.parent, g.rows ++ [row]⟩) =
      s.groups.map (RowGroup.extend v row) := by
  apply List.ext_getElem?
  intro i
  rw [List.getElem?_modify, List.getElem?_map]
  cases hi : s.groups[i]? with
  | none => rfl
  | some g' =>
    simp only [Option.map_eq_map, Option.map_some, Option.some.injEq]
    by_cases heq : slot = i
    · subst heq
      cases hg.symm.trans hi
      rw [if_pos rfl, RowGroup.extend, if_pos hsame]
    · rw [if_neg heq, RowGroup.extend, if_neg]
      intro hsame'
      have hfirst := (h v slot).mpr ⟨g, hg, hsame⟩
      exact heq (Option.some.inj (hfirst.symm.trans ((h v i).mpr ⟨g', hi, hsame'⟩)))

/-- A row is put into the group into which it comes when all groups are gone through. -/
theorem Right.put (h : s.Right) (v : Value) (row : Nat) :
    (s.put v row).Right ∧ (s.put v row).groups = RowGroup.add v row s.groups := by
  obtain ⟨g, hg, hsame⟩ := h.exists_group v
  have hmodify := (h.slot v).modify_eq_map hg hsame row
  refine ⟨?_, hmodify.trans (h.add_eq_map v row).symm⟩
  intro w slot
  rw [IndexedGroups.put, hmodify]
  simp [h.slot v w slot]

theorem Right.putAll (h : s.Right) (row : Nat) (parents : List Value) :
    (s.putAll row parents).groups = RowGroup.addAll s.groups row parents := by
  induction parents generalizing s row with
  | nil => rfl
  | cons v rest ih =>
    obtain ⟨hright, hgroups⟩ := h.put v row
    rw [IndexedGroups.putAll, ih hright, hgroups, RowGroup.addAll]

/-- With an index, the rows of a result come into the same groups. -/
theorem groups_putAll {r : ResultSet} {parents : List Value}
    (h : r.column? parentId = some parents) :
    (putAll ⟨[], []⟩ 0 parents).groups = RowGroup.ofResult r := by
  have hempty : Right ⟨[], []⟩ := by
    intro v slot
    simp
  rw [hempty.putAll, RowGroup.ofResult, h]

end IndexedGroups

end KeyChart
