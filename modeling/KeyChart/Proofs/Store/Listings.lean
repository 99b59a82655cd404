import KeyChart.Proofs.Except
import KeyChart.Proofs.SortedMap
import KeyChart.Store.Engine
import Mathlib.Data.List.Nodup

/-!
# Lists of a store

A store numbers the columns of a primary key by their places: no two columns have one name or
one place, and if there are places there is a first. So the first column of a primary key is the
one with the first place. A store of tables lists its columns so whatever was done to it, since a
declaration with a repeated column name or a key of other columns is refused.
-/

namespace KeyChart.Store

variable {columns : List ColumnRow} {name : String}

/-- Columns as a store lists them: those of the primary key have different names and different
places, and one of them has the first place. -/
structure Numbered (columns : List ColumnRow) : Prop where
  distinct : ((columns.filter fun column => 0 < column.place).map ColumnRow.name).Nodup
  places : ∀ a ∈ columns, ∀ b ∈ columns, 0 < a.place → a.place = b.place → a = b
  first : ∀ a ∈ columns, 0 < a.place → ∃ b ∈ columns, b.place = 1

theorem numbered_of_places_zero (h : ∀ a ∈ columns, a.place = 0) : Numbered columns := by
  have hnone : columns.filter (fun column => 0 < column.place) = [] :=
    List.filter_eq_nil_iff.mpr fun a ha => by simp [h a ha]
  refine ⟨by simp [hnone], ?_, ?_⟩
  · intro a ha b _ hplace
    exact absurd (h a ha) (Nat.ne_of_gt hplace)
  · intro a ha hplace
    exact absurd (h a ha) (Nat.ne_of_gt hplace)

theorem perm_placeColumn (a : ColumnRow) (columns : List ColumnRow) :
    (placeColumn a columns).Perm (a :: columns) := by
  induction columns with
  | nil => exact .refl _
  | cons b rest ih =>
    rw [placeColumn]
    split
    case isTrue => exact .refl _
    case isFalse => exact (ih.cons b).trans (.swap a b rest)

theorem perm_keyColumns (columns : List ColumnRow) :
    (keyColumns columns).Perm (columns.filter fun column => 0 < column.place) := by
  rw [keyColumns]
  induction columns.filter fun column => 0 < column.place with
  | nil => exact .refl _
  | cons a rest ih => exact (perm_placeColumn a _).trans (ih.cons a)

theorem mem_keyColumns {a : ColumnRow} : a ∈ keyColumns columns ↔ a ∈ columns ∧ 0 < a.place := by
  rw [(perm_keyColumns columns).mem_iff, List.mem_filter, decide_eq_true_iff]

theorem place_le_of_upTo {a b : ColumnRow} (h : a.upTo b = true) : a.place ≤ b.place := by
  simp only [ColumnRow.upTo, Bool.or_eq_true, Bool.and_eq_true, decide_eq_true_eq] at h
  omega

theorem place_le_of_not_upTo {a b : ColumnRow} (h : ¬ a.upTo b = true) : b.place ≤ a.place := by
  simp only [ColumnRow.upTo, Bool.or_eq_true, Bool.and_eq_true, decide_eq_true_eq] at h
  omega

theorem pairwise_placeColumn {a : ColumnRow}
    (h : columns.Pairwise fun b c => b.place ≤ c.place) :
    (placeColumn a columns).Pairwise fun b c => b.place ≤ c.place := by
  induction columns with
  | nil => exact List.pairwise_singleton _ a
  | cons b rest ih =>
    obtain ⟨hfirst, hrest⟩ := List.pairwise_cons.mp h
    rw [placeColumn]
    split
    case isTrue hupTo =>
      have hle := place_le_of_upTo hupTo
      refine List.pairwise_cons.mpr ⟨fun c hc => ?_, h⟩
      rcases List.mem_cons.mp hc with rfl | hc
      · exact hle
      · exact Nat.le_trans hle (hfirst c hc)
    case isFalse hupTo =>
      refine List.pairwise_cons.mpr ⟨fun c hc => ?_, ih hrest⟩
      rcases List.mem_cons.mp ((perm_placeColumn a rest).mem_iff.mp hc) with rfl | hc
      · exact place_le_of_not_upTo hupTo
      · exact hfirst c hc

theorem pairwise_keyColumns (columns : List ColumnRow) :
    (keyColumns columns).Pairwise fun a b => a.place ≤ b.place := by
  rw [keyColumns]
  induction columns.filter fun column => 0 < column.place with
  | nil => exact .nil
  | cons a rest ih => exact pairwise_placeColumn ih

namespace Numbered

variable (h : Numbered columns)

include h

theorem nodup_primaryKeyOf : (primaryKeyOf columns).Nodup :=
  ((perm_keyColumns columns).map _).nodup_iff.mpr h.distinct

/-- No place is before that of the first key column, so it is the first one. -/
theorem place_head {a : ColumnRow} {rest : List ColumnRow}
    (hcolumns : keyColumns columns = a :: rest) : a.place = 1 := by
  have hmem : a ∈ columns ∧ 0 < a.place := mem_keyColumns.mp (hcolumns ▸ List.mem_cons_self)
  obtain ⟨b, hb, hfirst⟩ := h.first a hmem.1 hmem.2
  have hsorted := hcolumns ▸ pairwise_keyColumns columns
  have hbmem : b ∈ a :: rest := hcolumns ▸ mem_keyColumns.mpr ⟨hb, by omega⟩
  rcases List.mem_cons.mp hbmem with rfl | hrest
  · exact hfirst
  · have hle := (List.pairwise_cons.mp hsorted).1 b hrest
    omega

/-- The column with the first place stands first in the primary key. -/
theorem firstKeyColumn_eq :
    firstKeyColumn columns = (primaryKeyOf columns).head?.getD rowId := by
  rw [firstKeyColumn, primaryKeyOf, List.head?_map]
  cases hcolumns : keyColumns columns with
  | nil =>
    have hnone : columns.find? (fun column => column.place = 1) = none := by
      rw [List.find?_eq_none]
      intro a ha hplace
      have hmem := mem_keyColumns.mpr ⟨ha, by simp [of_decide_eq_true hplace]⟩
      rw [hcolumns] at hmem
      cases hmem
    rw [hnone]
    rfl
  | cons a rest =>
    have hplace := h.place_head hcolumns
    have ha : a ∈ columns := (mem_keyColumns.mp (hcolumns ▸ List.mem_cons_self)).1
    cases hfind : columns.find? fun column => column.place = 1 with
    | none => exact absurd (decide_eq_true hplace) (List.find?_eq_none.mp hfind a ha)
    | some c =>
      have hc : c.place = 1 := by simpa using List.find?_some hfind
      rw [h.places a ha c (List.mem_of_find?_eq_some hfind) (by omega) (by omega)]
      rfl

end Numbered

/-! ## Declared tables -/

/-- A table as declared: its columns have different names, and its primary key is of them. -/
structure StoreTable.Declared (t : StoreTable) : Prop where
  distinct : t.names.Nodup
  key : ∀ name ∈ t.primaryKey, name ∈ t.names

namespace StoreTable

variable {t t' : StoreTable}

theorem mem_names_of_spelled? {key key' : List String} (h : t.spelled? key = some key') :
    ∀ name ∈ key', name ∈ t.names := by
  induction key generalizing key' with
  | nil =>
    cases h
    simp
  | cons asked rest ih =>
    rw [spelled?, List.mapM_cons] at h
    simp only [Option.bind_eq_bind, Option.bind_eq_some_iff, Option.pure_def, Option.some.injEq]
      at h
    obtain ⟨name, ⟨i, -, hname⟩, names, hrest, rfl⟩ := h
    intro name' hmem
    rcases List.mem_cons.mp hmem with rfl | hmem
    · exact List.mem_of_getElem? hname
    · exact ih hrest name' hmem

theorem declared_of_declare (h : t.declare = .ok t') : t'.Declared := by
  simp only [declare] at h
  split at h
  case h_2 => cases h
  case h_1 spelled hspelled =>
    split at h
    case isFalse => cases h
    case isTrue hwell =>
      cases h
      simp only [Option.bind_eq_bind, Option.bind_eq_some_iff, Option.pure_def,
        Option.some.injEq] at hspelled
      obtain ⟨key, hkey, uniques, -, foreignKeys, -, rfl⟩ := hspelled
      simp only [Bool.and_eq_true, Option.isNone_iff_eq_none] at hwell
      have hfolded := (Schema.nodup_of_repeated? hwell.1.1.2).1
      exact ⟨hfolded.of_map _, mem_names_of_spelled? hkey⟩

/-- Rows have no part in what is declared. -/
theorem Declared.addRow {row : StoreRow} (h : t.Declared) (hadd : t.addRow row = .ok t') :
    t'.Declared := by
  simp only [StoreTable.addRow] at hadd
  split at hadd
  case isTrue => cases hadd
  case isFalse =>
    cases hadd
    exact ⟨h.distinct, h.key⟩

end StoreTable

/-! ## Stores of declared tables -/

namespace TableStore

variable {s s' : TableStore} {t : StoreTable} {source : String}

/-- All tables of a store are as declared. -/
def Sound (s : TableStore) : Prop := ∀ name t, s.relation? name = some (.table t) → t.Declared

theorem Sound.put (h : s.Sound) {relation : Relation}
    (hrelation : ∀ t, relation = .table t → t.Declared) : (s.put name relation).Sound := by
  intro other t ht
  rw [relation?, TableStore.put, SortedMap.find?_insert] at ht
  split at ht
  case isTrue => exact hrelation t (Option.some.inj ht)
  case isFalse => exact h other t ht

theorem Sound.erase (h : s.Sound) (name : String) :
    Sound ⟨s.relations.erase (folded name)⟩ := by
  intro other t ht
  rw [relation?, SortedMap.find?_erase] at ht
  split at ht
  case isTrue => cases ht
  case isFalse => exact h other t ht

theorem Sound.createTable (h : s.Sound) (hcreate : s.createTable name t = .ok s') : s'.Sound := by
  obtain ⟨declared, hdeclare, hput⟩ := Except.bind_eq_ok.mp hcreate
  split at hput
  case isTrue =>
    cases hput
    refine h.put fun t ht => ?_
    cases ht
    exact StoreTable.declared_of_declare hdeclare
  case isFalse => cases hput

theorem Sound.createTableAs {columns : List String} (h : s.Sound)
    (hcreate : s.createTableAs name columns source = .ok s') : s'.Sound := by
  simp only [TableStore.createTableAs] at hcreate
  split at hcreate
  case isTrue => cases hcreate
  case isFalse =>
    obtain ⟨selected, -, hcreate⟩ := Except.bind_eq_ok.mp hcreate
    exact h.createTable hcreate

theorem Sound.dropView (h : s.Sound) (hdrop : s.dropView name = .ok s') : s'.Sound := by
  unfold TableStore.dropView at hdrop
  split at hdrop
  case h_1 => cases hdrop
  case h_2 =>
    split at hdrop
    case isTrue =>
      cases hdrop
      exact h.erase name
    case isFalse => cases hdrop

theorem Sound.addView {columns : List String} (h : s.Sound)
    (hadd : s.addView name columns source = .ok s') : s'.Sound := by
  unfold TableStore.addView at hadd
  split at hadd
  case isTrue =>
    cases hadd
    exact h.put fun t ht => by cases ht
  case isFalse => cases hadd

theorem Sound.dropTable (h : s.Sound) (hdrop : s.dropTable name = .ok s') : s'.Sound := by
  unfold TableStore.dropTable at hdrop
  split at hdrop
  case h_1 => cases hdrop
  case h_2 =>
    split at hdrop
    case isTrue => cases hdrop
    case isFalse =>
      cases hdrop
      exact h.erase name
  case h_3 =>
    split at hdrop
    case isTrue =>
      cases hdrop
      exact h
    case isFalse => cases hdrop

theorem relation?_of_table? (h : s.table? name = some t) :
    s.relation? name = some (.table t) := by
  unfold table? at h
  split at h
  case h_1 hrelation =>
    cases h
    exact hrelation
  case h_2 => cases h

/-- Rows are added to a declared table one at a time. -/
theorem declared_of_addRows {add : StoreTable → List Value → Except Error StoreTable}
    (hadd : ∀ {t values t'}, t.Declared → add t values = .ok t' → t'.Declared)
    {rows : List (List Value)} {t t' : StoreTable} (h : t.Declared)
    (hrows : rows.foldlM add t = .ok t') : t'.Declared := by
  induction rows generalizing t with
  | nil =>
    cases hrows
    exact h
  | cons values rest ih =>
    rw [List.foldlM_cons] at hrows
    obtain ⟨next, hnext, hrest⟩ := Except.bind_eq_ok.mp hrows
    exact ih (hadd h hnext) hrest

theorem declared_of_addRow {links : List (Link × String)} {row : StoreRow} {t' : StoreTable}
    (h : t.Declared) (hadd : s.addRow name links t row = .ok t') : t'.Declared := by
  simp only [TableStore.addRow] at hadd
  split at hadd
  case isTrue => exact h.addRow hadd
  case isFalse => cases hadd

theorem Sound.insertRows {columns : List String} {rows : List (List Value)} (h : s.Sound)
    (hinsert : s.insertRows name columns rows = .ok s') : s'.Sound := by
  simp only [TableStore.insertRows] at hinsert
  split at hinsert
  case h_2 => cases hinsert
  case h_1 t ht =>
    split at hinsert
    case h_2 => cases hinsert
    case h_1 places _ =>
      split at hinsert
      case isTrue => cases hinsert
      case isFalse =>
        obtain ⟨links, -, hfill⟩ := Except.bind_eq_ok.mp hinsert
        obtain ⟨filled, hrows, hput⟩ := Except.bind_eq_ok.mp hfill
        cases hput
        refine h.put fun t' ht' => ?_
        cases ht'
        refine declared_of_addRows ?_ (h name t (relation?_of_table? ht)) hrows
        intro t values t' ht hadd
        split at hadd
        case isTrue => cases hadd
        case isFalse =>
          obtain ⟨row, -, hadd⟩ := Except.bind_eq_ok.mp hadd
          exact declared_of_addRow ht hadd

/-- The stores that are made from the empty one, one change after the other. -/
inductive Reached : TableStore → Prop
  | empty : Reached .empty
  | createTable {s s' : TableStore} {name : String} {t : StoreTable} :
    Reached s → s.createTable name t = .ok s' → Reached s'
  | createTableAs {s s' : TableStore} {name : String} {columns : List String} {source : String} :
    Reached s → s.createTableAs name columns source = .ok s' → Reached s'
  | dropView {s s' : TableStore} {name : String} :
    Reached s → s.dropView name = .ok s' → Reached s'
  | addView {s s' : TableStore} {name : String} {columns : List String} {source : String} :
    Reached s → s.addView name columns source = .ok s' → Reached s'
  | dropTable {s s' : TableStore} {name : String} :
    Reached s → s.dropTable name = .ok s' → Reached s'
  | insertRows {s s' : TableStore} {name : String} {columns : List String}
      {rows : List (List Value)} :
    Reached s → s.insertRows name columns rows = .ok s' → Reached s'

theorem Reached.sound (h : Reached s) : s.Sound := by
  induction h with
  | empty =>
    intro name t ht
    cases ht
  | createTable _ hcreate ih => exact ih.createTable hcreate
  | createTableAs _ hcreate ih => exact ih.createTableAs hcreate
  | dropView _ hdrop ih => exact ih.dropView hdrop
  | addView _ hadd ih => exact ih.addView hadd
  | dropTable _ hdrop ih => exact ih.dropTable hdrop
  | insertRows _ hinsert ih => exact ih.insertRows hinsert

/-! ## The columns of a store -/

/-- The columns of a table as they are listed. -/
def rowsOfColumns (t : StoreTable) : List ColumnRow :=
  t.columns.map fun c => ⟨c.name, c.sqlType, keyPlace t.primaryKey c.name⟩

theorem keyPlace_inj {key : List String} {a b : String} (h : 0 < keyPlace key a)
    (heq : keyPlace key a = keyPlace key b) : a = b := by
  unfold keyPlace at h heq
  split at h
  case isFalse => omega
  case isTrue ha =>
    rw [if_pos ha] at heq
    split at heq
    case isFalse => omega
    case isTrue hb => exact (List.idxOf_inj ha).mp (Nat.succ.inj heq)

theorem numbered_rowsOfColumns (h : t.Declared) : Numbered (rowsOfColumns t) := by
  have hnames : (rowsOfColumns t).map ColumnRow.name = t.names := by
    rw [rowsOfColumns, List.map_map]
    rfl
  refine ⟨(hnames ▸ h.distinct).sublist (List.filter_sublist.map _), ?_, ?_⟩
  · intro a ha b hb hplace heq
    obtain ⟨c, hc, rfl⟩ := List.mem_map.mp ha
    obtain ⟨c', hc', rfl⟩ := List.mem_map.mp hb
    rw [List.inj_on_of_nodup_map h.distinct hc hc' (keyPlace_inj hplace heq)]
  · intro a ha hplace
    obtain ⟨c, hc, rfl⟩ := List.mem_map.mp ha
    cases hkey : t.primaryKey with
    | nil => simp [keyPlace, hkey] at hplace
    | cons name rest =>
      obtain ⟨c', hc', hname⟩ := List.mem_map.mp (h.key name (by simp [hkey]))
      exact ⟨_, List.mem_map.mpr ⟨c', hc', rfl⟩, by simp [keyPlace, hkey, hname]⟩

theorem isWritable_heard (name : String) : isWritable (heard name) = true := by
  rw [isWritable, heard, String.toList_ofList]
  exact List.all_takeWhile

/-- The places of the columns follow the primary key as it was declared. -/
theorem primaryKeyOf_rowsOfColumns (h : t.Declared) (hkey : t.primaryKey.Nodup) :
    primaryKeyOf (rowsOfColumns t) = t.primaryKey := by
  have hplace : ∀ a ∈ keyColumns (rowsOfColumns t),
      a.name ∈ t.primaryKey ∧ a.place = t.primaryKey.idxOf a.name + 1 := by
    intro a ha
    obtain ⟨hmem, hpos⟩ := mem_keyColumns.mp ha
    obtain ⟨c, -, rfl⟩ := List.mem_map.mp hmem
    unfold keyPlace at hpos ⊢
    split at hpos
    case isTrue hin => exact ⟨hin, if_pos hin⟩
    case isFalse => exact absurd hpos (Nat.lt_irrefl 0)
  -- Both lists are in the order of the declared key.
  have hsorted : (primaryKeyOf (rowsOfColumns t)).Pairwise fun a b =>
      t.primaryKey.idxOf a ≤ t.primaryKey.idxOf b := by
    refine List.pairwise_map.mpr ((pairwise_keyColumns _).imp_of_mem fun ha hb hle => ?_)
    rw [(hplace _ ha).2, (hplace _ hb).2] at hle
    exact Nat.le_of_succ_le_succ hle
  have hdeclared : t.primaryKey.Pairwise fun a b =>
      t.primaryKey.idxOf a ≤ t.primaryKey.idxOf b := by
    refine List.pairwise_iff_getElem.mpr fun i j hi hj hlt => ?_
    rw [hkey.idxOf_getElem i hi, hkey.idxOf_getElem j hj]
    exact Nat.le_of_lt hlt
  have hmem : ∀ name, name ∈ primaryKeyOf (rowsOfColumns t) ↔ name ∈ t.primaryKey := by
    intro name
    constructor
    · intro hmem
      obtain ⟨a, ha, rfl⟩ := List.mem_map.mp hmem
      exact (hplace a ha).1
    · intro hmem
      obtain ⟨c, hc, rfl⟩ := List.mem_map.mp (h.key name hmem)
      exact List.mem_map.mpr ⟨_, mem_keyColumns.mpr ⟨List.mem_map.mpr ⟨c, hc, rfl⟩,
        by simp [keyPlace, hmem]⟩, rfl⟩
  have hperm := (List.perm_ext_iff_of_nodup (numbered_rowsOfColumns h).nodup_primaryKeyOf hkey).mpr
    hmem
  refine hperm.eq_of_pairwise ?_ hsorted hdeclared
  intro a b _ hb hle hle'
  exact ((List.idxOf_inj hb).mp (Nat.le_antisymm hle' hle)).symm

/-- The columns of a table can be told. -/
theorem columns_listings (h : s.table? (heard name) = some t) :
    s.listings.columns name = .ok (rowsOfColumns t) := by
  have hrelation := relation?_of_table? h
  have hread : s.read (heard name) = .ok t.whole := by
    rw [read, if_pos (isWritable_heard name), readWithin, hrelation]
  show s.columnRows (heard name) = _
  rw [columnRows, hrelation]
  simp only [hread, Except.map, StoreTable.whole, rowsOfColumns]
  exact congrArg Except.ok (List.ext_getElem (by simp) fun i _ _ => by simp)

/-- Whatever was done to a store, it lists columns with numbered keys. -/
theorem Reached.numbered (h : s.Reached) (hcolumns : s.listings.columns name = .ok columns) :
    Numbered columns := by
  cases hrelation : s.relation? (heard name) with
  | none =>
    have hnone : s.listings.columns name = .ok [] := by
      show s.columnRows (heard name) = _
      rw [columnRows, hrelation]
    rw [hnone] at hcolumns
    cases hcolumns
    exact numbered_of_places_zero (by simp)
  | some relation =>
    cases relation with
    | table t =>
      have htable : s.table? (heard name) = some t := by rw [table?, hrelation]
      rw [columns_listings htable] at hcolumns
      cases hcolumns
      exact numbered_rowsOfColumns (h.sound _ t hrelation)
    | view names source =>
      have hread : s.listings.columns name = (s.read (heard name)).map fun selected =>
          selected.columns.map fun c => ⟨c.1.name, c.1.sqlType, 0⟩ := by
        show s.columnRows (heard name) = _
        rw [columnRows, hrelation]
        simp [keyPlace]
      rw [hread] at hcolumns
      obtain ⟨selected, -, rfl⟩ := Except.map_eq_ok.mp hcolumns
      refine numbered_of_places_zero fun a ha => ?_
      obtain ⟨c, -, rfl⟩ := List.mem_map.mp ha
      rfl

end TableStore

end KeyChart.Store
