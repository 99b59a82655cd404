import KeyChart.Chart.Stages
import KeyChart.Proofs.SortedMap
import Mathlib.Data.List.Induction

/-!
# Rows as they are stored

The columns of a table of drawn rows are read off the rows: one for every attribute that
a row has, other than its identity. Numbers, and texts that spell one, are stored as
floats, so that a column of numbers holds nothing else.
-/

namespace KeyChart

/-! ## Cells -/

/-- The kind of a column is read back from the type with which the column was created. -/
theorem ColumnType.ofSql_toSql (kind : ColumnType) : ofSql kind.toSql = kind := by
  cases kind <;> decide

theorem ColumnType.ofSql_integer : ofSql "INTEGER" = .numeric := by decide

namespace Value

/-- A cell as columns of numbers hold it. -/
def IsNullOrFloat (v : Value) : Prop := v = null ∨ ∃ x signed, v = float x signed

theorem isNullOrFloat_or_text (v : Value) :
    v.coerceNumeric.IsNullOrFloat ∨ ∃ s, v.coerceNumeric = text s := by
  cases v with
  | null => exact .inl (.inl rfl)
  | int n => exact .inl (.inr ⟨_, _, rfl⟩)
  | float x signed => exact .inl (.inr ⟨x, signed, rfl⟩)
  | text s =>
    rw [coerceNumeric, readFloat?]
    cases Decimal.readFloat? (Text.trim s) with
    | none => exact .inr ⟨s, rfl⟩
    | some x => exact .inl (.inr ⟨_, _, rfl⟩)

theorem not_null_or_numeric_iff {v : Value} :
    (!(v.isNull || v.isNumeric)) = true ↔ ∃ s, v = text s := by
  cases v <;> simp [isNull, isNumeric]

end Value

/-- What is stored of a drawn row under a name. -/
def storedCell (element : Record) (name : String) : Value :=
  ((element.find? name).map Value.coerceNumeric).getD .null

theorem find?_storedElement (element : Record) (name : String) :
    (storedElement element).find? name =
      if name = rowId then none else (element.find? name).map Value.coerceNumeric := by
  rw [storedElement, SortedMap.find?_mapValues, SortedMap.find?_filter]
  by_cases hname : name = rowId
  · simp [hname]
  · cases element.find? name <;> simp [hname]

/-! ## Kinds of columns -/

/-- The kind of a column with given cells: text if one of them is, and else numbers. -/
def kindOf (cells : List Value) : Option ColumnType :=
  if cells.isEmpty then none
  else some (if cells.any fun v => !(v.isNull || v.isNumeric) then .string else .numeric)

theorem kindOf_append (cells : List Value) (v : Value) :
    kindOf (cells ++ [v]) =
      some (if !(v.isNull || v.isNumeric) then .string else (kindOf cells).getD .numeric) := by
  cases cells with
  | nil => simp [kindOf]
  | cons w rest =>
    simp only [kindOf, List.any_append, List.any_cons (a := v), List.any_nil, Bool.or_false]
    generalize (w :: rest).any _ = before
    cases hv : !(v.isNull || v.isNumeric) <;> cases before <;> rfl

theorem exists_kindOf_iff {cells : List Value} :
    (∃ kind, kindOf cells = some kind) ↔ ∃ v, v ∈ cells := by
  cases cells with
  | nil => simp [kindOf]
  | cons v rest => simp [kindOf]

theorem text_notMem_of_kindOf {cells : List Value} (h : kindOf cells = some .numeric) (s : String) :
    .text s ∉ cells := by
  intro hs
  have hany : cells.any (fun v => !(v.isNull || v.isNumeric)) = true :=
    List.any_eq_true.mpr ⟨_, hs, rfl⟩
  rw [kindOf, hany] at h
  split at h <;> cases h

theorem exists_text_of_kindOf {cells : List Value} {kind : ColumnType}
    (h : kindOf cells = some kind) (hkind : kind ≠ .numeric) : kind = .string ∧ ∃ s, .text s ∈ cells := by
  rw [kindOf] at h
  split at h
  · cases h
  · rw [Option.some.injEq] at h
    split at h
    case isTrue hany =>
      obtain ⟨v, hv, htext⟩ := List.any_eq_true.mp hany
      obtain ⟨s, rfl⟩ := Value.not_null_or_numeric_iff.mp htext
      exact ⟨h.symm, s, hv⟩
    case isFalse => exact absurd h.symm hkind

/-- The kinds of columns, after one more cell. -/
def withCell (kinds : SortedMap String ColumnType) (e : String × Value) :
    SortedMap String ColumnType :=
  kinds.insert e.1 (if !(e.2.isNull || e.2.isNumeric) then .string
    else (kinds.find? e.1).getD .numeric)

/-- The kind of a column comes from its own cells only. -/
theorem find?_foldl_withCell (cells : List (String × Value)) (name : String) :
    (cells.foldl withCell .empty).find? name =
      kindOf ((cells.filter (·.1 == name)).map Prod.snd) := by
  induction cells using List.reverseRecOn with
  | nil => rfl
  | append_singleton cells e ih =>
    rw [List.foldl_append, List.foldl_cons, List.foldl_nil, withCell, SortedMap.find?_insert,
      List.filter_append, List.map_append]
    by_cases hname : name = e.1
    · rw [← hname, ih, if_pos rfl, List.filter_cons_of_pos (by simp [hname])]
      exact (kindOf_append _ _).symm
    · rw [if_neg hname, ih, List.filter_cons_of_neg (by simp [Ne.symm hname])]
      simp

theorem find?_storedTypes (elements : List Record) (name : String) :
    (storedTypes elements).find? name =
      kindOf (((elements.flatMap SortedMap.entries).filter (·.1 == name)).map Prod.snd) := by
  rw [← find?_foldl_withCell, List.foldl_flatMap]
  rfl

/-! ## Stored tables -/

/-- The cells of a column: one for each drawn row that has an attribute of its name. -/
def columnCells (attributes : SortedMap Int Record) (name : String) : List Value :=
  (((attributes.mapValues fun _ element => storedElement element).values.flatMap
    SortedMap.entries).filter (·.1 == name)).map Prod.snd

theorem mem_columnCells {attributes : SortedMap Int Record} {name : String} {v : Value} :
    v ∈ columnCells attributes name ↔ name ≠ rowId ∧ ∃ element ∈ attributes.values,
      (element.find? name).map Value.coerceNumeric = some v := by
  have hvalues : (attributes.mapValues fun _ element => storedElement element).values =
      attributes.values.map storedElement := by
    simp [SortedMap.values, SortedMap.mapValues]
  have hcells : v ∈ columnCells attributes name ↔
      ∃ element ∈ attributes.values, (storedElement element).find? name = some v := by
    simp [columnCells, hvalues, SortedMap.find?_eq_some_iff_mem]
  rw [hcells]
  simp only [find?_storedElement]
  by_cases hname : name = rowId <;> simp [hname]

theorem mem_columns_storedTable {attributes : SortedMap Int Record} {column : Attribute} :
    column ∈ (storedTable attributes).columns ↔
      kindOf (columnCells attributes column.name) = some column.type := by
  rw [columnCells, ← find?_storedTypes, SortedMap.find?_eq_some_iff_mem, storedTable, List.mem_map]
  constructor
  · rintro ⟨e, he, rfl⟩
    exact he
  · exact fun hmem => ⟨_, hmem, rfl⟩

/-- What is stored of a mark's drawn rows: a row of cells for each, in the order of their
identities. A column is one of text if it holds text. -/
structure StoredTable.Shows (t : StoredTable) (attributes : SortedMap Int Record) : Prop where
  rows : t.rows = attributes.entries.map fun e =>
    .int e.1 :: t.columns.map fun column => storedCell e.2 column.name
  increasing : attributes.keys.Pairwise (· < ·)
  width : ∀ row ∈ t.rows, row.length = t.allColumns.length
  distinct : (t.allColumns.map Attribute.name).Nodup
  columns : ∀ name, (∃ column ∈ t.columns, column.name = name) ↔
    name ≠ rowId ∧ ∃ element ∈ attributes.values, ∃ v, element.find? name = some v
  numbers : ∀ row ∈ t.rows, ∀ (k : Nat) column v, t.columns[k]? = some column →
    row[k + 1]? = some v → column.type = .numeric → v.IsNullOrFloat
  texts : ∀ column ∈ t.columns, column.type ≠ .numeric → column.type = .string ∧
    ∃ element ∈ attributes.values, ∃ s, storedCell element column.name = .text s

theorem name_ne_rowId {attributes : SortedMap Int Record} {column : Attribute}
    (h : column ∈ (storedTable attributes).columns) : column.name ≠ rowId := by
  obtain ⟨v, hv⟩ := exists_kindOf_iff.mp ⟨_, mem_columns_storedTable.mp h⟩
  exact (mem_columnCells.mp hv).1

/-- The cells of the stored rows are those of the drawn rows, coerced. -/
theorem rows_storedTable (attributes : SortedMap Int Record) :
    (storedTable attributes).rows = attributes.entries.map fun e =>
      .int e.1 :: (storedTable attributes).columns.map fun column =>
        storedCell e.2 column.name := by
  have hrows : (storedTable attributes).rows = attributes.entries.map fun e =>
      .int e.1 :: (storedTable attributes).columns.map fun column =>
        ((storedElement e.2).find? column.name).getD .null := List.map_map
  rw [hrows]
  refine List.map_congr_left fun e _ => congrArg (List.cons (Value.int e.1)) ?_
  refine List.map_congr_left fun column hcolumn => ?_
  rw [find?_storedElement, if_neg (name_ne_rowId hcolumn), storedCell]

/-- A row that holds text in a column makes it one of text. -/
theorem isNullOrFloat_storedCell {attributes : SortedMap Int Record} {column : Attribute}
    (hcolumn : column ∈ (storedTable attributes).columns) (htype : column.type = .numeric)
    {element : Record} (helement : element ∈ attributes.values) :
    (storedCell element column.name).IsNullOrFloat := by
  rw [storedCell]
  cases hv : element.find? column.name with
  | none => exact .inl rfl
  | some v =>
    rcases v.isNullOrFloat_or_text with hplain | ⟨s, hs⟩
    · exact hplain
    · have hkind := mem_columns_storedTable.mp hcolumn
      rw [htype] at hkind
      refine absurd (mem_columnCells.mpr ⟨name_ne_rowId hcolumn, element, helement, ?_⟩)
        (text_notMem_of_kindOf hkind s)
      rw [hv, Option.map_some, hs]

theorem shows_storedTable (attributes : SortedMap Int Record) :
    (storedTable attributes).Shows attributes where
  rows := rows_storedTable attributes
  increasing := by
    refine List.pairwise_map.mpr (attributes.sorted.imp ?_)
    intro a b hlt
    exact Int.compare_eq_lt.mp hlt
  width := by
    intro row hrow
    rw [rows_storedTable] at hrow
    obtain ⟨e, -, rfl⟩ := List.mem_map.mp hrow
    simp [StoredTable.allColumns]
  distinct := by
    have hnames : (storedTable attributes).columns.map Attribute.name = (storedTypes
        (attributes.mapValues fun _ element => storedElement element).values).keys := by
      simp [storedTable, SortedMap.keys, Function.comp_def]
    refine List.nodup_cons.mpr ⟨?_, hnames ▸ SortedMap.nodup_keys _⟩
    intro hmem
    obtain ⟨column, hcolumn, hname⟩ := List.mem_map.mp hmem
    exact name_ne_rowId hcolumn hname
  columns := by
    intro name
    have hknown : (∃ column ∈ (storedTable attributes).columns, column.name = name) ↔
        ∃ kind, kindOf (columnCells attributes name) = some kind := by
      constructor
      · rintro ⟨column, hcolumn, rfl⟩
        exact ⟨_, mem_columns_storedTable.mp hcolumn⟩
      · rintro ⟨kind, hkind⟩
        exact ⟨⟨name, kind⟩, mem_columns_storedTable.mpr hkind, rfl⟩
    rw [hknown, exists_kindOf_iff]
    simp only [mem_columnCells, Option.map_eq_some_iff]
    constructor
    · rintro ⟨v, hname, element, helement, w, hw, -⟩
      exact ⟨hname, element, helement, w, hw⟩
    · rintro ⟨hname, element, helement, w, hw⟩
      exact ⟨_, hname, element, helement, w, hw, rfl⟩
  numbers := by
    intro row hrow k column v hcolumn hcell htype
    rw [rows_storedTable] at hrow
    obtain ⟨e, he, rfl⟩ := List.mem_map.mp hrow
    rw [List.getElem?_cons_succ, List.getElem?_map, hcolumn] at hcell
    cases hcell
    exact isNullOrFloat_storedCell (List.mem_of_getElem? hcolumn) htype (List.mem_map_of_mem he)
  texts := by
    intro column hcolumn htype
    obtain ⟨hkind, s, hs⟩ := exists_text_of_kindOf (mem_columns_storedTable.mp hcolumn) htype
    obtain ⟨-, element, helement, hcell⟩ := mem_columnCells.mp hs
    exact ⟨hkind, element, helement, s, by rw [storedCell, hcell, Option.getD_some]⟩

end KeyChart
