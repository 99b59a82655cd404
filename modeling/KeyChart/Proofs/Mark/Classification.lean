import KeyChart.Mark.Basic
import KeyChart.Proofs.Catalog.Growth
import KeyChart.Proofs.Mark.References

/-!
# What classified channels rest on

Columns are checked when a channel is classified, and not again when its query is made. A
column of the mark's own table is one of its attributes, one of a named table an attribute of
that table, and a search is for a named column. Whatever path a reference is resolved to
later, the table in which it ends has the column.
-/

namespace KeyChart

/-- What is known of a classified channel of a mark over a table: its column is an attribute
of the table, the column of a reference to a named table is an attribute of that one, and a
search is for a column. -/
structure Channel.Grounded (c : Catalog) (table : Table) (channel : Channel) : Prop where
  column : ∀ attr, channel.column? = some attr → table.hasAttribute attr = true
  named : ∀ r name, channel.foreign? = some r → r.target = .table name →
    ∃ t, c.table name = .ok t ∧ t.hasAttribute (r.column.getD rowId) = true
  searched : ∀ r, channel.foreign? = some r → r.target = .search → r.column.isSome = true

namespace Channel

variable {c : Catalog} {table : Table} {source name : String} {channel : Channel}

/-- A channel without a column and a reference. -/
theorem grounded_of_none (hcolumn : channel.column? = none) (hforeign : channel.foreign? = none) :
    channel.Grounded c table where
  column := by simp [hcolumn]
  named := by simp [hforeign]
  searched := by simp [hforeign]

theorem Grounded.scaled (h : channel.Grounded c table) (scale : Scale) :
    (Channel.scaled channel scale).Grounded c table :=
  ⟨h.column, h.named, h.searched⟩

theorem grounded_column {attr : String} (h : table.hasAttribute attr = true)
    (transform : Option (Value → Value)) : (Channel.column attr transform).Grounded c table where
  column := by
    rintro _ ⟨⟩
    exact h
  named := by rintro _ _ ⟨⟩
  searched := by rintro _ ⟨⟩

/-- Where a reference may look: in a mark, in a table that has the column, or, for a column,
in all tables. -/
theorem findTarget_eq_ok {spec : RefSpec} {column : Option String} {target : RefTarget}
    (h : findTarget c source spec column = .ok target) :
    (∃ id, target = .mark id) ∨
      (∃ name t, target = .table name ∧ c.table name = .ok t ∧
        t.hasAttribute (column.getD rowId) = true) ∨
      (target = .search ∧ column.isSome = true) := by
  unfold findTarget at h
  split at h
  case h_1 id _ =>
    cases h
    exact .inl ⟨id, rfl⟩
  case h_2 name _ =>
    split at h
    · cases h
    case h_2 t ht =>
      refine .inr (.inl ⟨name, t, ?_⟩)
      split at h
      case h_1 attr =>
        split at h
        case isTrue hattr =>
          cases h
          exact ⟨rfl, ht, hattr⟩
        case isFalse => cases h
      case h_2 =>
        cases h
        exact ⟨rfl, ht, rfl⟩
  case h_3 =>
    split at h
    · cases h
    · split at h
      · cases h
      · cases h
        exact .inr (.inr ⟨rfl, rfl⟩)

theorem grounded_of_findTarget {spec : RefSpec} {column : Option String} {target : RefTarget}
    (h : findTarget c source spec column = .ok target) (aggregate : Option Aggregate) :
    (Channel.foreign ⟨column, aggregate, target, spec.searchKey, spec.via,
      spec.transform⟩).Grounded c table where
  column := by rintro _ ⟨⟩
  named := by
    rintro r name ⟨⟩ rfl
    rcases findTarget_eq_ok h with ⟨id, heq⟩ | ⟨name', t, heq, ht⟩ | ⟨heq, -⟩
    · cases heq
    · cases heq
      exact ⟨t, ht⟩
    · cases heq
  searched := by
    rintro r ⟨⟩ rfl
    rcases findTarget_eq_ok h with ⟨id, heq⟩ | ⟨name, t, heq, -⟩ | ⟨-, hcolumn⟩
    · cases heq
    · cases heq
    · exact hcolumn

theorem grounded_of_classifyGet {spec : RefSpec}
    (h : classifyGet c table source spec = .ok channel) : channel.Grounded c table := by
  -- A reference that is not to the mark's own table is checked against where it looks.
  have helsewhere : ∀ {column : Option String} {aggregate : Option Aggregate},
      ((findTarget c source spec column).map fun target => Channel.foreign
        ⟨column, aggregate, target, spec.searchKey, spec.via, spec.transform⟩) = .ok channel →
      channel.Grounded c table := by
    intro column aggregate h
    obtain ⟨target, htarget, rfl⟩ := Except.map_eq_ok.mp h
    exact grounded_of_findTarget htarget aggregate
  simp only [classifyGet] at h
  split at h
  · split at h
    · split at h
      case isTrue hattr =>
        cases h
        exact grounded_column hattr _
      case isFalse => exact helsewhere h
    · exact helsewhere h
  · exact helsewhere h

/-- Every classified channel is grounded. The induction is on the declaration, which is nested
in scaled ones. -/
theorem grounded_of_classifyOver {mapping : Mapping}
    (h : classifyOver c table source name mapping = .ok channel) : channel.Grounded c table := by
  induction mapping generalizing channel with
  | literal v =>
    cases h
    exact grounded_of_none rfl rfl
  | field attr =>
    simp only [classifyOver] at h
    split at h
    case isTrue hattr =>
      cases h
      exact grounded_column hattr none
    case isFalse => cases h
  | get spec => exact grounded_of_classifyGet h
  | scaled inner scale ih =>
    simp only [classifyOver] at h
    split at h
    · cases h
    case h_2 hinner =>
      cases h
      exact (ih hinner).scaled scale
    case h_3 hinner =>
      cases h
      exact (ih hinner).scaled scale
    · cases h
  | layout arrangement part =>
    simp only [classifyOver] at h
    split at h
    · cases h
    · split at h
      · split at h
        · cases h
          exact grounded_of_none rfl rfl
        · cases h
      · cases h
        exact grounded_of_none rfl rfl
  | callback f =>
    cases h
    exact grounded_of_none rfl rfl

theorem grounded_of_classify {mapping : Mapping} (htable : c.table source = .ok table)
    (h : classify c source name mapping = .ok channel) : channel.Grounded c table := by
  simp only [classify, htable] at h
  split at h
  · cases h
  · exact grounded_of_classifyOver h

end Channel

/-- The table in which the path of a grounded reference ends has its column. -/
theorem Reference.hasAttribute_of_reaches {c : Catalog} (hc : c.WellFormed) {table : Table}
    {channel : Channel} (hchannel : channel.Grounded c table) {r : ForeignRef}
    (hr : channel.foreign? = some r) (hmark : channel.referencedMark? = none) {a b : String}
    {markTables : SortedMap MarkId String} (h : Reaches c a markTables r b) :
    ∃ t, c.table b = .ok t ∧ t.hasAttribute (r.column.getD rowId) = true := by
  cases htarget : r.target with
  | table name =>
    simp only [Reaches, htarget] at h
    rw [h]
    exact hchannel.named r name hr htarget
  | mark id => simp [Channel.referencedMark?, hr, htarget] at hmark
  | search =>
    simp only [Reaches, htarget] at h
    obtain ⟨key, t, ht, -, -, hattr, rfl⟩ := Catalog.mem_tablesWithAttribute.mp h
    obtain ⟨attr, hcolumn⟩ := Option.isSome_iff_exists.mp (hchannel.searched r hr htarget)
    -- Tables are known by their own names, so the one that declares the column is the one in
    -- which the path ends.
    obtain rfl := hc.named key t ht
    refine ⟨t, ht, ?_⟩
    rw [searchedAttr, hcolumn] at hattr
    rw [hcolumn, Table.hasAttribute]
    simp only [Option.getD_some] at hattr ⊢
    rw [hattr, Bool.or_true]

/-- The channels of a mark are classified against a catalog. -/
def Mark.Classified (m : Mark) (c : Catalog) : Prop :=
  ∀ channel ∈ m.channels, ∃ mapping,
    Channel.classify c m.source channel.1 mapping = .ok channel.2

theorem Mark.classified_ofSpec {c : Catalog} {spec : MarkSpec} {channels : List (String × Channel)}
    (h : spec.classify c = .ok channels) (id : MarkId) (table : String) :
    (Mark.ofSpec id spec channels table).Classified c := by
  intro channel hchannel
  obtain ⟨declared, -, hdeclared⟩ := Except.exists_of_mem_mapM h hchannel
  obtain ⟨classified, hclassify, rfl⟩ := Except.map_eq_ok.mp hdeclared
  exact ⟨declared.2, hclassify⟩

end KeyChart
