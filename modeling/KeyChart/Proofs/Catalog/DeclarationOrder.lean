import KeyChart.Proofs.Catalog.LoadedTables
import Mathlib.Data.Multiset.Defs

/-!
# The order of declarations

Scripts with the same declarations in another order are loaded with the same outcome.
The tables come first, and whether one can be registered, and with which keys, is a
matter of its own declaration and of what was known before. When the first foreign key
is looked at all keys are there, so that its cardinality does not depend on what else
has been registered, and a foreign key changes no table. Only the numbers of the
constraints follow the order of the script.
-/

namespace KeyChart

open Attempt

/-! ## Declarations up to their order -/

namespace Ddl

/-- A declared table without the order of its unique keys. -/
def TableDecl.content (d : TableDecl) :
    String × List ColumnDecl × List String × Multiset (List String) :=
  (d.name, d.columns, d.primaryKey, d.uniques)

/-- Two scripts declare the same tables and foreign keys, in whatever order. -/
structure Script.Agrees (s s' : Script) : Prop where
  tables : (s.tables.map TableDecl.content).Perm (s'.tables.map TableDecl.content)
  foreignKeys : s.foreignKeys.Perm s'.foreignKeys

theorem Script.Agrees.symm {s s' : Script} (h : s.Agrees s') : s'.Agrees s :=
  ⟨h.tables.symm, h.foreignKeys.symm⟩

end Ddl

/-! ## Tables up to the order of their keys -/

/-- Tables that differ in the order of their candidate keys at most. -/
structure Table.Alike (t t' : Table) : Prop where
  name : t.name = t'.name
  displayName : t.displayName = t'.displayName
  schema : t.schema = t'.schema
  keys : ∀ key, key ∈ t.keys ↔ key ∈ t'.keys
  derived : t.derived = t'.derived

theorem Table.Alike.refl (t : Table) : t.Alike t := ⟨rfl, rfl, rfl, fun _ => Iff.rfl, rfl⟩

theorem Table.Alike.isKey {t t' : Table} (h : t.Alike t') (attrs : List String) :
    t.isKey attrs = t'.isKey attrs := by
  rw [Bool.eq_iff_iff, isKey_iff, isKey_iff, h.keys]

/-- What a foreign key joins follows from the keys of its tables, not from their order. -/
theorem ForeignKey.between_congr {t u t' u' : Table} (ht : t.Alike t') (hu : u.Alike u')
    (x y : List String) : between t x u y = between t' x u' y := by
  simp only [between, ht.name, hu.name, Table.missing?_congr ht.schema,
    Table.missing?_congr hu.schema, ht.isKey, hu.isKey]

namespace Ddl.TableDecl

theorem Describes.alike {d : TableDecl} {t t' : Table} (h : d.Describes t)
    (h' : d.Describes t') : t.Alike t' where
  name := h.name.trans h'.name.symm
  displayName := h.displayName.trans h'.displayName.symm
  schema := Except.ok.inj (h.schema.symm.trans h'.schema)
  keys key := (h.keys key).trans (h'.keys key).symm
  derived := h.derived.trans h'.derived.symm

/-- What a declaration describes does not depend on the order of its unique keys. -/
theorem Describes.of_content {d d' : TableDecl} {t : Table} (hcontent : d.content = d'.content)
    (h : d.Describes t) : d'.Describes t := by
  simp only [content, Prod.mk.injEq, Multiset.coe_eq_coe] at hcontent
  obtain ⟨hname, hcolumns, hprimary, huniques⟩ := hcontent
  have hkeys : ∀ key, key ∈ d.keys ↔ key ∈ d'.keys := by
    intro key
    simp only [mem_keys, hprimary, huniques.mem_iff]
  exact
    { name := h.name.trans hname
      displayName := h.displayName.trans hname
      schema := by
        rw [attributes, ← hcolumns]
        exact h.schema
      keys := by
        intro key
        rw [h.keys, hkeys]
      derived := h.derived
      covered := fun key hkey => h.covered key ((hkeys key).mpr hkey) }

end Ddl.TableDecl

/-! ## Loading tables -/

namespace Catalog

variable {c c' : Catalog}

section Reordered

variable {ds ds' : List Ddl.TableDecl}
  (h : (ds.map Ddl.TableDecl.content).Perm (ds'.map Ddl.TableDecl.content))
include h

theorem names_perm : (ds.map Ddl.TableDecl.name).Perm (ds'.map Ddl.TableDecl.name) := by
  have hnames := h.map Prod.fst
  rw [List.map_map, List.map_map] at hnames
  exact hnames

theorem exists_mem_of_perm {d : Ddl.TableDecl} (hd : d ∈ ds) :
    ∃ d' ∈ ds', d'.content = d.content :=
  List.mem_map.mp (h.mem_iff.mp (List.mem_map_of_mem hd))

/-- Whether tables can be loaded does not depend on their order. -/
theorem Loadable.of_perm (hloadable : c.Loadable ds) : c.Loadable ds' where
  distinct := (names_perm h).nodup_iff.mp hloadable.distinct
  fresh := by
    intro d' hd'
    obtain ⟨d, hd, hcontent⟩ := exists_mem_of_perm h.symm hd'
    rw [← show d.name = d'.name from congrArg Prod.fst hcontent]
    exact hloadable.fresh d hd
  described := by
    intro d' hd'
    obtain ⟨d, hd, hcontent⟩ := exists_mem_of_perm h.symm hd'
    obtain ⟨t, ht⟩ := hloadable.described d hd
    exact ⟨t, ht.of_content hcontent⟩

/-- Tables that were loaded in another order are alike. -/
theorem Loads.alike {c₁ c₂ : Catalog} (h₁ : c.Loads c₁ ds) (h₂ : c.Loads c₂ ds') (name : String) :
    Option.Rel Table.Alike (c₁.tables.find? name) (c₂.tables.find? name) := by
  by_cases hname : name ∈ ds.map Ddl.TableDecl.name
  · obtain ⟨d, hd, rfl⟩ := List.mem_map.mp hname
    obtain ⟨d', hd', hcontent⟩ := exists_mem_of_perm h hd
    obtain ⟨t₁, ht₁, hfind₁⟩ := h₁.loaded d hd
    obtain ⟨t₂, ht₂, hfind₂⟩ := h₂.loaded d' hd'
    rw [show d'.name = d.name from congrArg Prod.fst hcontent] at hfind₂
    rw [hfind₁, hfind₂]
    exact .some (ht₁.alike (ht₂.of_content hcontent))
  · have hname' : name ∉ ds'.map Ddl.TableDecl.name := fun hin =>
      hname ((names_perm h).mem_iff.mpr hin)
    rw [h₁.others name hname, h₂.others name hname']
    cases c.tables.find? name with
    | none => exact .none
    | some t => exact .some (.refl t)

end Reordered

/-! ## Loading foreign keys -/

/-- The foreign key that a declaration makes of the tables as they are, if both are
known. -/
def declaredKey (c : Catalog) (d : Ddl.ForeignKeyDecl) : Except Error (Option ForeignKey) :=
  match c.tables.find? d.table, c.tables.find? d.target with
  | some t, some u => (ForeignKey.between t d.columns u d.targetColumns).map some
  | _, _ => .ok none

/-- The foreign key that a declaration makes, with the declared name. -/
def namedKey? (c : Catalog) (d : Ddl.ForeignKeyDecl) : Option (Option String × ForeignKey) :=
  (c.declaredKey d).toOption.join.map fun fk => (d.name, fk)

/-- What a declaration makes does not depend on the order of the keys of its tables. -/
theorem declaredKey_congr
    (h : ∀ name, Option.Rel Table.Alike (c.tables.find? name) (c'.tables.find? name)) :
    c.declaredKey = c'.declaredKey := by
  funext d
  have htable := h d.table
  have htarget := h d.target
  unfold declaredKey
  generalize c.tables.find? d.table = t, c'.tables.find? d.table = t' at htable ⊢
  generalize c.tables.find? d.target = u, c'.tables.find? d.target = u' at htarget ⊢
  cases htable with
  | none => rfl
  | some ht =>
    cases htarget with
    | none => rfl
    | some hu => simp only [ForeignKey.between_congr ht hu]

/-- The catalog with one more foreign key, if there is one. -/
def withKey (c : Catalog) (name : Option String) : Option ForeignKey → Catalog
  | none => c
  | some fk =>
    { c with
      constraints := c.constraints.insert ⟨c.nextId⟩ ⟨name, .foreignKey fk⟩
      nextId := c.nextId + 1 }

@[simp] theorem withKey_tables (c : Catalog) (name : Option String) (tie : Option ForeignKey) :
    (c.withKey name tie).tables = c.tables := by
  cases tie <;> rfl

theorem WellFormed.namedForeignKeys_withKey (hc : c.WellFormed) (name : Option String)
    (tie : Option ForeignKey) : (c.withKey name tie).namedForeignKeys =
      c.namedForeignKeys ++ (tie.map fun fk => (name, fk)).toList := by
  cases tie with
  | none => exact (List.append_nil _).symm
  | some fk => exact hc.namedForeignKeys_register name (.foreignKey fk) _

theorem run_loadForeignKey (c : Catalog) (d : Ddl.ForeignKeyDecl) :
    (loadForeignKey d).run.run c =
      if c.containsTable d.table && c.containsTable d.target then
        ((atomic fun c : Catalog => c.addForeignKey d.table d.columns d.target d.targetColumns d.name)
          >>= fun _ => pure ()).run.run c
      else (.ok (), c) := by
  unfold loadForeignKey
  rw [run_bind_of_ok (show (get : Attempt Catalog Catalog).run.run c = (.ok c, c) from rfl)]
  split <;> rfl

/-- A declared foreign key is registered as the tables are when its turn comes. -/
theorem WellFormed.run_loadForeignKey_of_ok (hc : c.WellFormed) {d : Ddl.ForeignKeyDecl}
    {tie : Option ForeignKey} (h : c.declaredKey d = .ok tie) :
    (loadForeignKey d).run.run c = (.ok (), c.withKey d.name tie) := by
  rw [run_loadForeignKey]
  unfold declaredKey at h
  simp only [containsTable, SortedMap.contains_eq_isSome]
  split at h
  case h_1 t u ht hu =>
    obtain ⟨fk, hfk, rfl⟩ := Except.map_eq_ok.mp h
    have htable := table_eq_ok.mpr ht
    have htarget := table_eq_ok.mpr hu
    have hadd := addForeignKey_of_between (by rwa [hc.named _ _ htable])
      (by rwa [hc.named _ _ htarget]) hfk d.name
    rw [hc.named _ _ htable, hc.named _ _ htarget] at hadd
    simp only [ht, hu, Option.isSome_some, Bool.and_self, if_true]
    rw [run_bind_of_ok (run_atomic_of_ok hadd)]
    rfl
  case h_2 hmissing =>
    cases h
    rw [if_neg]
    · rfl
    · intro hboth
      rw [Bool.and_eq_true, Option.isSome_iff_exists, Option.isSome_iff_exists] at hboth
      obtain ⟨⟨t, ht⟩, u, hu⟩ := hboth
      exact hmissing t u ht hu

theorem WellFormed.of_loadForeignKey (hc : c.WellFormed) {d : Ddl.ForeignKeyDecl}
    {r : Except Error Unit} (h : (loadForeignKey d).run.run c = (r, c')) : c'.WellFormed := by
  have hkeeps := keptByAdding_wellFormed.keptByRegistering.loadForeignKey d c hc
  rwa [Attempt.after, h] at hkeeps

theorem exists_declaredKey {d : Ddl.ForeignKeyDecl} {u : Unit}
    (h : (loadForeignKey d).run.run c = (.ok u, c')) : ∃ tie, c.declaredKey d = .ok tie := by
  unfold declaredKey
  split
  case h_1 t u ht hu =>
    rw [run_loadForeignKey] at h
    simp only [containsTable, SortedMap.contains_eq_isSome, ht, hu] at h
    obtain ⟨id, c₁, hatomic, -⟩ := run_bind_eq_ok h
    obtain ⟨t', u', fk, ht', hu', hfk, -⟩ := addForeignKey_eq_ok (run_atomic_eq_ok hatomic)
    obtain rfl := Option.some.inj (ht.symm.trans (table_eq_ok.mp ht'))
    obtain rfl := Option.some.inj (hu.symm.trans (table_eq_ok.mp hu'))
    exact ⟨some fk, by rw [hfk]; rfl⟩
  case h_2 => exact ⟨none, rfl⟩

/-- Registers declared foreign keys one after the other. -/
def loadForeignKeys (ds : List Ddl.ForeignKeyDecl) : Attempt Catalog Unit := do
  for d in ds do
    loadForeignKey d

theorem loadForeignKeys_cons (d : Ddl.ForeignKeyDecl) (ds : List Ddl.ForeignKeyDecl) :
    loadForeignKeys (d :: ds) = loadForeignKey d >>= fun _ => loadForeignKeys ds := by
  simp only [loadForeignKeys, List.forIn_cons, bind_assoc, pure_bind]

/-- Foreign keys change no table, so that each of them is made of the tables that are there
when the first is looked at. -/
theorem WellFormed.exists_loadForeignKeys (hc : c.WellFormed) {ds : List Ddl.ForeignKeyDecl}
    (h : ∀ d ∈ ds, ∃ tie, c.declaredKey d = .ok tie) :
    ∃ c', (loadForeignKeys ds).run.run c = (.ok (), c') ∧ c'.tables = c.tables ∧
      c'.namedForeignKeys = c.namedForeignKeys ++ ds.filterMap c.namedKey? := by
  induction ds generalizing c with
  | nil => exact ⟨c, rfl, rfl, (List.append_nil _).symm⟩
  | cons d ds ih =>
    obtain ⟨tie, htie⟩ := h d (by simp)
    have hrun := hc.run_loadForeignKey_of_ok htie
    have hsame : (c.withKey d.name tie).declaredKey = c.declaredKey := by
      funext d'
      simp only [declaredKey, withKey_tables]
    have hnamed : (c.withKey d.name tie).namedKey? = c.namedKey? := by
      funext d'
      rw [namedKey?, hsame, namedKey?]
    have hc' : (c.withKey d.name tie).WellFormed := hc.of_loadForeignKey hrun
    obtain ⟨c', hrest, htables, hkeys⟩ := ih hc' fun d' hd' => by
      rw [hsame]
      exact h d' (by simp [hd'])
    refine ⟨c', ?_, by rw [htables, withKey_tables], ?_⟩
    · rw [loadForeignKeys_cons, run_bind_of_ok hrun, hrest]
    · have hfirst : (tie.map fun fk => (d.name, fk)) = c.namedKey? d := by
        rw [namedKey?, htie]
        rfl
      rw [hkeys, hc.namedForeignKeys_withKey, hnamed, hfirst, List.filterMap_cons]
      cases c.namedKey? d <;> simp

theorem WellFormed.declaredKeys_of_loadForeignKeys (hc : c.WellFormed)
    {ds : List Ddl.ForeignKeyDecl} (h : (loadForeignKeys ds).run.run c = (.ok (), c')) :
    ∀ d ∈ ds, ∃ tie, c.declaredKey d = .ok tie := by
  induction ds generalizing c with
  | nil => simp
  | cons d ds ih =>
    rw [loadForeignKeys_cons] at h
    obtain ⟨u, c₁, hfirst, hrest⟩ := run_bind_eq_ok h
    obtain ⟨tie, htie⟩ := exists_declaredKey hfirst
    have hrun := hc.run_loadForeignKey_of_ok htie
    rw [hfirst] at hrun
    cases hrun
    have hc' : (c.withKey d.name tie).WellFormed := hc.of_loadForeignKey hfirst
    intro d' hd'
    rcases List.mem_cons.mp hd' with rfl | hd'
    · exact ⟨tie, htie⟩
    · have hd' := ih hc' hrest d' hd'
      simpa only [declaredKey, withKey_tables] using hd'

/-! ## Loading scripts -/

/-- Catalogs that differ in the order of candidate keys and in the numbers of constraints
at most. -/
structure Alike (c c' : Catalog) : Prop where
  tables : ∀ name, Option.Rel Table.Alike (c.tables.find? name) (c'.tables.find? name)
  foreignKeys : c.namedForeignKeys.Perm c'.namedForeignKeys

theorem run_loadDdl {sql : String} {s : Ddl.Script} (h : Ddl.parse sql = .ok s) (c : Catalog) :
    (loadDdl sql).run.run c = ((s.tables.mapM loadTable) >>= fun names =>
      loadForeignKeys s.foreignKeys >>= fun _ => pure names).run.run c := by
  have hparse : (Attempt.ofExcept ((Ddl.parse sql).mapError Error.ddl) :
      Attempt Catalog Ddl.Script).run.run c = (.ok s, c) := by
    rw [h]
    rfl
  rw [loadDdl, run_bind_of_ok hparse]
  simp only [loadScript, loadForeignKeys, bind_assoc, pure_bind]

/-- A script that was loaded can be loaded with its declarations in any other order, and
leads to the same catalog but for the numbers of the constraints. -/
theorem WellFormed.loadDdl_reordered (hc : c.WellFormed) {sql sql' : String} {s s' : Ddl.Script}
    (hs : Ddl.parse sql = .ok s) (hs' : Ddl.parse sql' = .ok s') (h : s.Agrees s')
    {names : List String} (hload : (loadDdl sql).run.run c = (.ok names, c')) :
    ∃ names' c'', (loadDdl sql').run.run c = (.ok names', c'') ∧ names.Perm names' ∧
      c'.Alike c'' := by
  rw [run_loadDdl hs] at hload
  obtain ⟨_, c₁, htables, hrest⟩ := run_bind_eq_ok hload
  obtain ⟨u, c₂, hkeys, hend⟩ := run_bind_eq_ok hrest
  cases hend
  obtain ⟨rfl, hloadable, hloads⟩ := hc.loads_of_loadTables htables
  obtain ⟨names', c₁', htables'⟩ := hc.exists_loadTables (hloadable.of_perm h.tables)
  obtain ⟨rfl, -, hloads'⟩ := hc.loads_of_loadTables htables'
  have halike := hloads.alike h.tables hloads'
  have hdeclared := hloads.wellFormed.declaredKeys_of_loadForeignKeys hkeys
  obtain ⟨c₃, hkeys', htables₃, hnamed⟩ := hloads.wellFormed.exists_loadForeignKeys hdeclared
  rw [hkeys] at hkeys'
  cases hkeys'
  have hsame := declaredKey_congr halike
  have hdeclared' : ∀ d ∈ s'.foreignKeys, ∃ tie, c₁'.declaredKey d = .ok tie := by
    intro d hd
    rw [← hsame]
    exact hdeclared d (h.foreignKeys.mem_iff.mpr hd)
  obtain ⟨c₃', hkeys'', htables₃', hnamed'⟩ :=
    hloads'.wellFormed.exists_loadForeignKeys hdeclared'
  refine ⟨_, c₃', ?_, names_perm h.tables, ?_, ?_⟩
  · rw [run_loadDdl hs', run_bind_of_ok htables', run_bind_of_ok hkeys'']
    rfl
  · rw [htables₃, htables₃']
    exact halike
  · have hfunction : c₁.namedKey? = c₁'.namedKey? := by
      funext d
      rw [namedKey?, hsame, namedKey?]
    rw [hnamed, hnamed', hloads.foreignKeys, hloads'.foreignKeys, hfunction]
    exact (h.foreignKeys.filterMap _).append_left _

end Catalog

/-- The order of a script's declarations does not matter, whatever the catalog: with the
same tables and foreign keys in another order, and the unique keys of a table in another
order, a script can be loaded or fails just the same. If it is loaded, the tables have the
same columns and candidate keys, and the same foreign keys are registered, under the same
names and with the same cardinalities. -/
theorem declaration_order_does_not_matter (calls : List Catalog.Call) (sql sql' : String)
    (s s' : Ddl.Script) (hs : Ddl.parse sql = .ok s) (hs' : Ddl.parse sql' = .ok s')
    (h : s.Agrees s') :
    ((∃ names c, (Catalog.loadDdl sql).run.run (Catalog.reached calls) = (.ok names, c)) ↔
      ∃ names c, (Catalog.loadDdl sql').run.run (Catalog.reached calls) = (.ok names, c)) ∧
    ∀ names names' c c',
      (Catalog.loadDdl sql).run.run (Catalog.reached calls) = (.ok names, c) →
      (Catalog.loadDdl sql').run.run (Catalog.reached calls) = (.ok names', c') →
      names.Perm names' ∧ c.Alike c' := by
  have hc := Catalog.wellFormed_reached calls
  refine ⟨⟨?_, ?_⟩, ?_⟩
  · rintro ⟨names, c, hload⟩
    obtain ⟨names', c', hload', -⟩ := hc.loadDdl_reordered hs hs' h hload
    exact ⟨names', c', hload'⟩
  · rintro ⟨names, c, hload⟩
    obtain ⟨names', c', hload', -⟩ := hc.loadDdl_reordered hs' hs h.symm hload
    exact ⟨names', c', hload'⟩
  · intro names names' c c' hload hload'
    obtain ⟨names'', c'', hload'', hnames, halike⟩ := hc.loadDdl_reordered hs hs' h hload
    rw [hload'] at hload''
    cases hload''
    exact ⟨hnames, halike⟩

/-- Authors, each with a number. -/
def authors : Ddl.TableDecl where
  name := "authors"
  columns := [⟨"id", "INT", .numeric, false⟩]
  primaryKey := ["id"]

/-- Books with unique keys in some order. -/
def books (uniques : List (List String)) : Ddl.TableDecl where
  name := "books"
  columns := [⟨"author", "INT", .numeric, false⟩, ⟨"isbn", "TEXT", .string, false⟩]
  uniques := uniques

/-- The authors of books. -/
def writtenBy : Ddl.ForeignKeyDecl := ⟨none, "books", ["author"], "authors", ["id"]⟩

/-- A script that declares books before authors. -/
def booksFirst : String :=
  "CREATE TABLE books (author INT REFERENCES authors, isbn TEXT, UNIQUE (isbn), UNIQUE (author));
   CREATE TABLE authors (id INT PRIMARY KEY)"

/-- The same declarations the other way round. -/
def authorsFirst : String :=
  "CREATE TABLE authors (id INT PRIMARY KEY);
   CREATE TABLE books (author INT REFERENCES authors, isbn TEXT, UNIQUE (author), UNIQUE (isbn))"

/-- Books are found to have one author each before and behind the authors. -/
theorem declaration_order_does_not_matter_books : ∃ names names' c c',
    (Catalog.loadDdl booksFirst).run.run (Catalog.reached []) = (.ok names, c) ∧
      (Catalog.loadDdl authorsFirst).run.run (Catalog.reached []) = (.ok names', c') ∧
      c.Alike c' ∧ c'.namedForeignKeys =
        [(none, ⟨⟨"books", ["author"]⟩, ⟨"authors", ["id"]⟩, .oneOne⟩)] := by
  have hs : Ddl.parse booksFirst =
      .ok ⟨[books [["isbn"], ["author"]], authors], [writtenBy]⟩ := by
    decide +kernel
  have hs' : Ddl.parse authorsFirst =
      .ok ⟨[authors, books [["author"], ["isbn"]]], [writtenBy]⟩ := by
    decide +kernel
  have hagrees : Ddl.Script.Agrees ⟨[books [["isbn"], ["author"]], authors], [writtenBy]⟩
      ⟨[authors, books [["author"], ["isbn"]]], [writtenBy]⟩ := by
    refine ⟨?_, .refl _⟩
    have huniques : (books [["isbn"], ["author"]]).content =
        (books [["author"], ["isbn"]]).content := by
      simp [Ddl.TableDecl.content, books, List.Perm.swap]
    rw [List.map_cons, List.map_singleton, huniques]
    exact .swap _ _ _
  obtain ⟨hsame, hboth⟩ := declaration_order_does_not_matter [] _ _ _ _ hs hs' hagrees
  have hload : ((Catalog.loadDdl booksFirst).run.run (Catalog.reached [])).1 =
      .ok ["books", "authors"] := by
    rw [Catalog.run_loadDdl hs]
    decide +kernel
  have hkeys : ((Catalog.loadDdl booksFirst).run.run (Catalog.reached [])).2.namedForeignKeys =
      [(none, ⟨⟨"books", ["author"]⟩, ⟨"authors", ["id"]⟩, .oneOne⟩)] := by
    rw [Catalog.run_loadDdl hs]
    decide +kernel
  generalize (Catalog.loadDdl booksFirst).run.run (Catalog.reached []) = r at *
  obtain ⟨r, c⟩ := r
  obtain rfl : r = .ok ["books", "authors"] := hload
  obtain ⟨names', c', hload'⟩ := hsame.mp ⟨_, c, rfl⟩
  obtain ⟨-, halike⟩ := hboth _ _ _ _ rfl hload'
  refine ⟨_, names', c, c', rfl, hload', halike, ?_⟩
  exact List.perm_singleton.mp (halike.foreignKeys.symm.trans (.of_eq hkeys))

end KeyChart
