import KeyChart.Proofs.Except
import KeyChart.Proofs.Store.Listings
import Mathlib.Data.List.Nodup

/-!
# Foreign keys of a store

A store lists its foreign keys row by row. Read one after the other, with a key that is open
until a row of another key comes, the rows give one foreign key for each number, with all its
columns. Where the rows leave the target columns open the primary key of the target is meant,
but every row gets its first column, so that a key comes out whole just if it names its target
columns or has a single one.
-/

namespace KeyChart.Store

variable {rows own : List KeyRow} {openTarget : String → String}

/-! ## Rows and keys -/

/-- The rows of a key. -/
def rowsOfKey (rows : List KeyRow) (key : Nat) : List KeyRow :=
  rows.filter fun row => row.key = key

/-- The keys that have rows, each once. -/
def listedKeys (rows : List KeyRow) : List Nat := (rows.map KeyRow.key).eraseDups

/-- The target of the first of some rows. -/
def targetOf (own : List KeyRow) : String := (own.head?.map KeyRow.target).getD ""

/-- Whether the target columns of some rows are left open. -/
def isOpen (own : List KeyRow) : Bool := own.all fun row => row.targetColumn.isNone

/-- Rows as a store lists them: key by key, the rows of one key with one target, and with
target columns or without. -/
structure Listed (rows : List KeyRow) : Prop where
  ordered : rows.Pairwise fun row row' => row.key ≤ row'.key
  target : ∀ row ∈ rows, ∀ row' ∈ rows, row.key = row'.key → row.target = row'.target
  named : ∀ row ∈ rows, ∀ row' ∈ rows, row.key = row'.key →
    row.targetColumn.isSome = row'.targetColumn.isSome

theorem mem_listedKeys {key : Nat} : key ∈ listedKeys rows ↔ ∃ row ∈ rows, row.key = key := by
  rw [listedKeys, List.mem_eraseDups, List.mem_map]

theorem listedKeys_cons (row : KeyRow) (rest : List KeyRow) :
    listedKeys (row :: rest) =
      row.key :: listedKeys (rest.filter fun row' => row'.key ≠ row.key) := by
  have hothers : (rest.map KeyRow.key).filter (fun key => !key == row.key) =
      (rest.filter fun row' => row'.key ≠ row.key).map KeyRow.key := by
    rw [List.filter_map]
    congr 1
    refine List.filter_congr ?_
    intro row' _
    rw [Bool.eq_iff_iff]
    simp
  rw [listedKeys, List.map_cons, List.eraseDups_cons, hothers, listedKeys]

/-- Keys are listed in the order of their numbers. -/
theorem pairwise_listedKeys {rows : List KeyRow}
    (h : rows.Pairwise fun row row' => row.key ≤ row'.key) : (listedKeys rows).Pairwise (· < ·) :=
  match rows, h with
  | [], _ => .nil
  | row :: rest, h => by
    obtain ⟨hfirst, hrest⟩ := List.pairwise_cons.mp h
    rw [listedKeys_cons]
    refine List.pairwise_cons.mpr ⟨?_, pairwise_listedKeys (hrest.filter _)⟩
    intro key hkey
    obtain ⟨row', hrow', rfl⟩ := mem_listedKeys.mp hkey
    obtain ⟨hmem, hne⟩ := List.mem_filter.mp hrow'
    exact Nat.lt_of_le_of_ne (hfirst row' hmem) (of_decide_eq_true hne).symm
  termination_by rows.length
  decreasing_by
    exact Nat.lt_succ_of_le (List.length_filter_le _ _)

/-! ## Reading the rows -/

/-- The foreign key that some rows give, each with its own target column. -/
def keyOfRows (openTarget : String → String) (own : List KeyRow) : TableConstraint :=
  .foreignKey (own.map KeyRow.column) (targetOf own)
    (own.map fun row => row.targetColumn.getD (openTarget row.target))

/-- An open key after more rows of it. -/
def OpenKey.extend (openTarget : String → String) (k : OpenKey) (own : List KeyRow) : OpenKey :=
  { k with
    columns := k.columns ++ own.map KeyRow.column
    targetColumns := k.targetColumns ++
      own.map fun row => row.targetColumn.getD (openTarget row.target) }

theorem rowsOfKey_cons_of_eq {row : KeyRow} {key : Nat} (h : row.key = key) (rest : List KeyRow) :
    rowsOfKey (row :: rest) key = row :: rowsOfKey rest key := by
  rw [rowsOfKey, List.filter_cons_of_pos (by simpa using h), rowsOfKey]

theorem rowsOfKey_cons_of_ne {row : KeyRow} {key : Nat} (h : row.key ≠ key) (rest : List KeyRow) :
    rowsOfKey (row :: rest) key = rowsOfKey rest key := by
  rw [rowsOfKey, List.filter_cons_of_neg (by simpa using h), rowsOfKey]

/-- A row ahead of the others has no part in their keys. -/
theorem map_rowsOfKey_cons (row : KeyRow) (rest : List KeyRow) :
    ((listedKeys (rest.filter fun row' => row'.key ≠ row.key)).map fun key =>
        keyOfRows openTarget (rowsOfKey (row :: rest) key)) =
      (listedKeys (rest.filter fun row' => row'.key ≠ row.key)).map fun key =>
        keyOfRows openTarget (rowsOfKey rest key) := by
  refine List.map_congr_left ?_
  intro key hkey
  obtain ⟨row', hrow', rfl⟩ := mem_listedKeys.mp hkey
  have hne := of_decide_eq_true (List.mem_filter.mp hrow').2
  rw [rowsOfKey_cons_of_ne hne.symm]

/-- After an open key come its own rows, and the other keys from their rows. -/
theorem readKeyRows_some {k : OpenKey} (h : rows.Pairwise fun row row' => row.key ≤ row'.key)
    (hafter : ∀ row ∈ rows, k.key ≤ row.key) :
    readKeyRows openTarget (some k) rows =
      (k.extend openTarget (rowsOfKey rows k.key)).close ::
        (listedKeys (rows.filter fun row => row.key ≠ k.key)).map fun key =>
          keyOfRows openTarget (rowsOfKey rows key) := by
  induction rows generalizing k with
  | nil => simp [readKeyRows, OpenKey.extend, rowsOfKey, listedKeys]
  | cons row rest ih =>
    obtain ⟨hfirst, hrest⟩ := List.pairwise_cons.mp h
    rw [readKeyRows]
    by_cases hkey : k.key = row.key
    · have hread := ih (k := { k with
          columns := k.columns ++ [row.column]
          targetColumns := k.targetColumns ++ [row.targetColumn.getD (openTarget row.target)] })
        hrest fun row' hrow' => hafter row' (List.mem_cons_of_mem _ hrow')
      rw [if_pos hkey, hread, rowsOfKey_cons_of_eq hkey.symm,
        List.filter_cons_of_neg (by simpa using hkey.symm), hkey, map_rowsOfKey_cons]
      simp [OpenKey.extend, OpenKey.close]
    · -- The rows of the open key are all read, since a later one has come.
      have hlt : k.key < row.key := Nat.lt_of_le_of_ne (hafter row List.mem_cons_self) hkey
      have hnot : ∀ row' ∈ row :: rest, row'.key ≠ k.key := by
        intro row' hrow'
        rcases List.mem_cons.mp hrow' with rfl | hrow'
        · exact Ne.symm hkey
        · exact Nat.ne_of_gt (Nat.lt_of_lt_of_le hlt (hfirst row' hrow'))
      have hnone : rowsOfKey (row :: rest) k.key = [] :=
        List.filter_eq_nil_iff.mpr fun row' hrow' => by simpa using hnot row' hrow'
      have hall : (row :: rest).filter (fun row' => row'.key ≠ k.key) = row :: rest :=
        List.filter_eq_self.mpr fun row' hrow' => decide_eq_true (hnot row' hrow')
      rw [if_neg hkey, ih hrest hfirst, hnone, hall, listedKeys_cons, List.map_cons,
        map_rowsOfKey_cons, rowsOfKey_cons_of_eq rfl]
      simp [OpenKey.extend, OpenKey.close, keyOfRows, targetOf]

/-- Rows that come key by key give one foreign key for each. -/
theorem foreignKeysOf_eq (h : rows.Pairwise fun row row' => row.key ≤ row'.key) :
    foreignKeysOf openTarget rows =
      (listedKeys rows).map fun key => keyOfRows openTarget (rowsOfKey rows key) := by
  cases rows with
  | nil => rfl
  | cons row rest =>
    obtain ⟨hfirst, hrest⟩ := List.pairwise_cons.mp h
    rw [foreignKeysOf, readKeyRows, readKeyRows_some hrest hfirst, listedKeys_cons, List.map_cons,
      map_rowsOfKey_cons, rowsOfKey_cons_of_eq rfl]
    simp [OpenKey.extend, OpenKey.close, keyOfRows, targetOf]

/-! ## What is told of a table -/

/-- A primary key and unique keys are no foreign keys. -/
theorem foreignKey_not_mem_keysOf (listed : List ColumnRow) (uniques : List (List String))
    (columns : List String) (target : String) (targetColumns : List String) :
    .foreignKey columns target targetColumns ∉ keysOf listed uniques := by
  intro hmem
  rcases List.mem_append.mp hmem with hkey | hunique
  · split at hkey <;> simp at hkey
  · simp at hunique

/-- The foreign keys come last in what is told of a table, and nothing fails if the targets
that are left open can tell their columns. -/
theorem Listings.constraints_eq {l : Listings} {name : String} {columns : List ColumnRow}
    {uniques : List (List String)} (hcolumns : l.columns name = .ok columns)
    (huniques : l.uniqueKeys name = .ok uniques) (hrows : l.foreignKeys name = .ok rows)
    (htargets : ∀ row ∈ rows, row.targetColumn = none →
      ∃ targetColumns, l.columns row.target = .ok targetColumns) :
    l.constraints name = .ok (keysOf columns uniques ++ foreignKeysOf l.openTarget rows) := by
  have hopen : ((rows.filter fun row => row.targetColumn.isNone).mapM fun row =>
      l.columns row.target) = .ok ((rows.filter fun row => row.targetColumn.isNone).map fun row =>
        (l.columns row.target).toOption.getD []) := by
    refine Except.mapM_eq_pure fun row hrow => ?_
    obtain ⟨hmem, hnone⟩ := List.mem_filter.mp hrow
    obtain ⟨targetColumns, htarget⟩ := htargets row hmem (Option.isNone_iff_eq_none.mp hnone)
    rw [htarget]
    rfl
  rw [constraints, hcolumns, huniques, hrows]
  simp only [bind, Except.bind]
  rw [hopen]
  rfl

/-! ## Whole keys -/

/-- The foreign key of some rows, to the primary key of the target if they leave it open. -/
def wholeKey (l : Listings) (own : List KeyRow) : TableConstraint :=
  .foreignKey (own.map KeyRow.column) (targetOf own)
    (if isOpen own then l.primaryKey (targetOf own) else own.filterMap KeyRow.targetColumn)

/-- The foreign key that is read off some rows: if they leave the target columns open, each of
them gets the first column of the target's primary key. -/
def readKey (l : Listings) (own : List KeyRow) : TableConstraint :=
  .foreignKey (own.map KeyRow.column) (targetOf own)
    (if isOpen own then
      List.replicate own.length ((l.primaryKey (targetOf own)).head?.getD rowId)
    else own.filterMap KeyRow.targetColumn)

/-- The target of some rows tells its columns, and its primary key has as many as there are
rows. -/
def HasKeyFor (l : Listings) (own : List KeyRow) : Prop :=
  ∃ columns, l.columns (targetOf own) = .ok columns ∧ Numbered columns ∧
    (primaryKeyOf columns).length = own.length

/-- A table of a store that was declared with a primary key of as many columns has a key for
some rows, whatever was done to the store. -/
theorem TableStore.Reached.hasKeyFor {s : TableStore} {t : StoreTable} (h : s.Reached)
    (ht : s.table? (heard (targetOf own)) = some t) (hkey : t.primaryKey.Nodup)
    (hlength : t.primaryKey.length = own.length) : HasKeyFor s.listings own := by
  have hdeclared := h.sound _ t (relation?_of_table? ht)
  refine ⟨_, columns_listings ht, h.numbered (columns_listings ht), ?_⟩
  rw [primaryKeyOf_rowsOfColumns hdeclared hkey, hlength]

/-- The rows of a key agree on their target, and whether they name its columns. -/
structure Uniform (own : List KeyRow) : Prop where
  target : ∀ row ∈ own, row.target = targetOf own
  named : ∀ row ∈ own, row.targetColumn.isNone = isOpen own

theorem Listed.uniform (h : Listed rows) (key : Nat) : Uniform (rowsOfKey rows key) := by
  have hpair : ∀ row ∈ rowsOfKey rows key, ∀ row' ∈ rowsOfKey rows key,
      row.target = row'.target ∧ row.targetColumn.isSome = row'.targetColumn.isSome := by
    intro row hrow row' hrow'
    obtain ⟨hmem, hkey⟩ := List.mem_filter.mp hrow
    obtain ⟨hmem', hkey'⟩ := List.mem_filter.mp hrow'
    have heq : row.key = row'.key :=
      (of_decide_eq_true hkey).trans (of_decide_eq_true hkey').symm
    exact ⟨h.target row hmem row' hmem' heq, h.named row hmem row' hmem' heq⟩
  constructor
  · intro row hrow
    unfold targetOf
    cases hown : rowsOfKey rows key with
    | nil =>
      rw [hown] at hrow
      cases hrow
    | cons first rest => exact (hpair row hrow first (by simp [hown])).1
  · intro row hrow
    rw [Bool.eq_iff_iff, isOpen, List.all_eq_true]
    constructor
    · intro hnone row' hrow'
      rw [← Option.not_isSome] at hnone ⊢
      rwa [← (hpair row hrow row' hrow').2]
    · exact fun hall => hall row hrow

theorem Uniform.keyOfRows_eq {l : Listings} (h : Uniform own)
    (hprimary : isOpen own = true → HasKeyFor l own) :
    keyOfRows l.openTarget own = readKey l own := by
  rw [keyOfRows, readKey]
  congr 1
  cases hopen : isOpen own with
  | true =>
    obtain ⟨columns, hcolumns, hnumbered, -⟩ := hprimary hopen
    rw [if_pos rfl, List.map_eq_replicate_iff]
    intro row hrow
    have hnone := h.named row hrow
    rw [hopen, Option.isNone_iff_eq_none] at hnone
    rw [hnone, Option.getD_none, h.target row hrow, Listings.openTarget, Listings.primaryKey,
      hcolumns]
    exact hnumbered.firstKeyColumn_eq
  | false =>
    rw [if_neg (by simp), ← List.filterMap_eq_map]
    refine List.filterMap_congr ?_
    intro row hrow
    have hsome := h.named row hrow
    rw [hopen, ← Option.not_isSome, Bool.not_eq_false'] at hsome
    obtain ⟨column, hcolumn⟩ := Option.isSome_iff_exists.mp hsome
    simp [hcolumn]

/-- A key is read as a whole if it names its target columns, and else only if it has a single
column: primary keys do not repeat columns. -/
theorem readKey_eq_iff {l : Listings} (hown : own ≠ [])
    (hprimary : isOpen own = true → HasKeyFor l own) :
    readKey l own = wholeKey l own ↔ (isOpen own = true → own.length = 1) := by
  rw [readKey, wholeKey]
  cases hopen : isOpen own with
  | false => simp
  | true =>
    obtain ⟨columns, hcolumns, hnumbered, hlength⟩ := hprimary hopen
    have hnodup := hnumbered.nodup_primaryKeyOf
    have hkey : l.primaryKey (targetOf own) = primaryKeyOf columns := by
      rw [Listings.primaryKey, hcolumns]
      rfl
    simp only [hkey, if_true, TableConstraint.foreignKey.injEq, true_and, true_imp_iff]
    constructor
    · intro heq
      rw [← heq, List.nodup_replicate] at hnodup
      exact Nat.le_antisymm hnodup (List.length_pos_iff.mpr hown)
    · intro hone
      rw [hone] at hlength ⊢
      obtain ⟨column, hcolumn⟩ := List.length_eq_one_iff.mp hlength
      rw [hcolumn]
      rfl

/-- What is introspected of the foreign keys that some rows list. -/
structure KeysRead (l : Listings) (rows : List KeyRow) : Prop where
  ordered : (listedKeys rows).Pairwise (· < ·)
  listed : ∀ key, key ∈ listedKeys rows ↔ ∃ row ∈ rows, row.key = key
  read : foreignKeysOf l.openTarget rows =
    (listedKeys rows).map fun key => readKey l (rowsOfKey rows key)
  whole : (foreignKeysOf l.openTarget rows =
      (listedKeys rows).map fun key => wholeKey l (rowsOfKey rows key)) ↔
    ∀ key ∈ listedKeys rows, isOpen (rowsOfKey rows key) = true → (rowsOfKey rows key).length = 1
  introspected : ∀ name columns uniques, l.columns name = .ok columns →
    l.uniqueKeys name = .ok uniques → l.foreignKeys name = .ok rows →
    l.constraints name = .ok (keysOf columns uniques ++ foreignKeysOf l.openTarget rows) ∧
      ∀ columns' target targetColumns,
        .foreignKey columns' target targetColumns ∉ keysOf columns uniques

/-- Rows that list foreign keys one after the other are read into one foreign key for each
number, in order, with the columns of its rows and the target columns that these name. A key
that leaves the target columns open gets the first column of the target's primary key for
every row. So the keys come out whole, with the whole primary key for open target columns,
just if every open key has a single column. Nothing is asked of the store but that it numbers
the columns of those targets' primary keys. -/
theorem foreign_keys_whole_iff (l : Listings) {rows : List KeyRow} (hlisted : Listed rows)
    (hprimary : ∀ key ∈ listedKeys rows, isOpen (rowsOfKey rows key) = true →
      HasKeyFor l (rowsOfKey rows key)) :
    KeysRead l rows := by
  have hown : ∀ key ∈ listedKeys rows, rowsOfKey rows key ≠ [] := by
    intro key hkey
    obtain ⟨row, hrow, heq⟩ := mem_listedKeys.mp hkey
    exact List.ne_nil_of_mem (List.mem_filter.mpr ⟨hrow, decide_eq_true heq⟩)
  have hread : foreignKeysOf l.openTarget rows =
      (listedKeys rows).map fun key => readKey l (rowsOfKey rows key) := by
    rw [foreignKeysOf_eq hlisted.ordered]
    exact List.map_congr_left fun key hkey =>
      (hlisted.uniform key).keyOfRows_eq (hprimary key hkey)
  refine ⟨pairwise_listedKeys hlisted.ordered, fun key => mem_listedKeys, hread, ?_, ?_⟩
  · rw [hread, List.map_inj_left]
    exact forall₂_congr fun key hkey => readKey_eq_iff (hown key hkey) (hprimary key hkey)
  · intro name columns uniques hcolumns huniques hrows
    refine ⟨Listings.constraints_eq hcolumns huniques hrows ?_,
      foreignKey_not_mem_keysOf columns uniques⟩
    intro row hrow hnone
    have hkey : row.key ∈ listedKeys rows := mem_listedKeys.mpr ⟨row, hrow, rfl⟩
    have hmem : row ∈ rowsOfKey rows row.key :=
      List.mem_filter.mpr ⟨hrow, decide_eq_true rfl⟩
    have huniform := hlisted.uniform row.key
    have hopen : isOpen (rowsOfKey rows row.key) = true := by
      rw [← huniform.named row hmem, hnone]
      rfl
    obtain ⟨targetColumns, htarget, -⟩ := hprimary row.key hkey hopen
    exact ⟨targetColumns, huniform.target row hmem ▸ htarget⟩

/-- Shelves by room and number, and what refers to them: copies of books name the shelf, with
the copy's own book left open, and loans leave the shelf open. -/
def shelves : Except Error TableStore := do
  let s ← TableStore.empty.createTable "shelves"
    ⟨[⟨"room", "INTEGER"⟩, ⟨"number", "INTEGER"⟩], ["room", "number"], [], [], []⟩
  let s ← s.createTable "books" ⟨[⟨"title", "TEXT"⟩], ["title"], [], [], []⟩
  let s ← s.createTable "copies" ⟨[⟨"book", "TEXT"⟩, ⟨"room", "INTEGER"⟩, ⟨"place", "INTEGER"⟩], [],
    [], [⟨["place", "room"], "shelves", ["number", "room"]⟩, ⟨["book"], "books", []⟩], []⟩
  s.createTable "loans" ⟨[⟨"room", "INTEGER"⟩, ⟨"place", "INTEGER"⟩], [], [],
    [⟨["room", "place"], "shelves", []⟩], []⟩

theorem reached_shelves {s : TableStore} (h : shelves = .ok s) : s.Reached := by
  obtain ⟨s₁, h₁, h⟩ := Except.bind_eq_ok.mp h
  obtain ⟨s₂, h₂, h⟩ := Except.bind_eq_ok.mp h
  obtain ⟨s₃, h₃, h⟩ := Except.bind_eq_ok.mp h
  exact .createTable (.createTable (.createTable (.createTable .empty h₁) h₂) h₃) h

/-- The foreign keys of the copies, as rows. -/
def copyRows : List KeyRow :=
  [⟨0, "books", "book", none⟩, ⟨1, "shelves", "place", some "number"⟩,
    ⟨1, "shelves", "room", some "room"⟩]

/-- The foreign keys of the copies are whole. -/
theorem foreign_keys_whole_iff_copies : ∃ s, shelves = .ok s ∧
    s.listings.foreignKeys "copies" = .ok copyRows ∧ Listed copyRows ∧
    (∀ key ∈ listedKeys copyRows, isOpen (rowsOfKey copyRows key) = true →
      HasKeyFor s.listings (rowsOfKey copyRows key)) ∧
    s.listings.constraints "copies" = .ok [.foreignKey ["book"] "books" ["title"],
      .foreignKey ["place", "room"] "shelves" ["number", "room"]] := by
  have hok : (shelves.map fun s => (s.listings.columns "copies", s.listings.uniqueKeys "copies",
      s.listings.foreignKeys "copies")) =
      .ok (.ok [⟨"book", "TEXT", 0⟩, ⟨"room", "INTEGER", 0⟩, ⟨"place", "INTEGER", 0⟩],
        .ok [], .ok copyRows) := by
    decide +kernel
  have hbook : (shelves.map fun s => ((s.table? (TableStore.heard "books")).map
      StoreTable.primaryKey, s.listings.primaryKey "books")) =
      .ok (some ["title"], ["title"]) := by
    decide +kernel
  obtain ⟨s, hs, hlists⟩ := Except.map_eq_ok.mp hok
  simp only [Prod.mk.injEq] at hlists
  obtain ⟨hcolumns, huniques, hrows⟩ := hlists
  rw [hs] at hbook
  obtain ⟨htable, hprimaryKey⟩ := Prod.mk.inj (Except.ok.inj hbook)
  obtain ⟨t, ht, htitle⟩ := Option.map_eq_some_iff.mp htable
  have hlisted : Listed copyRows := ⟨by decide, by decide, by decide⟩
  have hlisting : listedKeys copyRows = [0, 1] := by decide
  have hprimary : ∀ key ∈ listedKeys copyRows, isOpen (rowsOfKey copyRows key) = true →
      HasKeyFor s.listings (rowsOfKey copyRows key) := by
    intro key hkey hopen
    rw [hlisting] at hkey
    rcases List.mem_pair.mp hkey with rfl | rfl
    · exact (reached_shelves hs).hasKeyFor ht (by rw [htitle]; decide) (by rw [htitle]; rfl)
    · cases hopen
  have hread := foreign_keys_whole_iff s.listings hlisted hprimary
  obtain ⟨hconstraints, -⟩ :=
    hread.introspected "copies" _ _ hcolumns huniques hrows
  refine ⟨s, hs, hrows, hlisted, hprimary, ?_⟩
  have hwhole : wholeKey s.listings (rowsOfKey copyRows 0) =
      .foreignKey ["book"] "books" ["title"] := by
    show TableConstraint.foreignKey ["book"] "books" (s.listings.primaryKey "books") = _
    rw [hprimaryKey]
  rw [hconstraints, hread.whole.mpr (by decide), hlisting, List.map_cons, hwhole]
  rfl

/-- The key of the loans is to the rooms of the shelves, twice, and not to rooms and numbers. -/
theorem open_pair_repeats_first_column :
    (shelves.map fun s => (s.listings.primaryKey "shelves", s.listings.constraints "loans")) =
      .ok (["room", "number"],
        .ok [.foreignKey ["room", "place"] "shelves" ["room", "room"]]) ∧
    (shelves.map fun s => (s.listings.foreignKeys "loans").map fun rows =>
      (listedKeys rows).map fun key => wholeKey s.listings (rowsOfKey rows key)) =
      .ok (.ok [.foreignKey ["room", "place"] "shelves" ["room", "number"]]) := by
  decide +kernel

end KeyChart.Store
