import KeyChart.Mark.Reference
import KeyChart.Proofs.Catalog.Searches
import KeyChart.Proofs.Except

/-!
# When references are resolved

A reference between known tables fails only for want of a path, or of a foreign key
that matches its search key. What it is resolved to was found by one of the searches
of the catalog: forwards, or backwards for a summary.
-/

namespace KeyChart

theorem JoinPath.reverse_reverse {p : JoinPath} {b : String} (h : Leads p.source p.steps b) :
    p.reverse.reverse = p := by
  obtain ⟨a, steps⟩ := p
  have hback : Leads b (steps.reverse.map JoinStep.reverse) a := h.reverse
  have hrev : (JoinPath.mk a steps).reverse = ⟨b, steps.reverse.map JoinStep.reverse⟩ := by
    rw [reverse, h.destination_eq]
  have hsame : JoinStep.reverse ∘ JoinStep.reverse = id := rfl
  rw [hrev, reverse, hback.destination_eq, ← List.map_reverse, List.reverse_reverse, List.map_map,
    hsame, List.map_id]

namespace Reference

variable {c : Catalog} {a b : String} {r : ForeignRef} {id : ConstraintId}
  {ids : List ConstraintId} {fanOut : Bool} {path : JoinPath} {e : Error}

/-! ## Paths across a foreign key -/

theorem pathAcross_of_mayCross (h : c.MayCross a b id) :
    pathAcross c a b fanOut id =
      match c.joinGraph.pathAcross? a b id with
      | .ok path => .ok path
      | .error _ =>
        if fanOut then (c.joinGraph.pathAcross? b a id).map JoinPath.reverse
        else .error (.noPath a b) := by
  unfold pathAcross
  rw [h.pathAcross, h.symm.pathAcross]
  cases hforth : c.joinGraph.pathAcross? a b id with
  | ok path => rfl
  | error e =>
    rw [Catalog.pathAcross?_eq_error hforth]

/-- A path across a foreign key, or backwards across it. -/
theorem pathAcross_eq_ok (h : pathAcross c a b fanOut id = .ok path) :
    c.MayCross a b id ∧
      (c.joinGraph.pathAcross? a b id = .ok path ∨
        (fanOut = true ∧ c.joinGraph.pathAcross? b a id = .ok path.reverse)) := by
  have hmay : c.MayCross a b id := by
    refine (Catalog.mayCross_or_error c a b id).resolve_right ?_
    rintro ⟨e, he, hother⟩
    unfold pathAcross at h
    rw [he] at h
    cases e <;> first | exact hother _ _ rfl | cases h
  refine ⟨hmay, ?_⟩
  rw [pathAcross_of_mayCross hmay] at h
  split at h
  case h_1 path' hforth =>
    cases h
    exact .inl hforth
  case h_2 =>
    split at h
    case isTrue hfan =>
      obtain ⟨back, hback, rfl⟩ := Except.map_eq_ok.mp h
      obtain ⟨rfl, -, hleads, -⟩ := JoinGraph.pathAcross?_follows hback
      rw [JoinPath.reverse_reverse hleads]
      exact .inr ⟨hfan, hback⟩
    case isFalse => cases h

theorem pathAcross_eq_error (hmay : c.MayCross a b id)
    (h : pathAcross c a b fanOut id = .error e) : ∃ s t, e = .noPath s t := by
  rw [pathAcross_of_mayCross hmay] at h
  split at h
  · cases h
  · split at h
    · cases hback : c.joinGraph.pathAcross? b a id with
      | ok back => simp [hback, Except.map] at h
      | error e' =>
        simp only [hback, Except.map, Except.error.injEq] at h
        exact ⟨b, a, h ▸ Catalog.pathAcross?_eq_error hback⟩
    · cases h
      exact ⟨a, b, rfl⟩

/-! ## The first of several foreign keys -/

theorem exists_of_firstAcross {failure : Error}
    (h : firstAcross c a b fanOut failure ids = .ok path) :
    ∃ id ∈ ids, pathAcross c a b fanOut id = .ok path := by
  induction ids generalizing failure with
  | nil => cases h
  | cons id rest ih =>
    simp only [firstAcross] at h
    split at h
    case h_1 path' hpath =>
      cases h
      exact ⟨id, by simp, hpath⟩
    case h_2 =>
      obtain ⟨id', hid', hpath⟩ := ih h
      exact ⟨id', List.mem_cons_of_mem _ hid', hpath⟩

theorem firstAcross_eq_error {failure : Error}
    (h : firstAcross c a b fanOut failure ids = .error e) :
    (∀ id ∈ ids, ∃ e, pathAcross c a b fanOut id = .error e) ∧
      (e = failure ∨ ∃ id ∈ ids, pathAcross c a b fanOut id = .error e) := by
  induction ids generalizing failure with
  | nil =>
    cases h
    exact ⟨by simp, .inl rfl⟩
  | cons id rest ih =>
    simp only [firstAcross] at h
    split at h
    case h_1 => cases h
    case h_2 e' hpath =>
      obtain ⟨hall, hlast⟩ := ih h
      refine ⟨?_, .inr ?_⟩
      · intro id' hid'
        rcases List.mem_cons.mp hid' with rfl | hid'
        · exact ⟨e', hpath⟩
        · exact hall id' hid'
      · rcases hlast with rfl | ⟨id', hid', hpath'⟩
        · exact ⟨id, by simp, hpath⟩
        · exact ⟨id', List.mem_cons_of_mem _ hid', hpath'⟩

theorem firstAcross_isOk {failure : Error} (hid : id ∈ ids)
    (h : pathAcross c a b fanOut id = .ok path) :
    ∃ path', firstAcross c a b fanOut failure ids = .ok path' := by
  cases hfirst : firstAcross c a b fanOut failure ids with
  | ok path' => exact ⟨path', rfl⟩
  | error e =>
    obtain ⟨e', he'⟩ := (firstAcross_eq_error hfirst).1 id hid
    rw [h] at he'
    cases he'

/-! ## Paths to a table -/

/-- An error that says that there is no path. -/
def Misses (e : Error) : Prop :=
  (∃ s t, e = .noPath s t) ∨ ∃ s t key, e = .noMatchingConstraint s t key

theorem mem_candidates {key : List String} :
    id ∈ (c.foreignKeys.filter fun k => k.2.matchesSide a key).map (·.1) ↔
      ∃ fk, (id, fk) ∈ c.foreignKeys ∧ fk.matchesSide a key = true := by
  simp only [List.mem_map, List.mem_filter, Prod.exists]
  constructor
  · rintro ⟨id, fk, hfk, rfl⟩
    exact ⟨fk, hfk⟩
  · rintro ⟨fk, hfk⟩
    exact ⟨id, fk, hfk, rfl⟩

theorem pathTo_of_searchKey {key : List String} (hkey : r.searchKey = some key) :
    pathTo c a b r =
      (firstAcross c a b r.aggregate.isSome (.noMatchingConstraint a b key)
        ((c.foreignKeys.filter fun k => k.2.matchesSide a key).map (·.1))).map
          fun path => (path, []) := by
  simp only [pathTo, hkey]

theorem pathTo_of_via (hkey : r.searchKey = none) (hvia : r.via = some id) :
    pathTo c a b r = (pathAcross c a b r.aggregate.isSome id).map fun path => (path, []) := by
  simp only [pathTo, hkey, hvia]

theorem pathTo_error_of_unknown (hkey : r.searchKey = none) (hvia : r.via = none)
    (h : c.checkTables a b = .error e) : pathTo c a b r = .error e := by
  simp only [pathTo, hkey, hvia, Catalog.shortestPaths, h, Except.map]

/-- Without a hint there has to be a route to the table, or for a summary one from
it. -/
theorem pathTo_isOk_iff (hkey : r.searchKey = none) (hvia : r.via = none)
    (hknown : c.checkTables a b = .ok ()) :
    (∃ hit, pathTo c a b r = .ok hit) ↔
      c.joinGraph.shortestPaths a b ≠ [] ∨
        (r.aggregate.isSome = true ∧ c.joinGraph.shortestPaths b a ≠ []) := by
  simp only [pathTo, hkey, hvia, Catalog.shortestPaths, Catalog.reversePath?, hknown, Except.map,
    JoinGraph.shortestPath?]
  cases c.joinGraph.shortestPaths a b with
  | cons path others => simp
  | nil =>
    cases r.aggregate.isSome with
    | false => simp
    | true => cases c.joinGraph.shortestPaths b a <;> simp

theorem pathTo_misses_of_known (hkey : r.searchKey = none) (hvia : r.via = none)
    (hknown : c.checkTables a b = .ok ()) (h : pathTo c a b r = .error e) : Misses e := by
  simp only [pathTo, hkey, hvia, Catalog.shortestPaths, Catalog.reversePath?, hknown, Except.map,
    JoinGraph.shortestPath?] at h
  cases hforth : c.joinGraph.shortestPaths a b with
  | cons path others => simp [hforth] at h
  | nil =>
    cases hfan : r.aggregate.isSome with
    | false =>
      simp only [hforth, hfan, Bool.false_eq_true, if_false, Except.error.injEq] at h
      exact .inl ⟨a, b, h.symm⟩
    | true =>
      cases hback : c.joinGraph.shortestPaths b a with
      | cons path others => simp [hforth, hfan, hback] at h
      | nil =>
        simp only [hforth, hfan, hback, if_true, List.head?_nil, Option.map_none,
          Except.error.injEq] at h
        exact .inl ⟨a, b, h.symm⟩

theorem pathTo_known {hit : JoinPath × List Warning} (h : pathTo c a b r = .ok hit) :
    (c.containsTable a = true ∧ c.containsTable b = true) ∧
      (r.searchKey = none → ∀ id, r.via = some id → ∃ fk, (id, fk) ∈ c.foreignKeys) := by
  cases hkey : r.searchKey with
  | some key =>
    rw [pathTo_of_searchKey hkey] at h
    obtain ⟨path, hfirst, -⟩ := Except.map_eq_ok.mp h
    obtain ⟨id, -, hpath⟩ := exists_of_firstAcross hfirst
    exact ⟨(pathAcross_eq_ok hpath).1.1, by simp⟩
  | none =>
    cases hvia : r.via with
    | some id =>
      rw [pathTo_of_via hkey hvia] at h
      obtain ⟨path, hpath, -⟩ := Except.map_eq_ok.mp h
      obtain ⟨hknown, hfk⟩ := (pathAcross_eq_ok hpath).1
      refine ⟨hknown, ?_⟩
      rintro - id' heq
      cases heq
      exact hfk
    | none =>
      cases hknown : c.checkTables a b with
      | ok u => exact ⟨Catalog.checkTables_eq_ok_iff.mp hknown, by simp⟩
      | error e =>
        rw [pathTo_error_of_unknown hkey hvia hknown] at h
        cases h

/-- A reference between known tables that is not resolved misses a path. -/
theorem pathTo_misses (ha : c.containsTable a = true) (hb : c.containsTable b = true)
    (hvia : r.searchKey = none → ∀ id, r.via = some id → ∃ fk, (id, fk) ∈ c.foreignKeys)
    (h : pathTo c a b r = .error e) : Misses e := by
  have hmiss : ∀ {id fk e'}, (id, fk) ∈ c.foreignKeys →
      pathAcross c a b r.aggregate.isSome id = .error e' → Misses e' := fun hfk he =>
    .inl (pathAcross_eq_error ⟨⟨ha, hb⟩, _, hfk⟩ he)
  cases hkey : r.searchKey with
  | some key =>
    rw [pathTo_of_searchKey hkey] at h
    cases hfirst : firstAcross c a b r.aggregate.isSome (.noMatchingConstraint a b key)
        ((c.foreignKeys.filter fun k => k.2.matchesSide a key).map (·.1)) with
    | ok path => simp [hfirst, Except.map] at h
    | error e' =>
      simp only [hfirst, Except.map, Except.error.injEq] at h
      subst h
      rcases (firstAcross_eq_error hfirst).2 with rfl | ⟨id, hid, hpath⟩
      · exact .inr ⟨a, b, key, rfl⟩
      · obtain ⟨fk, hfk, -⟩ := mem_candidates.mp hid
        exact hmiss hfk hpath
  | none =>
    cases hid : r.via with
    | some id =>
      rw [pathTo_of_via hkey hid] at h
      obtain ⟨fk, hfk⟩ := hvia hkey id hid
      cases hpath : pathAcross c a b r.aggregate.isSome id with
      | ok path => simp [hpath, Except.map] at h
      | error e' =>
        simp only [hpath, Except.map, Except.error.injEq] at h
        exact h ▸ hmiss hfk hpath
    | none =>
      exact pathTo_misses_of_known hkey hid (Catalog.checkTables_eq_ok_iff.mpr ⟨ha, hb⟩) h

/-! ## Searches -/

/-- The paths to the tables that are reached are collected in the order of the tables. -/
theorem reachable_eq_ok {targets : List String} {hits : List (JoinPath × List Warning)}
    (h : reachable c a r targets = .ok hits) :
    hits = targets.filterMap fun t => (pathTo c a t r).toOption := by
  induction targets generalizing hits with
  | nil =>
    cases h
    rfl
  | cons t rest ih =>
    simp only [reachable] at h
    rw [List.filterMap_cons]
    split at h
    case h_1 hit hhit =>
      obtain ⟨hits', hhits, rfl⟩ := Except.map_eq_ok.mp h
      rw [hhit, ih hhits]
      rfl
    case h_2 hmiss =>
      rw [hmiss, ih h]
      rfl
    case h_3 hmiss =>
      rw [hmiss, ih h]
      rfl
    case h_4 => cases h

/-- A failure is that of a table, and no want of a path. -/
theorem reachable_eq_error {targets : List String} (h : reachable c a r targets = .error e) :
    (∃ t ∈ targets, pathTo c a t r = .error e) ∧ ¬Misses e := by
  induction targets with
  | nil => cases h
  | cons t rest ih =>
    have hrest : reachable c a r rest = .error e →
        (∃ t' ∈ t :: rest, pathTo c a t' r = .error e) ∧ ¬Misses e := by
      intro hfail
      obtain ⟨⟨t', ht', hpath⟩, hmiss⟩ := ih hfail
      exact ⟨⟨t', List.mem_cons_of_mem _ ht', hpath⟩, hmiss⟩
    simp only [reachable] at h
    split at h
    case h_1 =>
      cases hr : reachable c a r rest with
      | ok hits => simp [hr, Except.map] at h
      | error e' =>
        simp only [hr, Except.map, Except.error.injEq] at h
        exact hrest (h ▸ hr)
    case h_2 => exact hrest h
    case h_3 => exact hrest h
    case h_4 hother hother' hpath =>
      cases h
      refine ⟨⟨t, by simp, hpath⟩, ?_⟩
      rintro (⟨s, d, rfl⟩ | ⟨s, d, key, rfl⟩)
      · exact hother s d rfl
      · exact hother' s d key rfl

theorem mem_reachable {targets : List String} {hits : List (JoinPath × List Warning)}
    {hit : JoinPath × List Warning} (h : reachable c a r targets = .ok hits) :
    hit ∈ hits ↔ ∃ t ∈ targets, pathTo c a t r = .ok hit := by
  rw [reachable_eq_ok h, List.mem_filterMap]
  simp only [Except.toOption_eq_some]

theorem exists_of_search {found : List Warning} (h : search c a r = .ok (path, found)) :
    ∃ t ∈ c.tablesWithAttribute (searchedAttr r) a, ∃ found', pathTo c a t r = .ok (path, found') := by
  unfold search at h
  simp only at h
  split at h
  case h_1 => cases h
  case h_2 hits hhits =>
    split at h
    case h_1 => cases h
    case h_2 path' found' others hsorted =>
      cases h
      have hmem : (path, found') ∈ hits.mergeSort fun a b => a.1.steps.length ≤ b.1.steps.length := by
        rw [hsorted]
        simp
      obtain ⟨t, ht, hpath⟩ := (mem_reachable hhits).mp (List.mem_mergeSort.mp hmem)
      exact ⟨t, ht, found', hpath⟩

/-- A search succeeds if it misses no table for any other reason than that there is
no path, and reaches one of them. -/
theorem search_isOk {t : String} {hit : JoinPath × List Warning}
    (ht : t ∈ c.tablesWithAttribute (searchedAttr r) a) (hhit : pathTo c a t r = .ok hit)
    (h : ∀ t ∈ c.tablesWithAttribute (searchedAttr r) a, ∀ e,
      pathTo c a t r = .error e → Misses e) : ∃ hit, search c a r = .ok hit := by
  unfold search
  cases hreach : reachable c a r (c.tablesWithAttribute (searchedAttr r) a) with
  | error e =>
    obtain ⟨⟨t', ht', hpath⟩, hmiss⟩ := reachable_eq_error hreach
    exact absurd (h t' ht' e hpath) hmiss
  | ok hits =>
    have hmem : hit ∈ hits.mergeSort fun a b => a.1.steps.length ≤ b.1.steps.length :=
      List.mem_mergeSort.mpr ((mem_reachable hreach).mpr ⟨t, ht, hhit⟩)
    simp only [hreach]
    split
    case h_1 hnil =>
      rw [hnil] at hmem
      cases hmem
    case h_2 path found others hsorted => exact ⟨_, rfl⟩

end Reference

end KeyChart
