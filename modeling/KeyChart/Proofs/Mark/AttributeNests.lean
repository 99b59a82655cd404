import KeyChart.Proofs.Mark.SearchKeys

/-!
# Which foreign key a nesting by attributes takes

Of the foreign keys with the given attributes on the inner table's side, some may be
many-to-many, and others may not lead to the outer table. The rows are nested along the
first key that does lead there and is not many-to-many. If there is none, the failure
should tell whether all keys with the attributes are many-to-many. It tells whether one of
them is, so it is wrong exactly if there are keys of both kinds.
-/

namespace KeyChart

/-- Whether a foreign key of the catalog has attributes on a table's side. -/
def Catalog.KeyOn (c : Catalog) (a : String) (attrs : List String) (id : ConstraintId)
    (fk : ForeignKey) : Prop :=
  (id, fk) ∈ c.foreignKeys ∧ fk.matchesSide a attrs = true

/-- In an ascending list of constraints, the first one with a result is the least one. -/
theorem findSome?_eq_some_iff_least {α : Type} {f : ConstraintId → Option α} {x : α}
    {ids : List ConstraintId} (hsorted : ids.Pairwise (·.index < ·.index)) :
    ids.findSome? f = some x ↔
      ∃ id ∈ ids, f id = some x ∧ ∀ id' ∈ ids, ∀ y, f id' = some y → id.index ≤ id'.index := by
  induction ids with
  | nil => simp
  | cons id rest ih =>
    obtain ⟨hfirst, hrest⟩ := List.pairwise_cons.mp hsorted
    rw [List.findSome?_cons]
    cases hid : f id with
    | some y =>
      show some y = some x ↔ _
      constructor
      · intro h
        refine ⟨id, by simp, hid.trans h, ?_⟩
        intro id' hid' _ _
        rcases List.mem_cons.mp hid' with rfl | hid'
        · exact Nat.le_refl _
        · exact Nat.le_of_lt (hfirst id' hid')
      · rintro ⟨id', hid', hx, hleast⟩
        rcases List.mem_cons.mp hid' with rfl | hid'
        · exact hid.symm.trans hx
        · have hle := hleast id (by simp) y hid
          have hlt := hfirst id' hid'
          omega
    | none =>
      show rest.findSome? f = some x ↔ _
      rw [ih hrest]
      constructor
      · rintro ⟨id', hid', hx, hleast⟩
        refine ⟨id', List.mem_cons_of_mem _ hid', hx, ?_⟩
        intro id'' hid'' y hy
        rcases List.mem_cons.mp hid'' with rfl | hid''
        · rw [hid] at hy
          cases hy
        · exact hleast id'' hid'' y hy
      · rintro ⟨id', hid', hx, hleast⟩
        rcases List.mem_cons.mp hid' with rfl | hid'
        · rw [hid] at hx
          cases hx
        · exact ⟨id', hid', hx, fun id'' h => hleast id'' (List.mem_cons_of_mem _ h)⟩

namespace MarkNest

/-- Whether a nesting by attributes can go across a foreign key, along a path. -/
def CanTake (c : Catalog) (inner outer : NestEnd) (attrs : List String) (id : ConstraintId)
    (path : JoinPath) : Prop :=
  ∃ fk, c.KeyOn inner.table attrs id fk ∧ fk.cardinality ≠ .manyMany ∧
    c.pathAcross inner.table outer.table id = .ok path

/-- Whether one of the foreign keys with the attributes is many-to-many. -/
def SomeManyToMany (c : Catalog) (a : String) (attrs : List String) : Prop :=
  ∃ id fk, c.KeyOn a attrs id fk ∧ fk.cardinality = .manyMany

/-- Whether there are foreign keys with the attributes, and all are many-to-many. -/
def OnlyManyToMany (c : Catalog) (a : String) (attrs : List String) : Prop :=
  (∃ id fk, c.KeyOn a attrs id fk) ∧
    ∀ id fk, c.KeyOn a attrs id fk → fk.cardinality = .manyMany

/-- Whether there are foreign keys of both kinds with the attributes. -/
def BothKinds (c : Catalog) (a : String) (attrs : List String) : Prop :=
  SomeManyToMany c a attrs ∧ ∃ id fk, c.KeyOn a attrs id fk ∧ fk.cardinality ≠ .manyMany

/-- A failure that blames many-to-many keys if a condition holds, and the want of a key
otherwise. -/
def Tells (inner outer : NestEnd) (attrs : List String) (p : Prop) (e : Error) : Prop :=
  (p ∧ e = .onlyManyToMany ⟨inner.table, attrs⟩) ∨
    (¬p ∧ e = .noMatchingConstraint inner.table outer.table attrs)

variable {c : Catalog} {inner outer : NestEnd} {attrs : List String} {e : Error}

/-- The nesting across a foreign key, if the search across it finds a path. -/
def across? (c : Catalog) (inner outer : NestEnd) (id : ConstraintId) : Option MarkNest :=
  (c.pathAcross inner.table outer.table id).toOption.map fun path =>
    ⟨some id, path, inner.mark, outer.mark⟩

theorem across?_eq_some {id : ConstraintId} {nest : MarkNest} :
    across? c inner outer id = some nest ↔ ∃ path,
      c.pathAcross inner.table outer.table id = .ok path ∧
        nest = ⟨some id, path, inner.mark, outer.mark⟩ := by
  rw [across?, Option.map_eq_some_iff]
  simp only [Except.toOption_eq_some]
  exact exists_congr fun path => and_congr_right fun _ => eq_comm

/-- The foreign keys a nesting by attributes tries, in order. -/
def usable (c : Catalog) (a : String) (attrs : List String) : List ConstraintId :=
  ((c.foreignKeys.filter fun k => k.2.matchesSide a attrs).filter fun k =>
    k.2.cardinality ≠ .manyMany).map (·.1)

theorem mem_usable {a : String} {id : ConstraintId} :
    id ∈ usable c a attrs ↔ ∃ fk, c.KeyOn a attrs id fk ∧ fk.cardinality ≠ .manyMany := by
  simp only [usable, Catalog.KeyOn, List.mem_map, List.mem_filter, Prod.exists, exists_and_right,
    exists_eq_right, decide_eq_true_eq]

/-- The keys that can be taken are those that are tried and found to lead on. -/
theorem across?_usable_iff {id : ConstraintId} {nest : MarkNest} :
    (id ∈ usable c inner.table attrs ∧ across? c inner outer id = some nest) ↔
      ∃ path, CanTake c inner outer attrs id path ∧
        nest = ⟨some id, path, inner.mark, outer.mark⟩ := by
  rw [mem_usable, across?_eq_some]
  constructor
  · rintro ⟨⟨fk, hkey, hkind⟩, path, hpath, rfl⟩
    exact ⟨path, ⟨fk, hkey, hkind, hpath⟩, rfl⟩
  · rintro ⟨path, ⟨fk, hkey, hkind, hpath⟩, rfl⟩
    exact ⟨⟨fk, hkey, hkind⟩, path, hpath, rfl⟩

theorem usable_sorted (a : String) : (usable c a attrs).Pairwise (·.index < ·.index) :=
  List.pairwise_map.mpr ((c.foreignKeys_sorted.filter _).filter _)

/-- Across foreign keys between known tables, a search fails only for want of a path, so
the first key that leads on is taken. -/
theorem firstAlong_eq_findSome? {ids : List ConstraintId}
    (hmay : ∀ id ∈ ids, c.MayCross inner.table outer.table id) :
    firstAlong c inner outer ids = .ok (ids.findSome? (across? c inner outer)) := by
  induction ids with
  | nil => rfl
  | cons id rest ih =>
    have hcross := (hmay id (by simp)).pathAcross
    rw [firstAlong, List.findSome?_cons, across?]
    cases hpath : c.pathAcross inner.table outer.table id with
    | ok path => rfl
    | error e =>
      -- No other failure than the one that is passed over is left.
      rw [hpath] at hcross
      obtain rfl := Catalog.pathAcross?_eq_error hcross.symm
      exact ih fun id' hid' => hmay id' (List.mem_cons_of_mem _ hid')

section KnownTables

variable (hinner : c.containsTable inner.table = true)
  (houter : c.containsTable outer.table = true)
include hinner houter

theorem byAttributes_of_known :
    byAttributes c inner outer attrs =
      match (usable c inner.table attrs).findSome? (across? c inner outer) with
      | some nest => .ok nest
      | none =>
        if (c.foreignKeys.filter fun k => k.2.matchesSide inner.table attrs).any
            fun k => k.2.cardinality = .manyMany then
          .error (.onlyManyToMany ⟨inner.table, attrs⟩)
        else .error (.noMatchingConstraint inner.table outer.table attrs) := by
  have hmay : ∀ id ∈ usable c inner.table attrs, c.MayCross inner.table outer.table id := by
    intro id hid
    obtain ⟨fk, hkey, -⟩ := mem_usable.mp hid
    exact ⟨⟨hinner, houter⟩, fk, hkey.1⟩
  have hfirst := firstAlong_eq_findSome? hmay
  unfold usable at hfirst
  simp only [byAttributes, hfirst]
  rw [usable]
  split
  case h_1 heq => cases heq
  case h_2 nest heq => rw [Except.ok.inj heq]
  case h_3 heq => rw [Except.ok.inj heq]

/-- A nesting by attributes takes the first foreign key it can take. -/
theorem byAttributes_eq_ok_iff {nest : MarkNest} :
    byAttributes c inner outer attrs = .ok nest ↔
      ∃ id path, CanTake c inner outer attrs id path ∧
        (∀ id' path', CanTake c inner outer attrs id' path' → id.index ≤ id'.index) ∧
        nest = ⟨some id, path, inner.mark, outer.mark⟩ := by
  have hfound : byAttributes c inner outer attrs = .ok nest ↔
      (usable c inner.table attrs).findSome? (across? c inner outer) = some nest := by
    rw [byAttributes_of_known hinner houter]
    cases (usable c inner.table attrs).findSome? (across? c inner outer) with
    | some nest' => simp
    | none =>
      simp only [reduceCtorEq, iff_false]
      split <;> simp
  rw [hfound, findSome?_eq_some_iff_least (usable_sorted inner.table)]
  constructor
  · rintro ⟨id, hid, hnest, hleast⟩
    obtain ⟨path, htake, rfl⟩ := across?_usable_iff.mp ⟨hid, hnest⟩
    refine ⟨id, path, htake, ?_, rfl⟩
    intro id' path' htake'
    obtain ⟨hid', hnest'⟩ := across?_usable_iff.mpr ⟨path', htake', rfl⟩
    exact hleast id' hid' _ hnest'
  · rintro ⟨id, path, htake, hleast, rfl⟩
    obtain ⟨hid, hnest⟩ := across?_usable_iff.mpr ⟨path, htake, rfl⟩
    refine ⟨id, hid, hnest, ?_⟩
    intro id' hid' nest' hnest'
    obtain ⟨path', htake', -⟩ := across?_usable_iff.mp ⟨hid', hnest'⟩
    exact hleast id' path' htake'

/-- A nesting by attributes fails if there is no foreign key it can take, and tells whether
one of the keys with the attributes is many-to-many. -/
theorem byAttributes_eq_error_iff :
    byAttributes c inner outer attrs = .error e ↔
      (∀ id path, ¬CanTake c inner outer attrs id path) ∧
        Tells inner outer attrs (SomeManyToMany c inner.table attrs) e := by
  have hnone : (usable c inner.table attrs).findSome? (across? c inner outer) = none ↔
      ∀ id path, ¬CanTake c inner outer attrs id path := by
    rw [List.findSome?_eq_none_iff]
    constructor
    · intro h id path htake
      obtain ⟨hid, hnest⟩ := across?_usable_iff.mpr ⟨path, htake, rfl⟩
      rw [h id hid] at hnest
      cases hnest
    · intro h id hid
      apply Option.eq_none_iff_forall_ne_some.mpr
      intro nest hnest
      obtain ⟨path, htake, -⟩ := across?_usable_iff.mp ⟨hid, hnest⟩
      exact h id path htake
  have hany : (c.foreignKeys.filter fun k => k.2.matchesSide inner.table attrs).any
        (fun k => k.2.cardinality = .manyMany) = true ↔
      SomeManyToMany c inner.table attrs := by
    simp [SomeManyToMany, Catalog.KeyOn, and_assoc]
  rw [byAttributes_of_known hinner houter, ← hnone, Tells, ← hany]
  cases (usable c inner.table attrs).findSome? (across? c inner outer) with
  | some nest => simp
  | none =>
    rw [and_iff_right rfl]
    show (if _ then Except.error _ else Except.error _) = _ ↔ _
    split
    case isTrue h =>
      rw [and_iff_right h, or_iff_left fun hnot => hnot.1 h, Except.error.injEq]
      exact eq_comm
    case isFalse h =>
      rw [and_iff_right h, or_iff_right fun hany => h hany.1, Except.error.injEq]
      exact eq_comm

end KnownTables

/-- A failure that tells of one condition tells of another one if both hold or neither. -/
theorem Tells.iff {p q : Prop} (h : Tells inner outer attrs p e) :
    Tells inner outer attrs q e ↔ (p ↔ q) := by
  rcases h with ⟨hp, rfl⟩ | ⟨hp, rfl⟩ <;> simp [Tells, hp]

/-- That one key is many-to-many is to say that all are, unless there are keys of both
kinds. -/
theorem some_iff_onlyManyToMany {a : String} :
    (SomeManyToMany c a attrs ↔ OnlyManyToMany c a attrs) ↔ ¬BothKinds c a attrs := by
  constructor
  · rintro h ⟨hsome, id, fk, hkey, hkind⟩
    exact hkind ((h.mp hsome).2 id fk hkey)
  · intro hboth
    constructor
    · intro hsome
      refine ⟨hsome.imp fun id => Exists.imp fun fk => And.left, ?_⟩
      intro id fk hkey
      -- A key of the other kind would stand beside the one that is many-to-many.
      by_contra hkind
      exact hboth ⟨hsome, id, fk, hkey, hkind⟩
    · rintro ⟨⟨id, fk, hkey⟩, hall⟩
      exact ⟨id, fk, hkey, hall id fk hkey⟩

/-- Between known tables, a nesting by attributes takes the first foreign key that has them
on the inner table's side, is not many-to-many and leads to the outer table. If there is
none, the failure tells whether one of the keys with the attributes is many-to-many. That
is to tell whether they all are, unless there are keys of both kinds. -/
theorem attribute_nest_outcomes (c : Catalog) (inner outer : NestEnd) (attrs : List String)
    (hinner : c.containsTable inner.table = true)
    (houter : c.containsTable outer.table = true) :
    ((∃ nest, byAttributes c inner outer attrs = .ok nest) ↔
        ∃ id path, CanTake c inner outer attrs id path) ∧
      (∀ nest, byAttributes c inner outer attrs = .ok nest →
        ∃ id path, nest = ⟨some id, path, inner.mark, outer.mark⟩ ∧
          CanTake c inner outer attrs id path ∧
          ∀ id' path', CanTake c inner outer attrs id' path' → id.index ≤ id'.index) ∧
      ∀ e, byAttributes c inner outer attrs = .error e →
        Tells inner outer attrs (SomeManyToMany c inner.table attrs) e ∧
          (Tells inner outer attrs (OnlyManyToMany c inner.table attrs) e ↔
            ¬BothKinds c inner.table attrs) := by
  refine ⟨⟨?_, ?_⟩, ?_, ?_⟩
  · rintro ⟨nest, hnest⟩
    obtain ⟨id, path, htake, -⟩ := (byAttributes_eq_ok_iff hinner houter).mp hnest
    exact ⟨id, path, htake⟩
  · rintro ⟨id, path, htake⟩
    cases hresult : byAttributes c inner outer attrs with
    | ok nest => exact ⟨nest, rfl⟩
    | error e =>
      exact absurd htake (((byAttributes_eq_error_iff hinner houter).mp hresult).1 id path)
  · intro nest hnest
    obtain ⟨id, path, htake, hleast, hsame⟩ := (byAttributes_eq_ok_iff hinner houter).mp hnest
    exact ⟨id, path, hsame, htake, hleast⟩
  · intro e he
    have htold := ((byAttributes_eq_error_iff hinner houter).mp he).2
    exact ⟨htold, htold.iff.trans some_iff_onlyManyToMany⟩

/-- Sales are nested in districts along the key of their shop. -/
theorem attribute_nest_outcomes_trade :
    ((Catalog.reached Catalog.tradeCalls).containsTable "sales" = true ∧
        (Catalog.reached Catalog.tradeCalls).containsTable "districts" = true) ∧
      CanTake (Catalog.reached Catalog.tradeCalls) ⟨⟨1⟩, "sales"⟩ ⟨⟨0⟩, "districts"⟩ ["shop"]
        ⟨5⟩ Catalog.tradeByShop ∧
      ∀ id path, CanTake (Catalog.reached Catalog.tradeCalls) ⟨⟨1⟩, "sales"⟩
        ⟨⟨0⟩, "districts"⟩ ["shop"] id path → 5 ≤ id.index := by
  have hknown : (Catalog.reached Catalog.tradeCalls).containsTable "sales" = true ∧
      (Catalog.reached Catalog.tradeCalls).containsTable "districts" = true := by
    decide +kernel
  have hnest : byAttributes (Catalog.reached Catalog.tradeCalls) ⟨⟨1⟩, "sales"⟩
      ⟨⟨0⟩, "districts"⟩ ["shop"] = .ok ⟨some ⟨5⟩, Catalog.tradeByShop, ⟨1⟩, ⟨0⟩⟩ := by
    decide +kernel
  obtain ⟨-, htaken, -⟩ := attribute_nest_outcomes (Catalog.reached Catalog.tradeCalls)
    ⟨⟨1⟩, "sales"⟩ ⟨⟨0⟩, "districts"⟩ ["shop"] hknown.1 hknown.2
  obtain ⟨id, path, hsame, htake, hleast⟩ := htaken _ hnest
  cases hsame
  exact ⟨hknown, htake, hleast⟩

/-- Sales have a day of the calendar, and visits are made on days, too. -/
def visitCalls : List Catalog.Call :=
  [.addTable (Table.ofSchema "days" Catalog.noColumns),
   .addTable (Table.ofSchema "sales" ⟨[⟨"day", .numeric⟩], by decide⟩),
   .addTable (Table.ofSchema "visits" ⟨[⟨"day", .numeric⟩], by decide⟩),
   .addForeignKey "sales" ["day"] "days" ["id"] none,
   .addForeignKey "sales" ["day"] "visits" ["day"] none]

/-- The key of a sale's day is not many-to-many and does not lead to the visits. The
failure tells of the key between sales and visits only. -/
theorem sales_of_visits_told_wrong :
    ¬ ∀ e, byAttributes (Catalog.reached visitCalls) ⟨⟨1⟩, "sales"⟩ ⟨⟨0⟩, "visits"⟩ ["day"] =
        .error e →
      Tells ⟨⟨1⟩, "sales"⟩ ⟨⟨0⟩, "visits"⟩ ["day"]
        (OnlyManyToMany (Catalog.reached visitCalls) "sales" ["day"]) e := by
  intro h
  have hfails : byAttributes (Catalog.reached visitCalls) ⟨⟨1⟩, "sales"⟩ ⟨⟨0⟩, "visits"⟩
      ["day"] = .error (.onlyManyToMany ⟨"sales", ["day"]⟩) := by decide +kernel
  have hday : (Catalog.reached visitCalls).KeyOn "sales" ["day"] ⟨0⟩
      ⟨⟨"days", ["id"]⟩, ⟨"sales", ["day"]⟩, .oneMany⟩ := by
    unfold Catalog.KeyOn
    decide +kernel
  rcases h _ hfails with ⟨⟨-, hall⟩, -⟩ | ⟨-, hsame⟩
  · exact absurd (hall _ _ hday) (by decide)
  · cases hsame

end MarkNest

end KeyChart
