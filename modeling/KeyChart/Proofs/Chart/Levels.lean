import KeyChart.Proofs.Chart.Relations

/-!
# Levels of marks

A mark stands in its outer mark, that one in another, and so on. If this comes to an
end at a mark without an outer mark, the level of the mark is how many steps it took.
Marks that stand in each other in a circle, and those inside them, have no level.

Levels can also be set from the outside in, with a queue: it starts with the marks that
stand in no other, and whoever leaves it lets in the marks inside, one level deeper. Every
mark whose chain ends comes up once and no other mark comes up, so that both ways give the
same levels and leave the same marks without one.
-/

namespace KeyChart

open Attempt

namespace Chart

variable {c : Chart} {id outer : MarkId} {m n : Nat}

/-! ## Chains of outer marks -/

/-- The mark that is reached by going so many times to the outer mark. -/
def above (c : Chart) : Nat → MarkId → Option MarkId
  | 0, id => some id
  | n + 1, id => (c.outer? id).bind (c.above n)

/-- Following outer marks ends at a mark without an outer mark. -/
def Ends (c : Chart) (id : MarkId) : Prop :=
  ∃ n top, c.above n id = some top ∧ c.outer? top = none

/-- Following outer marks never ends. -/
def Endless (c : Chart) (id : MarkId) : Prop := ∀ n, (c.above n id).isSome = true

/-- A mark that stands in so many others, one in the other. -/
inductive Depth (c : Chart) : MarkId → Nat → Prop where
  | top {id : MarkId} : c.outer? id = none → Depth c id 0
  | inside {id outer : MarkId} {n : Nat} :
      c.outer? id = some outer → Depth c outer n → Depth c id (n + 1)

theorem above_succ (c : Chart) (n : Nat) (id : MarkId) :
    c.above (n + 1) id = (c.above n id).bind c.outer? := by
  induction n generalizing id with
  | zero => simp [above]
  | succ n ih =>
    rw [above, above]
    cases c.outer? id with
    | none => rfl
    | some outer => exact ih outer

theorem Ends.inside (houter : c.outer? id = some outer) (h : c.Ends outer) : c.Ends id := by
  obtain ⟨n, top, habove, htop⟩ := h
  exact ⟨n + 1, top, by rw [above, houter, Option.bind_some, habove], htop⟩

theorem ends_iff_depth : c.Ends id ↔ ∃ n, c.Depth id n := by
  constructor
  · rintro ⟨n, top, habove, htop⟩
    induction n generalizing id with
    | zero =>
      cases habove
      exact ⟨0, .top htop⟩
    | succ n ih =>
      rw [above] at habove
      obtain ⟨outer, houter, habove⟩ := Option.bind_eq_some_iff.mp habove
      obtain ⟨k, hk⟩ := ih habove
      exact ⟨k + 1, .inside houter hk⟩
  · rintro ⟨n, hn⟩
    induction hn with
    | top htop => exact ⟨0, _, rfl, htop⟩
    | inside houter _ ih => exact ih.inside houter

/-- A chain ends, or it goes on and on. -/
theorem endless_iff_not_ends : c.Endless id ↔ ¬ c.Ends id := by
  constructor
  · rintro hendless ⟨n, top, habove, htop⟩
    have hnext := hendless (n + 1)
    rw [above_succ, habove, Option.bind_some, htop] at hnext
    cases hnext
  · intro hnot n
    induction n generalizing id with
    | zero => rfl
    | succ n ih =>
      rw [above]
      cases houter : c.outer? id with
      | none => exact absurd ⟨0, id, rfl, houter⟩ hnot
      | some outer =>
        rw [Option.bind_some]
        exact ih fun hends => hnot (hends.inside houter)

theorem Depth.eq (h : c.Depth id m) (h' : c.Depth id n) : m = n := by
  induction h generalizing n with
  | top hnone =>
    cases h' with
    | top => rfl
    | inside houter => cases hnone.symm.trans houter
  | inside houter _ ih =>
    cases h' with
    | top hnone => cases hnone.symm.trans houter
    | inside houter' hn =>
      cases houter.symm.trans houter'
      rw [ih hn]

/-- Levels are looked for only so deep. -/
theorem levelWithin_eq_some_iff {fuel : Nat} :
    c.levelWithin fuel id = some n ↔ c.Depth id n ∧ n < fuel := by
  induction fuel generalizing id n with
  | zero => simp [levelWithin]
  | succ fuel ih =>
    rw [levelWithin]
    cases houter : c.outer? id with
    | none =>
      simp only [Option.some.injEq]
      constructor
      · rintro rfl
        exact ⟨.top houter, Nat.succ_pos _⟩
      · exact fun h => (Depth.top houter).eq h.1
    | some outer =>
      simp only [Option.map_eq_some_iff, ih]
      constructor
      · rintro ⟨k, ⟨hk, hlt⟩, rfl⟩
        exact ⟨.inside houter hk, Nat.succ_lt_succ hlt⟩
      · rintro ⟨hn, hlt⟩
        cases hn with
        | top hnone => cases houter.symm.trans hnone
        | inside houter' hk =>
          cases houter.symm.trans houter'
          exact ⟨_, ⟨hk, Nat.lt_of_succ_lt_succ hlt⟩, rfl⟩

/-- Marks come in the order of their numbers. -/
theorem pairwise_keys (c : Chart) : c.marks.keys.Pairwise fun id id' => id.index < id'.index :=
  List.pairwise_map.mpr (c.marks.sorted.imp fun h => Nat.compare_eq_lt.mp h)

theorem setLevels_eq_ok {c' : Chart} (h : c.setLevels = .ok c') :
    (c.marks.keys.filter fun id => (c.level? id).isNone) = [] ∧
      c' = { c with
        marks := c.marks.mapValues fun id m => { m with level := (c.level? id).getD 0 } } := by
  unfold setLevels at h
  dsimp only at h
  split at h
  case isTrue hempty => exact ⟨List.isEmpty_iff.mp hempty, (Except.ok.inj h).symm⟩
  case isFalse => cases h

theorem setLevels_eq_error {e : Error} (h : c.setLevels = .error e) :
    (c.marks.keys.filter fun id => (c.level? id).isNone) ≠ [] ∧
      e = .cycle (c.marks.keys.filter fun id => (c.level? id).isNone) := by
  unfold setLevels at h
  dsimp only at h
  split at h
  case isTrue => cases h
  case isFalse hne => exact ⟨fun hnil => hne (List.isEmpty_iff.mpr hnil), (Except.error.inj h).symm⟩

theorem knows_iff_mem_keys : c.Knows id ↔ id ∈ c.marks.keys := by
  rw [SortedMap.mem_keys]
  exact exists_congr fun m => mark_eq_ok

/-! ## Levels that are looked for

Outer marks are marks of the chart, so a chain that ends has no more marks than the chart. -/

section Known

variable (hknown : ∀ {id outer}, c.outer? id = some outer → c.Knows outer)
include hknown

/-- A mark and those that it stands in are different marks of the chart. -/
theorem Depth.exists_chain (h : c.Depth id n) (hid : c.Knows id) :
    ∃ chain : List MarkId, chain.length = n + 1 ∧ chain.Nodup ∧
      ∀ x ∈ chain, c.Knows x ∧ ∃ k ≤ n, c.Depth x k := by
  induction h with
  | @top id hnone => exact ⟨[id], rfl, List.nodup_singleton _, by simpa using ⟨hid, .top hnone⟩⟩
  | @inside id outer n houter hn ih =>
    obtain ⟨chain, hlength, hnodup, hchain⟩ := ih (hknown houter)
    refine ⟨id :: chain, by simp [hlength], List.nodup_cons.mpr ⟨?_, hnodup⟩, ?_⟩
    · -- The mark is deeper than all those that it stands in.
      intro hmem
      obtain ⟨-, k, hk, hdepth⟩ := hchain id hmem
      have heq := hdepth.eq (.inside houter hn)
      omega
    · intro x hx
      rcases List.mem_cons.mp hx with rfl | hx
      · exact ⟨hid, n + 1, Nat.le_refl _, .inside houter hn⟩
      · obtain ⟨hx, k, hk, hdepth⟩ := hchain x hx
        exact ⟨hx, k, Nat.le_succ_of_le hk, hdepth⟩

theorem Depth.lt_length (h : c.Depth id n) (hid : c.Knows id) : n < c.marks.keys.length := by
  obtain ⟨chain, hlength, hnodup, hchain⟩ := h.exists_chain hknown hid
  have hle : chain.length ≤ c.marks.keys.length := by
    refine (hnodup.subperm ?_).length_le
    exact fun x hx => knows_iff_mem_keys.mp (hchain x hx).1
  omega

theorem level?_eq_some_iff (hid : c.Knows id) : c.level? id = some n ↔ c.Depth id n := by
  rw [level?, levelWithin_eq_some_iff]
  exact ⟨And.left, fun h => ⟨h, h.lt_length hknown hid⟩⟩

theorem level?_isNone_iff (hid : c.Knows id) : (c.level? id).isNone = true ↔ c.Endless id := by
  rw [endless_iff_not_ends, ends_iff_depth, Option.isNone_iff_eq_none,
    Option.eq_none_iff_forall_ne_some]
  simp [level?_eq_some_iff hknown hid]

/-- The level of a mark is that of its outer mark and one. -/
theorem level?_eq (hid : c.Knows id) :
    c.level? id = match c.outer? id with
      | none => some 0
      | some outer => (c.level? outer).map (· + 1) := by
  apply Option.ext
  intro n
  rw [level?_eq_some_iff hknown hid]
  cases houter : c.outer? id with
  | none =>
    simp only [Option.some.injEq]
    constructor
    · exact fun h => (Depth.top houter).eq h
    · rintro rfl
      exact .top houter
  | some outer =>
    simp only [Option.map_eq_some_iff, level?_eq_some_iff hknown (hknown houter)]
    constructor
    · intro h
      cases h with
      | top hnone => cases houter.symm.trans hnone
      | inside houter' hk =>
        cases houter.symm.trans houter'
        exact ⟨_, hk, rfl⟩
    · rintro ⟨k, hk, rfl⟩
      exact .inside houter hk

end Known

/-! ## Levels by a queue -/

/-- The marks in each mark that has some, and the marks that wait for their level. -/
structure LevelQueue where
  inside : SortedMap MarkId (List MarkId)
  waiting : List (MarkId × Nat)

namespace LevelQueue

/-- Notes a mark with its outer mark. Without one it waits for the level zero. -/
def note (c : Chart) (q : LevelQueue) (id : MarkId) : LevelQueue :=
  match c.outer? id with
  | some outer =>
    { q with inside := q.inside.insert outer ((q.inside.find? outer).getD [] ++ [id]) }
  | none => { q with waiting := q.waiting ++ [(id, 0)] }

/-- The queue before any mark has its level. -/
def start (c : Chart) : LevelQueue := c.marks.keys.foldl (note c) ⟨.empty, []⟩

/-- The marks in a mark. -/
def insideOf (q : LevelQueue) (id : MarkId) : List MarkId := (q.inside.find? id).getD []

/-- Gives up to `fuel` waiting marks their level. -/
def give (inside : MarkId → List MarkId) :
    Nat → List (MarkId × Nat) → SortedMap MarkId Nat → SortedMap MarkId Nat
  | 0, _, levels => levels
  | _ + 1, [], levels => levels
  | fuel + 1, (id, level) :: waiting, levels =>
    give inside fuel (waiting ++ (inside id).map fun child => (child, level + 1))
      (levels.insert id level)

end LevelQueue

/-- The levels that up to so many turns of the queue give. -/
def levelsByQueue (c : Chart) (fuel : Nat) : SortedMap MarkId Nat :=
  LevelQueue.give (LevelQueue.start c).insideOf fuel (LevelQueue.start c).waiting .empty

/-- Sets the levels of all marks by up to so many turns of the queue. -/
def setLevelsByQueue (c : Chart) (fuel : Nat) : Except Error Chart :=
  let levels := c.levelsByQueue fuel
  let unreached := c.marks.keys.filter fun id => !levels.contains id
  if unreached.isEmpty then
    .ok { c with
      marks := c.marks.mapValues fun id m => { m with level := (levels.find? id).getD 0 } }
  else .error (.cycle unreached)

namespace LevelQueue

variable {waiting : List (MarkId × Nat)} {levels : SortedMap MarkId Nat}

theorem insideOf_note (c : Chart) (q : LevelQueue) (x id : MarkId) :
    (note c q x).insideOf id = q.insideOf id ++ if c.outer? x = some id then [x] else [] := by
  unfold note
  cases c.outer? x with
  | none => simp [insideOf]
  | some outer =>
    by_cases hid : id = outer
    · simp [insideOf, hid]
    · simp [insideOf, hid, Ne.symm hid]

theorem waiting_note (c : Chart) (q : LevelQueue) (x : MarkId) :
    (note c q x).waiting = q.waiting ++ if c.outer? x = none then [(x, 0)] else [] := by
  unfold note
  cases c.outer? x <;> simp

theorem insideOf_foldl_note (c : Chart) (ids : List MarkId) (q : LevelQueue) (id : MarkId) :
    (ids.foldl (note c) q).insideOf id =
      q.insideOf id ++ ids.filter fun x => c.outer? x = some id := by
  induction ids generalizing q with
  | nil => simp
  | cons x rest ih =>
    rw [List.foldl_cons, ih, insideOf_note, List.filter_cons]
    by_cases hx : c.outer? x = some id <;> simp [hx]

theorem waiting_foldl_note (c : Chart) (ids : List MarkId) (q : LevelQueue) :
    (ids.foldl (note c) q).waiting =
      q.waiting ++ (ids.filter fun x => c.outer? x = none).map (·, 0) := by
  induction ids generalizing q with
  | nil => simp
  | cons x rest ih =>
    rw [List.foldl_cons, ih, waiting_note, List.filter_cons]
    by_cases hx : c.outer? x = none <;> simp [hx]

theorem waiting_start (c : Chart) :
    (start c).waiting = (c.marks.keys.filter fun x => c.outer? x = none).map (·, 0) :=
  waiting_foldl_note c _ _

theorem insideOf_start (c : Chart) (id : MarkId) :
    (start c).insideOf id = c.marks.keys.filter fun x => c.outer? x = some id :=
  insideOf_foldl_note c _ _ id

theorem mem_insideOf_start {x : MarkId} :
    x ∈ (start c).insideOf id ↔ c.Knows x ∧ c.outer? x = some id := by
  simp [insideOf_start, knows_iff_mem_keys]

theorem nodup_insideOf_start (c : Chart) (id : MarkId) : ((start c).insideOf id).Nodup := by
  rw [insideOf_start]
  exact c.marks.nodup_keys.filter _

theorem map_fst_inside (c : Chart) (id : MarkId) (n : Nat) :
    (((start c).insideOf id).map fun child => (child, n)).map Prod.fst = (start c).insideOf id := by
  simp [Function.comp_def]

/-- What holds between two turns: the marks that wait or have a level are just those that
stand in no mark or in one with a level, nobody waits twice, and levels are right. -/
structure Right (c : Chart) (waiting : List (MarkId × Nat)) (levels : SortedMap MarkId Nat) :
    Prop where
  depth : ∀ id n, (id, n) ∈ waiting ∨ levels.find? id = some n → c.Knows id ∧ c.Depth id n
  once : (waiting.map Prod.fst).Nodup
  fresh : ∀ id ∈ waiting.map Prod.fst, levels.find? id = none
  seen : ∀ id, c.Knows id →
    ((id ∈ waiting.map Prod.fst ∨ (levels.find? id).isSome = true) ↔
      ∀ outer, c.outer? id = some outer → (levels.find? outer).isSome = true)

theorem right_start (c : Chart) : Right c (start c).waiting .empty where
  depth := by
    intro id n h
    rw [waiting_start] at h
    simp only [List.mem_map, List.mem_filter, decide_eq_true_eq, Prod.mk.injEq,
      SortedMap.find?_empty, reduceCtorEq, or_false] at h
    obtain ⟨x, ⟨hx, hnone⟩, rfl, rfl⟩ := h
    exact ⟨knows_iff_mem_keys.mpr hx, .top hnone⟩
  once := by
    rw [waiting_start, List.map_map]
    simpa [Function.comp_def] using c.marks.nodup_keys.filter _
  fresh _ _ := rfl
  seen := by
    intro id hid
    have hmem := knows_iff_mem_keys.mp hid
    rw [waiting_start, List.map_map]
    simp [Function.comp_def, hmem, Option.eq_none_iff_forall_ne_some]

/-- What stands in the first mark that waits has not been seen before its turn. -/
theorem Right.unseen (h : Right c ((id, n) :: waiting) levels) {x : MarkId}
    (hx : x ∈ (start c).insideOf id) :
    x ∉ ((id, n) :: waiting).map Prod.fst ∧ levels.find? x = none := by
  obtain ⟨hknows, houter⟩ := mem_insideOf_start.mp hx
  have hnone : levels.find? id = none := h.fresh id (by simp)
  have hnot : ¬ (x ∈ ((id, n) :: waiting).map Prod.fst ∨ (levels.find? x).isSome = true) := by
    rw [h.seen x hknows]
    intro hall
    have hsome := hall id houter
    rw [hnone] at hsome
    cases hsome
  exact ⟨fun hmem => hnot (.inl hmem), by simpa using fun hsome => hnot (.inr hsome)⟩

/-- After its turn, the marks that have been seen are those from before and those in it. -/
theorem seen_turn_iff {x : MarkId} (hx : c.Knows x) :
    (x ∈ (waiting ++ ((start c).insideOf id).map fun child => (child, n + 1)).map Prod.fst ∨
        ((levels.insert id n).find? x).isSome = true) ↔
      (x ∈ ((id, n) :: waiting).map Prod.fst ∨ (levels.find? x).isSome = true) ∨
        c.outer? x = some id := by
  rw [List.map_append, List.mem_append, map_fst_inside, mem_insideOf_start, SortedMap.find?_insert,
    List.map_cons, List.mem_cons]
  by_cases hxid : x = id
  · simp [hxid]
  · simp only [hx, hxid, true_and, false_or, if_false]
    rw [or_right_comm]

theorem Right.turn (h : Right c ((id, n) :: waiting) levels) :
    Right c (waiting ++ ((start c).insideOf id).map fun child => (child, n + 1))
      (levels.insert id n) := by
  obtain ⟨hid, hdepth⟩ := h.depth id n (.inl List.mem_cons_self)
  obtain ⟨hfirst, honce⟩ := List.nodup_cons.mp h.once
  refine ⟨?depth, ?once, ?fresh, ?seen⟩
  case depth =>
    intro x k hx
    simp only [List.mem_append, List.mem_map, Prod.mk.injEq, SortedMap.find?_insert] at hx
    rcases hx with (hx | ⟨child, hchild, rfl, rfl⟩) | hx
    · exact h.depth x k (.inl (List.mem_cons_of_mem _ hx))
    · obtain ⟨hknows, houter⟩ := mem_insideOf_start.mp hchild
      exact ⟨hknows, .inside houter hdepth⟩
    · split at hx
      case isTrue heq =>
        cases hx
        rw [heq]
        exact ⟨hid, hdepth⟩
      case isFalse => exact h.depth x k (.inr hx)
  case once =>
    rw [List.map_append, map_fst_inside]
    refine List.nodup_append.mpr ⟨honce, nodup_insideOf_start c id, ?_⟩
    rintro x hx y hy rfl
    exact (h.unseen hy).1 (List.mem_cons_of_mem _ hx)
  case fresh =>
    intro x hx
    rw [List.map_append, map_fst_inside, List.mem_append] at hx
    rw [SortedMap.find?_insert]
    rcases hx with hx | hx
    · have hne : x ≠ id := by
        rintro rfl
        exact hfirst hx
      rw [if_neg hne]
      exact h.fresh x (List.mem_cons_of_mem _ hx)
    · obtain ⟨hne, hx⟩ := h.unseen hx
      rw [if_neg (fun heq => hne (by simp [heq])), hx]
  case seen =>
    -- Who was seen stays seen, and what stands in the mark is seen now.
    intro x hx
    rw [seen_turn_iff hx, h.seen x hx]
    cases houter : c.outer? x with
    | none => simp
    | some outer =>
      simp only [Option.some.injEq, forall_eq', SortedMap.find?_insert]
      by_cases hid' : outer = id
      · simp [hid']
      · simp [hid']

/-- With a turn for every mark without a level, everybody who waits gets one. -/
theorem Right.give {fuel : Nat} (h : Right c waiting levels)
    (hfuel : (c.marks.keys.filter fun id => (levels.find? id).isNone).length ≤ fuel) :
    Right c [] (give (start c).insideOf fuel waiting levels) := by
  induction fuel generalizing waiting levels with
  | zero =>
    cases waiting with
    | nil => exact h
    | cons first rest =>
      obtain ⟨id, n⟩ := first
      have hmem : id ∈ c.marks.keys.filter fun id => (levels.find? id).isNone := by
        rw [List.mem_filter, h.fresh id (by simp)]
        exact ⟨knows_iff_mem_keys.mp (h.depth id n (.inl List.mem_cons_self)).1, rfl⟩
      rw [List.length_eq_zero_iff.mp (Nat.le_zero.mp hfuel)] at hmem
      cases hmem
  | succ fuel ih =>
    cases waiting with
    | nil => exact h
    | cons first rest =>
      obtain ⟨id, n⟩ := first
      refine ih h.turn ?_
      -- The first one that waits has no level before its turn.
      have hless : ((c.marks.keys.filter fun x => (levels.find? x).isNone).filter
          (· ≠ id)).length < (c.marks.keys.filter fun x => (levels.find? x).isNone).length := by
        rw [List.length_filter_lt_length_iff_exists]
        refine ⟨id, ?_, by simp⟩
        rw [List.mem_filter, h.fresh id (by simp)]
        exact ⟨knows_iff_mem_keys.mp (h.depth id n (.inl List.mem_cons_self)).1, rfl⟩
      have hsame : (c.marks.keys.filter fun x => ((levels.insert id n).find? x).isNone) =
          (c.marks.keys.filter fun x => (levels.find? x).isNone).filter (· ≠ id) := by
        rw [List.filter_filter]
        refine List.filter_congr ?_
        intro x _
        by_cases hx : x = id <;> simp [hx]
      rw [hsame]
      omega

/-- When nobody waits any more, the marks whose chain ends have their level. -/
theorem Right.find?_eq_some_iff (h : Right c [] levels) (hid : c.Knows id)
    (hknown : ∀ {id outer}, c.outer? id = some outer → c.Knows outer) :
    levels.find? id = some n ↔ c.Depth id n := by
  constructor
  · exact fun hfind => (h.depth id n (.inr hfind)).2
  · intro hdepth
    have hsome : (levels.find? id).isSome = true := by
      induction hdepth with
      | top hnone => simpa using (h.seen _ hid).mpr (by simp [hnone])
      | inside houter _ ih =>
        have houter' := ih (hknown houter)
        simpa using (h.seen _ hid).mpr (by simpa [houter] using houter')
    obtain ⟨k, hk⟩ := Option.isSome_iff_exists.mp hsome
    rw [hk, (h.depth id k (.inr hk)).2.eq hdepth]

end LevelQueue

section Known

variable (hknown : ∀ {id outer}, c.outer? id = some outer → c.Knows outer)
include hknown

theorem find?_levelsByQueue {fuel : Nat} (hfuel : c.marks.keys.length ≤ fuel) (hid : c.Knows id) :
    (c.levelsByQueue fuel).find? id = c.level? id := by
  have hright : LevelQueue.Right c [] (c.levelsByQueue fuel) :=
    (LevelQueue.right_start c).give (Nat.le_trans (List.length_filter_le _ _) hfuel)
  apply Option.ext
  intro n
  rw [hright.find?_eq_some_iff hid hknown, level?_eq_some_iff hknown hid]

/-- The queue sets the levels that are looked for, however many turns more it has than
there are marks. -/
theorem setLevelsByQueue_eq {fuel : Nat} (hfuel : c.marks.keys.length ≤ fuel) :
    c.setLevelsByQueue fuel = c.setLevels := by
  have hunreached : (c.marks.keys.filter fun id => !(c.levelsByQueue fuel).contains id) =
      c.marks.keys.filter fun id => (c.level? id).isNone := by
    refine List.filter_congr ?_
    intro id hmem
    rw [SortedMap.contains_eq_isSome,
      find?_levelsByQueue hknown hfuel (knows_iff_mem_keys.mpr hmem), Option.not_isSome]
  have hmarks : (c.marks.mapValues fun id m =>
        { m with level := ((c.levelsByQueue fuel).find? id).getD 0 }) =
      c.marks.mapValues fun id m => { m with level := (c.level? id).getD 0 } := by
    refine SortedMap.mapValues_congr ?_
    intro id m hm
    rw [find?_levelsByQueue hknown hfuel ⟨m, mark_eq_ok.mpr hm⟩]
  simp only [setLevelsByQueue, setLevels, hunreached, hmarks]

theorem mem_endless {id : MarkId} :
    id ∈ c.marks.keys.filter (fun id => (c.level? id).isNone) ↔ c.Knows id ∧ c.Endless id := by
  rw [List.mem_filter, ← knows_iff_mem_keys]
  exact and_congr_right fun hid => level?_isNone_iff hknown hid

/-- Every chain ends just if no mark is left without a level. -/
theorem endless_eq_nil_iff :
    c.marks.keys.filter (fun id => (c.level? id).isNone) = [] ↔ ∀ id, c.Knows id → c.Ends id := by
  rw [List.eq_nil_iff_forall_not_mem]
  refine forall_congr' fun id => ?_
  rw [mem_endless hknown, endless_iff_not_ends, not_and, not_not]

end Known

/-- Outer marks are known. -/
theorem Recorded.knows_outer (hc : c.Recorded) (h : c.outer? id = some outer) : c.Knows outer := by
  have hdependency := (hc.dependencies ⟨outer, id⟩).mpr (.inr h)
  exact (hc.scheduled outer).mp (hc.built.wellFormed_idle.1.closed _ hdependency).1

end Chart

namespace Session

variable {σ ρ : Type}

/-- What setting the levels does to a session, and that a queue of marks does the same. -/
structure LevelsSet (b : Backend σ ρ) (s : Session σ ρ) : Prop where
  succeeds : (∃ s', ((Operation.setLevels : Operation σ).attempt b).run.run s = (.ok (), s')) ↔
    ∀ id, s.chart.Knows id → s.chart.Ends id
  levels : ∀ s', ((Operation.setLevels : Operation σ).attempt b).run.run s = (.ok (), s') →
    ∃ level : MarkId → Nat,
      s' = { s with chart := { s.chart with
        marks := s.chart.marks.mapValues fun id m => { m with level := level id } } } ∧
      ∀ id, s.chart.Knows id → level id = match s.chart.outer? id with
        | none => 0
        | some outer => level outer + 1
  fails : ∀ e s', ((Operation.setLevels : Operation σ).attempt b).run.run s = (.error e, s') →
    s' = s ∧ ∃ left, e = .cycle left ∧ left.Pairwise (fun id id' => id.index < id'.index) ∧
      ∀ id, id ∈ left ↔ s.chart.Knows id ∧ s.chart.Endless id
  queued : ∀ turns, s.chart.marks.keys.length ≤ turns →
    s.chart.setLevelsByQueue turns = s.chart.setLevels

theorem run_setLevels (b : Backend σ ρ) (s : Session σ ρ) :
    ((Operation.setLevels : Operation σ).attempt b).run.run s = match s.chart.setLevels with
      | .ok chart => (.ok (), { s with chart })
      | .error e => (.error e, s) := by
  rw [Operation.attempt, edit, run_atomic]
  cases s.chart.setLevels <;> rfl

end Session

open Session

/-- Whatever is done to a session, the levels of its marks can be set exactly if following
outer marks ends for every mark. Then a mark without an outer mark has level zero and any
other mark that of its outer mark and one, and nothing else changes. Otherwise nothing at
all changes, and the marks of which the outer marks never end are named in order. A queue
of marks sets the same levels, from the outside in. -/
theorem levels_exact {σ ρ : Type} (b : Backend σ ρ) (config : ChartConfig) (engine : σ)
    (renderer : ρ) (ops : List (Operation σ)) :
    (operated b (start config engine renderer) ops).LevelsSet b := by
  generalize hs : operated b (start config engine renderer) ops = s
  have hrecorded : s.chart.Recorded := hs ▸ operated_recorded b config engine renderer ops
  have hknown : ∀ {id outer}, s.chart.outer? id = some outer → s.chart.Knows outer :=
    fun houter => hrecorded.knows_outer houter
  have hqueued : ∀ turns, s.chart.marks.keys.length ≤ turns →
      s.chart.setLevelsByQueue turns = s.chart.setLevels :=
    fun _ hturns => Chart.setLevelsByQueue_eq hknown hturns
  have hends := Chart.endless_eq_nil_iff hknown
  have hrun := run_setLevels b s
  cases hlevels : s.chart.setLevels with
  | ok chart =>
    rw [hlevels] at hrun
    obtain ⟨hempty, rfl⟩ := Chart.setLevels_eq_ok hlevels
    have hall := hends.mp hempty
    refine ⟨iff_of_true ⟨_, hrun⟩ hall, ?_, ?_, hqueued⟩
    · intro s' hs'
      cases hrun.symm.trans hs'
      refine ⟨fun id => (s.chart.level? id).getD 0, rfl, ?_⟩
      intro id hid
      dsimp only
      rw [Chart.level?_eq hknown hid]
      cases houter : s.chart.outer? id with
      | none => rfl
      | some outer =>
        obtain ⟨n, hn⟩ := Chart.ends_iff_depth.mp (hall outer (hknown houter))
        simp [(Chart.level?_eq_some_iff hknown (hknown houter)).mpr hn]
    · intro e s' hs'
      cases hrun.symm.trans hs'
  | error e =>
    rw [hlevels] at hrun
    obtain ⟨hnonempty, rfl⟩ := Chart.setLevels_eq_error hlevels
    refine ⟨iff_of_false ?_ fun hall => hnonempty (hends.mpr hall), ?_, ?_, hqueued⟩
    · rintro ⟨s', hs'⟩
      cases hrun.symm.trans hs'
    · intro s' hs'
      cases hrun.symm.trans hs'
    · intro e' s' hs'
      cases hrun.symm.trans hs'
      refine ⟨rfl, _, rfl, ?_, fun id => Chart.mem_endless hknown⟩
      exact s.chart.pairwise_keys.filter _

end KeyChart
