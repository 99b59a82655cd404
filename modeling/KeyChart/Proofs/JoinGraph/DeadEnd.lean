import KeyChart.Proofs.JoinGraph.Complete

/-!
# Dead ends

A table that is tied to one other table only is a dead end: a path that enters it
has come from the other one and cannot go back. So no search between further tables
takes notice of it. Both searches find the same paths in the same order, although
they try more steps on the way.
-/

namespace KeyChart.JoinGraph

variable {g g' : JoinGraph} {n m a b : String} {extra : List JoinStep}

/-- A graph with more steps than another one, all between a table that is new to it
and one other table. -/
structure DeadEnd (g g' : JoinGraph) (n m : String) (extra : List JoinStep) : Prop where
  steps : g'.steps = g.steps ++ extra
  apart : ∀ s ∈ g.steps, s.source.table ≠ n ∧ s.target.table ≠ n
  between : ∀ s ∈ extra, (s.source.table = m ∧ s.target.table = n) ∨
    (s.source.table = n ∧ s.target.table = m)

namespace DeadEnd

variable (h : g.DeadEnd g' n m extra)
include h

theorem leaving (a : String) : g'.leaving a = g.leaving a ++ extra.filter (·.source.table == a) := by
  rw [JoinGraph.leaving, h.steps, List.filter_append]
  rfl

/-- From another table an extra step leads into the dead end. -/
theorem target_of_leaving (ha : a ≠ n) {s : JoinStep}
    (hs : s ∈ extra.filter (·.source.table == a)) : a = m ∧ s.target.table = n := by
  obtain ⟨hmem, hsource⟩ := List.mem_filter.mp hs
  have hsource : s.source.table = a := by simpa using hsource
  rcases h.between s hmem with ⟨hm, hn⟩ | ⟨hn, -⟩
  · exact ⟨hsource.symm.trans hm, hn⟩
  · exact absurd (hsource.symm.trans hn) ha

/-- Every step that leaves the dead end leads back. -/
theorem target_of_leaving_end {s : JoinStep} (hs : s ∈ g'.leaving n) : s.target.table = m := by
  rw [h.leaving] at hs
  rcases List.mem_append.mp hs with hs | hs
  · obtain ⟨hmem, hsource⟩ := mem_leaving.mp hs
    exact absurd hsource (h.apart s hmem).1
  · obtain ⟨hmem, hsource⟩ := List.mem_filter.mp hs
    have hsource : s.source.table = n := by simpa using hsource
    rcases h.between s hmem with ⟨hm, hn⟩ | ⟨-, hm⟩
    · exact hn.trans (hsource.symm.trans hm)
    · exact hm

/-! ## Shortest paths -/

/-- A path in the dead end has come by the other table. -/
def Came (n m : String) (p : JoinPath) : Prop := p.destination = n → m ∈ p.tables

theorem extensions_end {p : JoinPath} (hp : Came n m p) (hend : p.destination = n) :
    g'.extensions p = [] := by
  refine List.eq_nil_iff_forall_not_mem.mpr ?_
  intro q hq
  obtain ⟨s, hs, hnew, -⟩ := mem_extensions.mp hq
  rw [hend] at hs
  exact hnew (h.target_of_leaving_end hs ▸ hp hend)

theorem came_extensions {p q : JoinPath} (hp : Came n m p) (hq : q ∈ g'.extensions p) :
    Came n m q := by
  by_cases hend : p.destination = n
  · rw [h.extensions_end hp hend] at hq
    cases hq
  · obtain ⟨s, hs, -, rfl⟩ := mem_extensions.mp hq
    intro hn
    rw [extend_destination] at hn
    rw [h.leaving] at hs
    rcases List.mem_append.mp hs with hs | hs
    · exact absurd hn (h.apart s (mem_leaving.mp hs).1).2
    · have hm := (h.target_of_leaving hend hs).1
      have hin := destination_mem_tables p
      simp only [JoinPath.tables, JoinPath.extend, List.map_append, List.mem_cons,
        List.mem_append] at hin ⊢
      rw [hm] at hin
      exact hin.imp_right .inl

/-- Outside of the dead end, paths go on as they did. -/
theorem extensions_outside {p : JoinPath} (hp : p.destination ≠ n) :
    (g'.extensions p).filter (·.destination ≠ n) = g.extensions p := by
  have hextra : ((extra.filter (·.source.table == p.destination)).filter
      (·.target.table ∉ p.tables)).filter (fun s => (p.extend s).destination ≠ n) = [] := by
    refine List.filter_eq_nil_iff.mpr ?_
    intro s hs
    have hn := (h.target_of_leaving hp (List.mem_filter.mp hs).1).2
    simp [extend_destination, hn]
  have hold : ((g.leaving p.destination).filter (·.target.table ∉ p.tables)).filter
      (fun s => (p.extend s).destination ≠ n) =
      (g.leaving p.destination).filter (·.target.table ∉ p.tables) := by
    refine List.filter_eq_self.mpr ?_
    intro s hs
    have hn := (h.apart s (mem_leaving.mp (List.mem_filter.mp hs).1).1).2
    simp [extend_destination, hn]
  rw [extensions, List.filter_map, h.leaving, List.filter_append, List.filter_append]
  simp only [Function.comp_def]
  rw [hextra, hold, List.append_nil]
  rfl

theorem flatMap_extensions {frontier : List JoinPath} (hcame : ∀ p ∈ frontier, Came n m p) :
    (frontier.flatMap g'.extensions).filter (·.destination ≠ n) =
      (frontier.filter (·.destination ≠ n)).flatMap g.extensions := by
  induction frontier with
  | nil => rfl
  | cons p rest ih =>
    rw [List.flatMap_cons, List.filter_append, ih fun q hq => hcame q (by simp [hq])]
    by_cases hend : p.destination = n
    · rw [h.extensions_end (hcame p (by simp)) hend, List.filter_cons_of_neg (by simp [hend])]
      rfl
    · rw [h.extensions_outside hend, List.filter_cons_of_pos (by simp [hend]), List.flatMap_cons]

/-- The rounds of both searches differ in nothing but paths that have ended. -/
theorem reach_eq (hb : b ≠ n) (fuel : Nat) {frontier : List JoinPath}
    (hcame : ∀ p ∈ frontier, Came n m p) :
    g'.reach b fuel frontier = g.reach b fuel (frontier.filter (·.destination ≠ n)) := by
  induction fuel generalizing frontier with
  | zero => rfl
  | succ fuel ih =>
    have hnext : ∀ q ∈ frontier.flatMap g'.extensions, Came n m q := by
      intro q hq
      obtain ⟨p, hp, hq⟩ := List.mem_flatMap.mp hq
      exact h.came_extensions (hcame p hp) hq
    have hfound : (frontier.flatMap g'.extensions).filter (·.destination == b) =
        ((frontier.filter (·.destination ≠ n)).flatMap g.extensions).filter
          (·.destination == b) := by
      rw [← h.flatMap_extensions hcame, List.filter_filter]
      refine List.filter_congr ?_
      intro p _
      by_cases hp : p.destination = b
      · simp [hp, hb]
      · simp [hp]
    simp only [reach]
    rw [hfound, ih hnext, h.flatMap_extensions hcame]

end DeadEnd

theorem reach_nil (g : JoinGraph) (b : String) (fuel : Nat) : g.reach b fuel [] = [] := by
  induction fuel with
  | zero => rfl
  | succ fuel ih => simpa [reach] using ih

theorem length_of_mem_flatMap_extensions {frontier : List JoinPath} {q : JoinPath}
    (hroutes : ∀ p ∈ frontier, g.Route p.source p.steps p.destination)
    (hq : q ∈ frontier.flatMap g.extensions) :
    ∃ p ∈ frontier, g.Route q.source q.steps q.destination ∧
      q.steps.length = p.steps.length + 1 := by
  obtain ⟨p, hp, hq⟩ := List.mem_flatMap.mp hq
  have hroute := (route_of_mem_extensions (hroutes p hp) hq).2
  obtain ⟨s, -, -, rfl⟩ := mem_extensions.mp hq
  exact ⟨p, hp, hroute, by simp [JoinPath.extend]⟩

/-- Rounds that no route can need find nothing. -/
theorem reach_add {fuel : Nat} (more : Nat) {frontier : List JoinPath}
    (hroutes : ∀ p ∈ frontier, g.Route p.source p.steps p.destination)
    (hfuel : ∀ p ∈ frontier, g.steps.length ≤ p.steps.length + fuel) :
    g.reach b (fuel + more) frontier = g.reach b fuel frontier := by
  induction fuel generalizing frontier with
  | zero =>
    cases more with
    | zero => rfl
    | succ more =>
      have hnone : frontier.flatMap g.extensions = [] := by
        refine List.eq_nil_iff_forall_not_mem.mpr ?_
        intro q hq
        obtain ⟨p, hp, hroute, hlen⟩ := length_of_mem_flatMap_extensions hroutes hq
        have hbound := hroute.length_le
        have hfuel := hfuel p hp
        omega
      have hnothing : g.reach b (more + 1) frontier = [] := by
        simp [reach, hnone, reach_nil]
      rw [Nat.zero_add, hnothing]
      rfl
  | succ fuel ih =>
    have hnext : g.reach b (fuel + more) (frontier.flatMap g.extensions) =
        g.reach b fuel (frontier.flatMap g.extensions) := by
      refine ih ?_ ?_
      · intro q hq
        obtain ⟨p, -, hroute, -⟩ := length_of_mem_flatMap_extensions hroutes hq
        exact hroute
      · intro q hq
        obtain ⟨p, hp, -, hlen⟩ := length_of_mem_flatMap_extensions hroutes hq
        have hfuel := hfuel p hp
        omega
    rw [Nat.succ_add]
    simp only [reach, hnext]

namespace DeadEnd

variable (h : g.DeadEnd g' n m extra)
include h

theorem shortestPaths_eq (ha : a ≠ n) (hb : b ≠ n) : g'.shortestPaths a b = g.shortestPaths a b := by
  unfold shortestPaths
  split
  case isTrue => rfl
  case isFalse =>
    have hstart : (JoinPath.stay a).destination = a := rfl
    have hcame : ∀ p ∈ [JoinPath.stay a], Came n m p := by
      intro p hp hend
      rw [List.mem_singleton.mp hp] at hend
      exact absurd hend ha
    rw [h.reach_eq hb _ hcame, List.filter_cons_of_pos (by simp [hstart, ha]), List.filter_nil,
      h.steps, List.length_append]
    refine reach_add _ ?_ ?_
    · intro p hp
      rw [List.mem_singleton.mp hp]
      exact Route.stay g a
    · intro p hp
      omega

theorem shortestPath?_eq (ha : a ≠ n) (hb : b ≠ n) :
    g'.shortestPath? a b = g.shortestPath? a b := by
  rw [shortestPath?, shortestPath?, h.shortestPaths_eq ha hb]

/-! ## Descents -/

/-- A descent into the dead end does not come back. -/
theorem descend?_end (hb : b ≠ n) {opened : List String} (hm : m ∉ opened) :
    g'.descend? b opened n = none := by
  rw [descend?, if_neg (Ne.symm hb), List.findSome?_eq_none_iff]
  intro s hs
  rw [dif_neg]
  rwa [h.target_of_leaving_end hs]

omit h in
theorem findSome?_congr {α β : Type} {f f' : α → Option β} {as : List α}
    (hf : ∀ a ∈ as, f a = f' a) : as.findSome? f = as.findSome? f' := by
  induction as with
  | nil => rfl
  | cons a rest ih =>
    rw [List.findSome?_cons, List.findSome?_cons, hf a (by simp),
      ih fun a' ha' => hf a' (by simp [ha'])]

theorem descend?_eq (hb : b ≠ n) {opened opened' : List String} (hnodup : opened.Nodup)
    (hnodup' : opened'.Nodup)
    (hsame : ∀ s ∈ g.steps, s.target.table ∈ opened' ↔ s.target.table ∈ opened)
    (ha : a ≠ n) (hclosed : a ∉ opened') : g'.descend? b opened' a = g.descend? b opened a := by
  -- Every step closes a table, the same one in both searches.
  induction hlen : opened'.length using Nat.strongRecOn generalizing opened opened' a with
  | _ len ih =>
    rw [descend?, descend?]
    split
    case isTrue => rfl
    case isFalse =>
      have hextra : (extra.filter (·.source.table == a)).findSome? (fun s =>
          if _h : s.target.table ∈ opened' then
            (g'.descend? b (opened'.erase s.target.table) s.target.table).map (s :: ·)
          else none) = none := by
        refine List.findSome?_eq_none_iff.mpr ?_
        intro s hs
        obtain ⟨rfl, hn⟩ := h.target_of_leaving ha hs
        split
        case isTrue =>
          rw [hn, h.descend?_end hb fun hin => hclosed (List.mem_of_mem_erase hin)]
          rfl
        case isFalse => rfl
      rw [h.leaving, List.findSome?_append, hextra, Option.or_none]
      refine findSome?_congr ?_
      intro s hs
      obtain ⟨hmem, -⟩ := mem_leaving.mp hs
      by_cases hopen : s.target.table ∈ opened'
      · have hlt := List.length_erase_of_mem hopen
        have hpos := List.length_pos_of_mem hopen
        rw [dif_pos hopen, dif_pos ((hsame s hmem).mp hopen)]
        refine congrArg _ (ih _ (by omega) (hnodup.erase _) (hnodup'.erase _) ?_
          (h.apart s hmem).2 hnodup'.not_mem_erase rfl)
        intro s' hs'
        rw [hnodup.mem_erase_iff, hnodup'.mem_erase_iff, hsame s' hs']
      · rw [dif_neg hopen, dif_neg fun hin => hopen ((hsame s hmem).mpr hin)]

/-! ## Paths across a constraint -/

variable {id : ConstraintId} (hid : ∀ s ∈ extra, s.constraint ≠ id)
include hid

theorem crossing_eq : g'.crossing id = g.crossing id := by
  have hextra : extra.filter (·.constraint == id) = [] := by
    refine List.filter_eq_nil_iff.mpr ?_
    intro s hs
    simpa using hid s hs
  rw [crossing, crossing, h.steps, List.filter_append, hextra, List.append_nil]

theorem approaches_eq (ha : a ≠ n) : g'.approaches a id = g.approaches a id := by
  have hways : (g.crossing id).filterMap (fun s =>
      (g'.shortestPath? a s.source.table).map fun p => (p, s)) =
      (g.crossing id).filterMap fun s => (g.shortestPath? a s.source.table).map fun p => (p, s) := by
    refine List.filterMap_congr ?_
    intro s hs
    rw [h.shortestPath?_eq ha (h.apart s (mem_crossing.mp hs).1).1]
  rw [approaches, approaches, h.crossing_eq hid, hways]

theorem pathAcross?_eq (ha : a ≠ n) (hb : b ≠ n) : g'.pathAcross? a b id = g.pathAcross? a b id := by
  have htails : (g.approaches a id).findSome? (fun walked =>
      (g'.descend? b (g'.openTables walked b) walked.destination).map fun tail =>
        (⟨walked.source, walked.steps ++ tail⟩ : JoinPath)) =
      (g.approaches a id).findSome? fun walked =>
        (g.descend? b (g.openTables walked b) walked.destination).map fun tail =>
          (⟨walked.source, walked.steps ++ tail⟩ : JoinPath) := by
    refine findSome?_congr ?_
    intro walked hwalked
    obtain ⟨p, s, hs, -, rfl⟩ := mem_approaches.mp hwalked
    have hend : (p.extend s).destination ≠ n := by
      rw [extend_destination]
      exact (h.apart s (mem_crossing.mp hs).1).2
    refine congrArg _ (h.descend?_eq hb (g.nodup_openTables _ b) (g'.nodup_openTables _ b) ?_ hend
      (g'.destination_not_mem_openTables _ b))
    intro s' hs'
    rw [mem_openTables, mem_openTables]
    refine and_congr_left fun _ => iff_of_true ⟨s', ?_, rfl⟩ ⟨s', hs', rfl⟩
    rw [h.steps]
    exact List.mem_append_left _ hs'
  simp only [pathAcross?]
  rw [h.approaches_eq hid ha, htails]

end DeadEnd

end KeyChart.JoinGraph
