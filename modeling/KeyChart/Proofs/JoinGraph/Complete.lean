import KeyChart.Proofs.JoinGraph.Routes
import Mathlib.Data.List.Nodup

/-!
# What searches do not miss

There is a shortest path exactly if there is a route, and a descent ends in its
destination exactly if a route leads there through open tables. A route enters no
table twice, so it has no more steps than the graph, and no search for a shortest
path needs more rounds. Since routes stay routes when steps are added, so do both
searches stay successful.
-/

namespace KeyChart.JoinGraph

variable {g g' : JoinGraph} {a b : String} {l : List JoinStep}

/-! ## Routes -/

/-- No route has more steps than the graph. -/
theorem Route.length_le (h : g.Route a l b) : l.length ≤ g.steps.length := by
  have hsubset : entered l ⊆ g.steps.map (·.target.table) := by
    intro t ht
    obtain ⟨s, hs, rfl⟩ := List.mem_map.mp ht
    exact List.mem_map_of_mem (h.mem s hs)
  have hlen := h.nodup.of_cons.length_le_of_subset hsubset
  simpa [entered] using hlen

theorem Route.mono (h : g.Route a l b) (hsteps : ∀ s ∈ g.steps, s ∈ g'.steps) : g'.Route a l b :=
  ⟨fun s hs => hsteps s (h.mem s hs), h.leads, h.nodup⟩

theorem Route.tail {s : JoinStep} {rest : List JoinStep} (h : g.Route a (s :: rest) b) :
    s ∈ g.leaving a ∧ g.Route s.target.table rest b :=
  ⟨mem_leaving.mpr ⟨h.mem s (by simp), h.leads.1⟩,
    fun s' hs' => h.mem s' (by simp [hs']), h.leads.2, h.nodup.of_cons⟩

/-! ## Shortest paths -/

theorem distinctSignatures_eq_nil {ps : List JoinPath} (h : distinctSignatures ps = []) : ps = [] := by
  cases ps with
  | nil => rfl
  | cons p rest => cases h

/-- Where a path can go on to the destination without coming back to a table, the
rounds find it, if there are enough of them. -/
theorem reach_ne_nil {fuel : Nat} {frontier : List JoinPath} {p : JoinPath} (hp : p ∈ frontier)
    (hroute : g.Route p.destination l b) (hl : l ≠ [])
    (hapart : ∀ t ∈ entered l, t ∉ p.tables) (hfuel : l.length ≤ fuel) :
    g.reach b fuel frontier ≠ [] := by
  induction fuel generalizing frontier p l with
  | zero => exact absurd (List.length_eq_zero_iff.mp (Nat.le_zero.mp hfuel)) hl
  | succ fuel ih =>
    cases l with
    | nil => exact absurd rfl hl
    | cons s rest =>
      obtain ⟨hs, hrest⟩ := hroute.tail
      have hnext : p.extend s ∈ frontier.flatMap g.extensions := by
        refine List.mem_flatMap.mpr ⟨p, hp, mem_extensions.mpr ⟨s, hs, ?_, rfl⟩⟩
        exact hapart _ (by simp [entered])
      simp only [reach]
      split
      case isFalse hfound => exact fun hnil => hfound (by rw [distinctSignatures_eq_nil hnil]; rfl)
      case isTrue hfound =>
        refine ih hnext (by rwa [extend_destination]) ?_ ?_ (Nat.le_of_succ_le_succ hfuel)
        · -- A route that ends here would have been found.
          rintro rfl
          have hmem : p.extend s ∈ (frontier.flatMap g.extensions).filter (·.destination == b) :=
            List.mem_filter.mpr ⟨hnext, by simpa [extend_destination, Leads] using hrest.leads⟩
          rw [List.isEmpty_iff.mp hfound] at hmem
          cases hmem
        · intro t ht
          have hold := hapart t (List.mem_cons_of_mem _ ht)
          have hnew : t ≠ s.target.table := by
            rintro rfl
            exact (List.nodup_cons.mp hrest.nodup).1 ht
          simp only [JoinPath.tables, JoinPath.extend, List.map_append, List.mem_cons,
            List.mem_append, List.map_cons, List.map_nil, List.not_mem_nil, or_false] at hold ⊢
          rintro (h | h | h)
          · exact hold (.inl h)
          · exact hold (.inr h)
          · exact hnew h

theorem shortestPaths_ne_nil_iff : g.shortestPaths a b ≠ [] ↔ ∃ l, g.Route a l b := by
  constructor
  · intro h
    obtain ⟨p, hp⟩ := List.exists_mem_of_ne_nil _ h
    exact ⟨p.steps, (route_of_mem_shortestPaths hp).2⟩
  · rintro ⟨l, hroute⟩
    unfold shortestPaths
    split
    case isTrue => simp
    case isFalse hne =>
      refine reach_ne_nil (p := JoinPath.stay a) (by simp) hroute ?_ ?_ hroute.length_le
      · rintro rfl
        exact hne hroute.leads
      · intro t ht hstay
        have hta : t = a := by simpa [JoinPath.tables, JoinPath.stay] using hstay
        exact (List.nodup_cons.mp hroute.nodup).1 (hta ▸ ht)

theorem shortestPaths_ne_nil_mono (hsteps : ∀ s ∈ g.steps, s ∈ g'.steps)
    (h : g.shortestPaths a b ≠ []) : g'.shortestPaths a b ≠ [] := by
  obtain ⟨l, hroute⟩ := shortestPaths_ne_nil_iff.mp h
  exact shortestPaths_ne_nil_iff.mpr ⟨l, hroute.mono hsteps⟩

/-! ## Descents -/

/-- A descent succeeds exactly if some route leads through open tables. -/
theorem descend?_isSome_iff {opened : List String} (hopened : opened.Nodup) (ha : a ∉ opened) :
    (g.descend? b opened a).isSome = true ↔
      ∃ l, g.Route a l b ∧ ∀ t ∈ entered l, t ∈ opened := by
  constructor
  · intro h
    obtain ⟨tail, htail⟩ := Option.isSome_iff_exists.mp h
    exact ⟨tail, route_of_descend? hopened ha htail⟩
  · rintro ⟨l, hroute, hentered⟩
    induction l generalizing opened a with
    | nil =>
      rw [descend?, if_pos (show a = b from hroute.leads)]
      rfl
    | cons s rest ih =>
      obtain ⟨hs, hrest⟩ := hroute.tail
      have hopen : s.target.table ∈ opened := hentered _ (by simp [entered])
      have hnext := ih (hopened.erase s.target.table) hopened.not_mem_erase hrest (by
        intro t ht
        have hne : t ≠ s.target.table := by
          rintro rfl
          exact (List.nodup_cons.mp hrest.nodup).1 ht
        exact (List.mem_erase_of_ne hne).mpr (hentered t (List.mem_cons_of_mem _ ht)))
      rw [descend?]
      split
      case isTrue => rfl
      case isFalse =>
        rw [List.findSome?_isSome_iff]
        refine ⟨s, hs, ?_⟩
        rw [dif_pos hopen, Option.isSome_map]
        exact hnext

theorem mem_openTables {walked : JoinPath} {t : String} :
    t ∈ g.openTables walked b ↔
      (∃ s ∈ g.steps, s.target.table = t) ∧ (t = b ∨ t ∉ walked.tables) ∧ t ≠ walked.destination := by
  simp [openTables, List.mem_eraseDups]

/-- The descent behind a walked path stays successful when steps are added. -/
theorem descend?_isSome_mono (hsteps : ∀ s ∈ g.steps, s ∈ g'.steps) {walked : JoinPath}
    (h : (g.descend? b (g.openTables walked b) walked.destination).isSome = true) :
    (g'.descend? b (g'.openTables walked b) walked.destination).isSome = true := by
  rw [descend?_isSome_iff (g.nodup_openTables walked b)
    (g.destination_not_mem_openTables walked b)] at h
  rw [descend?_isSome_iff (g'.nodup_openTables walked b)
    (g'.destination_not_mem_openTables walked b)]
  obtain ⟨l, hroute, hentered⟩ := h
  refine ⟨l, hroute.mono hsteps, ?_⟩
  intro t ht
  obtain ⟨⟨s, hs, htarget⟩, hopen⟩ := mem_openTables.mp (hentered t ht)
  exact mem_openTables.mpr ⟨⟨s, hsteps s hs, htarget⟩, hopen⟩

/-! ## Paths across a constraint -/

theorem pathAcross?_isOk_iff {id : ConstraintId} :
    (∃ p, g.pathAcross? a b id = .ok p) ↔
      ∃ walked ∈ g.approaches a id,
        (g.descend? b (g.openTables walked b) walked.destination).isSome = true := by
  have hfound : ((g.approaches a id).findSome? fun walked =>
      (g.descend? b (g.openTables walked b) walked.destination).map fun tail =>
        (⟨walked.source, walked.steps ++ tail⟩ : JoinPath)).isSome = true ↔
      ∃ walked ∈ g.approaches a id,
        (g.descend? b (g.openTables walked b) walked.destination).isSome = true := by
    rw [List.findSome?_isSome_iff]
    simp only [Option.isSome_map]
  rw [← hfound, Option.isSome_iff_exists]
  simp only [pathAcross?]
  constructor
  · rintro ⟨p, h⟩
    split at h
    case h_1 path hpath => exact ⟨path, hpath⟩
    case h_2 => cases h
  · rintro ⟨p, h⟩
    exact ⟨p, by rw [h]⟩

end KeyChart.JoinGraph
