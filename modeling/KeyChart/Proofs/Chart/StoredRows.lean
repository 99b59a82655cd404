import KeyChart.Proofs.Catalog.StoredTables
import KeyChart.Proofs.Chart.Sessions

/-!
# Storing drawn rows

What the last stage of a mark does to the catalog. If the mark's table is not known
yet, it is registered with its row identity as a key and tied to the mark's source.
Whatever the engine does, nothing else of the catalog changes.
-/

namespace KeyChart.Session

open Attempt

variable {σ ρ α : Type} {b : Backend σ ρ} {s s' : Session σ ρ}

/-! ## Parts of a session -/

theorem chart_of_onEngine {op : Attempt σ α} {r : Except Error α}
    (h : (onEngine op : Attempt (Session σ ρ) α).run.run s = (r, s')) : s'.chart = s.chart :=
  (congrArg (fun r : _ × Session σ ρ => r.2.chart) h).symm

theorem catalog_of_onCatalog {op : Attempt Catalog α} {r : Except Error α}
    (h : (onCatalog op : Attempt (Session σ ρ) α).run.run s = (r, s')) :
    op.run.run s.chart.catalog = (r, s'.chart.catalog) := by
  have hfst : (op.run.run s.chart.catalog).1 = r := congrArg Prod.fst h
  have hsnd : (op.run.run s.chart.catalog).2 = s'.chart.catalog :=
    congrArg (fun r : _ × Session σ ρ => r.2.chart.catalog) h
  exact Prod.ext hfst hsnd

theorem marks_of_onCatalog {op : Attempt Catalog α} {r : Except Error α}
    (h : (onCatalog op : Attempt (Session σ ρ) α).run.run s = (r, s')) :
    s'.chart.marks = s.chart.marks :=
  (congrArg (fun r : _ × Session σ ρ => r.2.chart.marks) h).symm

/-! ## The table of a mark -/

theorem createMarkTable_stores {table source : String} {columns : List Attribute}
    (hwell : s.chart.catalog.WellFormed) (hsource : s.chart.catalog.containsTable source = true)
    (h : (createMarkTable b table source columns).run.run s = (.ok (), s')) :
    s.chart.catalog.Stores s'.chart.catalog table source := by
  unfold createMarkTable at h
  obtain ⟨u₁, s₁, hengine, h₁⟩ := run_bind_eq_ok h
  obtain ⟨t, s₂, hask, h₂⟩ := run_bind_eq_ok h₁
  obtain ⟨u₃, s₃, htable, h₃⟩ := run_bind_eq_ok h₂
  obtain ⟨u₄, s₄, hkey, hforeign⟩ := run_bind_eq_ok h₃
  obtain ⟨ht, rfl⟩ := run_ask_eq_ok hask
  obtain ⟨rfl, hderived⟩ := Table.ofAttributes_eq_ok ht
  have hchart := chart_of_onEngine hengine
  have htable := catalog_of_onCatalog htable
  have hkey := catalog_of_onCatalog hkey
  have hforeign := catalog_of_onCatalog hforeign
  rw [hchart] at htable
  have hregister := run_atomic_eq_ok htable
  obtain ⟨c, hadd, -⟩ := Except.map_eq_ok.mp hregister
  have hstored := hwell.stores hderived (Catalog.addTable_eq_ok hadd).1 hsource
  have hcalls : (Catalog.storing t source).foldl (fun c call => call.attempt.after c)
      s.chart.catalog = s'.chart.catalog := by
    have hadd : (Catalog.Call.addTable t).attempt.after s.chart.catalog = s₃.chart.catalog :=
      congrArg Prod.snd htable
    have hkey : (Catalog.Call.addConstraint none (.primaryKey t.name (SortedSet.ofList [rowId]))
        ).attempt.after s₃.chart.catalog = s₄.chart.catalog := congrArg Prod.snd hkey
    have hforeign : (Catalog.Call.addForeignKey t.name [rowId] source [rowId] none).attempt.after
        s₄.chart.catalog = s'.chart.catalog := congrArg Prod.snd hforeign
    rw [Catalog.storing, List.foldl_cons, hadd, List.foldl_cons, hkey, List.foldl_cons, hforeign]
    rfl
  rwa [hcalls] at hstored

/-- Makes the table of a mark's drawn rows, which may be registered already. -/
def remakeMarkTable (b : Backend σ ρ) (table source : String) (wanted : List Attribute) :
    Attempt (Session σ ρ) Unit := do
  if (← get).chart.catalog.containsTable table then
    onCatalog (Attempt.atomic fun c => (c.dropTable table).map fun r => ((), r.2))
  createMarkTable b table source wanted

theorem prepareMarkTable_eq (b : Backend σ ρ) (table source : String) (wanted : List Attribute) :
    prepareMarkTable b table source wanted = (do
      let present ← onEngine (b.engine.columns table)
      if present = wanted && (← get).chart.catalog.containsTable table then
        onEngine (b.engine.run ("DELETE FROM " ++ quoteIdent table))
      else
        unless present.isEmpty do
          onEngine (b.engine.dropTable table)
        remakeMarkTable b table source wanted) := rfl

theorem prepareMarkTable_stores {table source : String} {wanted : List Attribute}
    (hwell : s.chart.catalog.WellFormed) (hnew : s.chart.catalog.containsTable table = false)
    (hsource : s.chart.catalog.containsTable source = true)
    (h : (prepareMarkTable b table source wanted).run.run s = (.ok (), s')) :
    s.chart.catalog.Stores s'.chart.catalog table source := by
  -- The engine may have to drop a table first, which changes nothing here.
  have hrest : ∀ {s₁ : Session σ ρ}, s₁.chart = s.chart →
      (remakeMarkTable b table source wanted).run.run s₁ = (.ok (), s') →
        s.chart.catalog.Stores s'.chart.catalog table source := by
    intro s₁ hchart h₁
    unfold remakeMarkTable at h₁
    obtain ⟨s₁', s₂, hget, h₂⟩ := run_bind_eq_ok h₁
    obtain ⟨rfl, rfl⟩ := run_get_eq_ok hget
    rw [← hchart] at hwell hnew hsource ⊢
    rw [if_neg (by simp [hnew])] at h₂
    exact createMarkTable_stores hwell hsource h₂
  rw [prepareMarkTable_eq] at h
  obtain ⟨present, s₁, hcolumns, h₁⟩ := run_bind_eq_ok h
  obtain ⟨s₁', s₂, hget, h₂⟩ := run_bind_eq_ok h₁
  obtain ⟨rfl, rfl⟩ := run_get_eq_ok hget
  have hchart := chart_of_onEngine hcolumns
  rw [if_neg (by simp [hchart, hnew])] at h₂
  split at h₂
  · exact hrest hchart h₂
  · obtain ⟨u, s₃, hdrop, h₃⟩ := run_bind_eq_ok h₂
    exact hrest ((chart_of_onEngine hdrop).trans hchart) h₃

/-- When the rows of a mark are stored for the first time, the catalog gets a table for
them and is otherwise as it was. -/
theorem runPersist_stores {id : MarkId} {m : Mark} (hm : s.chart.mark id = .ok m)
    (hwell : s.chart.catalog.WellFormed) (hnew : s.chart.catalog.containsTable m.table = false)
    (hsource : s.chart.catalog.containsTable m.source = true)
    (h : (runPersist b id).run.run s = (.ok (), s')) :
    s.chart.catalog.Stores s'.chart.catalog m.table m.source := by
  unfold runPersist at h
  obtain ⟨m', s₁, hask, h₁⟩ := run_bind_eq_ok h
  obtain ⟨u, s₂, hprepare, hinsert⟩ := run_bind_eq_ok h₁
  obtain ⟨hm', rfl⟩ := run_ask_eq_ok hask
  cases hm.symm.trans hm'
  rw [chart_of_onEngine hinsert]
  exact prepareMarkTable_stores hwell hnew hsource hprepare

end KeyChart.Session
