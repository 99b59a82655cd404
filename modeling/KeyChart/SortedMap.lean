/-!
# Maps and sets in key order

A finite map is the list of its entries in strictly increasing key order, so
two maps that agree on every key are equal, and whatever is read off a map
comes out in key order. A set is the same thing without values.

The order is part of the type: every operation below hands back entries that
are sorted again.
-/

namespace KeyChart

/-- A finite map, kept as its entries in strictly increasing key order. -/
structure SortedMap (κ β : Type) [Ord κ] where
  entries : List (κ × β)
  sorted : entries.Pairwise (fun a b => compare a.1 b.1 = .lt)

namespace SortedMap

variable {κ β γ : Type} [Ord κ]

/-- Puts one entry in its place, replacing the entry that has the same key. -/
def insertEntry (k : κ) (v : β) : List (κ × β) → List (κ × β)
  | [] => [(k, v)]
  | e :: rest =>
    match compare k e.1 with
    | .lt => (k, v) :: e :: rest
    | .eq => (k, v) :: rest
    | .gt => e :: insertEntry k v rest

theorem mem_insertEntry {k : κ} {v : β} {e : κ × β} {es : List (κ × β)}
    (h : e ∈ insertEntry k v es) : e = (k, v) ∨ e ∈ es := by
  induction es with
  | nil => simpa [insertEntry] using h
  | cons e' rest ih =>
    simp only [insertEntry] at h
    split at h
    · simpa using h
    · simp only [List.mem_cons] at h ⊢
      exact h.imp_right Or.inr
    · simp only [List.mem_cons] at h ⊢
      rcases h with h | h
      · exact Or.inr (Or.inl h)
      · exact (ih h).imp_right Or.inr

theorem insertEntry_sorted [Std.TransOrd κ] [Std.LawfulEqOrd κ] (k : κ) (v : β)
    {es : List (κ × β)} (h : es.Pairwise (fun a b => compare a.1 b.1 = .lt)) :
    (insertEntry k v es).Pairwise (fun a b => compare a.1 b.1 = .lt) := by
  induction es with
  | nil => simp [insertEntry]
  | cons e rest ih =>
    have hrest := (List.pairwise_cons.mp h).1
    simp only [insertEntry]
    split
    case h_1 hlt =>
      refine List.Pairwise.cons (fun a ha => ?_) h
      rcases List.mem_cons.mp ha with rfl | ha
      · exact hlt
      · exact Std.TransCmp.lt_trans hlt (hrest _ ha)
    case h_2 heq =>
      have hk : k = e.1 := Std.LawfulEqCmp.eq_of_compare heq
      exact List.Pairwise.cons (fun a ha => by simpa [hk] using hrest _ ha) h.of_cons
    case h_3 hgt =>
      refine List.Pairwise.cons (fun a ha => ?_) (ih h.of_cons)
      rcases mem_insertEntry ha with rfl | ha
      · exact Std.OrientedCmp.gt_iff_lt.mp hgt
      · exact hrest _ ha

/-- The map without entries. -/
def empty : SortedMap κ β := ⟨[], List.Pairwise.nil⟩

instance : Inhabited (SortedMap κ β) := ⟨empty⟩

instance [DecidableEq κ] [DecidableEq β] : DecidableEq (SortedMap κ β) := fun a b =>
  decidable_of_iff (a.entries = b.entries) (by cases a; cases b; simp)

/-- The value under a key. -/
def find? (m : SortedMap κ β) (k : κ) : Option β :=
  (m.entries.find? (fun e => compare k e.1 == .eq)).map (·.2)

/-- Whether a key has a value. -/
def contains (m : SortedMap κ β) (k : κ) : Bool :=
  m.entries.any (fun e => compare k e.1 == .eq)

/-- The map with one key set, whatever it held before. -/
def insert [Std.TransOrd κ] [Std.LawfulEqOrd κ] (m : SortedMap κ β) (k : κ) (v : β) :
    SortedMap κ β :=
  ⟨insertEntry k v m.entries, insertEntry_sorted k v m.sorted⟩

/-- The entries that pass a test. -/
def filter (m : SortedMap κ β) (keep : κ → β → Bool) : SortedMap κ β :=
  ⟨m.entries.filter (fun e => keep e.1 e.2), m.sorted.filter _⟩

/-- The map without one key. -/
def erase (m : SortedMap κ β) (k : κ) : SortedMap κ β :=
  m.filter (fun k' _ => compare k k' != .eq)

/-- The map with every value replaced, key by key. -/
def mapValues (m : SortedMap κ β) (f : κ → β → γ) : SortedMap κ γ :=
  ⟨m.entries.map (fun e => (e.1, f e.1 e.2)), List.Pairwise.map _ (fun _ _ h => h) m.sorted⟩

/-- The keys, in increasing order. -/
def keys (m : SortedMap κ β) : List κ := m.entries.map (·.1)

/-- The values, in the order of their keys. -/
def values (m : SortedMap κ β) : List β := m.entries.map (·.2)

/-- The map that a list of entries describes; of entries with one key the last counts. -/
def ofList [Std.TransOrd κ] [Std.LawfulEqOrd κ] (es : List (κ × β)) : SortedMap κ β :=
  es.foldl (fun m e => m.insert e.1 e.2) empty

end SortedMap

/-- A finite set, kept as its members in strictly increasing order. -/
structure SortedSet (α : Type) [Ord α] where
  members : List α
  sorted : members.Pairwise (fun a b => compare a b = .lt)

namespace SortedSet

variable {α : Type} [Ord α]

/-- Puts one member in its place, unless it is there already. -/
def insertMember (a : α) : List α → List α
  | [] => [a]
  | b :: rest =>
    match compare a b with
    | .lt => a :: b :: rest
    | .eq => b :: rest
    | .gt => b :: insertMember a rest

theorem mem_insertMember {a b : α} {bs : List α} (h : b ∈ insertMember a bs) :
    b = a ∨ b ∈ bs := by
  induction bs with
  | nil => simpa [insertMember] using h
  | cons c rest ih =>
    simp only [insertMember] at h
    split at h
    · simpa using h
    · exact Or.inr h
    · simp only [List.mem_cons] at h ⊢
      rcases h with h | h
      · exact Or.inr (Or.inl h)
      · exact (ih h).imp_right Or.inr

theorem insertMember_sorted [Std.TransOrd α] (a : α) {bs : List α}
    (h : bs.Pairwise (fun a b => compare a b = .lt)) :
    (insertMember a bs).Pairwise (fun a b => compare a b = .lt) := by
  induction bs with
  | nil => simp [insertMember]
  | cons b rest ih =>
    have hrest := (List.pairwise_cons.mp h).1
    simp only [insertMember]
    split
    case h_1 hlt =>
      refine List.Pairwise.cons (fun c hc => ?_) h
      rcases List.mem_cons.mp hc with rfl | hc
      · exact hlt
      · exact Std.TransCmp.lt_trans hlt (hrest _ hc)
    case h_2 => exact h
    case h_3 hgt =>
      refine List.Pairwise.cons (fun c hc => ?_) (ih h.of_cons)
      rcases mem_insertMember hc with rfl | hc
      · exact Std.OrientedCmp.gt_iff_lt.mp hgt
      · exact hrest _ hc

/-- The set without members. -/
def empty : SortedSet α := ⟨[], List.Pairwise.nil⟩

instance : Inhabited (SortedSet α) := ⟨empty⟩

instance [DecidableEq α] : DecidableEq (SortedSet α) := fun a b =>
  decidable_of_iff (a.members = b.members) (by cases a; cases b; simp)

instance : Membership α (SortedSet α) := ⟨fun s a => a ∈ s.members⟩

instance [DecidableEq α] (a : α) (s : SortedSet α) : Decidable (a ∈ s) :=
  inferInstanceAs (Decidable (a ∈ s.members))

/-- The set with one member more. -/
def insert [Std.TransOrd α] (s : SortedSet α) (a : α) : SortedSet α :=
  ⟨insertMember a s.members, insertMember_sorted a s.sorted⟩

/-- The set of a list's elements. -/
def ofList [Std.TransOrd α] (as : List α) : SortedSet α :=
  as.foldl insert empty

end SortedSet

end KeyChart
