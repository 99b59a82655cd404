/-!
# Orders that respect edges

Puts nodes into an order in which every edge goes forward. Of the nodes that
could come next, the one with the least key does, and of equal keys the least
node, so that there is only one answer.
-/

namespace KeyChart

namespace Order

variable {α κ : Type} [DecidableEq α] [Ord α] [Ord κ]

/-- Compares nodes by key, then by themselves. -/
def byKey (key : α → κ) : α → α → Ordering := compareLex (compareOn key) compare

/-- The least of some nodes. -/
def least? (key : α → κ) : List α → Option α
  | [] => none
  | a :: rest =>
    some (rest.foldl (fun best b => if byKey key b best = .lt then b else best) a)

/-- The nodes that no edge enters from a node that is left. -/
def free (edges : List (α × α)) (left : List α) : List α :=
  left.filter fun a => edges.all fun e => e.2 ≠ a || e.1 ∉ left

/-- Orders up to `fuel` of the nodes that are left; the second part could not be
ordered. -/
def extend (edges : List (α × α)) (key : α → κ) : Nat → List α → List α × List α
  | 0, left => ([], left)
  | fuel + 1, left =>
    match least? key (free edges left) with
    | none => ([], left)
    | some a =>
      let (order, rest) := extend edges key fuel (left.erase a)
      (a :: order, rest)

end Order

/-- The nodes in an order in which every edge goes forward. If there is none,
the nodes that an endless chain of edges leads to, as they were listed. -/
def topologicalOrder {α κ : Type} [DecidableEq α] [Ord α] [Ord κ]
    (nodes : List α) (edges : List (α × α)) (key : α → κ) : Except (List α) (List α) :=
  let (order, left) := Order.extend edges key nodes.length nodes
  if left.isEmpty then .ok order else .error left

end KeyChart
