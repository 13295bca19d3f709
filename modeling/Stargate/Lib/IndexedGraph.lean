import Mathlib.Data.List.Basic

/-!
# Stargate.Lib.IndexedGraph

A directed graph that addresses its nodes and edges by index and keeps the indices dense: the
operations a program calls on it (`IndexedGraph`), and the behaviour it may rely on
(`IndexedGraph.Lawful`). Nodes and edges are numbered `0, 1, …` in the order they are added, and
an edge is removed by moving the last edge into its index (`swap_remove`), so a removal renumbers
one other edge.

A store that keeps maps from values to these indices beside the graph is stated over any graph
with this behaviour; it then cannot lean on how one implementation lays its graph out. Two lawful
implementations read alike after the same operations (`Equiv`, and its congruence lemmas), which
is what carries a run computed over one of them to every other.
-/

/-- The operations of a graph with node weights `N` and edge weights `E`, addressed by index. -/
structure IndexedGraph (G N E : Type) where
  empty : G
  nodeCount : G → Nat
  edgeCount : G → Nat
  nodeWeight : G → Nat → Option N
  edgeWeight : G → Nat → Option E
  /-- The source and the target of an edge, in the order it was added with. -/
  edgeEndpoints : G → Nat → Option (Nat × Nat)
  /-- The graph with the node, and the node's index. -/
  addNode : G → N → G × Nat
  /-- The graph with the edge, and the edge's index; an endpoint that is no node is an error. -/
  addEdge : G → Nat → Nat → E → Except String (G × Nat)
  /-- The graph without the edge, and the edge's weight. -/
  removeEdge : G → Nat → G × Option E

namespace IndexedGraph

variable {G N E : Type} (ops : IndexedGraph G N E)

/-- Which edge of `g` sits at index `i` once edge `e` of its `n` edges is removed: the last one,
`n - 1`, moved into `e`, and every other one where it was. -/
def swapIndex (n e i : Nat) : Nat := if i = e then n - 1 else i

/-- `g'` is `g` with a node of weight `w` at index `nodeCount g`; its edges are `g`'s. -/
structure AddsNode (g g' : G) (w : N) : Prop where
  nodeCount_eq : ops.nodeCount g' = ops.nodeCount g + 1
  nodeWeight_eq : ∀ i,
    ops.nodeWeight g' i = if i = ops.nodeCount g then some w else ops.nodeWeight g i
  edgeCount_eq : ops.edgeCount g' = ops.edgeCount g
  edgeWeight_eq : ops.edgeWeight g' = ops.edgeWeight g
  edgeEndpoints_eq : ops.edgeEndpoints g' = ops.edgeEndpoints g

/-- `g'` is `g` with an edge of weight `w` from `a` to `b` at index `edgeCount g`; its nodes are
`g`'s. -/
structure AddsEdge (g g' : G) (a b : Nat) (w : E) : Prop where
  nodeCount_eq : ops.nodeCount g' = ops.nodeCount g
  nodeWeight_eq : ops.nodeWeight g' = ops.nodeWeight g
  edgeCount_eq : ops.edgeCount g' = ops.edgeCount g + 1
  edgeWeight_eq : ∀ i,
    ops.edgeWeight g' i = if i = ops.edgeCount g then some w else ops.edgeWeight g i
  edgeEndpoints_eq : ∀ i,
    ops.edgeEndpoints g' i = if i = ops.edgeCount g then some (a, b) else ops.edgeEndpoints g i

/-- `g'` is `g` without edge `e`, the last edge moved into its index; its nodes are `g`'s. -/
structure SwapRemovesEdge (g g' : G) (e : Nat) : Prop where
  nodeCount_eq : ops.nodeCount g' = ops.nodeCount g
  nodeWeight_eq : ops.nodeWeight g' = ops.nodeWeight g
  edgeCount_eq : ops.edgeCount g' = ops.edgeCount g - 1
  edgeWeight_eq : ∀ i, ops.edgeWeight g' i =
    if i + 1 < ops.edgeCount g then ops.edgeWeight g (swapIndex (ops.edgeCount g) e i) else none
  edgeEndpoints_eq : ∀ i, ops.edgeEndpoints g' i =
    if i + 1 < ops.edgeCount g then ops.edgeEndpoints g (swapIndex (ops.edgeCount g) e i) else none

/-- The behaviour of the operations: the empty graph has no node and no edge, a node or an edge is
added at the next index, an edge is added exactly when both its endpoints are nodes, and
removing an edge gives its weight back and swaps the last edge into its index, or, for an index
past the edges, changes nothing. -/
structure Lawful : Prop where
  nodeCount_empty : ops.nodeCount ops.empty = 0
  nodeWeight_empty : ∀ i, ops.nodeWeight ops.empty i = none
  edgeCount_empty : ops.edgeCount ops.empty = 0
  edgeWeight_empty : ∀ i, ops.edgeWeight ops.empty i = none
  edgeEndpoints_empty : ∀ i, ops.edgeEndpoints ops.empty i = none
  addNode : ∀ g w, (ops.addNode g w).2 = ops.nodeCount g ∧ ops.AddsNode g (ops.addNode g w).1 w
  addEdge : ∀ g a b w, a < ops.nodeCount g → b < ops.nodeCount g →
    ∃ g', ops.addEdge g a b w = .ok (g', ops.edgeCount g) ∧ ops.AddsEdge g g' a b w
  addEdge_error : ∀ g a b w, ¬ (a < ops.nodeCount g ∧ b < ops.nodeCount g) →
    ∃ msg, ops.addEdge g a b w = .error msg
  removeEdge : ∀ g e, e < ops.edgeCount g →
    (ops.removeEdge g e).2 = ops.edgeWeight g e ∧ ops.SwapRemovesEdge g (ops.removeEdge g e).1 e
  removeEdge_absent : ∀ g e, ops.edgeCount g ≤ e → ops.removeEdge g e = (g, none)

/-! ### Two implementations read alike -/

section Equiv

variable {G₁ G₂ : Type}

/-- Graphs of two implementations that read alike: the same counts, weights and endpoints. -/
structure Equiv (ops₁ : IndexedGraph G₁ N E) (ops₂ : IndexedGraph G₂ N E) (g₁ : G₁) (g₂ : G₂) :
    Prop where
  nodeCount_eq : ops₁.nodeCount g₁ = ops₂.nodeCount g₂
  nodeWeight_eq : ops₁.nodeWeight g₁ = ops₂.nodeWeight g₂
  edgeCount_eq : ops₁.edgeCount g₁ = ops₂.edgeCount g₂
  edgeWeight_eq : ops₁.edgeWeight g₁ = ops₂.edgeWeight g₂
  edgeEndpoints_eq : ops₁.edgeEndpoints g₁ = ops₂.edgeEndpoints g₂

variable {ops₁ : IndexedGraph G₁ N E} {ops₂ : IndexedGraph G₂ N E}
  (h₁ : ops₁.Lawful) (h₂ : ops₂.Lawful)

include h₁ h₂ in
theorem equiv_empty : Equiv ops₁ ops₂ ops₁.empty ops₂.empty where
  nodeCount_eq := h₁.nodeCount_empty.trans h₂.nodeCount_empty.symm
  nodeWeight_eq := funext fun i => (h₁.nodeWeight_empty i).trans (h₂.nodeWeight_empty i).symm
  edgeCount_eq := h₁.edgeCount_empty.trans h₂.edgeCount_empty.symm
  edgeWeight_eq := funext fun i => (h₁.edgeWeight_empty i).trans (h₂.edgeWeight_empty i).symm
  edgeEndpoints_eq :=
    funext fun i => (h₁.edgeEndpoints_empty i).trans (h₂.edgeEndpoints_empty i).symm

variable {g₁ g₁' : G₁} {g₂ g₂' : G₂}

/-- Adding a node to graphs that read alike gives graphs that read alike. -/
theorem Equiv.of_addsNode (h : Equiv ops₁ ops₂ g₁ g₂) {w : N} (ha₁ : ops₁.AddsNode g₁ g₁' w)
    (ha₂ : ops₂.AddsNode g₂ g₂' w) : Equiv ops₁ ops₂ g₁' g₂' where
  nodeCount_eq := by rw [ha₁.nodeCount_eq, ha₂.nodeCount_eq, h.nodeCount_eq]
  nodeWeight_eq := funext fun i => by rw [ha₁.nodeWeight_eq, ha₂.nodeWeight_eq, h.nodeCount_eq,
    h.nodeWeight_eq]
  edgeCount_eq := by rw [ha₁.edgeCount_eq, ha₂.edgeCount_eq, h.edgeCount_eq]
  edgeWeight_eq := by rw [ha₁.edgeWeight_eq, ha₂.edgeWeight_eq, h.edgeWeight_eq]
  edgeEndpoints_eq := by rw [ha₁.edgeEndpoints_eq, ha₂.edgeEndpoints_eq, h.edgeEndpoints_eq]

/-- Adding an edge to graphs that read alike gives graphs that read alike. -/
theorem Equiv.of_addsEdge (h : Equiv ops₁ ops₂ g₁ g₂) {a b : Nat} {w : E}
    (ha₁ : ops₁.AddsEdge g₁ g₁' a b w) (ha₂ : ops₂.AddsEdge g₂ g₂' a b w) :
    Equiv ops₁ ops₂ g₁' g₂' where
  nodeCount_eq := by rw [ha₁.nodeCount_eq, ha₂.nodeCount_eq, h.nodeCount_eq]
  nodeWeight_eq := by rw [ha₁.nodeWeight_eq, ha₂.nodeWeight_eq, h.nodeWeight_eq]
  edgeCount_eq := by rw [ha₁.edgeCount_eq, ha₂.edgeCount_eq, h.edgeCount_eq]
  edgeWeight_eq := funext fun i => by rw [ha₁.edgeWeight_eq, ha₂.edgeWeight_eq, h.edgeCount_eq,
    h.edgeWeight_eq]
  edgeEndpoints_eq := funext fun i => by rw [ha₁.edgeEndpoints_eq, ha₂.edgeEndpoints_eq,
    h.edgeCount_eq, h.edgeEndpoints_eq]

/-- Removing the same edge from graphs that read alike gives graphs that read alike. -/
theorem Equiv.of_swapRemovesEdge (h : Equiv ops₁ ops₂ g₁ g₂) {e : Nat}
    (hr₁ : ops₁.SwapRemovesEdge g₁ g₁' e) (hr₂ : ops₂.SwapRemovesEdge g₂ g₂' e) :
    Equiv ops₁ ops₂ g₁' g₂' where
  nodeCount_eq := by rw [hr₁.nodeCount_eq, hr₂.nodeCount_eq, h.nodeCount_eq]
  nodeWeight_eq := by rw [hr₁.nodeWeight_eq, hr₂.nodeWeight_eq, h.nodeWeight_eq]
  edgeCount_eq := by rw [hr₁.edgeCount_eq, hr₂.edgeCount_eq, h.edgeCount_eq]
  edgeWeight_eq := funext fun i => by rw [hr₁.edgeWeight_eq, hr₂.edgeWeight_eq, h.edgeCount_eq,
    h.edgeWeight_eq]
  edgeEndpoints_eq := funext fun i => by rw [hr₁.edgeEndpoints_eq, hr₂.edgeEndpoints_eq,
    h.edgeCount_eq, h.edgeEndpoints_eq]

include h₁ h₂

/-- `add_node` on graphs that read alike: the same index, and graphs that read alike. -/
theorem Equiv.addNode (h : Equiv ops₁ ops₂ g₁ g₂) (w : N) :
    (ops₁.addNode g₁ w).2 = (ops₂.addNode g₂ w).2 ∧
      Equiv ops₁ ops₂ (ops₁.addNode g₁ w).1 (ops₂.addNode g₂ w).1 := by
  obtain ⟨hindex₁, hadds₁⟩ := h₁.addNode g₁ w
  obtain ⟨hindex₂, hadds₂⟩ := h₂.addNode g₂ w
  exact ⟨by rw [hindex₁, hindex₂, h.nodeCount_eq], h.of_addsNode hadds₁ hadds₂⟩

/-- `add_edge` on graphs that read alike: where the second adds the edge, so does the first, at
the same index. -/
theorem Equiv.addEdge (h : Equiv ops₁ ops₂ g₁ g₂) {a b i : Nat} {w : E}
    (hok : ops₂.addEdge g₂ a b w = .ok (g₂', i)) :
    ∃ g₁', ops₁.addEdge g₁ a b w = .ok (g₁', i) ∧ Equiv ops₁ ops₂ g₁' g₂' := by
  -- an edge the second adds has both endpoints among its nodes
  have hbounds : a < ops₂.nodeCount g₂ ∧ b < ops₂.nodeCount g₂ := by
    by_contra hout
    obtain ⟨msg, herror⟩ := h₂.addEdge_error g₂ a b w hout
    rw [hok] at herror
    cases herror
  obtain ⟨g₂'', hok₂, hadds₂⟩ := h₂.addEdge g₂ a b w hbounds.1 hbounds.2
  rw [hok] at hok₂
  obtain ⟨rfl, rfl⟩ := Prod.mk.inj (Except.ok.inj hok₂)
  rw [← h.nodeCount_eq] at hbounds
  obtain ⟨g₁', hok₁, hadds₁⟩ := h₁.addEdge g₁ a b w hbounds.1 hbounds.2
  exact ⟨g₁', by rw [hok₁, h.edgeCount_eq], h.of_addsEdge hadds₁ hadds₂⟩

/-- `remove_edge` on graphs that read alike: the same weight back, and graphs that read alike. -/
theorem Equiv.removeEdge (h : Equiv ops₁ ops₂ g₁ g₂) (e : Nat) :
    (ops₁.removeEdge g₁ e).2 = (ops₂.removeEdge g₂ e).2 ∧
      Equiv ops₁ ops₂ (ops₁.removeEdge g₁ e).1 (ops₂.removeEdge g₂ e).1 := by
  by_cases he : e < ops₂.edgeCount g₂
  · obtain ⟨hweight₂, hremoves₂⟩ := h₂.removeEdge g₂ e he
    obtain ⟨hweight₁, hremoves₁⟩ := h₁.removeEdge g₁ e (h.edgeCount_eq ▸ he)
    exact ⟨by rw [hweight₁, hweight₂, h.edgeWeight_eq], h.of_swapRemovesEdge hremoves₁ hremoves₂⟩
  · -- an index past the edges changes neither graph
    have hpast : ops₂.edgeCount g₂ ≤ e := Nat.le_of_not_lt he
    rw [h₁.removeEdge_absent g₁ e (h.edgeCount_eq ▸ hpast), h₂.removeEdge_absent g₂ e hpast]
    exact ⟨rfl, h⟩

end Equiv

end IndexedGraph
