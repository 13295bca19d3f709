import Stargate.Lib.IndexedGraph

/-!
# Stargate.Lib.PetGraph

A model of petgraph's `Graph` (version 0.5), the graph behind the table router's store, and that
it has the behaviour `IndexedGraph.Lawful` states (`PetGraph.lawful`). The store is stated over
any lawful graph; this model is what its runs on fixed inputs are instantiated with.

Nodes and edges sit in two vectors, addressed by their index. Each node heads two linked lists
threaded through the edges, of the edges leaving it and of those entering it; here each list is
the list of edge indices it links, head first. An undirected graph stores each edge with the
direction it was added in. `remove_edge` keeps the edge vector dense with `Vec::swap_remove`:
the last edge takes the index of the removed one, and the lists that linked it under its old
index link it under the new one.
-/

namespace PetGraph

/-- `Vec::swap_remove` without its panic: the last entry takes the place of the one at `i`. -/
def swapRemove {α : Type} (l : List α) (i : Nat) : List α :=
  match l.getLast? with
  | some last => if i < l.length then (l.set i last).dropLast else l
  | none => l

/-- A node: its weight and the heads of its edge lists. -/
structure Node (N : Type) where
  weight : N
  outgoing : List Nat
  incoming : List Nat
  deriving DecidableEq, Repr

/-- An edge: its weight and its endpoints, as added. -/
structure Edge (E : Type) where
  weight : E
  source : Nat
  target : Nat
  deriving DecidableEq, Repr

end PetGraph

/-- petgraph's `Graph<N, E>`. -/
structure PetGraph (N E : Type) where
  nodes : List (PetGraph.Node N)
  edges : List (PetGraph.Edge E)
  deriving DecidableEq, Repr

namespace PetGraph

variable {N E : Type}

/-- `Graph::new_undirected`. -/
def empty : PetGraph N E := ⟨[], []⟩

/-- `Graph::node_weight`. -/
def nodeWeight (g : PetGraph N E) (a : Nat) : Option N := (g.nodes[a]?).map Node.weight

/-- `Graph::edge_weight`. -/
def edgeWeight (g : PetGraph N E) (e : Nat) : Option E := (g.edges[e]?).map Edge.weight

/-- `Graph::edge_endpoints`. -/
def edgeEndpoints (g : PetGraph N E) (e : Nat) : Option (Nat × Nat) :=
  (g.edges[e]?).map fun edge => (edge.source, edge.target)

/-- `Graph::add_node`: the graph and the new node's index. -/
def addNode (g : PetGraph N E) (weight : N) : PetGraph N E × Nat :=
  (⟨g.nodes ++ [⟨weight, [], []⟩], g.edges⟩, g.nodes.length)

/-- `Graph::add_edge`: the new edge heads its source's outgoing list and its target's incoming
list. An endpoint past the nodes is a panic. -/
def addEdge (g : PetGraph N E) (a b : Nat) (weight : E) : Except String (PetGraph N E × Nat) :=
  if a < g.nodes.length ∧ b < g.nodes.length then
    let e := g.edges.length
    let nodes := g.nodes.modify a fun node => { node with outgoing := e :: node.outgoing }
    let nodes := nodes.modify b fun node => { node with incoming := e :: node.incoming }
    .ok (⟨nodes, g.edges ++ [⟨weight, a, b⟩]⟩, e)
  else .error "Graph::add_edge: node indices out of bounds"

/-- Link edge index `new` where a list linked `old`. -/
def relink (old new : Nat) (l : List Nat) : List Nat := l.map fun e => if e = old then new else e

/-- `Graph::remove_edge`: unlink the edge from its source's outgoing list and its target's
incoming list (`change_edge_links`), swap the last edge into its place, and relink that edge
under its new index (`remove_edge_adjust_indices`). The removed weight, if the edge existed. -/
def removeEdge (g : PetGraph N E) (e : Nat) : PetGraph N E × Option E :=
  match g.edges[e]? with
  | none => (g, none)
  | some edge =>
    let nodes := g.nodes.modify edge.source fun node =>
      { node with outgoing := node.outgoing.erase e }
    let nodes := nodes.modify edge.target fun node =>
      { node with incoming := node.incoming.erase e }
    let edges := swapRemove g.edges e
    match edges[e]? with
    | none => (⟨nodes, edges⟩, some edge.weight)
    | some moved =>
      -- the edge that was last, at index `edges.length`, now has index `e`
      let nodes := nodes.modify moved.source fun node =>
        { node with outgoing := relink edges.length e node.outgoing }
      let nodes := nodes.modify moved.target fun node =>
        { node with incoming := relink edges.length e node.incoming }
      (⟨nodes, edges⟩, some edge.weight)

/-- The graph's operations as an `IndexedGraph`. -/
def ops : IndexedGraph (PetGraph N E) N E where
  empty := empty
  nodeCount g := g.nodes.length
  edgeCount g := g.edges.length
  nodeWeight := nodeWeight
  edgeWeight := edgeWeight
  edgeEndpoints := edgeEndpoints
  addNode := addNode
  addEdge := addEdge
  removeEdge := removeEdge

/-! ### The operations are lawful -/

section Lawful

variable {α : Type}

/-- What entry `i` of a vector reads once `x` is pushed. -/
theorem map_getElem?_append_singleton {β : Type} (f : α → β) (l : List α) (x : α) (i : Nat) :
    ((l ++ [x])[i]?).map f = if i = l.length then some (f x) else (l[i]?).map f := by
  rw [List.getElem?_append]
  by_cases hi : i < l.length
  · simp [hi, Nat.ne_of_lt hi]
  · by_cases hlast : i = l.length
    · simp [hlast]
    · have hpast : i - l.length ≠ 0 := by omega
      simp [hi, hlast, hpast]

theorem length_swapRemove {l : List α} {e : Nat} (h : e < l.length) :
    (swapRemove l e).length = l.length - 1 := by
  have hne : l ≠ [] := List.ne_nil_of_length_pos (by omega)
  simp [swapRemove, List.getLast?_eq_some_getLast hne, h]

/-- Entry `i` of the list once entry `e` is swap-removed. -/
theorem getElem?_swapRemove {l : List α} {e : Nat} (h : e < l.length) (i : Nat) :
    (swapRemove l e)[i]? =
      if i + 1 < l.length then l[IndexedGraph.swapIndex l.length e i]? else none := by
  have hne : l ≠ [] := List.ne_nil_of_length_pos (by omega)
  simp only [swapRemove, List.getLast?_eq_some_getLast hne, h, if_true, List.getElem?_dropLast,
    List.length_set, List.getElem?_set, IndexedGraph.swapIndex, List.getLast_eq_getElem]
  by_cases hi : i = e
  · subst hi
    simp [Nat.lt_sub_iff_add_lt, List.getElem?_eq_getElem (show l.length - 1 < l.length by omega)]
  · by_cases hlast : i + 1 < l.length <;> simp [hi, hlast, Ne.symm hi] <;> omega

/-- A change of a node's edge lists keeps the nodes' weights. -/
theorem weight_getElem?_modify (nodes : List (Node N)) (a : Nat) (f : Node N → Node N)
    (hf : ∀ node, (f node).weight = node.weight) (i : Nat) :
    ((nodes.modify a f)[i]?).map Node.weight = (nodes[i]?).map Node.weight := by
  simp only [List.getElem?_modify]
  cases nodes[i]? with
  | none => rfl
  | some node => by_cases ha : a = i <;> simp [ha, hf]

theorem addEdge_of_lt (g : PetGraph N E) {a b : Nat} (weight : E) (ha : a < g.nodes.length)
    (hb : b < g.nodes.length) :
    g.addEdge a b weight = .ok (⟨(g.nodes.modify a fun node =>
        { node with outgoing := g.edges.length :: node.outgoing }).modify b fun node =>
        { node with incoming := g.edges.length :: node.incoming },
      g.edges ++ [⟨weight, a, b⟩]⟩, g.edges.length) :=
  if_pos ⟨ha, hb⟩

/-- Removing an edge that exists: the edges swap-removed, and nodes with the same weights. -/
theorem removeEdge_of_lt (g : PetGraph N E) {e : Nat} (h : e < g.edges.length) :
    ∃ nodes : List (Node N),
      g.removeEdge e = (⟨nodes, swapRemove g.edges e⟩, some g.edges[e].weight) ∧
      nodes.length = g.nodes.length ∧
      ∀ i : Nat, (nodes[i]?).map Node.weight = (g.nodes[i]?).map Node.weight := by
  unfold removeEdge
  rw [List.getElem?_eq_getElem h]
  dsimp only
  -- both arms relink node lists only; whether the removed edge was last decides which
  split
  · exact ⟨_, rfl, by simp, fun i => by simp [weight_getElem?_modify]⟩
  · exact ⟨_, rfl, by simp, fun i => by simp [weight_getElem?_modify]⟩

end Lawful

theorem lawful : (ops : IndexedGraph (PetGraph N E) N E).Lawful where
  nodeCount_empty := rfl
  nodeWeight_empty _ := rfl
  edgeCount_empty := rfl
  edgeWeight_empty _ := rfl
  edgeEndpoints_empty _ := rfl
  addNode g w := by
    refine ⟨rfl, ⟨by simp [ops, addNode], fun i => ?_, rfl, rfl, rfl⟩⟩
    simp only [ops, addNode, nodeWeight, map_getElem?_append_singleton]
    rfl
  addEdge g a b w ha hb := by
    refine ⟨_, addEdge_of_lt g w ha hb,
      ⟨by simp [ops], ?_, by simp [ops], fun i => ?_, fun i => ?_⟩⟩
    · funext i
      simp [ops, nodeWeight, weight_getElem?_modify]
    · simp only [ops, edgeWeight, map_getElem?_append_singleton]
      rfl
    · simp only [ops, edgeEndpoints, map_getElem?_append_singleton]
      rfl
  addEdge_error g a b w hout := ⟨_, if_neg hout⟩
  removeEdge g e h := by
    obtain ⟨nodes, hremove, hlength, hweight⟩ := removeEdge_of_lt g h
    simp only [ops, hremove]
    refine ⟨by simp [edgeWeight, List.getElem?_eq_getElem h], ⟨hlength, ?_, ?_, fun i => ?_,
      fun i => ?_⟩⟩
    · funext i
      exact hweight i
    · exact length_swapRemove h
    · simp only [edgeWeight, getElem?_swapRemove h]
      split <;> rfl
    · simp only [edgeEndpoints, getElem?_swapRemove h]
      split <;> rfl
  removeEdge_absent g e hpast := by
    simp only [ops, removeEdge, List.getElem?_eq_none hpast]

end PetGraph
