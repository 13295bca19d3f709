import Stargate.Types.Channel
import Stargate.Storage.Stores
import Stargate.Lib.AssocMap
import Stargate.Lib.IndexedGraph
import Stargate.Lib.PetGraph

/-!
# Stargate.Router.GraphStore

The table router's graph database (src/router/graphdb): vertices and edges of the channel graph
in a petgraph `Graph`, with maps from vertices and edges to their indices there and back, and
optionally a storage the edges are written to.

The graph is a parameter: any `IndexedGraph` whose operations are `Lawful`, that is, have
petgraph's documented behaviour (indices handed out in order, an edge removed by swapping the
last edge into its index). The store's results hold of every such graph; `PetGraph` is the model
of petgraph itself they are instantiated with.

`GraphStore` keeps its maps by hand, and three of its paths break them. `remove_edge` leaves the
edge map as it was while the graph moves the last edge into the freed index, so an entry comes to
name another edge, or none (`remove_vertex` would do so for nodes). Both removals also take the
storage with `expect`, so a memory-only store panics on every removal. And `remove_vertex` holds
a borrow of `node_index_map` over the whole `match` that borrows it mutably, so removing a vertex
the store holds panics before its node removal could matter (`graph_store_breaks`).

A `HashMap` keyed by `Vertex` or `Edge` is an association map under the type's `PartialEq`:
`Vertex` compares ids only, and `Edge` compares its vertices so. The storage is keyed by the
bytes of its keys, so by every field; its writes do not fail here.
-/

/-- A vertex: an account, and its type (a `Type(String)`; the router's are all `"BI"`). -/
structure Vertex where
  id : AccountAddress
  t : String
  deriving DecidableEq, Repr

/-- `PartialEq for Vertex`: ids only. -/
def Vertex.eq (v w : Vertex) : Bool := v.id == w.id

/-- `Vertex::new_with_bi_type`. -/
def Vertex.newWithBiType (id : AccountAddress) : Vertex := ⟨id, "BI"⟩

/-- An edge of the channel graph, from `outbound_id` to `inbound_id`. -/
structure Edge where
  outboundId : Vertex
  t : String
  inboundId : Vertex
  deriving DecidableEq, Repr

/-- The derived `PartialEq for Edge`: its vertices by their `==`, and its type. -/
def Edge.eq (e f : Edge) : Bool := e.outboundId.eq f.outboundId && e.t == f.t && e.inboundId.eq f.inboundId

/-- `Edge::from_vertexes`: the first vertex outbound, the second inbound. -/
def Edge.fromVertexes (ids : List Vertex) : Except String Edge :=
  match ids with
  | [outboundId, inboundId] => .ok ⟨outboundId, "BI", inboundId⟩
  | _ => .error "balances len should be 2"

/-- The graph's storage: vertices by id (`VertexSchema`) and edges with their weights
(`EdgeSchema`), in the order its iterator yields them. -/
structure Storage where
  vertices : List (AccountAddress × Vertex)
  edges : List (Edge × UInt64)

namespace Storage

/-- `put::<VertexSchema>`. -/
def putVertex (storage : Storage) (node : Vertex) : Storage :=
  { storage with vertices := AssocMap.insert (· == ·) storage.vertices node.id node }

/-- `put::<EdgeSchema>`. -/
def putEdge (storage : Storage) (edge : Edge) (weight : UInt64) : Storage :=
  { storage with edges := AssocMap.insert (· == ·) storage.edges edge weight }

/-- `delete::<VertexSchema>`. -/
def deleteVertex (storage : Storage) (id : AccountAddress) : Storage :=
  { storage with vertices := (AssocMap.remove (· == ·) storage.vertices id).2 }

/-- `delete::<EdgeSchema>`. -/
def deleteEdge (storage : Storage) (edge : Edge) : Storage :=
  { storage with edges := (AssocMap.remove (· == ·) storage.edges edge).2 }

end Storage

/-- `GraphStore`, over a graph `G` of vertices and edges. -/
structure GraphStore (G : Type) where
  graph : G
  nodeIndexMap : List (Vertex × Nat)
  indexNodeMap : List (Nat × Vertex)
  edgeIndexMap : List (Edge × Nat)
  persistData : Bool
  storage : Option Storage

namespace GraphStore

variable {G : Type} (ops : IndexedGraph G Vertex Edge)

/-- `self.storage.as_ref().expect(message)`. -/
def expectStorage (gs : GraphStore G) (message : String) : Except Failure Storage :=
  match gs.storage with
  | some storage => .ok storage
  | none => .error (.panic message)

/-- `GraphStore::put_vertex`: a new node, whether or not the maps hold the vertex. -/
def putVertex (gs : GraphStore G) (node : Vertex) : Except Failure (GraphStore G × Nat) := do
  let gs ← if gs.persistData then do
      let storage ← gs.expectStorage "should have vertex storage"
      pure { gs with storage := some (storage.putVertex node) }
    else pure gs
  let (graph, nodeIndex) := ops.addNode gs.graph node
  pure ({ gs with
      graph := graph
      nodeIndexMap := AssocMap.insert Vertex.eq gs.nodeIndexMap node nodeIndex
      indexNodeMap := AssocMap.insert (· == ·) gs.indexNodeMap nodeIndex node }, nodeIndex)

/-- The index `put_edge` takes for an end of the edge: the map's, or a new node's. -/
def indexOrPut (gs : GraphStore G) (node : Vertex) : Except Failure (GraphStore G × Nat) :=
  if AssocMap.containsKey Vertex.eq gs.nodeIndexMap node then
    -- `.get(..).expect("should have ")`
    match AssocMap.get Vertex.eq gs.nodeIndexMap node with
    | some index => .ok (gs, index)
    | none => .error (.panic "should have ")
  else gs.putVertex ops node

/-- `GraphStore::put_edge`: a new edge from the inbound vertex's node to the outbound one's,
written to the storage unless `memoryOnly`. -/
def putEdge (gs : GraphStore G) (edge : Edge) (weight : UInt64) (memoryOnly : Bool) :
    Except Failure (GraphStore G × Nat) := do
  let (gs, startIndex) ← gs.indexOrPut ops edge.inboundId
  let (gs, endIndex) ← gs.indexOrPut ops edge.outboundId
  let (graph, edgeIndex) ← (ops.addEdge gs.graph startIndex endIndex edge).mapError .panic
  let gs := { gs with
    graph := graph
    edgeIndexMap := AssocMap.insert Edge.eq gs.edgeIndexMap edge edgeIndex }
  let gs ← if gs.persistData && !memoryOnly then do
      let storage ← gs.expectStorage "should have edege storage"
      pure { gs with storage := some (storage.putEdge edge weight) }
    else pure gs
  pure (gs, edgeIndex)

/-- `GraphStore::remove_vertex`. A vertex the map holds has its node removed and its
`index_node_map` entry, and then `node_index_map.borrow_mut()` panics: the `match` still holds
the map's `borrow()`. -/
def removeVertex (gs : GraphStore G) (node : Vertex) : Except Failure (GraphStore G) := do
  match AssocMap.get Vertex.eq gs.nodeIndexMap node with
  | some _ => throw (.panic "already borrowed: BorrowMutError")
  | none => pure ()
  let storage ← gs.expectStorage "should have vertex storage"
  pure { gs with storage := some (storage.deleteVertex node.id) }

/-- `GraphStore::remove_edge`: the edge the map names is removed from the graph; the map keeps
its entry. -/
def removeEdge (gs : GraphStore G) (edge : Edge) : Except Failure (GraphStore G) := do
  let gs := match AssocMap.get Edge.eq gs.edgeIndexMap edge with
    | some edgeIndex => { gs with graph := (ops.removeEdge gs.graph edgeIndex).1 }
    | none => gs
  let storage ← gs.expectStorage "should have edge storage"
  pure { gs with storage := some (storage.deleteEdge edge) }

/-- `GraphStore::recovery_data`: the stored edges put back, memory only, in the storage's
order. -/
def recoveryData (gs : GraphStore G) : Except Failure (GraphStore G) := do
  let storage ← gs.expectStorage "should have edge storage"
  storage.edges.foldlM (fun gs entry => do
    let (gs, _) ← gs.putEdge ops entry.1 entry.2 true
    pure gs) gs

/-- `GraphStore::new`: an empty graph, recovered from the storage when it persists data. -/
def new (persistData : Bool) (storage : Option Storage) : Except Failure (GraphStore G) :=
  let gs : GraphStore G := ⟨ops.empty, [], [], [], persistData, storage⟩
  if persistData then gs.recoveryData ops else .ok gs

/-- Whether the graph has an edge between vertices of ids `a` and `b`, either way. -/
def adjacent (gs : GraphStore G) (a b : AccountAddress) : Bool :=
  (List.range (ops.edgeCount gs.graph)).any fun e =>
    match ops.edgeEndpoints gs.graph e with
    | some (s, t) =>
      match ops.nodeWeight gs.graph s, ops.nodeWeight gs.graph t with
      | some v, some w => (v.id == a && w.id == b) || (v.id == b && w.id == a)
      | _, _ => false
    | none => false

end GraphStore

namespace GraphStore

/-! ### What each operation does -/

section Spec

variable {G : Type} {ops : IndexedGraph G Vertex Edge} {gs gs' : GraphStore G}

/-- `put_vertex` succeeds unless a persistent store has no storage; it writes the vertex to the
storage of a persistent store and adds its node, mapped both ways to the node's index. -/
theorem putVertex_eq_ok {node : Vertex} {index : Nat} :
    gs.putVertex ops node = .ok (gs', index) ↔
      (gs.persistData = true → gs.storage.isSome) ∧ index = (ops.addNode gs.graph node).2 ∧
      gs' = { gs with
        graph := (ops.addNode gs.graph node).1
        nodeIndexMap := AssocMap.insert Vertex.eq gs.nodeIndexMap node index
        indexNodeMap := AssocMap.insert (· == ·) gs.indexNodeMap index node
        storage := if gs.persistData then gs.storage.map (·.putVertex node) else gs.storage } := by
  cases hpersist : gs.persistData <;> cases hstorage : gs.storage <;>
    simp [putVertex, expectStorage, hpersist, hstorage, bind, Except.bind, pure, Except.pure]
  -- `simp` reads `add_node` off the structure by its field index: the two sides agree up to that
  all_goals constructor <;> rintro ⟨rfl, rfl⟩ <;> exact ⟨rfl, rfl⟩

/-- The index `put_edge` takes for an end: the map's, for a vertex it holds; a new node's,
otherwise. -/
theorem indexOrPut_eq_ok {node : Vertex} {index : Nat} :
    gs.indexOrPut ops node = .ok (gs', index) ↔
      (AssocMap.get Vertex.eq gs.nodeIndexMap node = some index ∧ gs' = gs) ∨
      (AssocMap.containsKey Vertex.eq gs.nodeIndexMap node = false ∧
        gs.putVertex ops node = .ok (gs', index)) := by
  have hget := @AssocMap.get_isSome Vertex Nat Vertex.eq gs.nodeIndexMap node
  unfold indexOrPut
  cases hheld : AssocMap.containsKey Vertex.eq gs.nodeIndexMap node with
  | false =>
    have hnone : AssocMap.get Vertex.eq gs.nodeIndexMap node = none := by
      simpa [hheld] using hget
    simp [hnone]
  | true =>
    obtain ⟨found, hfound⟩ := Option.isSome_iff_exists.mp (hget.trans hheld)
    simp [hfound, eq_comm, and_comm]

/-- `put_edge`: the index of each end, an edge between them added to the graph, the edge mapped
to its index, and, for a persistent store unless `memoryOnly`, the edge written to the storage,
which must then exist. -/
theorem putEdge_eq_ok {edge : Edge} {weight : UInt64} {memoryOnly : Bool} {index : Nat} :
    gs.putEdge ops edge weight memoryOnly = .ok (gs', index) ↔
      ∃ gs₁ a gs₂ b g, gs.indexOrPut ops edge.inboundId = .ok (gs₁, a) ∧
        gs₁.indexOrPut ops edge.outboundId = .ok (gs₂, b) ∧
        ops.addEdge gs₂.graph a b edge = .ok (g, index) ∧
        ((gs₂.persistData && !memoryOnly) = true → gs₂.storage.isSome) ∧
        gs' = { gs₂ with
          graph := g
          edgeIndexMap := AssocMap.insert Edge.eq gs₂.edgeIndexMap edge index
          storage := if gs₂.persistData && !memoryOnly then gs₂.storage.map (·.putEdge edge weight)
            else gs₂.storage } := by
  constructor
  · intro h
    obtain ⟨⟨gs₁, a⟩, hstart, h⟩ := Except.bind_eq_ok.mp h
    obtain ⟨⟨gs₂, b⟩, hend, h⟩ := Except.bind_eq_ok.mp h
    -- the graph adds the edge, or `put_edge` fails with its panic
    cases hr : ops.addEdge gs₂.graph a b edge with
    | error e => simp [hr, Except.mapError, bind, Except.bind] at h
    | ok r =>
      obtain ⟨g, i⟩ := r
      refine ⟨gs₁, a, gs₂, b, g, hstart, hend, ?_⟩
      cases hwrite : (gs₂.persistData && !memoryOnly) <;> cases hs : gs₂.storage <;>
        simp [hr, hwrite, hs, expectStorage, Except.mapError, bind, Except.bind, pure,
          Except.pure] at h ⊢
      all_goals
        obtain ⟨rfl, rfl⟩ := h
        exact ⟨rfl, rfl⟩
  · rintro ⟨gs₁, a, gs₂, b, g, hstart, hend, hadd, hstorage, rfl⟩
    cases hwrite : (gs₂.persistData && !memoryOnly) <;> cases hs : gs₂.storage <;>
      simp_all [putEdge, expectStorage, Except.mapError, bind, Except.bind, pure, Except.pure]

/-- `remove_edge` succeeds exactly on a store with a storage: the edge the map names is removed
from the graph, the map keeps its entry, and the edge is deleted from the storage. -/
theorem removeEdge_eq_ok {edge : Edge} :
    gs.removeEdge ops edge = .ok gs' ↔
      ∃ storage, gs.storage = some storage ∧
        gs' = { gs with
          graph := match AssocMap.get Edge.eq gs.edgeIndexMap edge with
            | some edgeIndex => (ops.removeEdge gs.graph edgeIndex).1
            | none => gs.graph
          storage := some (storage.deleteEdge edge) } := by
  unfold removeEdge
  cases hget : AssocMap.get Edge.eq gs.edgeIndexMap edge <;> cases hs : gs.storage <;>
    simp [expectStorage, hs, eq_comm]

end Spec

end GraphStore

namespace GraphStore

/-! ### Stores over two lawful graphs

A store's maps and storage do not depend on how its graph is laid out, only on the indices the
graph hands out, and two lawful graphs hand out the same ones. So each operation on stores that
agree but for their graphs, which read alike, gives stores that agree again, and a run that
succeeds over one lawful graph succeeds over every other with the same maps. -/

section Agree

variable {G₁ G₂ : Type} {ops₁ : IndexedGraph G₁ Vertex Edge} {ops₂ : IndexedGraph G₂ Vertex Edge}

/-- Stores over two graphs with the same maps and storage, and graphs that read alike. -/
structure Agree (ops₁ : IndexedGraph G₁ Vertex Edge) (ops₂ : IndexedGraph G₂ Vertex Edge)
    (gs₁ : GraphStore G₁) (gs₂ : GraphStore G₂) : Prop where
  graph : IndexedGraph.Equiv ops₁ ops₂ gs₁.graph gs₂.graph
  nodeIndexMap : gs₁.nodeIndexMap = gs₂.nodeIndexMap
  indexNodeMap : gs₁.indexNodeMap = gs₂.indexNodeMap
  edgeIndexMap : gs₁.edgeIndexMap = gs₂.edgeIndexMap
  persistData : gs₁.persistData = gs₂.persistData
  storage : gs₁.storage = gs₂.storage

variable {gs₁ : GraphStore G₁} {gs₂ gs₂' : GraphStore G₂}

/-- Stores that agree read the same edges between the same vertices. -/
theorem Agree.adjacent_eq (h : Agree ops₁ ops₂ gs₁ gs₂) (a b : AccountAddress) :
    gs₁.adjacent ops₁ a b = gs₂.adjacent ops₂ a b := by
  simp only [adjacent, h.graph.edgeCount_eq, h.graph.edgeEndpoints_eq, h.graph.nodeWeight_eq]

variable (h₁ : ops₁.Lawful) (h₂ : ops₂.Lawful)

include h₁ h₂

theorem Agree.putVertex (h : Agree ops₁ ops₂ gs₁ gs₂) {node : Vertex} {index : Nat}
    (hok : gs₂.putVertex ops₂ node = .ok (gs₂', index)) :
    ∃ gs₁', gs₁.putVertex ops₁ node = .ok (gs₁', index) ∧ Agree ops₁ ops₂ gs₁' gs₂' := by
  obtain ⟨hstorage, rfl, rfl⟩ := putVertex_eq_ok.mp hok
  obtain ⟨hindex, hgraph⟩ := h.graph.addNode h₁ h₂ node
  refine ⟨_, putVertex_eq_ok.mpr ⟨by rwa [h.persistData, h.storage], hindex.symm, rfl⟩, ?_⟩
  exact ⟨hgraph, by rw [h.nodeIndexMap], by rw [h.indexNodeMap], h.edgeIndexMap, h.persistData,
    by simp only [h.persistData, h.storage]⟩

theorem Agree.indexOrPut (h : Agree ops₁ ops₂ gs₁ gs₂) {node : Vertex} {index : Nat}
    (hok : gs₂.indexOrPut ops₂ node = .ok (gs₂', index)) :
    ∃ gs₁', gs₁.indexOrPut ops₁ node = .ok (gs₁', index) ∧ Agree ops₁ ops₂ gs₁' gs₂' := by
  rcases indexOrPut_eq_ok.mp hok with ⟨hheld, rfl⟩ | ⟨hfresh, hput⟩
  · exact ⟨gs₁, indexOrPut_eq_ok.mpr (.inl ⟨h.nodeIndexMap ▸ hheld, rfl⟩), h⟩
  · obtain ⟨gs₁', hput₁, h'⟩ := h.putVertex h₁ h₂ hput
    exact ⟨gs₁', indexOrPut_eq_ok.mpr (.inr ⟨h.nodeIndexMap ▸ hfresh, hput₁⟩), h'⟩

theorem Agree.putEdge (h : Agree ops₁ ops₂ gs₁ gs₂) {edge : Edge} {weight : UInt64}
    {memoryOnly : Bool} {index : Nat}
    (hok : gs₂.putEdge ops₂ edge weight memoryOnly = .ok (gs₂', index)) :
    ∃ gs₁', gs₁.putEdge ops₁ edge weight memoryOnly = .ok (gs₁', index) ∧
      Agree ops₁ ops₂ gs₁' gs₂' := by
  obtain ⟨gs₂a, a, gs₂b, b, g₂, hstart, hend, hadd, hstorage, rfl⟩ := putEdge_eq_ok.mp hok
  -- the ends get the same indices in both stores, so the edge joins the same nodes
  obtain ⟨gs₁a, hstart₁, ha⟩ := h.indexOrPut h₁ h₂ hstart
  obtain ⟨gs₁b, hend₁, hb⟩ := ha.indexOrPut h₁ h₂ hend
  obtain ⟨g₁, hadd₁, hg⟩ := hb.graph.addEdge h₁ h₂ hadd
  refine ⟨_, putEdge_eq_ok.mpr ⟨gs₁a, a, gs₁b, b, g₁, hstart₁, hend₁, hadd₁,
    by rwa [hb.persistData, hb.storage], rfl⟩, ?_⟩
  exact ⟨hg, hb.nodeIndexMap, hb.indexNodeMap, by rw [hb.edgeIndexMap], hb.persistData,
    by simp only [hb.persistData, hb.storage]⟩

theorem Agree.removeEdge (h : Agree ops₁ ops₂ gs₁ gs₂) {edge : Edge}
    (hok : gs₂.removeEdge ops₂ edge = .ok gs₂') :
    ∃ gs₁', gs₁.removeEdge ops₁ edge = .ok gs₁' ∧ Agree ops₁ ops₂ gs₁' gs₂' := by
  obtain ⟨storage, hstorage, rfl⟩ := removeEdge_eq_ok.mp hok
  refine ⟨_, removeEdge_eq_ok.mpr ⟨storage, h.storage.trans hstorage, rfl⟩, ?_⟩
  refine ⟨?_, h.nodeIndexMap, h.indexNodeMap, h.edgeIndexMap, h.persistData, rfl⟩
  -- both remove the index the one map names, or neither removes anything
  dsimp only
  rw [h.edgeIndexMap]
  cases AssocMap.get Edge.eq gs₂.edgeIndexMap edge with
  | none => exact h.graph
  | some index => exact (h.graph.removeEdge h₁ h₂ index).2

/-- `recovery_data`'s loop over stored edges, on stores that agree. -/
theorem Agree.recover (entries : List (Edge × UInt64)) (h : Agree ops₁ ops₂ gs₁ gs₂)
    (hok : entries.foldlM (fun gs entry => do
      let (gs, _) ← gs.putEdge ops₂ entry.1 entry.2 true
      pure gs) gs₂ = .ok gs₂') :
    ∃ gs₁', entries.foldlM (fun gs entry => do
      let (gs, _) ← gs.putEdge ops₁ entry.1 entry.2 true
      pure gs) gs₁ = .ok gs₁' ∧ Agree ops₁ ops₂ gs₁' gs₂' := by
  -- induction on the entries, each turn one `put_edge` on stores that agree
  induction entries generalizing gs₁ gs₂ with
  | nil =>
    cases hok
    exact ⟨gs₁, rfl, h⟩
  | cons entry entries ih =>
    rw [List.foldlM_cons] at hok
    obtain ⟨gs₂m, hstep, hrest⟩ := Except.bind_eq_ok.mp hok
    obtain ⟨⟨gs₂e, i⟩, hput, hpure⟩ := Except.bind_eq_ok.mp hstep
    cases hpure
    obtain ⟨gs₁e, hput₁, he⟩ := h.putEdge h₁ h₂ hput
    obtain ⟨gs₁', hrest₁, h'⟩ := ih he hrest
    refine ⟨gs₁', ?_, h'⟩
    rw [List.foldlM_cons, Except.bind_eq_ok]
    exact ⟨gs₁e, by rw [hput₁]; rfl, hrest₁⟩

theorem Agree.new {persistData : Bool} {storage : Option Storage}
    (hok : GraphStore.new ops₂ persistData storage = .ok gs₂) :
    ∃ gs₁, GraphStore.new ops₁ persistData storage = .ok gs₁ ∧ Agree ops₁ ops₂ gs₁ gs₂ := by
  have hempty : Agree ops₁ ops₂ ⟨ops₁.empty, [], [], [], persistData, storage⟩
      ⟨ops₂.empty, [], [], [], persistData, storage⟩ :=
    ⟨IndexedGraph.equiv_empty h₁ h₂, rfl, rfl, rfl, rfl, rfl⟩
  unfold GraphStore.new at hok ⊢
  cases persistData with
  | false =>
    cases hok
    exact ⟨_, rfl, hempty⟩
  | true =>
    -- the stored edges are put back, one by one, from the same storage
    cases storage with
    | none => cases hok
    | some stored => exact hempty.recover h₁ h₂ stored.edges hok

end Agree

end GraphStore

namespace GraphStore

/-- The first edge of the persistent-store run below, `[1] → [2]`. -/
def edgeOneTwo : Edge := ⟨.newWithBiType [1], "BI", .newWithBiType [2]⟩

/-- The second edge, `[2] → [3]`. -/
def edgeTwoThree : Edge := ⟨.newWithBiType [2], "BI", .newWithBiType [3]⟩

/-- A removal from a store without storage panics, whether or not the map names the edge: the
storage is taken last. -/
theorem removeEdge_of_storage_none {G : Type} {ops : IndexedGraph G Vertex Edge}
    {gs : GraphStore G} (edge : Edge) (hnone : gs.storage = none) :
    gs.removeEdge ops edge = .error (.panic "should have edge storage") := by
  unfold removeEdge
  split <;> simp [expectStorage, hnone]

theorem graph_store_breaks :
    (∀ {G : Type} (ops : IndexedGraph G Vertex Edge) (gs : GraphStore G) (edge : Edge),
      gs.storage = none → gs.removeEdge ops edge = .error (.panic "should have edge storage")) ∧
    (∀ {G : Type} (gs : GraphStore G) (node : Vertex),
      AssocMap.containsKey Vertex.eq gs.nodeIndexMap node →
      gs.removeVertex node = .error (.panic "already borrowed: BorrowMutError")) ∧
    ∀ {G : Type} (ops : IndexedGraph G Vertex Edge), ops.Lawful →
    ∃ gs₃ gs₄ : GraphStore G,
      (do
        let gs ← GraphStore.new ops true (some ⟨[], []⟩)
        let (gs, _) ← gs.putEdge ops edgeOneTwo 0 false
        let (gs, _) ← gs.putEdge ops edgeTwoThree 0 false
        gs.removeEdge ops edgeOneTwo) = .ok gs₃ ∧
      AssocMap.get Edge.eq gs₃.edgeIndexMap edgeTwoThree = some 1 ∧
        ops.edgeWeight gs₃.graph 1 = none ∧
      AssocMap.get Edge.eq gs₃.edgeIndexMap edgeOneTwo = some 0 ∧
        ops.edgeWeight gs₃.graph 0 = some edgeTwoThree ∧
      gs₃.removeEdge ops edgeOneTwo = .ok gs₄ ∧ ops.edgeCount gs₄.graph = 0 := by
  refine ⟨fun _ gs edge hnone => removeEdge_of_storage_none edge hnone, ?_, ?_⟩
  · intro G gs node hheld
    obtain ⟨index, hindex⟩ := Option.isSome_iff_exists.mp
      ((AssocMap.get_isSome gs.nodeIndexMap node).trans hheld)
    rw [removeVertex, hindex]
    rfl
  · intro G ops hops
    -- the run over petgraph's model, computed: after the first removal edge `[2] → [3]` sits at
    -- index 0 and the map still sends it to 1, and the second removal empties the graph
    obtain ⟨P₃, hrun, hget₂₃, hweight₁, hget₁₂, hweight₀, P₄, hremove₄, hcount⟩ :
        ∃ P₃ : GraphStore (PetGraph Vertex Edge),
          (do
            let gs ← GraphStore.new PetGraph.ops true (some ⟨[], []⟩)
            let (gs, _) ← gs.putEdge PetGraph.ops edgeOneTwo 0 false
            let (gs, _) ← gs.putEdge PetGraph.ops edgeTwoThree 0 false
            gs.removeEdge PetGraph.ops edgeOneTwo) = .ok P₃ ∧
          AssocMap.get Edge.eq P₃.edgeIndexMap edgeTwoThree = some 1 ∧
            PetGraph.ops.edgeWeight P₃.graph 1 = none ∧
          AssocMap.get Edge.eq P₃.edgeIndexMap edgeOneTwo = some 0 ∧
            PetGraph.ops.edgeWeight P₃.graph 0 = some edgeTwoThree ∧
          ∃ P₄, P₃.removeEdge PetGraph.ops edgeOneTwo = .ok P₄ ∧
            PetGraph.ops.edgeCount P₄.graph = 0 :=
      ⟨_, rfl, by decide, rfl, by decide, rfl, _, rfl, rfl⟩
    -- each step of it carries over to `ops`, to stores that agree
    obtain ⟨P₀, hnew, hrun⟩ := Except.bind_eq_ok.mp hrun
    obtain ⟨⟨P₁, i₁⟩, hput₁, hrun⟩ := Except.bind_eq_ok.mp hrun
    obtain ⟨⟨P₂, i₂⟩, hput₂, hremove₃⟩ := Except.bind_eq_ok.mp hrun
    obtain ⟨S₀, hnew', h₀⟩ := Agree.new hops PetGraph.lawful hnew
    obtain ⟨S₁, hput₁', h₁⟩ := h₀.putEdge hops PetGraph.lawful hput₁
    obtain ⟨S₂, hput₂', h₂⟩ := h₁.putEdge hops PetGraph.lawful hput₂
    obtain ⟨S₃, hremove₃', h₃⟩ := h₂.removeEdge hops PetGraph.lawful hremove₃
    obtain ⟨S₄, hremove₄', h₄⟩ := h₃.removeEdge hops PetGraph.lawful hremove₄
    refine ⟨S₃, S₄, ?_, h₃.edgeIndexMap ▸ hget₂₃, h₃.graph.edgeWeight_eq ▸ hweight₁,
      h₃.edgeIndexMap ▸ hget₁₂, h₃.graph.edgeWeight_eq ▸ hweight₀, hremove₄',
      h₄.graph.edgeCount_eq ▸ hcount⟩
    exact Except.bind_eq_ok.mpr ⟨S₀, hnew', Except.bind_eq_ok.mpr ⟨(S₁, i₁), hput₁',
      Except.bind_eq_ok.mpr ⟨(S₂, i₂), hput₂', hremove₃'⟩⟩⟩

theorem graph_store_breaks_memory_only :
    (GraphStore.new PetGraph.ops false none = .ok ⟨PetGraph.empty, [], [], [], false, none⟩) ∧
    (⟨PetGraph.empty, [], [], [], false, none⟩ : GraphStore (PetGraph Vertex Edge)).removeEdge
        PetGraph.ops edgeOneTwo = .error (.panic "should have edge storage") ∧
    ∃ gs₃ gs₄ : GraphStore (PetGraph Vertex Edge),
      (do
        let gs ← GraphStore.new PetGraph.ops true (some ⟨[], []⟩)
        let (gs, _) ← gs.putEdge PetGraph.ops edgeOneTwo 0 false
        let (gs, _) ← gs.putEdge PetGraph.ops edgeTwoThree 0 false
        gs.removeEdge PetGraph.ops edgeOneTwo) = .ok gs₃ ∧
      AssocMap.get Edge.eq gs₃.edgeIndexMap edgeTwoThree = some 1 ∧
        PetGraph.ops.edgeWeight gs₃.graph 1 = none ∧
      AssocMap.get Edge.eq gs₃.edgeIndexMap edgeOneTwo = some 0 ∧
        PetGraph.ops.edgeWeight gs₃.graph 0 = some edgeTwoThree ∧
      gs₃.removeEdge PetGraph.ops edgeOneTwo = .ok gs₄ ∧ PetGraph.ops.edgeCount gs₄.graph = 0 :=
  ⟨rfl, graph_store_breaks.1 _ _ edgeOneTwo rfl,
    graph_store_breaks.2.2 PetGraph.ops PetGraph.lawful⟩

end GraphStore
