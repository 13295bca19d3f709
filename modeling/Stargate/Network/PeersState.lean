import Mathlib
import Stargate.Lib.SortedMap
import Stargate.Lib.Counting

/-!
# Stargate.Network.PeersState

`PeersState` (src/network-libp2p/peerset/src/peersstate.rs): the data behind the peer set
manager. Each known node has a connection state and a reputation. Nodes can be put in named
priority groups. `num_in` and `num_out` count the connections that take a slot: those of nodes
in no priority group.

The `HashMap`s and `HashSet`s are `SortedMap`s and `SortedSet`s; their iteration order, which
the code leaves unspecified, is the key order here. The counters are `Nat`: a `u32` would need
`2^32` connected nodes to overflow. A debug build checks `-= 1` and `debug_assert!`, so the
operations that decrement a counter return `Except String`, the error being the panic's message.

The `Peer` handles (`ConnectedPeer`, `NotConnectedPeer`, `UnknownPeer`) only restrict which
operation applies to a node in which state. Here `peer` says which handle the code gets, and the
operations take the node's id. `try_outgoing` and `try_accept_incoming` exist only on a
`NotConnectedPeer`, which is their precondition below.

The invariant `SlotsCounted` says that each counter is the number of nodes in no priority group
with a connection of its kind. Every operation keeps it, and under it no decrement reaches `0`
and the `debug_assert!` of `disconnect` holds.
-/

namespace ScPeerset

/-- `ConnectionState`. -/
inductive ConnectionState where
  | «in»
  | out
  | notConnected
  deriving DecidableEq, Repr

/-- `ConnectionState::is_connected`. -/
def ConnectionState.isConnected : ConnectionState → Bool
  | .«in» => true
  | .out => true
  | .notConnected => false

/-- `i32::min_value()`. -/
def i32Min : Int := -2147483648

/-- `i32::max_value()`. -/
def i32Max : Int := 2147483647

/-- `i32::saturating_add`: the sum, capped to the range of `i32`. -/
def saturatingAdd (a b : Int) : Int := max i32Min (min i32Max (a + b))

/-- A known node: `Node`. -/
structure Node where
  connectionState : ConnectionState
  reputation : Int
  deriving DecidableEq, Repr

/-- `Node::default()`. -/
def Node.default : Node := ⟨.notConnected, 0⟩

/-- Which handle `PeersState::peer` returns: `Peer`. -/
inductive Peer where
  | connected
  | notConnected
  | unknown
  deriving DecidableEq, Repr

/-- `PeersState`. -/
structure PeersState (P : Type) [LinearOrder P] where
  nodes : SortedMap P Node
  numIn : Nat
  numOut : Nat
  maxIn : Nat
  maxOut : Nat
  priorityNodes : SortedMap String (SortedSet P)
  priorityOnly : Bool

/-- `self.num_in -= 1` in a debug build: it panics at `0`. -/
def decrement (n : Nat) : Except String Nat :=
  if n = 0 then .error "attempt to subtract with overflow" else .ok (n - 1)

namespace PeersState

variable {P : Type} [LinearOrder P]

/-- `PeersState::new`. -/
def new (inPeers outPeers : Nat) (priorityOnly : Bool) : PeersState P :=
  ⟨.empty, 0, 0, inPeers, outPeers, .empty, priorityOnly⟩

/-- `PeersState::peer`: the handle for a node. -/
def peer (st : PeersState P) (peerId : P) : Peer :=
  match st.nodes.find? peerId with
  | none => .unknown
  | some node => if node.connectionState.isConnected then .connected else .notConnected

/-- `PeersState::peers`. -/
def peers (st : PeersState P) : List P := st.nodes.keys

/-- `PeersState::connected_peers`. -/
def connectedPeers (st : PeersState P) : List P :=
  (st.nodes.toList.filter fun e => e.2.connectionState.isConnected).map Prod.fst

/-- The test of the searches over priority groups: a known node we are not connected to. -/
def isNotConnected (st : PeersState P) (id : P) : Bool :=
  (st.nodes.find? id).any fun node => !node.connectionState.isConnected

/-- `PeersState::priority_not_connected_peer`. -/
def priorityNotConnectedPeer (st : PeersState P) : Option P :=
  (st.priorityNodes.values.flatMap SortedMap.keys).find? st.isNotConnected

/-- `PeersState::priority_not_connected_peer_from_group`. -/
def priorityNotConnectedPeerFromGroup (st : PeersState P) (groupId : String) : Option P :=
  (st.priorityNodes.find? groupId).bind fun group => group.keys.find? st.isNotConnected

/-- One step of the fold in `highest_not_connected_peer`: the node so far stays unless the
next one has a strictly higher reputation. -/
def highestStep (cur : Option (P × Node)) (toTry : P × Node) : Option (P × Node) :=
  match cur with
  | some cur => if cur.2.reputation ≥ toTry.2.reputation then some cur else some toTry
  | none => some toTry

/-- `PeersState::highest_not_connected_peer`. -/
def highestNotConnectedPeer (st : PeersState P) : Option P :=
  ((st.nodes.toList.filter fun e => !e.2.connectionState.isConnected).foldl highestStep none).map
    Prod.fst

/-- `PeersState::is_priority`. -/
def isPriority (st : PeersState P) (peerId : P) : Bool :=
  st.priorityNodes.values.any fun group => group.contains peerId

/-- Store a node: `nodes.insert`, or a write through `nodes.get_mut` or `nodes.entry`. -/
def storeNode (st : PeersState P) (peerId : P) (node : Node) : PeersState P :=
  { st with nodes := st.nodes.insert peerId node }

/-- The counter of the slots of a connection's kind: `num_in` or `num_out`. -/
def slotCount (st : PeersState P) : ConnectionState → Nat
  | .«in» => st.numIn
  | .out => st.numOut
  | .notConnected => 0

/-- The maximum of the slots of a connection's kind: `max_in` or `max_out`. -/
def slotLimit (st : PeersState P) : ConnectionState → Nat
  | .«in» => st.maxIn
  | .out => st.maxOut
  | .notConnected => 0

/-- Set the counter of the slots of a connection's kind. -/
def setSlotCount (st : PeersState P) : ConnectionState → Nat → PeersState P
  | .«in», numIn => { st with numIn }
  | .out, numOut => { st with numOut }
  | .notConnected, _ => st

/-- `self.num_in -= 1` or `self.num_out -= 1`, by the connection's kind. -/
def freeSlot (st : PeersState P) (c : ConnectionState) : Except String (PeersState P) := do
  let n ← decrement (st.slotCount c)
  pure (st.setSlotCount c n)

/-- The slot `disconnect` frees, by the node's connection: `num_in -= 1`, `num_out -= 1`, or the
`debug_assert!` on a node that is not connected. -/
def releaseConnection (st : PeersState P) : ConnectionState → Except String (PeersState P)
  | .notConnected => .error "State inconsistency: disconnecting a disconnected node"
  | c => st.freeSlot c

/-- `PeersState::disconnect`. -/
def disconnect (st : PeersState P) (peerId : P) : Except String (PeersState P) := do
  let isPriority := st.isPriority peerId
  match st.nodes.find? peerId with
  | some node =>
      let st ← if !isPriority then st.releaseConnection node.connectionState else pure st
      pure (st.storeNode peerId { node with connectionState := .notConnected })
  -- `warn!`: an unknown node
  | none => pure st

/-- `PeersState::try_outgoing` and `PeersState::try_accept_incoming`, which differ only in the
kind of connection and its slots. -/
def tryConnect (st : PeersState P) (c : ConnectionState) (peerId : P) : Bool × PeersState P :=
  let isPriority := st.isPriority peerId
  -- only connections to and from priority nodes are accepted
  if !isPriority && st.priorityOnly then (false, st)
  else if decide (st.slotLimit c ≤ st.slotCount c) && !isPriority then (false, st)
  else
    match st.nodes.find? peerId with
    | some node =>
        let st' := st.storeNode peerId { node with connectionState := c }
        (true, if !isPriority then st'.setSlotCount c (st.slotCount c + 1) else st')
    | none => (false, st)

/-- `PeersState::try_outgoing`. -/
def tryOutgoing (st : PeersState P) (peerId : P) : Bool × PeersState P :=
  st.tryConnect .out peerId

/-- `PeersState::try_accept_incoming`. -/
def tryAcceptIncoming (st : PeersState P) (peerId : P) : Bool × PeersState P :=
  st.tryConnect .«in» peerId

/-- The first loop of `set_priority_group`, on one node of the old group in no other group: its
connection takes a slot again. -/
def releaseSlot (st : PeersState P) (id : P) : PeersState P :=
  match st.nodes.find? id with
  -- `num_in += 1` or `num_out += 1`; nothing for a node not connected
  | some peer => st.setSlotCount peer.connectionState (st.slotCount peer.connectionState + 1)
  | none => st

/-- The second loop of `set_priority_group`, on one node of the new group in no other group:
`entry(id).or_default()` makes it known, and its connection gives its slot back. -/
def takeSlot (st : PeersState P) (id : P) : Except String (PeersState P) :=
  let peer := (st.nodes.find? id).getD Node.default
  let st := st.storeNode id peer
  -- `num_in -= 1` or `num_out -= 1`; nothing for a node not connected
  if peer.connectionState = .notConnected then pure st else st.freeSlot peer.connectionState

/-- The first loop of `set_priority_group`, over the old group. -/
def releaseSlots (st : PeersState P) (allOtherGroups ids : List P) : PeersState P :=
  ids.foldl (fun st id => if id ∉ allOtherGroups then st.releaseSlot id else st) st

/-- The second loop of `set_priority_group`, over the new group. -/
def takeSlots (st : PeersState P) (allOtherGroups ids : List P) : Except String (PeersState P) :=
  ids.foldlM (fun st id => if id ∉ allOtherGroups then st.takeSlot id else pure st) st

/-- `all_other_groups` in `set_priority_group`: the nodes of the other groups, collected into a
`HashSet` of which only membership is read. -/
def allOtherGroups (st : PeersState P) (groupId : String) : List P :=
  (st.priorityNodes.toList.filter fun g => g.1 ≠ groupId).flatMap fun g => g.2.keys

/-- Replace the priority groups. -/
def setPriorityNodes (st : PeersState P) (priorityNodes : SortedMap String (SortedSet P)) :
    PeersState P :=
  { st with priorityNodes }

/-- `PeersState::set_priority_group`. -/
def setPriorityGroup (st : PeersState P) (groupId : String) (peers : SortedSet P) :
    Except String (PeersState P) := do
  let allOtherGroups := st.allOtherGroups groupId
  let existingGroup := (st.priorityNodes.find? groupId).getD .empty
  let st := st.setPriorityNodes (st.priorityNodes.erase groupId)
  -- slots of the nodes that are no longer priority nodes
  let st := st.releaseSlots allOtherGroups existingGroup.keys
  -- slots of the nodes that become priority nodes
  let st ← st.takeSlots allOtherGroups peers.keys
  pure (st.setPriorityNodes (st.priorityNodes.insert groupId peers))

/-- `PeersState::get_priority_group`. -/
def getPriorityGroup (st : PeersState P) (groupId : String) : Option (SortedSet P) :=
  st.priorityNodes.find? groupId

/-- `PeersState::add_to_priority_group`. -/
def addToPriorityGroup (st : PeersState P) (groupId : String) (peerId : P) :
    Except String (PeersState P) :=
  st.setPriorityGroup groupId (((st.getPriorityGroup groupId).getD .empty).insert peerId ())

/-- `PeersState::remove_from_priority_group`. -/
def removeFromPriorityGroup (st : PeersState P) (groupId : String) (peerId : P) :
    Except String (PeersState P) :=
  st.setPriorityGroup groupId (((st.getPriorityGroup groupId).getD .empty).erase peerId)

/-- `PeersState::set_priority_only`. -/
def setPriorityOnly (st : PeersState P) (priority : Bool) : PeersState P :=
  { st with priorityOnly := priority }

/-- `PeersState::reputation`. -/
def reputation (st : PeersState P) (peerId : P) : Int :=
  (st.nodes.find? peerId).elim 0 Node.reputation

/-- `PeersState::set_reputation`. -/
def setReputation (st : PeersState P) (peerId : P) (value : Int) : PeersState P :=
  let node := (st.nodes.find? peerId).getD Node.default
  st.storeNode peerId { node with reputation := value }

/-- `PeersState::add_reputation`. -/
def addReputation (st : PeersState P) (peerId : P) (modifier : Int) : PeersState P :=
  let node := (st.nodes.find? peerId).getD Node.default
  st.storeNode peerId { node with reputation := saturatingAdd node.reputation modifier }

/-- `UnknownPeer::discover`. -/
def discover (st : PeersState P) (peerId : P) : PeersState P :=
  st.storeNode peerId ⟨.notConnected, 0⟩

/-! ### Field lemmas -/

@[simp] theorem nodes_storeNode (st : PeersState P) (p : P) (node : Node) :
    (st.storeNode p node).nodes = st.nodes.insert p node := rfl

@[simp] theorem priorityNodes_storeNode (st : PeersState P) (p : P) (node : Node) :
    (st.storeNode p node).priorityNodes = st.priorityNodes := rfl

@[simp] theorem priorityOnly_storeNode (st : PeersState P) (p : P) (node : Node) :
    (st.storeNode p node).priorityOnly = st.priorityOnly := rfl

@[simp] theorem slotCount_storeNode (st : PeersState P) (p : P) (node : Node)
    (c : ConnectionState) : (st.storeNode p node).slotCount c = st.slotCount c := by
  cases c <;> rfl

@[simp] theorem slotLimit_storeNode (st : PeersState P) (p : P) (node : Node)
    (c : ConnectionState) : (st.storeNode p node).slotLimit c = st.slotLimit c := by
  cases c <;> rfl

@[simp] theorem nodes_setSlotCount (st : PeersState P) (c : ConnectionState) (n : Nat) :
    (st.setSlotCount c n).nodes = st.nodes := by
  cases c <;> rfl

@[simp] theorem priorityNodes_setSlotCount (st : PeersState P) (c : ConnectionState) (n : Nat) :
    (st.setSlotCount c n).priorityNodes = st.priorityNodes := by
  cases c <;> rfl

@[simp] theorem priorityOnly_setSlotCount (st : PeersState P) (c : ConnectionState) (n : Nat) :
    (st.setSlotCount c n).priorityOnly = st.priorityOnly := by
  cases c <;> rfl

@[simp] theorem slotLimit_setSlotCount (st : PeersState P) (c : ConnectionState) (n : Nat)
    (c' : ConnectionState) : (st.setSlotCount c n).slotLimit c' = st.slotLimit c' := by
  cases c <;> cases c' <;> rfl

theorem slotCount_setSlotCount (st : PeersState P) {c : ConnectionState}
    (hc : c ≠ .notConnected) (n : Nat) (c' : ConnectionState) :
    (st.setSlotCount c n).slotCount c' = if c' = c then n else st.slotCount c' := by
  cases c <;> cases c' <;> simp_all [setSlotCount, slotCount]

/-! ### The slots connections take -/

/-- The connection state of a node; an unknown node is not connected. -/
def connectionOf (st : PeersState P) (p : P) : ConnectionState :=
  ((st.nodes.find? p).map Node.connectionState).getD .notConnected

/-- The nodes whose connection takes a slot of kind `c`: known, connected as `c` says, and in
no priority group. -/
def slotHolders (st : PeersState P) (c : ConnectionState) : Finset P :=
  st.nodes.keys.toFinset.filter fun p => st.connectionOf p = c ∧ st.isPriority p = false

/-- Each slot counter counts the nodes whose connection takes a slot of its kind. -/
def SlotsCounted (st : PeersState P) : Prop :=
  ∀ c, c ≠ .notConnected → st.slotCount c = (st.slotHolders c).card

theorem connectionOf_of_find? {st : PeersState P} {p : P} {node : Node}
    (h : st.nodes.find? p = some node) : st.connectionOf p = node.connectionState := by
  rw [connectionOf, h]
  rfl

theorem connectionOf_of_find?_none {st : PeersState P} {p : P} (h : st.nodes.find? p = none) :
    st.connectionOf p = .notConnected := by
  rw [connectionOf, h]
  rfl

@[simp] theorem connectionOf_storeNode (st : PeersState P) (p : P) (node : Node) (q : P) :
    (st.storeNode p node).connectionOf q =
      if q = p then node.connectionState else st.connectionOf q := by
  rw [connectionOf, nodes_storeNode, SortedMap.find?_insert]
  split_ifs <;> rfl

theorem connectionOf_congr {st st' : PeersState P} (h : st'.nodes = st.nodes) :
    st'.connectionOf = st.connectionOf := by
  funext p
  rw [connectionOf, connectionOf, h]

@[simp] theorem connectionOf_setSlotCount (st : PeersState P) (c : ConnectionState) (n : Nat) :
    (st.setSlotCount c n).connectionOf = st.connectionOf := by
  funext p
  rw [connectionOf, connectionOf, nodes_setSlotCount]

@[simp] theorem isPriority_storeNode (st : PeersState P) (p : P) (node : Node) :
    (st.storeNode p node).isPriority = st.isPriority := rfl

@[simp] theorem isPriority_setSlotCount (st : PeersState P) (c : ConnectionState) (n : Nat) :
    (st.setSlotCount c n).isPriority = st.isPriority := by
  funext p
  rw [isPriority, isPriority, priorityNodes_setSlotCount]

theorem mem_keys_of_connectionOf_ne {st : PeersState P} {p : P}
    (h : st.connectionOf p ≠ .notConnected) : p ∈ st.nodes.keys := by
  rw [SortedMap.mem_keys_iff]
  cases hp : st.nodes.find? p with
  | none => exact absurd (connectionOf_of_find?_none hp) h
  | some node => rfl

theorem mem_slotHolders {st : PeersState P} {c : ConnectionState} (hc : c ≠ .notConnected)
    {p : P} : p ∈ st.slotHolders c ↔ st.connectionOf p = c ∧ st.isPriority p = false := by
  rw [slotHolders, Finset.mem_filter, List.mem_toFinset]
  refine ⟨And.right, fun h => ⟨mem_keys_of_connectionOf_ne ?_, h⟩⟩
  rw [h.1]
  exact hc

/-- The slot holders depend on the nodes' connections and priorities only. -/
theorem slotHolders_congr {st st' : PeersState P}
    (hconn : ∀ p, st'.connectionOf p = st.connectionOf p)
    (hprio : ∀ p, st'.isPriority p = st.isPriority p) {c : ConnectionState}
    (hc : c ≠ .notConnected) : st'.slotHolders c = st.slotHolders c := by
  ext p
  rw [mem_slotHolders hc, mem_slotHolders hc, hconn, hprio]

/-- A change of one node's connection moves that node alone in or out of the slot holders. -/
theorem card_slotHolders_update {st st' : PeersState P} {p : P}
    (hconn : ∀ q, q ≠ p → st'.connectionOf q = st.connectionOf q)
    (hprio : ∀ q, st'.isPriority q = st.isPriority q) {c : ConnectionState}
    (hc : c ≠ .notConnected) :
    (st'.slotHolders c).card + (if p ∈ st.slotHolders c then 1 else 0) =
      (st.slotHolders c).card + (if p ∈ st'.slotHolders c then 1 else 0) := by
  refine Finset.card_add_ite_of_erase_eq (Finset.ext fun q => ?_)
  rw [Finset.mem_erase, Finset.mem_erase, mem_slotHolders hc, mem_slotHolders hc, hprio]
  constructor
  · rintro ⟨hq, h⟩
    exact ⟨hq, by rw [← hconn q hq]; exact h⟩
  · rintro ⟨hq, h⟩
    exact ⟨hq, by rw [hconn q hq]; exact h⟩

/-- A change of one node's connection keeps the counters right when each counter changes by
what that node adds to or takes from the slots of its kind. -/
theorem slotsCounted_update {st st' : PeersState P} {p : P} (h : st.SlotsCounted)
    (hconn : ∀ q, q ≠ p → st'.connectionOf q = st.connectionOf q)
    (hprio : ∀ q, st'.isPriority q = st.isPriority q)
    (hcount : ∀ c, c ≠ .notConnected →
      st'.slotCount c + (if p ∈ st.slotHolders c then 1 else 0) =
        st.slotCount c + (if p ∈ st'.slotHolders c then 1 else 0)) :
    st'.SlotsCounted := by
  intro c hc
  have hcard := card_slotHolders_update hconn hprio hc
  have hc' := hcount c hc
  have hst := h c hc
  omega

/-- A state with the same connections, priorities and counters keeps the counters right. -/
theorem slotsCounted_congr {st st' : PeersState P} (h : st.SlotsCounted)
    (hconn : ∀ p, st'.connectionOf p = st.connectionOf p)
    (hprio : ∀ p, st'.isPriority p = st.isPriority p)
    (hcount : ∀ c, st'.slotCount c = st.slotCount c) : st'.SlotsCounted := by
  intro c hc
  rw [hcount, slotHolders_congr hconn hprio hc]
  exact h c hc

/-- Under the invariant a counter is positive while some node holds a slot of its kind, so
freeing a slot holder's slot does not panic. -/
theorem slotCount_pos {st : PeersState P} (h : st.SlotsCounted) {c : ConnectionState}
    (hc : c ≠ .notConnected) {p : P} (hp : p ∈ st.slotHolders c) : 0 < st.slotCount c := by
  rw [h c hc]
  exact Finset.card_pos.mpr ⟨p, hp⟩

theorem freeSlot_of_pos {st : PeersState P} {c : ConnectionState} (hpos : 0 < st.slotCount c) :
    st.freeSlot c = .ok (st.setSlotCount c (st.slotCount c - 1)) := by
  rw [freeSlot, decrement, if_neg (Nat.pos_iff_ne_zero.mp hpos)]
  rfl

theorem releaseConnection_of_ne (st : PeersState P) {c : ConnectionState}
    (hc : c ≠ .notConnected) : st.releaseConnection c = st.freeSlot c := by
  cases c with
  | notConnected => exact absurd rfl hc
  | «in» | out => rfl

/-- A node that stays out of the slots: its counter is unchanged. -/
theorem slotCount_add_of_not_mem {st st' : PeersState P} {p : P} {c : ConnectionState}
    (hst : p ∉ st.slotHolders c) (hst' : p ∉ st'.slotHolders c)
    (hcount : st'.slotCount c = st.slotCount c) :
    st'.slotCount c + (if p ∈ st.slotHolders c then 1 else 0) =
      st.slotCount c + (if p ∈ st'.slotHolders c then 1 else 0) := by
  rw [if_neg hst, if_neg hst', hcount]

/-! ### Connecting and disconnecting a node -/

/-- What `try_outgoing` and `try_accept_incoming` can do: nothing, or connect a known node when
it is a priority node, or when connections are not restricted to priority nodes and a slot of
its kind is free. -/
theorem tryConnect_cases (st : PeersState P) (c : ConnectionState) (p : P) :
    st.tryConnect c p = (false, st) ∨
      ∃ node, st.nodes.find? p = some node ∧
        (st.isPriority p = true ∨ (st.priorityOnly = false ∧ st.slotCount c < st.slotLimit c)) ∧
        st.tryConnect c p = (true,
          if st.isPriority p then st.storeNode p { node with connectionState := c }
          else (st.storeNode p { node with connectionState := c }).setSlotCount c
            (st.slotCount c + 1)) := by
  unfold tryConnect
  cases hprio : st.isPriority p with
  | false =>
      cases honly : st.priorityOnly with
      | true => exact .inl (by simp)
      | false =>
          by_cases hfull : st.slotLimit c ≤ st.slotCount c
          · exact .inl (by simp [hfull])
          · cases hnode : st.nodes.find? p with
            | none => exact .inl (by simp [hfull])
            | some node => exact .inr ⟨node, rfl, .inr ⟨rfl, by omega⟩, by simp [hfull]⟩
  | true =>
      cases hnode : st.nodes.find? p with
      | none => exact .inl (by simp)
      | some node => exact .inr ⟨node, rfl, .inl rfl, by simp⟩

/-- Connecting a node that was not connected keeps the counters right. -/
theorem slotsCounted_tryConnect {st : PeersState P} (h : st.SlotsCounted) {c : ConnectionState}
    (hc : c ≠ .notConnected) {p : P} (hp : st.connectionOf p = .notConnected) :
    (st.tryConnect c p).2.SlotsCounted := by
  rcases st.tryConnect_cases c p with hnone | ⟨node, -, -, hconn⟩
  · rw [hnone]
    exact h
  · rw [hconn]
    dsimp only
    -- the node held no slot before; it holds one of kind `c` unless it is a priority node
    have hout : ∀ c', c' ≠ .notConnected → p ∉ st.slotHolders c' := fun c' hc' hmem =>
      hc' (((mem_slotHolders hc').mp hmem).1.symm.trans hp)
    by_cases hprio : st.isPriority p = true
    · rw [if_pos hprio]
      refine slotsCounted_update h (fun q (hq : q ≠ p) => by simp [hq]) (fun q => by simp)
        fun c' hc' => slotCount_add_of_not_mem (hout c' hc') (fun hmem => ?_) (by simp)
      rw [mem_slotHolders hc', isPriority_storeNode, hprio] at hmem
      exact Bool.noConfusion hmem.2
    · rw [if_neg hprio]
      refine slotsCounted_update h (fun q (hq : q ≠ p) => by simp [hq]) (fun q => by simp)
        fun c' hc' => ?_
      rw [if_neg (hout c' hc'), slotCount_setSlotCount _ hc]
      by_cases hcc : c' = c
      · subst hcc
        rw [if_pos rfl, if_pos]
        rw [mem_slotHolders hc']
        simpa using hprio
      · rw [if_neg hcc, if_neg]
        · simp
        · rw [mem_slotHolders hc']
          simp [Ne.symm hcc]

/-- `disconnect` of a connected node does not panic: the node is no longer connected, and
gives its slot back when it held one. -/
theorem disconnect_ok {st : PeersState P} (h : st.SlotsCounted) {p : P} {node : Node}
    (hnode : st.nodes.find? p = some node) (hconn : node.connectionState ≠ .notConnected) :
    ∃ st', st.disconnect p = .ok st' ∧ st'.SlotsCounted ∧
      st'.nodes = st.nodes.insert p { node with connectionState := .notConnected } ∧
      st'.priorityNodes = st.priorityNodes ∧ st'.priorityOnly = st.priorityOnly ∧
      ∀ c, st'.slotLimit c = st.slotLimit c := by
  have hp : st.connectionOf p = node.connectionState := connectionOf_of_find? hnode
  unfold disconnect
  rw [hnode]
  -- afterwards the node holds no slot
  have hafter : ∀ (st₀ : PeersState P), st₀.isPriority = st.isPriority → ∀ c, c ≠ .notConnected →
      p ∉ (st₀.storeNode p { node with connectionState := .notConnected }).slotHolders c := by
    intro st₀ _ c hc hmem
    rw [mem_slotHolders hc, connectionOf_storeNode, if_pos rfl] at hmem
    exact hc hmem.1.symm
  cases hprio : st.isPriority p with
  | true =>
      have hnot : ∀ c, c ≠ .notConnected → p ∉ st.slotHolders c := fun c hc hmem =>
        absurd ((mem_slotHolders hc).mp hmem).2 (by rw [hprio]; decide)
      refine ⟨_, rfl, slotsCounted_update h (fun q (hq : q ≠ p) => ?_) (fun q => rfl)
        fun c hc => slotCount_add_of_not_mem (hnot c hc) (hafter st rfl c hc) (by simp),
        rfl, rfl, rfl, fun c => by simp⟩
      simp [hq]
  | false =>
      -- the node holds a slot of its kind, so its counter is positive
      have hmem : p ∈ st.slotHolders node.connectionState :=
        (mem_slotHolders hconn).mpr ⟨hp, hprio⟩
      have hfree := freeSlot_of_pos (slotCount_pos h hconn hmem)
      simp only [Bool.not_false, if_true, releaseConnection_of_ne st hconn, hfree, bind,
        Except.bind, pure, Except.pure]
      refine ⟨_, rfl, slotsCounted_update h (fun q (hq : q ≠ p) => ?_) (fun q => by simp)
        fun c hc => ?_, by simp, by simp, by simp, fun c => by simp⟩
      · simp [hq]
      · rw [if_neg (hafter _ (by simp) c hc), slotCount_storeNode, slotCount_setSlotCount _ hconn]
        by_cases hcc : c = node.connectionState
        · subst hcc
          rw [if_pos rfl, if_pos hmem]
          have := slotCount_pos h hconn hmem
          omega
        · rw [if_neg hcc, if_neg]
          rw [mem_slotHolders hc, hp]
          exact fun h' => hcc h'.1.symm

/-! ### Priority groups -/

/-- What `set_priority_group` leaves as it was: every node's connection, every known node, and
the configuration. -/
structure KeepsNodes (st st' : PeersState P) : Prop where
  connectionOf_eq : ∀ q, st'.connectionOf q = st.connectionOf q
  find?_eq : ∀ q node, st.nodes.find? q = some node → st'.nodes.find? q = some node
  priorityOnly_eq : st'.priorityOnly = st.priorityOnly
  slotLimit_eq : ∀ c, st'.slotLimit c = st.slotLimit c

theorem KeepsNodes.refl (st : PeersState P) : KeepsNodes st st :=
  ⟨fun _ => rfl, fun _ _ h => h, rfl, fun _ => rfl⟩

theorem KeepsNodes.trans {st₁ st₂ st₃ : PeersState P} (h₁ : KeepsNodes st₁ st₂)
    (h₂ : KeepsNodes st₂ st₃) : KeepsNodes st₁ st₃ :=
  ⟨fun q => (h₂.connectionOf_eq q).trans (h₁.connectionOf_eq q),
    fun q node h => h₂.find?_eq q node (h₁.find?_eq q node h),
    h₂.priorityOnly_eq.trans h₁.priorityOnly_eq,
    fun c => (h₂.slotLimit_eq c).trans (h₁.slotLimit_eq c)⟩

theorem KeepsNodes.of_nodes_eq {st st' : PeersState P} (hnodes : st'.nodes = st.nodes)
    (honly : st'.priorityOnly = st.priorityOnly) (hlimit : ∀ c, st'.slotLimit c = st.slotLimit c) :
    KeepsNodes st st' :=
  ⟨fun q => by rw [connectionOf_congr hnodes], fun q node h => by rw [hnodes]; exact h, honly,
    hlimit⟩

/-- A node is a priority node when some group holds it. -/
theorem isPriority_iff (st : PeersState P) (q : P) :
    st.isPriority q = true ↔
      ∃ g group, st.priorityNodes.find? g = some group ∧ q ∈ group.keys := by
  rw [isPriority, SortedMap.values, List.any_map, List.any_eq_true]
  constructor
  · rintro ⟨⟨g, group⟩, hmem, hq⟩
    refine ⟨g, group, (SortedMap.mem_toList_iff _ _ _).mp hmem, ?_⟩
    rw [SortedMap.mem_keys_iff]
    simpa using hq
  · rintro ⟨g, group, hg, hq⟩
    refine ⟨(g, group), (SortedMap.mem_toList_iff _ _ _).mpr hg, ?_⟩
    rw [SortedMap.mem_keys_iff] at hq
    simpa using hq

theorem mem_allOtherGroups (st : PeersState P) (g : String) (q : P) :
    q ∈ st.allOtherGroups g ↔
      ∃ g' group, g' ≠ g ∧ st.priorityNodes.find? g' = some group ∧ q ∈ group.keys := by
  rw [allOtherGroups, List.mem_flatMap]
  constructor
  · rintro ⟨⟨g', group⟩, hmem, hq⟩
    rw [List.mem_filter] at hmem
    exact ⟨g', group, by simpa using hmem.2, (SortedMap.mem_toList_iff _ _ _).mp hmem.1, hq⟩
  · rintro ⟨g', group, hne, hg, hq⟩
    exact ⟨(g', group), List.mem_filter.mpr ⟨(SortedMap.mem_toList_iff _ _ _).mpr hg,
      by simpa using hne⟩, hq⟩

/-- Before `set_priority_group`, a priority node is in another group or in the group it
replaces. -/
theorem isPriority_iff_allOtherGroups (st : PeersState P) (g : String) (q : P) :
    st.isPriority q = true ↔
      q ∈ st.allOtherGroups g ∨ q ∈ ((st.priorityNodes.find? g).getD .empty).keys := by
  rw [isPriority_iff, mem_allOtherGroups]
  constructor
  · rintro ⟨g', group, hg', hq⟩
    by_cases hgg : g' = g
    · subst hgg
      rw [hg']
      exact .inr hq
    · exact .inl ⟨g', group, hgg, hg', hq⟩
  · rintro (⟨g', group, -, hg', hq⟩ | hq)
    · exact ⟨g', group, hg', hq⟩
    · cases hg : st.priorityNodes.find? g with
      | none =>
          rw [hg] at hq
          exact absurd hq List.not_mem_nil
      | some group =>
          rw [hg] at hq
          exact ⟨g, group, hg, hq⟩

/-- After `set_priority_group`, a priority node is in another group or in the new group. -/
theorem isPriority_iff_of_priorityNodes {st st' : PeersState P} {g : String}
    {peers : SortedSet P} (h : st'.priorityNodes = (st.priorityNodes.erase g).insert g peers)
    (q : P) : st'.isPriority q = true ↔ q ∈ st.allOtherGroups g ∨ q ∈ peers.keys := by
  rw [isPriority_iff, mem_allOtherGroups, h]
  constructor
  · rintro ⟨g', group, hg', hq⟩
    rw [SortedMap.find?_insert, SortedMap.find?_erase] at hg'
    by_cases hgg : g' = g
    · rw [if_pos hgg] at hg'
      rw [← Option.some.inj hg'] at hq
      exact .inr hq
    · rw [if_neg hgg, if_neg hgg] at hg'
      exact .inl ⟨g', group, hgg, hg', hq⟩
  · rintro (⟨g', group, hne, hg', hq⟩ | hq)
    · refine ⟨g', group, ?_, hq⟩
      rw [SortedMap.find?_insert, SortedMap.find?_erase, if_neg hne, if_neg hne]
      exact hg'
    · exact ⟨g, peers, by simp, hq⟩

@[simp] theorem nodes_setPriorityNodes (st : PeersState P)
    (priorityNodes : SortedMap String (SortedSet P)) :
    (st.setPriorityNodes priorityNodes).nodes = st.nodes := rfl

@[simp] theorem priorityNodes_setPriorityNodes (st : PeersState P)
    (priorityNodes : SortedMap String (SortedSet P)) :
    (st.setPriorityNodes priorityNodes).priorityNodes = priorityNodes := rfl

@[simp] theorem slotCount_setPriorityNodes (st : PeersState P)
    (priorityNodes : SortedMap String (SortedSet P)) (c : ConnectionState) :
    (st.setPriorityNodes priorityNodes).slotCount c = st.slotCount c := by
  cases c <;> rfl

theorem keepsNodes_setPriorityNodes (st : PeersState P)
    (priorityNodes : SortedMap String (SortedSet P)) :
    KeepsNodes st (st.setPriorityNodes priorityNodes) :=
  .of_nodes_eq rfl rfl fun c => by cases c <;> rfl

/-! ### The loops of `set_priority_group` -/

@[simp] theorem nodes_releaseSlot (st : PeersState P) (id : P) :
    (st.releaseSlot id).nodes = st.nodes := by
  unfold releaseSlot
  cases st.nodes.find? id <;> simp

@[simp] theorem priorityNodes_releaseSlot (st : PeersState P) (id : P) :
    (st.releaseSlot id).priorityNodes = st.priorityNodes := by
  unfold releaseSlot
  cases st.nodes.find? id <;> simp

theorem keepsNodes_releaseSlot (st : PeersState P) (id : P) : KeepsNodes st (st.releaseSlot id) :=
  .of_nodes_eq (nodes_releaseSlot st id) (by unfold releaseSlot; cases st.nodes.find? id <;> simp)
    fun c => by unfold releaseSlot; cases st.nodes.find? id <;> simp

/-- A connected node's counter goes up by one. -/
theorem slotCount_releaseSlot (st : PeersState P) (id : P) {c : ConnectionState}
    (hc : c ≠ .notConnected) :
    (st.releaseSlot id).slotCount c = st.slotCount c + if st.connectionOf id = c then 1 else 0 := by
  unfold releaseSlot
  cases hid : st.nodes.find? id with
  | none =>
      rw [connectionOf_of_find?_none hid, if_neg (Ne.symm hc)]
      rfl
  | some peer =>
      dsimp only
      rw [connectionOf_of_find? hid]
      by_cases hpc : peer.connectionState = .notConnected
      · rw [hpc, if_neg (Ne.symm hc)]
        rfl
      · rw [slotCount_setSlotCount _ hpc]
        by_cases hcp : c = peer.connectionState
        · rw [if_pos hcp, if_pos hcp.symm, hcp]
        · rw [if_neg hcp, if_neg (Ne.symm hcp), Nat.add_zero]

theorem releaseSlots_cons (st : PeersState P) (others : List P) (id : P) (ids : List P) :
    st.releaseSlots others (id :: ids) =
      (if id ∉ others then st.releaseSlot id else st).releaseSlots others ids :=
  rfl

theorem keepsNodes_releaseSlots (st : PeersState P) (others ids : List P) :
    KeepsNodes st (st.releaseSlots others ids) ∧
      (st.releaseSlots others ids).priorityNodes = st.priorityNodes := by
  induction ids generalizing st with
  | nil => exact ⟨.refl st, rfl⟩
  | cons id ids ih =>
      rw [releaseSlots_cons]
      by_cases hid : id ∉ others
      · rw [if_pos hid]
        obtain ⟨hkeeps, hprio⟩ := ih (st.releaseSlot id)
        exact ⟨(keepsNodes_releaseSlot st id).trans hkeeps, hprio.trans (by simp)⟩
      · rw [if_neg hid]
        exact ih st

/-- The first loop gives a slot back to each connected node of the old group in no other
group. -/
theorem slotCount_releaseSlots (st : PeersState P) (others ids : List P) {c : ConnectionState}
    (hc : c ≠ .notConnected) :
    (st.releaseSlots others ids).slotCount c =
      st.slotCount c + ids.countP fun id => decide (id ∉ others ∧ st.connectionOf id = c) := by
  induction ids generalizing st with
  | nil => rfl
  | cons id ids ih =>
      rw [releaseSlots_cons, List.countP_cons]
      by_cases hid : id ∉ others
      · rw [if_pos hid, ih, slotCount_releaseSlot _ _ hc,
          connectionOf_congr (nodes_releaseSlot st id)]
        by_cases hcid : st.connectionOf id = c
        · simp only [hcid, if_true, hid, not_false_eq_true, and_self, decide_true]
          omega
        · simp [hcid]
      · rw [if_neg hid, ih]
        simp [hid]

theorem takeSlots_cons (st : PeersState P) (others : List P) (id : P) (ids : List P) :
    st.takeSlots others (id :: ids) =
      (if id ∉ others then st.takeSlot id else pure st) >>= fun st => st.takeSlots others ids :=
  rfl

/-- `entry(id).or_default()` stores the node as it was, or a new node that is not connected. -/
theorem keepsNodes_storeDefault (st : PeersState P) (id : P) :
    KeepsNodes st (st.storeNode id ((st.nodes.find? id).getD Node.default)) := by
  refine ⟨fun q => ?_, fun q node hq => ?_, rfl, fun c => by simp⟩
  · rw [connectionOf_storeNode]
    split_ifs with hqid
    · subst hqid
      cases hid : st.nodes.find? q with
      | none => rw [connectionOf_of_find?_none hid]; rfl
      | some node => rw [connectionOf_of_find? hid]; rfl
    · rfl
  · rw [nodes_storeNode, SortedMap.find?_insert]
    split_ifs with hqid
    · subst hqid
      rw [hq]
      rfl
    · exact hq

/-- One turn of the second loop: it does not panic when the node's counter is positive, and
takes the node's slot back. -/
theorem takeSlot_ok (st : PeersState P) (id : P)
    (hpos : ∀ c, c ≠ .notConnected → st.connectionOf id = c → 0 < st.slotCount c) :
    ∃ st', st.takeSlot id = .ok st' ∧ KeepsNodes st st' ∧ st'.priorityNodes = st.priorityNodes ∧
      ∀ c, c ≠ .notConnected →
        st'.slotCount c = st.slotCount c - if st.connectionOf id = c then 1 else 0 := by
  have hpeer : ((st.nodes.find? id).getD Node.default).connectionState = st.connectionOf id := by
    cases hid : st.nodes.find? id with
    | none => rw [connectionOf_of_find?_none hid]; rfl
    | some node => rw [connectionOf_of_find? hid]; rfl
  unfold takeSlot
  dsimp only
  rw [hpeer]
  by_cases hnc : st.connectionOf id = .notConnected
  · rw [if_pos hnc]
    refine ⟨_, rfl, keepsNodes_storeDefault st id, rfl, fun c hc => ?_⟩
    rw [hnc, if_neg (Ne.symm hc), slotCount_storeNode, Nat.sub_zero]
  · rw [if_neg hnc, freeSlot_of_pos (by rw [slotCount_storeNode]; exact hpos _ hnc rfl)]
    refine ⟨_, rfl, (keepsNodes_storeDefault st id).trans
      (.of_nodes_eq (by simp) (by simp) fun c => by simp), by simp, fun c hc => ?_⟩
    rw [slotCount_setSlotCount _ hnc, slotCount_storeNode]
    by_cases hcid : c = st.connectionOf id
    · rw [if_pos hcid, if_pos hcid.symm, hcid]
    · rw [if_neg hcid, if_neg (Ne.symm hcid), Nat.sub_zero, slotCount_storeNode]

/-- The second loop does not panic when each counter is at least the number of connected
nodes of its kind it takes the slots of, and takes those slots. -/
theorem takeSlots_ok (others ids : List P) : ∀ (st : PeersState P),
    (∀ c, c ≠ .notConnected →
      ids.countP (fun id => decide (id ∉ others ∧ st.connectionOf id = c)) ≤ st.slotCount c) →
    ∃ st', st.takeSlots others ids = .ok st' ∧ KeepsNodes st st' ∧
      st'.priorityNodes = st.priorityNodes ∧
      ∀ c, c ≠ .notConnected → st'.slotCount c =
        st.slotCount c - ids.countP fun id => decide (id ∉ others ∧ st.connectionOf id = c) := by
  induction ids with
  | nil => exact fun st _ => ⟨st, rfl, .refl st, rfl, fun c _ => rfl⟩
  | cons id ids ih =>
      intro st hcount
      rw [takeSlots_cons]
      by_cases hid : id ∉ others
      · rw [if_pos hid]
        -- the head counts in the loop exactly when it is connected as `c`
        have hhead : ∀ c, ids.countP (fun id => decide (id ∉ others ∧ st.connectionOf id = c)) +
            (if st.connectionOf id = c then 1 else 0) =
            (id :: ids).countP fun id => decide (id ∉ others ∧ st.connectionOf id = c) := by
          intro c
          rw [List.countP_cons]
          by_cases hcid : st.connectionOf id = c <;> simp [hid, hcid]
        have hpos : ∀ c, c ≠ .notConnected → st.connectionOf id = c → 0 < st.slotCount c := by
          intro c hc hcid
          have := hcount c hc
          rw [← hhead c, if_pos hcid] at this
          omega
        obtain ⟨st₁, htake, hkeeps₁, hprio₁, hcount₁⟩ := takeSlot_ok st id hpos
        have hconn₁ : st₁.connectionOf = st.connectionOf := funext hkeeps₁.connectionOf_eq
        obtain ⟨st₂, hrest, hkeeps₂, hprio₂, hcount₂⟩ := ih st₁ fun c hc => by
          have := hcount c hc
          rw [← hhead c] at this
          rw [hcount₁ c hc, hconn₁]
          omega
        refine ⟨st₂, by rw [htake]; exact hrest, hkeeps₁.trans hkeeps₂, hprio₂.trans hprio₁,
          fun c hc => ?_⟩
        rw [hcount₂ c hc, hcount₁ c hc, hconn₁, ← hhead c]
        omega
      · rw [if_neg hid]
        obtain ⟨st₂, hrest, hkeeps₂, hprio₂, hcount₂⟩ := ih st fun c hc => by
          have := hcount c hc
          rw [List.countP_cons] at this
          omega
        refine ⟨st₂, hrest, hkeeps₂, hprio₂, fun c hc => ?_⟩
        rw [hcount₂ c hc, List.countP_cons]
        simp [hid]

/-! ### `set_priority_group` -/

/-- The nodes connected as `c` and in none of the groups `others` lists. -/
def connectedOutside (st : PeersState P) (others : List P) (c : ConnectionState) : Finset P :=
  st.nodes.keys.toFinset.filter fun q => st.connectionOf q = c ∧ q ∉ others

theorem mem_connectedOutside {st : PeersState P} {others : List P} {c : ConnectionState}
    (hc : c ≠ .notConnected) {q : P} :
    q ∈ st.connectedOutside others c ↔ st.connectionOf q = c ∧ q ∉ others := by
  rw [connectedOutside, Finset.mem_filter, List.mem_toFinset]
  refine ⟨And.right, fun h => ⟨mem_keys_of_connectionOf_ne ?_, h⟩⟩
  rw [h.1]
  exact hc

/-- With the priority nodes those of `others` and `ids`, the slot holders are the nodes
connected outside `others` and not in `ids`. -/
theorem slotHolders_eq_filter {st st' : PeersState P} {others ids : List P}
    (hconn : ∀ q, st'.connectionOf q = st.connectionOf q)
    (hprio : ∀ q, st'.isPriority q = true ↔ q ∈ others ∨ q ∈ ids) {c : ConnectionState}
    (hc : c ≠ .notConnected) :
    st'.slotHolders c = (st.connectedOutside others c).filter fun q => q ∉ ids := by
  ext q
  rw [mem_slotHolders hc, Finset.mem_filter, mem_connectedOutside hc, hconn]
  have hq := hprio q
  constructor
  · rintro ⟨hqc, hp⟩
    rw [hp] at hq
    exact ⟨⟨hqc, fun h => Bool.noConfusion (hq.mpr (.inl h))⟩,
      fun h => Bool.noConfusion (hq.mpr (.inr h))⟩
  · rintro ⟨⟨hqc, ho⟩, hi⟩
    refine ⟨hqc, ?_⟩
    cases hpq : st'.isPriority q with
    | false => rfl
    | true =>
        rcases hq.mp hpq with h | h
        · exact absurd h ho
        · exact absurd h hi

/-- A loop over a group without duplicates counts the connected nodes of the group outside
`others`. -/
theorem countP_eq_card_connectedOutside {st : PeersState P} {others ids : List P}
    (hids : ids.Nodup) {c : ConnectionState} (hc : c ≠ .notConnected) :
    ids.countP (fun id => decide (id ∉ others ∧ st.connectionOf id = c)) =
      ((st.connectedOutside others c).filter fun q => q ∈ ids).card := by
  rw [List.countP_eq_card_filter_toFinset hids]
  congr 1
  ext q
  simp only [Finset.mem_filter, List.mem_toFinset, mem_connectedOutside hc, decide_eq_true_eq]
  tauto

/-- `set_priority_group` does not panic and keeps the counters right: the first loop gives
back the slots of the nodes leaving the priority nodes, the second takes those of the nodes
joining them, and every counter ends as the number of its slot holders. Connections, known
nodes and the configuration stay. -/
theorem setPriorityGroup_ok {st : PeersState P} (h : st.SlotsCounted) (g : String)
    (peers : SortedSet P) :
    ∃ st', st.setPriorityGroup g peers = .ok st' ∧ st'.SlotsCounted ∧ KeepsNodes st st' ∧
      st'.priorityNodes = (st.priorityNodes.erase g).insert g peers := by
  let others := st.allOtherGroups g
  let old := ((st.priorityNodes.find? g).getD .empty).keys
  let st₁ := (st.setPriorityNodes (st.priorityNodes.erase g)).releaseSlots others old
  obtain ⟨hkeeps₁', hprio₁⟩ :=
    keepsNodes_releaseSlots (st.setPriorityNodes (st.priorityNodes.erase g)) others old
  have hkeeps₁ : KeepsNodes st st₁ := (keepsNodes_setPriorityNodes _ _).trans hkeeps₁'
  have hconn₁ : st₁.connectionOf = st.connectionOf := funext hkeeps₁.connectionOf_eq
  -- after the first loop each counter counts the nodes connected outside the other groups
  have hcount₁ : ∀ c, c ≠ .notConnected →
      st₁.slotCount c = (st.connectedOutside others c).card := by
    intro c hc
    rw [slotCount_releaseSlots _ _ _ hc, slotCount_setPriorityNodes,
      connectionOf_congr (nodes_setPriorityNodes _ _), h c hc,
      slotHolders_eq_filter (fun q => rfl) (isPriority_iff_allOtherGroups st g) hc,
      countP_eq_card_connectedOutside (SortedMap.keys_nodup _) hc]
    rw [Nat.add_comm]
    exact Finset.card_filter_add_card_filter_not _
  -- the second loop takes at most that many slots
  have hle : ∀ c, c ≠ .notConnected →
      peers.keys.countP (fun id => decide (id ∉ others ∧ st₁.connectionOf id = c)) ≤
        st₁.slotCount c := by
    intro c hc
    rw [hcount₁ c hc, hconn₁, countP_eq_card_connectedOutside (SortedMap.keys_nodup _) hc]
    exact Finset.card_filter_le _ _
  obtain ⟨st₂, htake, hkeeps₂, hprio₂, hcount₂⟩ := takeSlots_ok others peers.keys st₁ hle
  have hresult : st.setPriorityGroup g peers =
      .ok (st₂.setPriorityNodes (st₂.priorityNodes.insert g peers)) := by
    show (st₁.takeSlots others peers.keys >>= fun st =>
      pure (st.setPriorityNodes (st.priorityNodes.insert g peers))) = _
    rw [htake]
    rfl
  have hpn : (st₂.setPriorityNodes (st₂.priorityNodes.insert g peers)).priorityNodes =
      (st.priorityNodes.erase g).insert g peers := by
    rw [priorityNodes_setPriorityNodes, hprio₂, hprio₁]
    rfl
  have hkeeps : KeepsNodes st (st₂.setPriorityNodes (st₂.priorityNodes.insert g peers)) :=
    (hkeeps₁.trans hkeeps₂).trans (keepsNodes_setPriorityNodes _ _)
  refine ⟨_, hresult, fun c hc => ?_, hkeeps, hpn⟩
  rw [slotCount_setPriorityNodes, hcount₂ c hc, hcount₁ c hc, hconn₁,
    slotHolders_eq_filter hkeeps.connectionOf_eq (isPriority_iff_of_priorityNodes hpn) hc,
    countP_eq_card_connectedOutside (SortedMap.keys_nodup _) hc]
  have hsplit := Finset.card_filter_add_card_filter_not (s := st.connectedOutside others c)
    fun q => q ∈ peers.keys
  simp only [others] at hsplit ⊢
  omega

/-! ### Reputations -/

/-- The node `entry(..).or_default()` finds has the node's connection. -/
theorem connectionState_getD (st : PeersState P) (p : P) :
    ((st.nodes.find? p).getD Node.default).connectionState = st.connectionOf p := by
  cases hp : st.nodes.find? p with
  | none => rw [connectionOf_of_find?_none hp]; rfl
  | some node => rw [connectionOf_of_find? hp]; rfl

theorem reputation_getD (st : PeersState P) (p : P) :
    ((st.nodes.find? p).getD Node.default).reputation = st.reputation p := by
  cases hp : st.nodes.find? p <;> rw [reputation, hp] <;> rfl

/-- Storing a node with the connection it had keeps every connection. -/
theorem connectionOf_storeNode_same {st : PeersState P} {p : P} {node : Node}
    (hconn : node.connectionState = st.connectionOf p) (q : P) :
    (st.storeNode p node).connectionOf q = st.connectionOf q := by
  rw [connectionOf_storeNode]
  split_ifs with hq
  · rw [hq, hconn]
  · rfl

theorem reputation_storeNode (st : PeersState P) (p : P) (node : Node) (q : P) :
    (st.storeNode p node).reputation q = if q = p then node.reputation else st.reputation q := by
  rw [reputation, nodes_storeNode, SortedMap.find?_insert]
  split_ifs <;> rfl

theorem reputation_setReputation (st : PeersState P) (p : P) (value : Int) (q : P) :
    (st.setReputation p value).reputation q = if q = p then value else st.reputation q :=
  reputation_storeNode st p _ q

theorem reputation_addReputation (st : PeersState P) (p : P) (modifier : Int) (q : P) :
    (st.addReputation p modifier).reputation q =
      if q = p then saturatingAdd (st.reputation p) modifier else st.reputation q := by
  rw [addReputation, reputation_storeNode, reputation_getD]

/-! ### The searches for a node to connect to -/

theorem isNotConnected_iff (st : PeersState P) (q : P) :
    st.isNotConnected q = true ↔
      (st.nodes.find? q).isSome ∧ st.connectionOf q = .notConnected := by
  unfold isNotConnected
  cases hq : st.nodes.find? q with
  | none => simp
  | some node =>
      rw [connectionOf_of_find? hq]
      cases hc : node.connectionState <;> simp [hc, ConnectionState.isConnected]

/-- A node in a priority group is one of the nodes the search over all groups looks at. -/
theorem mem_flatMap_keys_iff (st : PeersState P) (q : P) :
    q ∈ st.priorityNodes.values.flatMap SortedMap.keys ↔ st.isPriority q = true := by
  rw [isPriority_iff, List.mem_flatMap, SortedMap.values]
  constructor
  · rintro ⟨group, hgroup, hq⟩
    obtain ⟨⟨g, group'⟩, hmem, rfl⟩ := List.mem_map.mp hgroup
    exact ⟨g, group', (SortedMap.mem_toList_iff _ _ _).mp hmem, hq⟩
  · rintro ⟨g, group, hg, hq⟩
    exact ⟨group, List.mem_map.mpr ⟨(g, group), (SortedMap.mem_toList_iff _ _ _).mpr hg, rfl⟩,
      hq⟩

/-- `priority_not_connected_peer` finds a known priority node we are not connected to. -/
theorem priorityNotConnectedPeer_some {st : PeersState P} {p : P}
    (h : st.priorityNotConnectedPeer = some p) :
    st.isPriority p = true ∧ st.isNotConnected p = true :=
  ⟨(mem_flatMap_keys_iff st p).mp (List.mem_of_find?_eq_some h), List.find?_some h⟩

/-- When `priority_not_connected_peer` finds none, every known priority node is connected. -/
theorem priorityNotConnectedPeer_none {st : PeersState P}
    (h : st.priorityNotConnectedPeer = none) (q : P) (hq : st.isPriority q = true) :
    st.isNotConnected q = false := by
  have := List.find?_eq_none.mp h q ((mem_flatMap_keys_iff st q).mpr hq)
  simpa using this

/-- `priority_not_connected_peer_from_group` finds a known node of the group we are not
connected to. -/
theorem priorityNotConnectedPeerFromGroup_some {st : PeersState P} {g : String} {p : P}
    (h : st.priorityNotConnectedPeerFromGroup g = some p) :
    ∃ group, st.priorityNodes.find? g = some group ∧ p ∈ group.keys ∧
      st.isNotConnected p = true := by
  unfold priorityNotConnectedPeerFromGroup at h
  cases hg : st.priorityNodes.find? g with
  | none =>
      rw [hg] at h
      cases h
  | some group =>
      rw [hg] at h
      exact ⟨group, rfl, List.mem_of_find?_eq_some h, List.find?_some h⟩

/-- When `priority_not_connected_peer_from_group` finds none, every known node of the group is
connected. -/
theorem priorityNotConnectedPeerFromGroup_none {st : PeersState P} {g : String}
    (h : st.priorityNotConnectedPeerFromGroup g = none) {group : SortedSet P}
    (hg : st.priorityNodes.find? g = some group) (q : P) (hq : q ∈ group.keys) :
    st.isNotConnected q = false := by
  unfold priorityNotConnectedPeerFromGroup at h
  rw [hg] at h
  simpa using List.find?_eq_none.mp h q hq

omit [LinearOrder P] in
/-- One step of the fold keeps the higher reputation of the two it compares. -/
theorem highestStep_spec (acc : Option (P × Node)) (e : P × Node) :
    ∃ b, highestStep acc e = some b ∧ (acc = some b ∨ b = e) ∧
      (∀ a, acc = some a → a.2.reputation ≤ b.2.reputation) ∧
        e.2.reputation ≤ b.2.reputation := by
  cases acc with
  | none => exact ⟨e, rfl, .inr rfl, (fun a ha => by cases ha), le_refl _⟩
  | some cur =>
      by_cases hge : cur.2.reputation ≥ e.2.reputation
      · refine ⟨cur, by simp [highestStep, hge], .inl rfl, fun a ha => ?_, hge⟩
        cases ha
        exact le_refl _
      · refine ⟨e, by simp [highestStep, hge], .inr rfl, fun a ha => ?_, le_refl _⟩
        cases ha
        omega

omit [LinearOrder P] in
/-- The fold of `highest_not_connected_peer` ends at a node of the list, or at the node it
started from, with a reputation at least that of the start and of every node of the list. -/
theorem foldl_highestStep (l : List (P × Node)) :
    ∀ (acc : Option (P × Node)) (x : P × Node), l.foldl highestStep acc = some x →
      (acc = some x ∨ x ∈ l) ∧ (∀ a, acc = some a → a.2.reputation ≤ x.2.reputation) ∧
        ∀ e ∈ l, e.2.reputation ≤ x.2.reputation := by
  induction l with
  | nil =>
      intro acc x h
      rw [List.foldl_nil] at h
      refine ⟨.inl h, fun a ha => ?_, fun e he => absurd he List.not_mem_nil⟩
      rw [h] at ha
      cases ha
      exact le_refl _
  | cons e es ih =>
      intro acc x h
      obtain ⟨b, hb, hfrom_b, hacc_b, he_b⟩ := highestStep_spec acc e
      rw [List.foldl_cons, hb] at h
      obtain ⟨hfrom, hacc, hall⟩ := ih (some b) x h
      have hbx : b.2.reputation ≤ x.2.reputation := hacc b rfl
      refine ⟨?_, fun a ha => le_trans (hacc_b a ha) hbx, fun e' he' => ?_⟩
      · rcases hfrom with hx | hx
        · cases hx
          rcases hfrom_b with hb' | hb'
          · exact .inl hb'
          · exact .inr (hb' ▸ List.mem_cons_self)
        · exact .inr (List.mem_cons_of_mem _ hx)
      · rcases List.mem_cons.mp he' with rfl | he'
        · exact le_trans he_b hbx
        · exact hall e' he'

omit [LinearOrder P] in
/-- The fold started from a node always ends at a node. -/
theorem foldl_highestStep_isSome (l : List (P × Node)) :
    ∀ b : P × Node, (l.foldl highestStep (some b)).isSome := by
  induction l with
  | nil => intro b; rfl
  | cons e es ih =>
      intro b
      obtain ⟨b', hb', -⟩ := highestStep_spec (some b) e
      rw [List.foldl_cons, hb']
      exact ih b'

theorem isNotConnected_iff_find? (st : PeersState P) (q : P) :
    st.isNotConnected q = true ↔
      ∃ node, st.nodes.find? q = some node ∧ node.connectionState.isConnected = false := by
  unfold isNotConnected
  cases st.nodes.find? q <;> simp

/-- The candidates of `highest_not_connected_peer` are the known nodes we are not connected
to. -/
theorem mem_notConnectedEntries_iff (st : PeersState P) (q : P) (node : Node) :
    (q, node) ∈ st.nodes.toList.filter (fun e => !e.2.connectionState.isConnected) ↔
      st.nodes.find? q = some node ∧ node.connectionState.isConnected = false := by
  rw [List.mem_filter, SortedMap.mem_toList_iff, Bool.not_eq_true']

/-- `highest_not_connected_peer` finds a known node we are not connected to whose reputation
is the highest of all such nodes. -/
theorem highestNotConnectedPeer_some {st : PeersState P} {p : P}
    (h : st.highestNotConnectedPeer = some p) :
    st.isNotConnected p = true ∧
      ∀ q, st.isNotConnected q = true → st.reputation q ≤ st.reputation p := by
  obtain ⟨⟨p', node⟩, hx, rfl⟩ := Option.map_eq_some_iff.mp h
  obtain ⟨hfrom, -, hall⟩ := foldl_highestStep _ none _ hx
  have hmem : (p', node) ∈ _ := hfrom.resolve_left (by simp)
  obtain ⟨hfind, hnc⟩ := (mem_notConnectedEntries_iff st p' node).mp hmem
  refine ⟨(isNotConnected_iff_find? st p').mpr ⟨node, hfind, hnc⟩, fun q hq => ?_⟩
  obtain ⟨node', hfind', hnc'⟩ := (isNotConnected_iff_find? st q).mp hq
  have hle := hall (q, node') ((mem_notConnectedEntries_iff st q node').mpr ⟨hfind', hnc'⟩)
  simpa [reputation, hfind, hfind'] using hle

/-- `highest_not_connected_peer` finds none only when we are connected to every known node. -/
theorem highestNotConnectedPeer_none {st : PeersState P} (h : st.highestNotConnectedPeer = none)
    (q : P) : st.isNotConnected q = false := by
  cases hl : st.nodes.toList.filter (fun e => !e.2.connectionState.isConnected) with
  | nil =>
      rw [Bool.eq_false_iff]
      intro hq
      obtain ⟨node, hfind, hnc⟩ := (isNotConnected_iff_find? st q).mp hq
      have hmem := (mem_notConnectedEntries_iff st q node).mpr ⟨hfind, hnc⟩
      rw [hl] at hmem
      exact List.not_mem_nil hmem
  | cons e es =>
      -- a nonempty list of candidates always yields one
      have hsome := foldl_highestStep_isSome es e
      unfold highestNotConnectedPeer at h
      rw [hl, List.foldl_cons] at h
      simp only [highestStep, Option.map_eq_none_iff] at h
      rw [h] at hsome
      cases hsome

end PeersState

end ScPeerset
