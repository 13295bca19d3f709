import Mathlib
import Stargate.Network.PeersState

/-!
# Stargate.Network.Peerset

The peer set manager (src/network-libp2p/peerset/src/lib.rs): the strategy that chooses which
nodes the network connects to. It keeps a `PeersState`, answers the network's calls (`incoming`,
`dropped`, `discovered`), handles the `Action`s its handles send, and queues the `Message`s the
network reads with `poll_next`.

Time enters through `update_time`, which reads `Instant::now()`. An `Instant` is the number of
nanoseconds since `created`, and each call to `update_time` takes how far the clock moved since
`latest_time_update` (`elapsed`): the clock is monotonic, so a reading is never earlier than the
one before. An operation that calls `update_time` twice takes two such inputs.

The channel of actions is the list `rx` that `poll_next` takes and gives back; a
`PeersetHandle` and `Peerset::report_peer` append to it. No handler sends on it, so the loop of
`poll_next`, which handles one received action per turn until a message is queued, is a
recursion on that list. `Poll::Ready(Some(m))` is `some m` and `Poll::Pending` is `none`; the
stream never ends.

The loops of `alloc_slots` connect one node per turn. They run on fuel, the number of known
nodes, and the lemmas below show that this fuel is never what stops them: each loop ends at its
own `break`.

A panic (`unreachable!`, `expect`, a decrement below `0`, a `debug_assert!`) is an `Except`
error carrying its message; the lemmas show that none is reached from a state that keeps the
counters right.
-/

namespace ScPeerset

open PeersState

/-- `BANNED_THRESHOLD`: `82 * (i32::min_value() / 100)`. -/
def bannedThreshold : Int := 82 * i32Min.tdiv 100

/-- `DISCONNECT_REPUTATION_CHANGE`. -/
def disconnectReputationChange : Int := -10

/-- `RESERVED_NODES`: the id of the group of reserved nodes. -/
def reservedNodes : String := "reserved"

/-- `i32::saturating_sub`. -/
def saturatingSub (a b : Int) : Int := max i32Min (min i32Max (a - b))

/-- `IncomingIndex`: the network's identifier for an incoming connection. The `u64` is a `Nat`
here: indices are only compared. -/
structure IncomingIndex where
  val : Nat
  deriving DecidableEq, Repr

/-- `ReputationChange`. -/
structure ReputationChange where
  value : Int
  reason : String
  deriving DecidableEq, Repr

/-- `ReputationChange::new_fatal`. -/
def ReputationChange.newFatal (reason : String) : ReputationChange := ⟨i32Min, reason⟩

/-- `Action`: what a `PeersetHandle` sends. -/
inductive Action (P : Type) [LinearOrder P] where
  | addReservedPeer (peerId : P)
  | removeReservedPeer (peerId : P)
  | setReservedOnly (reserved : Bool)
  | reportPeer (peerId : P) (change : ReputationChange)
  | setPriorityGroup (groupId : String) (peers : SortedSet P)
  | addToPriorityGroup (groupId : String) (peerId : P)
  | removeFromPriorityGroup (groupId : String) (peerId : P)

/-- `Message`: what the peer set manager asks of the network. -/
inductive Message (P : Type) where
  | connect (peerId : P)
  | drop (peerId : P)
  | accept (index : IncomingIndex)
  | reject (index : IncomingIndex)
  deriving DecidableEq, Repr

/-- `PeersetConfig`. -/
structure PeersetConfig (P : Type) where
  inPeers : Nat
  outPeers : Nat
  bootnodes : List P
  reservedOnly : Bool
  reservedNodes : List P

/-- `Peerset`, without its channel (see the module header). `latestTimeUpdate` is
`latest_time_update - created` in nanoseconds. -/
structure Peerset (P : Type) [LinearOrder P] where
  data : PeersState P
  reservedOnly : Bool
  messageQueue : List (Message P)
  latestTimeUpdate : Nat

namespace Peerset

variable {P : Type} [LinearOrder P]

/-! ### `update_time` -/

/-- Nanoseconds in a second: `Duration::as_secs` rounds down to this. -/
def nanosPerSec : Nat := 1000000000

/-- `reput_tick`: one second of decay of a reputation towards `0`. -/
def reputTick (reput : Int) : Int :=
  let diff := reput.tdiv 50
  let diff := if diff = 0 ∧ reput < 0 then -1 else if diff = 0 ∧ reput > 0 then 1 else diff
  saturatingSub reput diff

/-- The body of the inner loop of `update_time`, on one node of the list of known nodes. -/
def tickPeer (data : PeersState P) (peerId : P) : Except String (PeersState P) :=
  match data.peer peerId with
  | .connected | .notConnected =>
      .ok (data.setReputation peerId (reputTick (data.reputation peerId)))
  | .unknown => .error "internal error: entered unreachable code: We iterate over known peers; qed"

/-- One elapsed second of `update_time`: every known node, collected first. -/
def tickAll (data : PeersState P) : Except String (PeersState P) :=
  data.peers.foldlM tickPeer data

/-- `Peerset::update_time`: as many ticks as whole seconds were crossed since the last update. -/
def updateTime (ps : Peerset P) (elapsed : Nat) : Except String (Peerset P) := do
  let now := ps.latestTimeUpdate + elapsed
  let secsDiff := now / nanosPerSec - ps.latestTimeUpdate / nanosPerSec
  let data ← (List.range secsDiff).foldlM (fun data _ => tickAll data) ps.data
  pure { ps with data, latestTimeUpdate := now }

/-! ### `alloc_slots` -/

/-- Queue a message: `message_queue.push_back`. -/
def push (ps : Peerset P) (m : Message P) : Peerset P :=
  { ps with messageQueue := ps.messageQueue ++ [m] }

/-- Replace the `PeersState`. -/
def setData (ps : Peerset P) (data : PeersState P) : Peerset P :=
  { ps with data }

/-- The node the first loop of `alloc_slots` tries next: a reserved node in reserved-only mode,
a node of any priority group otherwise. -/
def nextPriorityPeer (ps : Peerset P) : Option P :=
  if ps.reservedOnly then ps.data.priorityNotConnectedPeerFromGroup reservedNodes
  else ps.data.priorityNotConnectedPeer

/-- The first loop of `alloc_slots`: connect to the priority nodes. -/
def allocPriority : Nat → Peerset P → Peerset P
  | 0, ps => ps
  | fuel + 1, ps =>
      match ps.nextPriorityPeer with
      | none => ps
      | some next =>
          match ps.data.tryOutgoing next with
          | (true, data) => allocPriority fuel ((ps.setData data).push (.connect next))
          -- `Err(_) => break`: no slot is left
          | (false, _) => ps

/-- The second loop of `alloc_slots`: connect to the known node of highest reputation while it
is not banned and a slot is free. -/
def allocHighest : Nat → Peerset P → Peerset P
  | 0, ps => ps
  | fuel + 1, ps =>
      if ps.reservedOnly then ps
      else
        match ps.data.highestNotConnectedPeer with
        | none => ps
        | some next =>
            if ps.data.reputation next < bannedThreshold then ps
            else
              match ps.data.tryOutgoing next with
              | (true, data) => allocHighest fuel ((ps.setData data).push (.connect next))
              | (false, _) => ps

/-- `Peerset::alloc_slots`. -/
def allocSlots (ps : Peerset P) (elapsed : Nat) : Except String (Peerset P) := do
  let ps ← ps.updateTime elapsed
  let ps := allocPriority ps.data.nodes.size ps
  pure (allocHighest ps.data.nodes.size ps)

/-! ### Construction and the handlers of actions -/

/-- The set a `Vec<PeerId>` is collected into. -/
def toSortedSet (peers : List P) : SortedSet P :=
  SortedMap.ofList (peers.map fun p => (p, ()))

/-- The loop over the boot nodes of `from_config`: an unknown node is discovered; a duplicate is
only logged. -/
def discoverBootnode (data : PeersState P) (peerId : P) : PeersState P :=
  match data.peer peerId with
  | .unknown => data.discover peerId
  | _ => data

/-- `Peerset::from_config`, without the channel and the handle. -/
def fromConfig (config : PeersetConfig P) (elapsed : Nat) : Except String (Peerset P) := do
  let ps : Peerset P :=
    ⟨PeersState.new config.inPeers config.outPeers config.reservedOnly, config.reservedOnly,
      [], 0⟩
  let data ← ps.data.setPriorityGroup reservedNodes (toSortedSet config.reservedNodes)
  let data := config.bootnodes.foldl discoverBootnode data
  (ps.setData data).allocSlots elapsed

/-- The reserved nodes: `get_priority_group(RESERVED_NODES).unwrap_or_default()`. -/
def reserved (ps : Peerset P) : SortedSet P :=
  (ps.data.getPriorityGroup reservedNodes).getD .empty

/-- `Peerset::on_add_reserved_peer`. -/
def onAddReservedPeer (ps : Peerset P) (peerId : P) (elapsed : Nat) :
    Except String (Peerset P) := do
  let data ← ps.data.setPriorityGroup reservedNodes (ps.reserved.insert peerId ())
  (ps.setData data).allocSlots elapsed

/-- `Peerset::on_remove_reserved_peer`. -/
def onRemoveReservedPeer (ps : Peerset P) (peerId : P) : Except String (Peerset P) := do
  let data ← ps.data.setPriorityGroup reservedNodes (ps.reserved.erase peerId)
  match data.peer peerId with
  | .connected =>
      if ps.reservedOnly then do
        let data ← data.disconnect peerId
        pure ((ps.setData data).push (.drop peerId))
      else pure (ps.setData data)
  | .notConnected | .unknown => pure (ps.setData data)

/-- The body of the loop of `on_set_reserved_only` over the connected nodes, collected first. -/
def dropUnreserved (reserved : SortedSet P) (ps : Peerset P) (peerId : P) :
    Except String (Peerset P) :=
  match ps.data.peer peerId with
  | .connected =>
      if reserved.contains peerId then pure ps
      else do
        let data ← ps.data.disconnect peerId
        pure ((ps.setData data).push (.drop peerId))
  | .notConnected | .unknown =>
      .error "We are enumerating connected peers, therefore the peer is connected; qed"

/-- `Peerset::on_set_reserved_only`. -/
def onSetReservedOnly (ps : Peerset P) (reservedOnly : Bool) (elapsed : Nat) :
    Except String (Peerset P) :=
  let ps := { ps with reservedOnly, data := ps.data.setPriorityOnly reservedOnly }
  if reservedOnly then
    -- disconnect the nodes that are not reserved
    ps.data.connectedPeers.foldlM (dropUnreserved ps.reserved) ps
  else ps.allocSlots elapsed

/-- `Peerset::on_set_priority_group`. -/
def onSetPriorityGroup (ps : Peerset P) (groupId : String) (peers : SortedSet P)
    (elapsed : Nat) : Except String (Peerset P) := do
  let data ← ps.data.setPriorityGroup groupId peers
  (ps.setData data).allocSlots elapsed

/-- `Peerset::on_add_to_priority_group`. -/
def onAddToPriorityGroup (ps : Peerset P) (groupId : String) (peerId : P) (elapsed : Nat) :
    Except String (Peerset P) := do
  let data ← ps.data.addToPriorityGroup groupId peerId
  (ps.setData data).allocSlots elapsed

/-- `Peerset::on_remove_from_priority_group`. -/
def onRemoveFromPriorityGroup (ps : Peerset P) (groupId : String) (peerId : P)
    (elapsed : Nat) : Except String (Peerset P) := do
  let data ← ps.data.removeFromPriorityGroup groupId peerId
  (ps.setData data).allocSlots elapsed

/-- `Peerset::on_report_peer`. -/
def onReportPeer (ps : Peerset P) (peerId : P) (change : ReputationChange) (elapsed : Nat) :
    Except String (Peerset P) := do
  -- reputations are brought up to date before the change
  let ps ← ps.updateTime elapsed
  match ps.data.peer peerId with
  | .connected =>
      let data := ps.data.addReputation peerId change.value
      if data.reputation peerId < bannedThreshold then do
        let data ← data.disconnect peerId
        pure ((ps.setData data).push (.drop peerId))
      else pure (ps.setData data)
  | .notConnected => pure (ps.setData (ps.data.addReputation peerId change.value))
  | .unknown => pure (ps.setData ((ps.data.discover peerId).addReputation peerId change.value))

/-- The dispatch of `poll_next` on a received action. -/
def onAction (ps : Peerset P) (elapsed : Nat) : Action P → Except String (Peerset P)
  | .addReservedPeer peerId => ps.onAddReservedPeer peerId elapsed
  | .removeReservedPeer peerId => ps.onRemoveReservedPeer peerId
  | .setReservedOnly reserved => ps.onSetReservedOnly reserved elapsed
  | .reportPeer peerId change => ps.onReportPeer peerId change elapsed
  | .setPriorityGroup groupId peers => ps.onSetPriorityGroup groupId peers elapsed
  | .addToPriorityGroup groupId peerId => ps.onAddToPriorityGroup groupId peerId elapsed
  | .removeFromPriorityGroup groupId peerId => ps.onRemoveFromPriorityGroup groupId peerId elapsed

/-! ### The network's calls -/

/-- The end of `Peerset::incoming`, for a node that is not connected: a banned node is
rejected, and otherwise accepted when `try_accept_incoming` finds it a slot. -/
def answerIncoming (ps : Peerset P) (data : PeersState P) (peerId : P) (index : IncomingIndex) :
    Peerset P :=
  if data.reputation peerId < bannedThreshold then (ps.setData data).push (.reject index)
  else
    match data.tryAcceptIncoming peerId with
    | (true, data') => (ps.setData data').push (.accept index)
    | (false, _) => (ps.setData data).push (.reject index)

/-- `Peerset::incoming`. -/
def incoming (ps : Peerset P) (peerId : P) (index : IncomingIndex) (elapsed : Nat) :
    Except String (Peerset P) := do
  let ps ← ps.updateTime elapsed
  match ps.data.peer peerId with
  -- already connected: no answer
  | .connected => pure ps
  | .notConnected => pure (ps.answerIncoming ps.data peerId index)
  | .unknown => pure (ps.answerIncoming (ps.data.discover peerId) peerId index)

/-- `Peerset::dropped`. -/
def dropped (ps : Peerset P) (peerId : P) (elapsed₁ elapsed₂ : Nat) :
    Except String (Peerset P) := do
  let ps ← ps.updateTime elapsed₁
  let ps ← match ps.data.peer peerId with
    | .connected => do
        let data := ps.data.addReputation peerId disconnectReputationChange
        let data ← data.disconnect peerId
        pure (ps.setData data)
    -- `error!`: the node was not connected
    | .notConnected | .unknown => pure ps
  ps.allocSlots elapsed₂

/-- The loop of `Peerset::discovered`: the data, and whether some node was new. -/
def discoverAll (data : PeersState P) (peerIds : List P) : PeersState P × Bool :=
  peerIds.foldl (fun (acc : PeersState P × Bool) peerId =>
    match acc.1.peer peerId with
    | .unknown => (acc.1.discover peerId, true)
    | _ => acc) (data, false)

/-- `Peerset::discovered`. -/
def discovered (ps : Peerset P) (peerIds : List P) (elapsed : Nat) :
    Except String (Peerset P) :=
  let (data, discoveredAny) := discoverAll ps.data peerIds
  if discoveredAny then (ps.setData data).allocSlots elapsed else pure (ps.setData data)

/-- `Peerset::report_peer`: the change is sent on the channel, to be handled after the actions
already in it. -/
def reportPeer (rx : List (Action P)) (peerId : P) (change : ReputationChange) :
    List (Action P) :=
  rx ++ [.reportPeer peerId change]

/-- `<Peerset as Stream>::poll_next`: a queued message, or else the actions received are handled
one by one until one of them queues a message; the `i`-th action handled reads the clock
`elapsed i` nanoseconds after the reading before. -/
def pollNext : List (Action P) → Peerset P → (Nat → Nat) →
    Except String (Option (Message P) × Peerset P × List (Action P))
  | rx, ps, elapsed =>
      match ps.messageQueue, rx with
      | m :: rest, rx => pure (some m, { ps with messageQueue := rest }, rx)
      | [], [] => pure (none, ps, [])
      | [], action :: rx => do
          let ps ← ps.onAction (elapsed 0) action
          pollNext rx ps fun i => elapsed (i + 1)

/-! ### Field lemmas -/

@[simp] theorem data_push (ps : Peerset P) (m : Message P) : (ps.push m).data = ps.data := rfl

@[simp] theorem reservedOnly_push (ps : Peerset P) (m : Message P) :
    (ps.push m).reservedOnly = ps.reservedOnly := rfl

@[simp] theorem messageQueue_push (ps : Peerset P) (m : Message P) :
    (ps.push m).messageQueue = ps.messageQueue ++ [m] := rfl

@[simp] theorem latestTimeUpdate_push (ps : Peerset P) (m : Message P) :
    (ps.push m).latestTimeUpdate = ps.latestTimeUpdate := rfl

@[simp] theorem latestTimeUpdate_setData (ps : Peerset P) (data : PeersState P) :
    (ps.setData data).latestTimeUpdate = ps.latestTimeUpdate := rfl

@[simp] theorem setData_setData (ps : Peerset P) (data data' : PeersState P) :
    (ps.setData data).setData data' = ps.setData data' := rfl

@[simp] theorem data_setData (ps : Peerset P) (data : PeersState P) :
    (ps.setData data).data = data := rfl

@[simp] theorem reservedOnly_setData (ps : Peerset P) (data : PeersState P) :
    (ps.setData data).reservedOnly = ps.reservedOnly := rfl

@[simp] theorem messageQueue_setData (ps : Peerset P) (data : PeersState P) :
    (ps.setData data).messageQueue = ps.messageQueue := rfl

end Peerset

/-! ### What a change of reputations keeps -/

namespace PeersState

variable {P : Type} [LinearOrder P]

/-- `data'` has the connections, the groups and the counters of `data`, and knows every node
`data` knows: what changing reputations and discovering nodes keep. -/
structure SameConnections (data data' : PeersState P) : Prop where
  connectionOf_eq : ∀ q, data'.connectionOf q = data.connectionOf q
  priorityNodes_eq : data'.priorityNodes = data.priorityNodes
  priorityOnly_eq : data'.priorityOnly = data.priorityOnly
  slotCount_eq : ∀ c, data'.slotCount c = data.slotCount c
  slotLimit_eq : ∀ c, data'.slotLimit c = data.slotLimit c
  known : ∀ q, (data.nodes.find? q).isSome → (data'.nodes.find? q).isSome

theorem SameConnections.refl (data : PeersState P) : SameConnections data data :=
  ⟨fun _ => rfl, rfl, rfl, fun _ => rfl, fun _ => rfl, fun _ h => h⟩

theorem SameConnections.trans {d₁ d₂ d₃ : PeersState P} (h₁ : SameConnections d₁ d₂)
    (h₂ : SameConnections d₂ d₃) : SameConnections d₁ d₃ :=
  ⟨fun q => (h₂.connectionOf_eq q).trans (h₁.connectionOf_eq q),
    h₂.priorityNodes_eq.trans h₁.priorityNodes_eq, h₂.priorityOnly_eq.trans h₁.priorityOnly_eq,
    fun c => (h₂.slotCount_eq c).trans (h₁.slotCount_eq c),
    fun c => (h₂.slotLimit_eq c).trans (h₁.slotLimit_eq c), fun q h => h₂.known q (h₁.known q h)⟩

theorem SameConnections.isPriority_eq {data data' : PeersState P}
    (h : SameConnections data data') : data'.isPriority = data.isPriority := by
  funext q
  rw [isPriority, isPriority, h.priorityNodes_eq]

theorem SameConnections.slotsCounted {data data' : PeersState P} (h : SameConnections data data')
    (hc : data.SlotsCounted) : data'.SlotsCounted :=
  slotsCounted_congr hc h.connectionOf_eq (fun q => by rw [h.isPriority_eq]) h.slotCount_eq

/-- A known node is stored with its connection and its reputation. -/
theorem find?_of_isSome {data : PeersState P} {q : P} (h : (data.nodes.find? q).isSome) :
    data.nodes.find? q = some ⟨data.connectionOf q, data.reputation q⟩ := by
  obtain ⟨node, hnode⟩ := Option.isSome_iff_exists.mp h
  rw [connectionOf_of_find? hnode, reputation, hnode]
  rfl

/-- Two states that keep the connections of a third, know the same nodes and give them the same
reputations are equal. -/
theorem SameConnections.eq_of_reputation {data d₁ d₂ : PeersState P}
    (h₁ : SameConnections data d₁) (h₂ : SameConnections data d₂)
    (hknown : ∀ q, (d₁.nodes.find? q).isSome = (d₂.nodes.find? q).isSome)
    (hrep : ∀ q, d₁.reputation q = d₂.reputation q) : d₁ = d₂ := by
  have hnodes : d₁.nodes = d₂.nodes := SortedMap.ext fun q => by
    cases hq : (d₂.nodes.find? q).isSome with
    | true =>
        rw [find?_of_isSome (by rw [hknown, hq]), find?_of_isSome hq, h₁.connectionOf_eq,
          h₂.connectionOf_eq, hrep]
    | false =>
        have hq₁ : d₁.nodes.find? q = none :=
          Option.not_isSome_iff_eq_none.mp (by rw [hknown, hq]; decide)
        have hq₂ : d₂.nodes.find? q = none := Option.not_isSome_iff_eq_none.mp (by rw [hq]; decide)
        rw [hq₁, hq₂]
  have hin := (h₁.slotCount_eq .in).trans (h₂.slotCount_eq .in).symm
  have hout := (h₁.slotCount_eq .out).trans (h₂.slotCount_eq .out).symm
  have hmaxIn := (h₁.slotLimit_eq .in).trans (h₂.slotLimit_eq .in).symm
  have hmaxOut := (h₁.slotLimit_eq .out).trans (h₂.slotLimit_eq .out).symm
  have hprio := h₁.priorityNodes_eq.trans h₂.priorityNodes_eq.symm
  have honly := h₁.priorityOnly_eq.trans h₂.priorityOnly_eq.symm
  cases d₁
  cases d₂
  simp only [PeersState.mk.injEq]
  exact ⟨hnodes, hin, hout, hmaxIn, hmaxOut, hprio, honly⟩

/-- Storing a node with the connection it had. -/
theorem sameConnections_storeNode (data : PeersState P) {p : P} {node : Node}
    (hconn : node.connectionState = data.connectionOf p) :
    SameConnections data (data.storeNode p node) :=
  ⟨connectionOf_storeNode_same hconn, rfl, rfl, fun _ => by simp, fun _ => by simp,
    fun q h => by rw [nodes_storeNode, SortedMap.find?_insert]; split_ifs <;> simp [h]⟩

theorem sameConnections_setReputation (data : PeersState P) (p : P) (value : Int) :
    SameConnections data (data.setReputation p value) :=
  sameConnections_storeNode data (connectionState_getD data p)

theorem sameConnections_addReputation (data : PeersState P) (p : P) (modifier : Int) :
    SameConnections data (data.addReputation p modifier) :=
  sameConnections_storeNode data (connectionState_getD data p)

/-- Discovering an unknown node: it is known and not connected. -/
theorem sameConnections_discover {data : PeersState P} {p : P} (hp : data.nodes.find? p = none) :
    SameConnections data (data.discover p) :=
  sameConnections_storeNode data (connectionOf_of_find?_none hp).symm

theorem peer_eq_unknown_iff (data : PeersState P) (p : P) :
    data.peer p = .unknown ↔ data.nodes.find? p = none := by
  cases hp : data.nodes.find? p with
  | none => simp [peer, hp]
  | some node =>
      simp only [peer, hp, reduceCtorEq, iff_false]
      split_ifs <;> simp

theorem peer_eq_connected_iff (data : PeersState P) (p : P) :
    data.peer p = .connected ↔ data.connectionOf p ≠ .notConnected := by
  unfold peer
  cases hp : data.nodes.find? p with
  | none => simp [connectionOf_of_find?_none hp]
  | some node =>
      rw [connectionOf_of_find? hp]
      cases hc : node.connectionState <;> simp [hc, ConnectionState.isConnected]

theorem peer_eq_notConnected_iff (data : PeersState P) (p : P) :
    data.peer p = .notConnected ↔
      (data.nodes.find? p).isSome ∧ data.connectionOf p = .notConnected := by
  unfold peer
  cases hp : data.nodes.find? p with
  | none => simp
  | some node =>
      rw [connectionOf_of_find? hp]
      cases hc : node.connectionState <;> simp [hc, ConnectionState.isConnected]

/-- `data'` is `data` with the nodes of `qs`, none of them connected before, connected
outgoing: what the loops of `alloc_slots` do. The groups, the limits and the known nodes are
kept. -/
structure ConnectsOut (data data' : PeersState P) (qs : List P) : Prop where
  nodup : qs.Nodup
  notConnected : ∀ q ∈ qs, data.connectionOf q = .notConnected
  connectionOf_eq : ∀ q, data'.connectionOf q = if q ∈ qs then .out else data.connectionOf q
  priorityNodes_eq : data'.priorityNodes = data.priorityNodes
  priorityOnly_eq : data'.priorityOnly = data.priorityOnly
  slotLimit_eq : ∀ c, data'.slotLimit c = data.slotLimit c
  known_eq : ∀ q, (data'.nodes.find? q).isSome = (data.nodes.find? q).isSome

theorem ConnectsOut.refl (data : PeersState P) : ConnectsOut data data [] :=
  ⟨.nil, fun _ h => absurd h List.not_mem_nil, fun q => by simp, rfl, rfl, fun _ => rfl,
    fun _ => rfl⟩

theorem ConnectsOut.trans {d₁ d₂ d₃ : PeersState P} {qs₁ qs₂ : List P}
    (h₁ : ConnectsOut d₁ d₂ qs₁) (h₂ : ConnectsOut d₂ d₃ qs₂) : ConnectsOut d₁ d₃ (qs₁ ++ qs₂) := by
  -- a node connected by the second step was not connected after the first
  have hfresh : ∀ q ∈ qs₂, q ∉ qs₁ ∧ d₁.connectionOf q = .notConnected := by
    intro q hq
    have hnc := h₂.notConnected q hq
    rw [h₁.connectionOf_eq] at hnc
    by_cases hq₁ : q ∈ qs₁
    · rw [if_pos hq₁] at hnc
      cases hnc
    · rw [if_neg hq₁] at hnc
      exact ⟨hq₁, hnc⟩
  refine ⟨List.nodup_append.mpr ⟨h₁.nodup, h₂.nodup, fun a ha b hb hab => ?_⟩, fun q hq => ?_,
    fun q => ?_, h₂.priorityNodes_eq.trans h₁.priorityNodes_eq,
    h₂.priorityOnly_eq.trans h₁.priorityOnly_eq,
    fun c => (h₂.slotLimit_eq c).trans (h₁.slotLimit_eq c),
    fun q => (h₂.known_eq q).trans (h₁.known_eq q)⟩
  · subst hab
    exact (hfresh a hb).1 ha
  · rcases List.mem_append.mp hq with hq | hq
    · exact h₁.notConnected q hq
    · exact (hfresh q hq).2
  · rw [h₂.connectionOf_eq, h₁.connectionOf_eq]
    simp only [List.mem_append]
    by_cases hq₂ : q ∈ qs₂ <;> by_cases hq₁ : q ∈ qs₁ <;> simp [hq₁, hq₂]

theorem ConnectsOut.isPriority_eq {data data' : PeersState P} {qs : List P}
    (h : ConnectsOut data data' qs) : data'.isPriority = data.isPriority := by
  funext q
  rw [isPriority, isPriority, h.priorityNodes_eq]

/-- A node left not connected was not connected before. -/
theorem ConnectsOut.isNotConnected {data data' : PeersState P} {qs : List P}
    (h : ConnectsOut data data' qs) {r : P} (hr : data'.isNotConnected r = true) :
    data.isNotConnected r = true := by
  obtain ⟨hknown, hnc⟩ := (isNotConnected_iff _ _).mp hr
  rw [h.connectionOf_eq] at hnc
  split_ifs at hnc
  rw [h.known_eq] at hknown
  exact (isNotConnected_iff _ _).mpr ⟨hknown, hnc⟩

/-- The known nodes not connected: what the loops of `alloc_slots` can still connect. -/
def notConnectedNodes (data : PeersState P) : Finset P :=
  data.nodes.keys.toFinset.filter fun q => data.connectionOf q = .notConnected

theorem mem_notConnectedNodes {data : PeersState P} {q : P} :
    q ∈ data.notConnectedNodes ↔
      (data.nodes.find? q).isSome ∧ data.connectionOf q = .notConnected := by
  rw [notConnectedNodes, Finset.mem_filter, List.mem_toFinset, SortedMap.mem_keys_iff]

/-- Each node a loop connects leaves the nodes it can still connect. -/
theorem ConnectsOut.card_notConnectedNodes {data data' : PeersState P} {qs : List P}
    (h : ConnectsOut data data' qs) :
    data'.notConnectedNodes.card + qs.length = data.notConnectedNodes.card := by
  have hsub : qs.toFinset ⊆ data.notConnectedNodes := by
    intro q hq
    rw [List.mem_toFinset] at hq
    have hout : data'.connectionOf q = .out := by rw [h.connectionOf_eq, if_pos hq]
    have hkey : q ∈ data'.nodes.keys := mem_keys_of_connectionOf_ne (by rw [hout]; exact nofun)
    rw [SortedMap.mem_keys_iff, h.known_eq] at hkey
    exact mem_notConnectedNodes.mpr ⟨hkey, h.notConnected q hq⟩
  have hdiff : data'.notConnectedNodes = data.notConnectedNodes \ qs.toFinset := by
    ext q
    rw [Finset.mem_sdiff, mem_notConnectedNodes, mem_notConnectedNodes, h.known_eq,
      h.connectionOf_eq, List.mem_toFinset]
    by_cases hq : q ∈ qs <;> simp [hq]
  rw [hdiff, Finset.card_sdiff_of_subset hsub, List.toFinset_card_of_nodup h.nodup]
  have := Finset.card_le_card hsub
  rw [List.toFinset_card_of_nodup h.nodup] at this
  omega

/-- Raising a counter changes no connection. -/
theorem ConnectsOut.setSlotCount {data data' : PeersState P} {qs : List P}
    (h : ConnectsOut data data' qs) (c : ConnectionState) (n : Nat) :
    ConnectsOut data (data'.setSlotCount c n) qs :=
  ⟨h.nodup, h.notConnected, by simpa using h.connectionOf_eq, by simpa using h.priorityNodes_eq,
    by simpa using h.priorityOnly_eq, by simpa using h.slotLimit_eq, by simpa using h.known_eq⟩

/-- Storing a known node that was not connected as connected outgoing. -/
theorem connectsOut_storeNode {data : PeersState P} {p : P} {node : Node}
    (hnode : data.nodes.find? p = some node) (hp : data.connectionOf p = .notConnected) :
    ConnectsOut data (data.storeNode p { node with connectionState := .out }) [p] := by
  refine ⟨List.nodup_singleton p, fun q hq => by rw [List.mem_singleton.mp hq]; exact hp,
    fun q => ?_, rfl, rfl, fun c => by simp, fun q => ?_⟩
  · rw [connectionOf_storeNode]
    simp only [List.mem_singleton]
  · rw [nodes_storeNode, SortedMap.find?_insert]
    split_ifs with hq
    · rw [hq, hnode]
      rfl
    · rfl

/-- A successful `try_outgoing` on a node that was not connected connects it alone. -/
theorem connectsOut_tryOutgoing {data data' : PeersState P} {p : P}
    (h : data.tryOutgoing p = (true, data')) (hp : data.connectionOf p = .notConnected) :
    ConnectsOut data data' [p] := by
  rcases data.tryConnect_cases .out p with hnone | ⟨node, hnode, -, hconn⟩
  · rw [tryOutgoing, hnone] at h
    cases h
  · rw [tryOutgoing, hconn, Prod.mk.injEq] at h
    obtain ⟨-, rfl⟩ := h
    split_ifs
    · exact connectsOut_storeNode hnode hp
    · exact (connectsOut_storeNode hnode hp).setSlotCount _ _

@[simp] theorem reputation_setSlotCount (data : PeersState P) (c : ConnectionState) (n : Nat) :
    (data.setSlotCount c n).reputation = data.reputation := by
  funext q
  rw [reputation, reputation, nodes_setSlotCount]

/-- A new connection state for a known node keeps every reputation. -/
theorem reputation_storeNode_connection {data : PeersState P} {p : P} {node : Node}
    (hnode : data.nodes.find? p = some node) (c : ConnectionState) :
    (data.storeNode p { node with connectionState := c }).reputation = data.reputation := by
  funext q
  rw [reputation_storeNode]
  split_ifs with hq
  · rw [hq, reputation, hnode]
    rfl
  · rfl

theorem tryConnect_reputation (data : PeersState P) (c : ConnectionState) (p : P) :
    (data.tryConnect c p).2.reputation = data.reputation := by
  rcases data.tryConnect_cases c p with hnone | ⟨node, hnode, -, hconn⟩
  · rw [hnone]
  · rw [hconn]
    dsimp only
    split_ifs <;> simp [reputation_storeNode_connection hnode]

/-- `try_outgoing` and `try_accept_incoming` connect a known priority node in any case. -/
theorem tryConnect_of_isPriority {data : PeersState P} {c : ConnectionState} {p : P}
    {node : Node} (hnode : data.nodes.find? p = some node) (hprio : data.isPriority p = true) :
    data.tryConnect c p = (true, data.storeNode p { node with connectionState := c }) := by
  simp [tryConnect, hprio, hnode]

/-- `try_outgoing` and `try_accept_incoming` refuse a known node only when it is not a
priority node, and either only priority nodes are accepted or no slot is free. -/
theorem tryConnect_false {data : PeersState P} {c : ConnectionState} {p : P}
    (h : (data.tryConnect c p).1 = false) (hknown : (data.nodes.find? p).isSome) :
    data.isPriority p = false ∧
      (data.priorityOnly = true ∨ data.slotLimit c ≤ data.slotCount c) := by
  rcases data.tryConnect_cases c p with hnone | ⟨node, hnode, hcond, hconn⟩
  · unfold tryConnect at hnone
    cases hprio : data.isPriority p
    · refine ⟨rfl, ?_⟩
      by_contra hcon
      simp only [not_or, Bool.not_eq_true, not_le] at hcon
      obtain ⟨node, hnode⟩ := Option.isSome_iff_exists.mp hknown
      simp [hprio, hcon.1, hcon.2, hnode] at hnone
    · obtain ⟨node, hnode⟩ := Option.isSome_iff_exists.mp hknown
      rw [tryConnect_of_isPriority hnode hprio] at h
      cases h
  · rw [hconn] at h
    cases h

end PeersState

namespace Peerset

variable {P : Type} [LinearOrder P]

/-! ### `update_time` -/

theorem tickPeer_of_known {data : PeersState P} {p : P} (hp : (data.nodes.find? p).isSome) :
    tickPeer data p = .ok (data.setReputation p (reputTick (data.reputation p))) := by
  unfold tickPeer
  cases hpeer : data.peer p with
  | connected | notConnected => rfl
  | unknown =>
      rw [PeersState.peer_eq_unknown_iff] at hpeer
      rw [hpeer] at hp
      cases hp

/-- The inner loop of `update_time` over distinct known nodes ticks each of them once. -/
theorem foldlM_tickPeer (l : List P) (hl : l.Nodup) : ∀ (data : PeersState P),
    (∀ q ∈ l, (data.nodes.find? q).isSome) →
    ∃ data', l.foldlM tickPeer data = .ok data' ∧ PeersState.SameConnections data data' ∧
      (∀ q, (data'.nodes.find? q).isSome = (data.nodes.find? q).isSome) ∧
      ∀ q, data'.reputation q =
        if q ∈ l then reputTick (data.reputation q) else data.reputation q := by
  induction l with
  | nil =>
      intro data _
      exact ⟨data, rfl, .refl data, fun _ => rfl, fun q => by simp⟩
  | cons p ps ih =>
      intro data hknown
      obtain ⟨hp, hps⟩ := List.nodup_cons.mp hl
      set data₁ := data.setReputation p (reputTick (data.reputation p)) with hdata₁
      -- the tick of `p` keeps every node known
      have hknown₁ : ∀ q, (data₁.nodes.find? q).isSome = (data.nodes.find? q).isSome := by
        intro q
        rw [hdata₁, PeersState.setReputation, PeersState.nodes_storeNode, SortedMap.find?_insert]
        split_ifs with hq
        · rw [hq, hknown p List.mem_cons_self]
          rfl
        · rfl
      obtain ⟨data', hfold, hsame, hknown', hrep⟩ :=
        ih hps data₁ fun q hq => by rw [hknown₁]; exact hknown q (List.mem_cons_of_mem _ hq)
      refine ⟨data', ?_, (PeersState.sameConnections_setReputation _ _ _).trans hsame,
        fun q => (hknown' q).trans (hknown₁ q), fun q => ?_⟩
      · rw [List.foldlM_cons, tickPeer_of_known (hknown p List.mem_cons_self)]
        exact hfold
      · rw [hrep q, hdata₁, PeersState.reputation_setReputation]
        simp only [List.mem_cons]
        by_cases hqp : q = p
        · subst hqp
          simp [hp]
        · simp [hqp]

/-- One second of `update_time` ticks every known node once. -/
theorem tickAll_ok (data : PeersState P) :
    ∃ data', tickAll data = .ok data' ∧ PeersState.SameConnections data data' ∧
      (∀ q, (data'.nodes.find? q).isSome = (data.nodes.find? q).isSome) ∧
      ∀ q, data'.reputation q =
        if (data.nodes.find? q).isSome then reputTick (data.reputation q)
        else data.reputation q := by
  obtain ⟨data', hfold, hsame, hknown, hrep⟩ := foldlM_tickPeer data.peers
    (SortedMap.keys_nodup _) data fun q hq => (SortedMap.mem_keys_iff _ _).mp hq
  refine ⟨data', hfold, hsame, hknown, fun q => ?_⟩
  rw [hrep q]
  simp only [PeersState.peers, SortedMap.mem_keys_iff]

/-- `n` seconds of `update_time` tick every known node `n` times. -/
theorem foldlM_tickAll (n : Nat) (data : PeersState P) :
    ∃ data', (List.range n).foldlM (fun data _ => tickAll data) data = .ok data' ∧
      PeersState.SameConnections data data' ∧
      (∀ q, (data'.nodes.find? q).isSome = (data.nodes.find? q).isSome) ∧
      ∀ q, data'.reputation q =
        if (data.nodes.find? q).isSome then reputTick^[n] (data.reputation q)
        else data.reputation q := by
  induction n with
  | zero => exact ⟨data, rfl, .refl data, fun _ => rfl, fun q => by split_ifs <;> rfl⟩
  | succ n ih =>
      obtain ⟨data₁, hfold₁, hsame₁, hknown₁, hrep₁⟩ := ih
      obtain ⟨data₂, htick, hsame₂, hknown₂, hrep₂⟩ := tickAll_ok data₁
      refine ⟨data₂, ?_, hsame₁.trans hsame₂, fun q => (hknown₂ q).trans (hknown₁ q),
        fun q => ?_⟩
      · rw [List.range_succ, List.foldlM_append, hfold₁]
        change List.foldlM (fun data _ => tickAll data) data₁ [n] = _
        rw [List.foldlM_cons, htick]
        rfl
      · rw [hrep₂, hknown₁, hrep₁]
        split_ifs
        · rw [Function.iterate_succ_apply']
        · rfl

/-- The whole seconds `update_time` crosses when the clock moved `elapsed` nanoseconds. -/
def secsDiff (latest elapsed : Nat) : Nat :=
  (latest + elapsed) / nanosPerSec - latest / nanosPerSec

/-- `update_time` does not panic: it ticks every known node's reputation once for each whole
second crossed, and changes nothing else but the time of the update. -/
theorem updateTime_ok (ps : Peerset P) (elapsed : Nat) :
    ∃ data', ps.updateTime elapsed =
        .ok { ps with data := data', latestTimeUpdate := ps.latestTimeUpdate + elapsed } ∧
      PeersState.SameConnections ps.data data' ∧
      (∀ q, (data'.nodes.find? q).isSome = (ps.data.nodes.find? q).isSome) ∧
      ∀ q, data'.reputation q =
        if (ps.data.nodes.find? q).isSome then
          reputTick^[secsDiff ps.latestTimeUpdate elapsed] (ps.data.reputation q)
        else ps.data.reputation q := by
  obtain ⟨data', hfold, hsame, hknown, hrep⟩ :=
    foldlM_tickAll (secsDiff ps.latestTimeUpdate elapsed) ps.data
  refine ⟨data', ?_, hsame, hknown, hrep⟩
  unfold updateTime
  simp only [secsDiff] at hfold
  simp only [hfold]
  rfl

/-- The seconds crossed over two spans of time add up to those crossed over the whole. -/
theorem secsDiff_add (latest elapsed₁ elapsed₂ : Nat) :
    secsDiff latest elapsed₁ + secsDiff (latest + elapsed₁) elapsed₂ =
      secsDiff latest (elapsed₁ + elapsed₂) := by
  unfold secsDiff
  have h₁ : latest / nanosPerSec ≤ (latest + elapsed₁) / nanosPerSec :=
    Nat.div_le_div_right (Nat.le_add_right _ _)
  have h₂ : (latest + elapsed₁) / nanosPerSec ≤ (latest + elapsed₁ + elapsed₂) / nanosPerSec :=
    Nat.div_le_div_right (Nat.le_add_right _ _)
  rw [← Nat.add_assoc]
  omega

/-- `update_time` depends only on the time elapsed: an update `elapsed₁` nanoseconds after the
last one, followed by one `elapsed₂` nanoseconds later, leaves the manager as one update after
`elapsed₁ + elapsed₂` does. No second of decay is lost or counted twice. -/
theorem updateTime_add (ps : Peerset P) (elapsed₁ elapsed₂ : Nat) :
    (ps.updateTime elapsed₁).bind (fun ps₁ => ps₁.updateTime elapsed₂) =
      ps.updateTime (elapsed₁ + elapsed₂) := by
  obtain ⟨data₁, hrun₁, hsame₁, hknown₁, hrep₁⟩ := updateTime_ok ps elapsed₁
  obtain ⟨data₂, hrun₂, hsame₂, hknown₂, hrep₂⟩ := updateTime_ok
    { ps with data := data₁, latestTimeUpdate := ps.latestTimeUpdate + elapsed₁ } elapsed₂
  obtain ⟨data₃, hrun₃, hsame₃, hknown₃, hrep₃⟩ := updateTime_ok ps (elapsed₁ + elapsed₂)
  -- both ways tick each known node once per second crossed
  have hdata : data₂ = data₃ := by
    refine (hsame₁.trans hsame₂).eq_of_reputation hsame₃
      (fun q => by rw [hknown₂, hknown₁, hknown₃]) fun q => ?_
    dsimp only at hrep₂ hknown₂
    rw [hrep₂, hknown₁, hrep₁, hrep₃, ← secsDiff_add,
      Nat.add_comm (secsDiff ps.latestTimeUpdate elapsed₁), Function.iterate_add_apply]
    split_ifs <;> rfl
  rw [hrun₁, hrun₃]
  show Peerset.updateTime _ elapsed₂ = _
  rw [hrun₂, hdata, Nat.add_assoc]

/-- Integer division by `50` rounding towards zero, as Rust's `/` on `i32`. -/
theorem tdiv_fifty (r : Int) : r.tdiv 50 = if 0 ≤ r then r / 50 else -((-r) / 50) := by
  split_ifs with hr
  · exact Int.tdiv_eq_ediv_of_nonneg hr
  · rw [← Int.tdiv_eq_ediv_of_nonneg (by omega), Int.neg_tdiv, Int.neg_neg]

/-- One second of decay moves a reputation towards `0` without passing it. -/
theorem reputTick_between (r : Int) : min r 0 ≤ reputTick r ∧ reputTick r ≤ max r 0 := by
  unfold reputTick saturatingSub
  simp only [i32Min, i32Max, tdiv_fifty]
  split_ifs <;> omega

/-- One second of decay brings a reputation that is not `0` strictly closer to it. -/
theorem reputTick_natAbs_lt {r : Int} (hr : r ≠ 0) : (reputTick r).natAbs < r.natAbs := by
  unfold reputTick saturatingSub
  simp only [i32Min, i32Max, tdiv_fifty]
  split_ifs <;> omega

/-- `n` seconds of decay keep a reputation between `0` and where it was, and take at least
`n` off its distance to `0`. -/
theorem reputTick_iterate (n : Nat) (r : Int) :
    min r 0 ≤ reputTick^[n] r ∧ reputTick^[n] r ≤ max r 0 ∧
      (reputTick^[n] r).natAbs ≤ r.natAbs - n := by
  induction n with
  | zero => simp
  | succ n ih =>
      rw [Function.iterate_succ_apply']
      obtain ⟨hlo, hhi, habs⟩ := ih
      obtain ⟨hlo', hhi'⟩ := reputTick_between (reputTick^[n] r)
      -- a tick of a reputation already at `0` leaves it there
      have habs' : (reputTick (reputTick^[n] r)).natAbs ≤ r.natAbs - (n + 1) := by
        by_cases h0 : reputTick^[n] r = 0
        · rw [h0]
          simp [reputTick, saturatingSub, i32Min, i32Max]
        · have := reputTick_natAbs_lt h0
          omega
      refine ⟨?_, ?_, habs'⟩ <;> omega

/-- `update_time` moves every reputation towards `0`, never past it, and each one that is not yet
`0` by at least one for each second crossed. -/
theorem updateTime_reputation (ps : Peerset P) (elapsed : Nat) :
    ∃ ps', ps.updateTime elapsed = .ok ps' ∧ ∀ q,
      min (ps.data.reputation q) 0 ≤ ps'.data.reputation q ∧
      ps'.data.reputation q ≤ max (ps.data.reputation q) 0 ∧
      (ps'.data.reputation q).natAbs ≤
        (ps.data.reputation q).natAbs - secsDiff ps.latestTimeUpdate elapsed := by
  obtain ⟨data', hrun, -, -, hrep⟩ := updateTime_ok ps elapsed
  refine ⟨_, hrun, fun q => ?_⟩
  show min _ 0 ≤ data'.reputation q ∧ data'.reputation q ≤ max _ 0 ∧ _
  rw [hrep]
  split_ifs with hq
  · exact reputTick_iterate _ _
  · -- an unknown node has reputation `0`, and keeps it
    have h0 : ps.data.reputation q = 0 := by
      rw [PeersState.reputation, Option.not_isSome_iff_eq_none.mp hq]
      rfl
    rw [h0]
    simp

/-! ### The loops of `alloc_slots` -/

/-- The nodes the first loop of `alloc_slots` connects: the reserved nodes in reserved-only
mode, the nodes of every priority group otherwise. -/
def PriorityTarget (ps : Peerset P) (q : P) : Prop :=
  (ps.reservedOnly = true ∧ q ∈ ps.reserved.keys) ∨
    (ps.reservedOnly = false ∧ ps.data.isPriority q = true)

/-- Every known node the first loop connects is connected. -/
def PriorityFilled (ps : Peerset P) : Prop :=
  ∀ q, ps.PriorityTarget q → (ps.data.nodes.find? q).isSome →
    ps.data.connectionOf q ≠ .notConnected

/-- Where the second loop stops: in reserved-only mode, when only priority nodes may take a
slot, when the outgoing slots are full, or when every known node not connected is banned. -/
def OutFilled (ps : Peerset P) : Prop :=
  ps.reservedOnly = true ∨ ps.data.priorityOnly = true ∨
    ps.data.slotLimit .out ≤ ps.data.slotCount .out ∨
    ∀ q ∈ ps.data.notConnectedNodes, ps.data.reputation q < bannedThreshold

theorem reserved_eq_of_priorityNodes {ps ps' : Peerset P}
    (h : ps'.data.priorityNodes = ps.data.priorityNodes) : ps'.reserved = ps.reserved := by
  rw [reserved, reserved, PeersState.getPriorityGroup, PeersState.getPriorityGroup, h]

/-- The node the first loop tries: a known priority node not connected, reserved in reserved-only
mode. -/
theorem nextPriorityPeer_some {ps : Peerset P} {q : P} (h : ps.nextPriorityPeer = some q) :
    (ps.data.nodes.find? q).isSome ∧ ps.data.connectionOf q = .notConnected ∧
      ps.data.isPriority q = true ∧ ps.PriorityTarget q := by
  unfold nextPriorityPeer at h
  cases hro : ps.reservedOnly with
  | true =>
      rw [hro, if_pos rfl] at h
      obtain ⟨group, hg, hq, hnc⟩ := PeersState.priorityNotConnectedPeerFromGroup_some h
      obtain ⟨hknown, hconn⟩ := (PeersState.isNotConnected_iff _ _).mp hnc
      have hres : q ∈ ps.reserved.keys := by
        rw [reserved, PeersState.getPriorityGroup, hg]
        exact hq
      exact ⟨hknown, hconn, (PeersState.isPriority_iff _ _).mpr ⟨_, group, hg, hq⟩,
        .inl ⟨hro, hres⟩⟩
  | false =>
      rw [hro, if_neg Bool.false_ne_true] at h
      obtain ⟨hprio, hnc⟩ := PeersState.priorityNotConnectedPeer_some h
      obtain ⟨hknown, hconn⟩ := (PeersState.isNotConnected_iff _ _).mp hnc
      exact ⟨hknown, hconn, hprio, .inr ⟨hro, hprio⟩⟩

/-- When the first loop finds no node, every node it connects is connected. -/
theorem priorityFilled_of_none {ps : Peerset P} (h : ps.nextPriorityPeer = none) :
    ps.PriorityFilled := by
  intro q hq hknown hnc
  have hnot : ps.data.isNotConnected q = true :=
    (PeersState.isNotConnected_iff _ _).mpr ⟨hknown, hnc⟩
  unfold nextPriorityPeer at h
  rcases hq with ⟨hro, hres⟩ | ⟨hro, hprio⟩
  · rw [hro, if_pos rfl] at h
    cases hg : ps.data.priorityNodes.find? reservedNodes with
    | none =>
        rw [reserved, PeersState.getPriorityGroup, hg] at hres
        exact List.not_mem_nil hres
    | some group =>
        rw [reserved, PeersState.getPriorityGroup, hg] at hres
        rw [PeersState.priorityNotConnectedPeerFromGroup_none h hg q hres] at hnot
        cases hnot
  · rw [hro, if_neg Bool.false_ne_true] at h
    rw [PeersState.priorityNotConnectedPeer_none h q hprio] at hnot
    cases hnot

/-- Connecting more nodes keeps the first loop's nodes connected. -/
theorem PriorityFilled.of_connectsOut {ps ps' : Peerset P} {qs : List P} (h : ps.PriorityFilled)
    (hc : PeersState.ConnectsOut ps.data ps'.data qs) (hro : ps'.reservedOnly = ps.reservedOnly) :
    ps'.PriorityFilled := by
  intro q hq hknown hnc
  have hq' : ps.PriorityTarget q := by
    rw [PriorityTarget, reserved_eq_of_priorityNodes hc.priorityNodes_eq, hc.isPriority_eq,
      hro] at hq
    exact hq
  rw [hc.connectionOf_eq] at hnc
  split_ifs at hnc
  exact h q hq' (by rw [← hc.known_eq]; exact hknown) hnc

/-- One turn of the first loop: nothing, or a priority node connected and its `Connect`
queued. -/
theorem allocPriority_succ_cases (fuel : Nat) (ps : Peerset P) :
    (allocPriority (fuel + 1) ps = ps ∧ ps.nextPriorityPeer = none) ∨
      ∃ next node, ps.nextPriorityPeer = some next ∧ ps.data.nodes.find? next = some node ∧
        allocPriority (fuel + 1) ps = allocPriority fuel
          ((ps.setData (ps.data.storeNode next { node with connectionState := .out })).push
            (.connect next)) := by
  cases hnext : ps.nextPriorityPeer with
  | none => exact .inl ⟨by rw [allocPriority, hnext], rfl⟩
  | some next =>
      obtain ⟨hknown, -, hprio, -⟩ := nextPriorityPeer_some hnext
      obtain ⟨node, hnode⟩ := Option.isSome_iff_exists.mp hknown
      refine .inr ⟨next, node, rfl, hnode, ?_⟩
      rw [allocPriority, hnext]
      dsimp only
      rw [PeersState.tryOutgoing, PeersState.tryConnect_of_isPriority hnode hprio]

/-- The first loop connects priority nodes not connected before, reserved ones in reserved-only
mode, and queues a `Connect` for each in order; reputations are kept. -/
theorem allocPriority_spec (fuel : Nat) : ∀ ps : Peerset P, ps.data.SlotsCounted →
    ∃ data' qs, allocPriority fuel ps =
        ⟨data', ps.reservedOnly, ps.messageQueue ++ qs.map .connect, ps.latestTimeUpdate⟩ ∧
      PeersState.ConnectsOut ps.data data' qs ∧ data'.SlotsCounted ∧
      data'.reputation = ps.data.reputation ∧
      ∀ q ∈ qs, ps.data.isPriority q = true ∧ ps.PriorityTarget q := by
  induction fuel with
  | zero =>
      intro ps h
      exact ⟨ps.data, [], by simp [allocPriority], .refl _, h, rfl,
        fun q hq => absurd hq List.not_mem_nil⟩
  | succ fuel ih =>
      intro ps h
      rcases allocPriority_succ_cases fuel ps with ⟨heq, -⟩ | ⟨next, node, hnext, hnode, heq⟩
      · exact ⟨ps.data, [], by simp [heq], .refl _, h, rfl, fun q hq => absurd hq List.not_mem_nil⟩
      · obtain ⟨-, hnc, hprio, htarget⟩ := nextPriorityPeer_some hnext
        set ps₁ := (ps.setData (ps.data.storeNode next { node with connectionState := .out })).push
          (.connect next)
        have hc₁ : PeersState.ConnectsOut ps.data ps₁.data [next] :=
          PeersState.connectsOut_storeNode hnode hnc
        -- the turn is `try_outgoing` on a priority node
        have htry : ps.data.tryOutgoing next = (true, ps₁.data) := by
          rw [PeersState.tryOutgoing, PeersState.tryConnect_of_isPriority hnode hprio]
          rfl
        have h₁ : ps₁.data.SlotsCounted := by
          have := PeersState.slotsCounted_tryConnect h (c := .out) nofun hnc
          rwa [← PeersState.tryOutgoing, htry] at this
        obtain ⟨data', qs, hrun, hc, h', hrep, hqs⟩ := ih ps₁ h₁
        refine ⟨data', next :: qs, by rw [heq, hrun]; simp [ps₁], hc₁.trans hc, h', ?_,
          fun q hq => ?_⟩
        · rw [hrep, data_push, data_setData, PeersState.reputation_storeNode_connection hnode]
        · rcases List.mem_cons.mp hq with rfl | hq
          · exact ⟨hprio, htarget⟩
          · obtain ⟨hqprio, hqtarget⟩ := hqs q hq
            have hres : ps₁.reserved = ps.reserved :=
              reserved_eq_of_priorityNodes hc₁.priorityNodes_eq
            rw [hc₁.isPriority_eq] at hqprio
            rw [PriorityTarget, hres, hc₁.isPriority_eq] at hqtarget
            exact ⟨hqprio, hqtarget⟩

/-- With fuel for every known node not connected, the first loop stops at its own end: no
priority node is left to connect. -/
theorem allocPriority_filled (fuel : Nat) : ∀ ps : Peerset P,
    ps.data.notConnectedNodes.card ≤ fuel → (allocPriority fuel ps).nextPriorityPeer = none := by
  induction fuel with
  | zero =>
      intro ps hfuel
      cases hnext : ps.nextPriorityPeer with
      | none => exact hnext
      | some q =>
          -- a node left to connect is a known node not connected
          obtain ⟨hknown, hnc, -⟩ := nextPriorityPeer_some hnext
          have hmem := PeersState.mem_notConnectedNodes.mpr ⟨hknown, hnc⟩
          have := Finset.card_pos.mpr ⟨q, hmem⟩
          omega
  | succ fuel ih =>
      intro ps hfuel
      rcases allocPriority_succ_cases fuel ps with ⟨heq, hnone⟩ | ⟨next, node, hnext, hnode, heq⟩
      · rw [heq]
        exact hnone
      · obtain ⟨-, hnc, -⟩ := nextPriorityPeer_some hnext
        have hcard := (PeersState.connectsOut_storeNode hnode hnc).card_notConnectedNodes
        rw [heq]
        exact ih _ (by simp only [data_push, data_setData, List.length_singleton] at hcard ⊢; omega)

/-- Where the second loop's own `break`s leave it: in reserved-only mode, or with the node of
highest reputation banned or refused by `try_outgoing`, or with none left. -/
def HighestStops (ps : Peerset P) : Prop :=
  ps.reservedOnly = true ∨ ∀ next, ps.data.highestNotConnectedPeer = some next →
    ps.data.reputation next < bannedThreshold ∨ (ps.data.tryOutgoing next).1 = false

/-- One turn of the second loop: it stops, or connects the node of highest reputation, not
banned, that `try_outgoing` finds a slot for, and queues its `Connect`. -/
theorem allocHighest_succ_cases (fuel : Nat) (ps : Peerset P) :
    (allocHighest (fuel + 1) ps = ps ∧ ps.HighestStops) ∨
      ∃ next data₁, ps.reservedOnly = false ∧ ps.data.highestNotConnectedPeer = some next ∧
        bannedThreshold ≤ ps.data.reputation next ∧ ps.data.tryOutgoing next = (true, data₁) ∧
        allocHighest (fuel + 1) ps =
          allocHighest fuel ((ps.setData data₁).push (.connect next)) := by
  cases hro : ps.reservedOnly with
  | true => exact .inl ⟨by rw [allocHighest, hro, if_pos rfl], .inl hro⟩
  | false =>
      cases hh : ps.data.highestNotConnectedPeer with
      | none =>
          refine .inl ⟨by rw [allocHighest, hro, if_neg Bool.false_ne_true, hh], .inr ?_⟩
          intro next hnext
          rw [hh] at hnext
          cases hnext
      | some next =>
          by_cases hban : ps.data.reputation next < bannedThreshold
          · refine .inl ⟨by rw [allocHighest, hro, if_neg Bool.false_ne_true, hh]; simp [hban],
              .inr fun next' hnext => ?_⟩
            rw [hh] at hnext
            cases hnext
            exact .inl hban
          · cases ht : ps.data.tryOutgoing next with
            | mk ok data₁ =>
                cases ok with
                | false =>
                    refine .inl ⟨?_, .inr fun next' hnext => ?_⟩
                    · rw [allocHighest, hro, if_neg Bool.false_ne_true, hh]
                      simp [hban, ht]
                    · rw [hh] at hnext
                      cases hnext
                      exact .inr (by rw [ht])
                | true =>
                    refine .inr ⟨next, data₁, rfl, rfl, not_lt.mp hban, ht, ?_⟩
                    rw [allocHighest, hro, if_neg Bool.false_ne_true, hh]
                    simp [hban, ht]

/-- Where the second loop stops, the outgoing slots are filled as far as the code fills them. -/
theorem outFilled_of_highestStops {ps : Peerset P} (h : ps.HighestStops) : ps.OutFilled := by
  rcases h with hro | hstop
  · exact .inl hro
  · cases hh : ps.data.highestNotConnectedPeer with
    | none =>
        -- no known node is left unconnected
        refine .inr (.inr (.inr fun q hq => ?_))
        obtain ⟨hknown, hnc⟩ := PeersState.mem_notConnectedNodes.mp hq
        have hnot := (PeersState.isNotConnected_iff _ _).mpr ⟨hknown, hnc⟩
        rw [PeersState.highestNotConnectedPeer_none hh q] at hnot
        cases hnot
    | some next =>
        obtain ⟨hnext, hmax⟩ := PeersState.highestNotConnectedPeer_some hh
        rcases hstop next hh with hban | hfail
        · refine .inr (.inr (.inr fun q hq => ?_))
          obtain ⟨hknown, hnc⟩ := PeersState.mem_notConnectedNodes.mp hq
          exact lt_of_le_of_lt (hmax q ((PeersState.isNotConnected_iff _ _).mpr ⟨hknown, hnc⟩)) hban
        · obtain ⟨-, hwhy⟩ := PeersState.tryConnect_false hfail
            ((PeersState.isNotConnected_iff _ _).mp hnext).1
          exact .inr (hwhy.imp_right .inl)

/-- The second loop connects known nodes not connected before, none of them banned, only when
not in reserved-only mode, and queues a `Connect` for each in order; each has a reputation at
least that of every known node it leaves not connected. Reputations are kept. -/
theorem allocHighest_spec (fuel : Nat) : ∀ ps : Peerset P, ps.data.SlotsCounted →
    ∃ data' qs, allocHighest fuel ps =
        ⟨data', ps.reservedOnly, ps.messageQueue ++ qs.map .connect, ps.latestTimeUpdate⟩ ∧
      PeersState.ConnectsOut ps.data data' qs ∧ data'.SlotsCounted ∧
      data'.reputation = ps.data.reputation ∧
      ∀ q ∈ qs, ps.reservedOnly = false ∧ bannedThreshold ≤ ps.data.reputation q ∧
        ∀ r, data'.isNotConnected r = true → ps.data.reputation r ≤ ps.data.reputation q := by
  induction fuel with
  | zero =>
      intro ps h
      exact ⟨ps.data, [], by simp [allocHighest], .refl _, h, rfl,
        fun q hq => absurd hq List.not_mem_nil⟩
  | succ fuel ih =>
      intro ps h
      rcases allocHighest_succ_cases fuel ps with ⟨heq, -⟩ |
        ⟨next, data₁, hro, hh, hban, ht, heq⟩
      · exact ⟨ps.data, [], by simp [heq], .refl _, h, rfl, fun q hq => absurd hq List.not_mem_nil⟩
      · obtain ⟨hnext, hmax⟩ := PeersState.highestNotConnectedPeer_some hh
        have hnc := ((PeersState.isNotConnected_iff _ _).mp hnext).2
        have hc₁ : PeersState.ConnectsOut ps.data data₁ [next] :=
          PeersState.connectsOut_tryOutgoing ht hnc
        have h₁ : data₁.SlotsCounted := by
          have := PeersState.slotsCounted_tryConnect h (c := .out) nofun hnc
          rwa [← PeersState.tryOutgoing, ht] at this
        have hrep₁ : data₁.reputation = ps.data.reputation := by
          have := PeersState.tryConnect_reputation ps.data .out next
          rwa [← PeersState.tryOutgoing, ht] at this
        obtain ⟨data', qs, hrun, hc, h', hrep, hqs⟩ :=
          ih ((ps.setData data₁).push (.connect next)) h₁
        refine ⟨data', next :: qs, by rw [heq, hrun]; simp, hc₁.trans hc, h', ?_, fun q hq => ?_⟩
        · rw [hrep, data_push, data_setData, hrep₁]
        · rcases List.mem_cons.mp hq with rfl | hq
          · -- the node picked has the highest reputation of those not connected, and every
            -- node left not connected at the end was not connected here
            exact ⟨hro, hban, fun r hr => hmax r ((hc₁.trans hc).isNotConnected hr)⟩
          · obtain ⟨-, hqban, hqmax⟩ := hqs q hq
            rw [data_push, data_setData, hrep₁] at hqban hqmax
            exact ⟨hro, hqban, hqmax⟩

/-- With fuel for every known node not connected, the second loop stops at one of its own
`break`s. -/
theorem allocHighest_stops (fuel : Nat) : ∀ ps : Peerset P,
    ps.data.notConnectedNodes.card ≤ fuel → (allocHighest fuel ps).HighestStops := by
  induction fuel with
  | zero =>
      intro ps hfuel
      show ps.HighestStops
      refine .inr fun next hh => ?_
      -- the node of highest reputation would be a known node not connected
      obtain ⟨hknown, hnc⟩ := (PeersState.isNotConnected_iff _ _).mp
        (PeersState.highestNotConnectedPeer_some hh).1
      have := Finset.card_pos.mpr ⟨next, PeersState.mem_notConnectedNodes.mpr ⟨hknown, hnc⟩⟩
      omega
  | succ fuel ih =>
      intro ps hfuel
      rcases allocHighest_succ_cases fuel ps with ⟨heq, hstop⟩ |
        ⟨next, data₁, -, hh, -, ht, heq⟩
      · rw [heq]
        exact hstop
      · obtain ⟨hnext, hmax⟩ := PeersState.highestNotConnectedPeer_some hh
        have hnc := ((PeersState.isNotConnected_iff _ _).mp hnext).2
        have hcard := (PeersState.connectsOut_tryOutgoing ht hnc).card_notConnectedNodes
        rw [heq]
        exact ih _ (by simp only [data_push, data_setData, List.length_singleton] at hcard ⊢; omega)

/-- What the loops of `alloc_slots` do from `ps`, a peer set whose reputations are up to date:
the nodes of `qs`, none connected before, are connected, and a `Connect` is queued for each in
order; each is a priority node the first loop connects, or, outside reserved-only mode, a node
that is not banned and whose reputation is at least that of every known node left not
connected; and both loops end at their own `break`. -/
structure Allocates (ps ps' : Peerset P) (qs : List P) : Prop where
  connectsOut : PeersState.ConnectsOut ps.data ps'.data qs
  messageQueue_eq : ps'.messageQueue = ps.messageQueue ++ qs.map .connect
  reservedOnly_eq : ps'.reservedOnly = ps.reservedOnly
  latestTimeUpdate_eq : ps'.latestTimeUpdate = ps.latestTimeUpdate
  reputation_eq : ps'.data.reputation = ps.data.reputation
  slotsCounted : ps'.data.SlotsCounted
  allowed : ∀ q ∈ qs, (ps.data.isPriority q = true ∧ ps.PriorityTarget q) ∨
    (ps.reservedOnly = false ∧ bannedThreshold ≤ ps.data.reputation q ∧
      ∀ r, ps'.data.isNotConnected r = true → ps.data.reputation r ≤ ps.data.reputation q)
  priorityFilled : ps'.PriorityFilled
  outFilled : ps'.OutFilled

/-- The loops of `alloc_slots`, with the fuel the code gives them. -/
theorem allocates_loops {ps : Peerset P} (h : ps.data.SlotsCounted) :
    ∃ qs, Allocates ps
      (allocHighest (allocPriority ps.data.nodes.size ps).data.nodes.size
        (allocPriority ps.data.nodes.size ps)) qs := by
  -- the fuel: every known node not connected is a key of the map
  have hfuel : ∀ data : PeersState P, data.notConnectedNodes.card ≤ data.nodes.size := by
    intro data
    calc data.notConnectedNodes.card ≤ data.nodes.keys.toFinset.card := Finset.card_filter_le _ _
      _ ≤ data.nodes.keys.length := List.toFinset_card_le _
      _ = data.nodes.size := by rw [SortedMap.keys, List.length_map]; rfl
  obtain ⟨data₁, qs₁, hrun₁, hc₁, h₁, hrep₁, hqs₁⟩ := allocPriority_spec ps.data.nodes.size ps h
  have hfilled := allocPriority_filled ps.data.nodes.size ps (hfuel ps.data)
  rw [hrun₁] at hfilled ⊢
  set ps₁ : Peerset P := ⟨data₁, ps.reservedOnly, ps.messageQueue ++ qs₁.map .connect,
    ps.latestTimeUpdate⟩
  obtain ⟨data₂, qs₂, hrun₂, hc₂, h₂, hrep₂, hqs₂⟩ := allocHighest_spec data₁.nodes.size ps₁ h₁
  have hstops := allocHighest_stops data₁.nodes.size ps₁ (hfuel data₁)
  rw [hrun₂] at hstops ⊢
  have hres : ps₁.reserved = ps.reserved := reserved_eq_of_priorityNodes hc₁.priorityNodes_eq
  refine ⟨qs₁ ++ qs₂, ⟨hc₁.trans hc₂, by simp [ps₁], rfl, rfl, hrep₂.trans hrep₁, h₂,
    fun q hq => ?_, (priorityFilled_of_none hfilled).of_connectsOut hc₂ rfl,
    outFilled_of_highestStops hstops⟩⟩
  rcases List.mem_append.mp hq with hq | hq
  · exact .inl (hqs₁ q hq)
  · obtain ⟨hro, hban, hmax⟩ := hqs₂ q hq
    refine .inr ⟨hro, ?_, fun r hr => ?_⟩
    · rw [← hrep₁]
      exact hban
    · rw [← hrep₁]
      exact hmax r hr

/-- `alloc_slots` does not panic when the counters are right: it brings the reputations up to
date, then its loops do what `Allocates` says. -/
theorem allocSlots_ok {ps : Peerset P} (h : ps.data.SlotsCounted) (elapsed : Nat) :
    ∃ ps₁ ps' qs, ps.updateTime elapsed = .ok ps₁ ∧ ps.allocSlots elapsed = .ok ps' ∧
      Allocates ps₁ ps' qs := by
  obtain ⟨data₁, hupd, hsame, -⟩ := updateTime_ok ps elapsed
  have h₁ : ({ ps with data := data₁, latestTimeUpdate := ps.latestTimeUpdate + elapsed } :
      Peerset P).data.SlotsCounted := hsame.slotsCounted h
  obtain ⟨qs, halloc⟩ := allocates_loops h₁
  refine ⟨_, _, qs, hupd, ?_, halloc⟩
  rw [allocSlots, hupd]
  rfl

/-- `alloc_slots` leaves no slot it could fill: afterwards every known node its first loop
targets is connected, and its second loop stopped in reserved-only mode, in priority-only mode,
with the outgoing slots full, or with every known node that is not connected banned. -/
theorem allocSlots_fills {ps : Peerset P} (h : ps.data.SlotsCounted) (elapsed : Nat) :
    ∃ ps', ps.allocSlots elapsed = .ok ps' ∧ ps'.PriorityFilled ∧ ps'.OutFilled := by
  obtain ⟨_, ps', _, _, halloc, hqs⟩ := allocSlots_ok h elapsed
  exact ⟨ps', halloc, hqs.priorityFilled, hqs.outFilled⟩

theorem allocSlots_fills_one :
    let ps : Peerset Nat := ⟨⟨SortedMap.empty.insert 7 ⟨.notConnected, 0⟩, 0, 0, 0, 1, .empty,
      false⟩, false, [], 0⟩
    ps.data.SlotsCounted ∧
      ∃ ps', ps.allocSlots 0 = .ok ps' ∧ ps'.PriorityFilled ∧ ps'.OutFilled := by
  intro ps
  have h : ps.data.SlotsCounted := by
    intro c hc
    cases c with
    | notConnected => exact absurd rfl hc
    | _ => decide
  exact ⟨h, allocSlots_fills h 0⟩

/-- `alloc_slots` connects only what it may, best reputations first: each node it queues a
`Connect` for was not connected, and is a node of its first loop (a reserved node in
reserved-only mode, a priority node otherwise) or, outside reserved-only mode, a node whose
reputation, brought up to date, is not below the ban threshold and is at least that of every
known node left not connected. -/
theorem allocSlots_connects_allowed {ps : Peerset P} (h : ps.data.SlotsCounted) (elapsed : Nat) :
    ∃ (ps₁ ps' : Peerset P) (qs : List P), ps.updateTime elapsed = .ok ps₁ ∧
      ps.allocSlots elapsed = .ok ps' ∧
      ps'.messageQueue = ps.messageQueue ++ qs.map .connect ∧
      ∀ q ∈ qs, ps.data.connectionOf q = .notConnected ∧
        (ps₁.PriorityTarget q ∨
          (ps.reservedOnly = false ∧ bannedThreshold ≤ ps₁.data.reputation q ∧
            ∀ r, ps'.data.isNotConnected r = true →
              ps₁.data.reputation r ≤ ps₁.data.reputation q)) := by
  obtain ⟨ps₁, ps', qs, hupd, halloc, hqs⟩ := allocSlots_ok h elapsed
  obtain ⟨data₁, hupd', hsame, -⟩ := updateTime_ok ps elapsed
  rw [hupd'] at hupd
  cases hupd
  refine ⟨_, ps', qs, hupd', halloc, hqs.messageQueue_eq, fun q hq => ⟨?_, ?_⟩⟩
  · rw [← hsame.connectionOf_eq]
    exact hqs.connectsOut.notConnected q hq
  · rcases hqs.allowed q hq with ⟨-, htarget⟩ | hhighest
    · exact .inl htarget
    · exact .inr hhighest

theorem allocSlots_connects_allowed_one :
    let ps : Peerset Nat := ⟨⟨SortedMap.empty.insert 7 ⟨.notConnected, 0⟩, 0, 0, 0, 1, .empty,
      false⟩, false, [], 0⟩
    ps.data.SlotsCounted ∧
      ∃ (ps₁ ps' : Peerset Nat) (qs : List Nat), ps.updateTime 0 = .ok ps₁ ∧
        ps.allocSlots 0 = .ok ps' ∧
        ps'.messageQueue = ps.messageQueue ++ qs.map .connect ∧
        ∀ q ∈ qs, ps.data.connectionOf q = .notConnected ∧
          (ps₁.PriorityTarget q ∨
            (ps.reservedOnly = false ∧ bannedThreshold ≤ ps₁.data.reputation q ∧
              ∀ r, ps'.data.isNotConnected r = true →
                ps₁.data.reputation r ≤ ps₁.data.reputation q)) := by
  intro ps
  have h : ps.data.SlotsCounted := by
    intro c hc
    cases c with
    | notConnected => exact absurd rfl hc
    | _ => decide
  exact ⟨h, allocSlots_connects_allowed h 0⟩

/-! ### What the network sees of `alloc_slots` -/

/-- What the network sees of an operation that only connects nodes: the nodes of `qs`, none
connected before, are connected outgoing, and a `Connect` is queued for each, in order; in
reserved-only mode they are reserved nodes. The groups and the modes are kept, and so is the
invariant of the counters. -/
structure OnlyConnects (ps ps' : Peerset P) (qs : List P) : Prop where
  nodup : qs.Nodup
  notConnected : ∀ q ∈ qs, ps.data.connectionOf q = .notConnected
  connectionOf_eq : ∀ q, ps'.data.connectionOf q = if q ∈ qs then .out else ps.data.connectionOf q
  messageQueue_eq : ps'.messageQueue = ps.messageQueue ++ qs.map .connect
  priorityNodes_eq : ps'.data.priorityNodes = ps.data.priorityNodes
  priorityOnly_eq : ps'.data.priorityOnly = ps.data.priorityOnly
  reservedOnly_eq : ps'.reservedOnly = ps.reservedOnly
  reserved : ps.reservedOnly = true → ∀ q ∈ qs, q ∈ ps.reserved.keys
  slotsCounted : ps'.data.SlotsCounted

/-- A change that keeps what the network sees, before an operation that only connects. -/
theorem OnlyConnects.of_same {ps₀ ps ps' : Peerset P} {qs : List P} (h : OnlyConnects ps ps' qs)
    (hsame : PeersState.SameConnections ps₀.data ps.data)
    (hqueue : ps.messageQueue = ps₀.messageQueue) (hro : ps.reservedOnly = ps₀.reservedOnly) :
    OnlyConnects ps₀ ps' qs := by
  have hres : ps.reserved = ps₀.reserved := reserved_eq_of_priorityNodes hsame.priorityNodes_eq
  refine ⟨h.nodup, fun q hq => ?_, fun q => ?_, by rw [h.messageQueue_eq, hqueue],
    h.priorityNodes_eq.trans hsame.priorityNodes_eq, h.priorityOnly_eq.trans hsame.priorityOnly_eq,
    h.reservedOnly_eq.trans hro, fun hro₀ => ?_, h.slotsCounted⟩
  · rw [← hsame.connectionOf_eq]
    exact h.notConnected q hq
  · rw [h.connectionOf_eq, hsame.connectionOf_eq]
  · rw [← hres]
    exact h.reserved (hro.trans hro₀)

/-- The network's view of `alloc_slots`: it only connects nodes. -/
theorem allocSlots_onlyConnects {ps : Peerset P} (h : ps.data.SlotsCounted) (elapsed : Nat) :
    ∃ ps' qs, ps.allocSlots elapsed = .ok ps' ∧ OnlyConnects ps ps' qs := by
  obtain ⟨ps₁, ps', qs, hupd, halloc, hqs⟩ := allocSlots_ok h elapsed
  obtain ⟨data₁, hupd', hsame, -⟩ := updateTime_ok ps elapsed
  rw [hupd'] at hupd
  cases hupd
  have hview : OnlyConnects
      { ps with data := data₁, latestTimeUpdate := ps.latestTimeUpdate + elapsed }
      ps' qs := by
    refine ⟨hqs.connectsOut.nodup, hqs.connectsOut.notConnected, hqs.connectsOut.connectionOf_eq,
      hqs.messageQueue_eq, hqs.connectsOut.priorityNodes_eq, hqs.connectsOut.priorityOnly_eq,
      hqs.reservedOnly_eq, fun hro q hq => ?_, hqs.slotsCounted⟩
    -- in reserved-only mode only the first loop connects, and only reserved nodes
    rcases hqs.allowed q hq with ⟨-, ⟨-, hres⟩ | ⟨hro', -⟩⟩ | ⟨hro', -⟩
    · exact hres
    · exact absurd (hro.symm.trans hro') Bool.noConfusion
    · exact absurd (hro.symm.trans hro') Bool.noConfusion
  exact ⟨ps', qs, halloc, hview.of_same hsame rfl rfl⟩

end Peerset

end ScPeerset
