import Mathlib
import Stargate.Network.Peerset

/-!
# Stargate.Network.PeersetCalls

What each call of the peer set manager does, as the network sees it: which connections change
and which messages are queued. There are four shapes. A reconfiguration (`Reconfigures`)
changes groups, modes or reputations but no connection and queues nothing; an operation that
only connects (`OnlyConnects`, from `alloc_slots`) queues a `Connect` per node it connects; one
that only disconnects (`OnlyDrops`) queues a `Drop` per node; and `incoming` answers with one
`Accept` or `Reject`. Each call is a composition of these, and none of them panics when the
counters are right.
-/

namespace ScPeerset

namespace PeersState

variable {P : Type} [LinearOrder P]

/-- `disconnect` of a connected node, by connections: only that node's changes. -/
theorem disconnect_connectionOf {data : PeersState P} (h : data.SlotsCounted) {p : P}
    (hp : data.connectionOf p ≠ .notConnected) :
    ∃ data', data.disconnect p = .ok data' ∧ data'.SlotsCounted ∧
      (∀ q, data'.connectionOf q = if q = p then .notConnected else data.connectionOf q) ∧
      data'.priorityNodes = data.priorityNodes ∧ data'.priorityOnly = data.priorityOnly ∧
      data'.reputation = data.reputation := by
  cases hnode : data.nodes.find? p with
  | none => exact absurd (connectionOf_of_find?_none hnode) hp
  | some node =>
      rw [connectionOf_of_find? hnode] at hp
      obtain ⟨data', hdis, h', hnodes, hprio, honly, -⟩ := disconnect_ok h hnode hp
      -- the new nodes are the old ones with this node stored again
      have hstore : data'.nodes =
          (data.storeNode p { node with connectionState := .notConnected }).nodes :=
        hnodes
      refine ⟨data', hdis, h', fun q => ?_, hprio, honly, ?_⟩
      · rw [connectionOf_congr hstore, connectionOf_storeNode]
      · funext q
        rw [reputation, hstore, ← reputation, reputation_storeNode_connection hnode]

theorem mem_connectedPeers {data : PeersState P} {q : P} :
    q ∈ data.connectedPeers ↔ data.connectionOf q ≠ .notConnected := by
  rw [connectedPeers, List.mem_map]
  constructor
  · rintro ⟨⟨q', node⟩, hmem, rfl⟩
    rw [List.mem_filter, SortedMap.mem_toList_iff] at hmem
    rw [connectionOf_of_find? hmem.1]
    intro hnc
    rw [hnc] at hmem
    exact Bool.noConfusion hmem.2
  · intro hq
    cases hnode : data.nodes.find? q with
    | none => exact absurd (connectionOf_of_find?_none hnode) hq
    | some node =>
        rw [connectionOf_of_find? hnode] at hq
        refine ⟨(q, node),
          List.mem_filter.mpr ⟨(SortedMap.mem_toList_iff _ _ _).mpr hnode, ?_⟩, rfl⟩
        cases hc : node.connectionState
        · rfl
        · rfl
        · exact absurd hc hq

theorem connectedPeers_nodup (data : PeersState P) : data.connectedPeers.Nodup := by
  rw [connectedPeers]
  exact (List.Sublist.map Prod.fst List.filter_sublist).nodup (SortedMap.keys_nodup data.nodes)

theorem slotsCounted_setPriorityOnly {data : PeersState P} (h : data.SlotsCounted) (b : Bool) :
    (data.setPriorityOnly b).SlotsCounted :=
  slotsCounted_congr h (fun _ => rfl) (fun _ => rfl) (fun c => by cases c <;> rfl)

@[simp] theorem connectionOf_setPriorityOnly (data : PeersState P) (b : Bool) :
    (data.setPriorityOnly b).connectionOf = data.connectionOf := rfl

@[simp] theorem priorityNodes_setPriorityOnly (data : PeersState P) (b : Bool) :
    (data.setPriorityOnly b).priorityNodes = data.priorityNodes := rfl

/-- A successful `try_outgoing` or `try_accept_incoming` connects that node alone. -/
theorem tryConnect_connectionOf {data data' : PeersState P} {c : ConnectionState} {p : P}
    (h : data.tryConnect c p = (true, data')) (q : P) :
    data'.connectionOf q = if q = p then c else data.connectionOf q := by
  rcases data.tryConnect_cases c p with hnone | ⟨node, -, -, hconn⟩
  · rw [hnone] at h
    cases h
  · rw [hconn, Prod.mk.injEq] at h
    obtain ⟨-, rfl⟩ := h
    by_cases hprio : data.isPriority p = true
    · rw [if_pos hprio, connectionOf_storeNode]
    · rw [if_neg hprio, connectionOf_setSlotCount, connectionOf_storeNode]

@[simp] theorem tryConnect_priorityNodes (data : PeersState P) (c : ConnectionState) (p : P) :
    (data.tryConnect c p).2.priorityNodes = data.priorityNodes := by
  rcases data.tryConnect_cases c p with hnone | ⟨node, -, -, hconn⟩
  · rw [hnone]
  · rw [hconn]
    dsimp only
    split_ifs <;> simp

@[simp] theorem tryConnect_priorityOnly (data : PeersState P) (c : ConnectionState) (p : P) :
    (data.tryConnect c p).2.priorityOnly = data.priorityOnly := by
  rcases data.tryConnect_cases c p with hnone | ⟨node, -, -, hconn⟩
  · rw [hnone]
  · rw [hconn]
    dsimp only
    split_ifs <;> simp

theorem slotsCounted_new (inPeers outPeers : Nat) (priorityOnly : Bool) :
    (new inPeers outPeers priorityOnly : PeersState P).SlotsCounted := by
  intro c _
  cases c <;> rfl

theorem connectionOf_new (inPeers outPeers : Nat) (priorityOnly : Bool) (q : P) :
    (new inPeers outPeers priorityOnly : PeersState P).connectionOf q = .notConnected :=
  connectionOf_of_find?_none (SortedMap.find?_empty q)

end PeersState

namespace Peerset

variable {P : Type} [LinearOrder P]

/-! ### The shapes of a call -/

/-- A change of configuration: the groups, the modes and the reputations may change and nodes
may become known, but no connection changes and nothing is queued. -/
structure Reconfigures (ps ps' : Peerset P) : Prop where
  connectionOf_eq : ∀ q, ps'.data.connectionOf q = ps.data.connectionOf q
  messageQueue_eq : ps'.messageQueue = ps.messageQueue
  slotsCounted : ps'.data.SlotsCounted
  modes : ps.data.priorityOnly = ps.reservedOnly → ps'.data.priorityOnly = ps'.reservedOnly

theorem Reconfigures.trans {ps₁ ps₂ ps₃ : Peerset P} (h₁ : Reconfigures ps₁ ps₂)
    (h₂ : Reconfigures ps₂ ps₃) : Reconfigures ps₁ ps₃ :=
  ⟨fun q => (h₂.connectionOf_eq q).trans (h₁.connectionOf_eq q),
    h₂.messageQueue_eq.trans h₁.messageQueue_eq, h₂.slotsCounted, fun h => h₂.modes (h₁.modes h)⟩

/-- A change of reputations or of the known nodes reconfigures. -/
theorem reconfigures_of_same {ps ps' : Peerset P}
    (hsame : PeersState.SameConnections ps.data ps'.data)
    (hqueue : ps'.messageQueue = ps.messageQueue)
    (hro : ps'.reservedOnly = ps.reservedOnly) (h : ps.data.SlotsCounted) : Reconfigures ps ps' :=
  ⟨hsame.connectionOf_eq, hqueue, hsame.slotsCounted h, fun hm => by
    rw [hsame.priorityOnly_eq, hro, hm]⟩

/-- What the network sees of an operation that only disconnects nodes: the nodes of `qs`, all
connected before, are not connected, and a `Drop` is queued for each, in order. The groups and
the modes are kept, and so is the invariant of the counters. -/
structure OnlyDrops (ps ps' : Peerset P) (qs : List P) : Prop where
  nodup : qs.Nodup
  connected : ∀ q ∈ qs, ps.data.connectionOf q ≠ .notConnected
  connectionOf_eq : ∀ q, ps'.data.connectionOf q =
    if q ∈ qs then .notConnected else ps.data.connectionOf q
  messageQueue_eq : ps'.messageQueue = ps.messageQueue ++ qs.map .drop
  priorityNodes_eq : ps'.data.priorityNodes = ps.data.priorityNodes
  priorityOnly_eq : ps'.data.priorityOnly = ps.data.priorityOnly
  reservedOnly_eq : ps'.reservedOnly = ps.reservedOnly
  slotsCounted : ps'.data.SlotsCounted

theorem OnlyDrops.refl {ps : Peerset P} (h : ps.data.SlotsCounted) : OnlyDrops ps ps [] :=
  ⟨.nil, fun _ h => absurd h List.not_mem_nil, fun q => by simp, by simp, rfl, rfl, rfl, h⟩

theorem OnlyDrops.trans {ps₁ ps₂ ps₃ : Peerset P} {qs₁ qs₂ : List P} (h₁ : OnlyDrops ps₁ ps₂ qs₁)
    (h₂ : OnlyDrops ps₂ ps₃ qs₂) : OnlyDrops ps₁ ps₃ (qs₁ ++ qs₂) := by
  -- a node disconnected by the second step was still connected after the first
  have hfresh : ∀ q ∈ qs₂, q ∉ qs₁ ∧ ps₁.data.connectionOf q ≠ .notConnected := by
    intro q hq
    have hc := h₂.connected q hq
    rw [h₁.connectionOf_eq] at hc
    by_cases hq₁ : q ∈ qs₁
    · rw [if_pos hq₁] at hc
      exact absurd rfl hc
    · rw [if_neg hq₁] at hc
      exact ⟨hq₁, hc⟩
  refine ⟨List.nodup_append.mpr ⟨h₁.nodup, h₂.nodup, fun a ha b hb hab => ?_⟩, fun q hq => ?_,
    fun q => ?_, by rw [h₂.messageQueue_eq, h₁.messageQueue_eq, List.map_append, List.append_assoc],
    h₂.priorityNodes_eq.trans h₁.priorityNodes_eq, h₂.priorityOnly_eq.trans h₁.priorityOnly_eq,
    h₂.reservedOnly_eq.trans h₁.reservedOnly_eq, h₂.slotsCounted⟩
  · subst hab
    exact (hfresh a hb).1 ha
  · rcases List.mem_append.mp hq with hq | hq
    · exact h₁.connected q hq
    · exact (hfresh q hq).2
  · rw [h₂.connectionOf_eq, h₁.connectionOf_eq]
    simp only [List.mem_append]
    by_cases hq₂ : q ∈ qs₂ <;> by_cases hq₁ : q ∈ qs₁ <;> simp [hq₁, hq₂]

/-- Disconnecting a connected node and queueing its `Drop`. -/
theorem disconnect_push {ps : Peerset P} (h : ps.data.SlotsCounted) {p : P}
    (hp : ps.data.connectionOf p ≠ .notConnected) :
    ∃ data', ps.data.disconnect p = .ok data' ∧
      OnlyDrops ps ((ps.setData data').push (.drop p)) [p] := by
  obtain ⟨data', hdis, h', hconn, hprio, honly, -⟩ := PeersState.disconnect_connectionOf h hp
  exact ⟨data', hdis, ⟨List.nodup_singleton p,
    fun q hq => by rw [List.mem_singleton.mp hq]; exact hp,
    fun q => by simp [hconn], by simp, hprio, honly, rfl, h'⟩⟩

/-- A new set of groups that keeps every connection reconfigures. -/
theorem reconfigures_setData {ps : Peerset P} {data : PeersState P}
    (hk : PeersState.KeepsNodes ps.data data) (h : data.SlotsCounted) :
    Reconfigures ps (ps.setData data) :=
  ⟨hk.connectionOf_eq, rfl, h, fun hm => by rw [data_setData, hk.priorityOnly_eq, hm]; rfl⟩

/-! ### The handlers of actions -/

/-- The loop of `on_set_reserved_only` over the connected nodes, collected first: it
disconnects those that are not reserved, and queues a `Drop` for each. -/
theorem foldlM_dropUnreserved (reserved : SortedSet P) (l : List P) (hl : l.Nodup) :
    ∀ ps : Peerset P, ps.data.SlotsCounted → (∀ q ∈ l, ps.data.connectionOf q ≠ .notConnected) →
      ∃ ps', l.foldlM (dropUnreserved reserved) ps = .ok ps' ∧
        OnlyDrops ps ps' (l.filter fun q => !reserved.contains q) := by
  induction l with
  | nil =>
      intro ps h _
      exact ⟨ps, rfl, .refl h⟩
  | cons p ps ih =>
      intro st h hconn
      obtain ⟨hp, hps⟩ := List.nodup_cons.mp hl
      have hpeer : st.data.peer p = .connected :=
        (PeersState.peer_eq_connected_iff _ _).mpr (hconn p List.mem_cons_self)
      rw [List.foldlM_cons]
      by_cases hres : reserved.contains p = true
      · -- a reserved node stays
        obtain ⟨ps', hfold, hdrops⟩ := ih hps st h fun q hq => hconn q (List.mem_cons_of_mem _ hq)
        refine ⟨ps', ?_, by rw [List.filter_cons_of_neg (by rw [hres]; decide)]; exact hdrops⟩
        simp only [dropUnreserved, hpeer, if_pos hres]
        exact hfold
      · obtain ⟨data', hdis, hdrop⟩ := disconnect_push h (hconn p List.mem_cons_self)
        -- the other nodes of the list are still connected
        have hconn' : ∀ q ∈ ps, ((st.setData data').push (.drop p)).data.connectionOf q ≠
            .notConnected := by
          intro q hq
          rw [hdrop.connectionOf_eq, if_neg (by rw [List.mem_singleton]; rintro rfl; exact hp hq)]
          exact hconn q (List.mem_cons_of_mem _ hq)
        obtain ⟨ps', hfold, hdrops⟩ := ih hps _ hdrop.slotsCounted hconn'
        refine ⟨ps', ?_, ?_⟩
        · simp only [dropUnreserved, hpeer, if_neg hres, hdis, bind, Except.bind, pure,
            Except.pure]
          exact hfold
        · rw [List.filter_cons_of_pos (by simpa using hres)]
          exact hdrop.trans hdrops

/-- `on_set_reserved_only(true)`: both modes are set, and every connected node that is not
reserved is disconnected with a `Drop`. -/
theorem onSetReservedOnly_true {ps : Peerset P} (h : ps.data.SlotsCounted) (elapsed : Nat) :
    ∃ ps', ps.onSetReservedOnly true elapsed = .ok ps' ∧
      OnlyDrops { ps with reservedOnly := true, data := ps.data.setPriorityOnly true } ps'
        (ps.data.connectedPeers.filter fun q => !ps.reserved.contains q) :=
  foldlM_dropUnreserved ps.reserved ps.data.connectedPeers
    (PeersState.connectedPeers_nodup _) _ (PeersState.slotsCounted_setPriorityOnly h true)
    fun _ hq => PeersState.mem_connectedPeers.mp hq

/-- Switching to reserved-only mode disconnects every node that is not reserved: afterwards
every connected node is a reserved node. -/
theorem onSetReservedOnly_true_reserved {ps : Peerset P} (h : ps.data.SlotsCounted)
    (elapsed : Nat) :
    ∃ ps', ps.onSetReservedOnly true elapsed = .ok ps' ∧ ps'.reservedOnly = true ∧
      ∀ q, ps'.data.connectionOf q ≠ .notConnected → ps'.reserved.contains q = true := by
  obtain ⟨ps', hrun, hd⟩ := onSetReservedOnly_true h elapsed
  have hres : ps'.reserved = ps.reserved := reserved_eq_of_priorityNodes hd.priorityNodes_eq
  refine ⟨ps', hrun, hd.reservedOnly_eq, fun q hq => ?_⟩
  rw [hd.connectionOf_eq] at hq
  split_ifs at hq with hmem
  · exact absurd rfl hq
  · -- a node still connected was connected before, so only being reserved kept it
    have hcp : q ∈ ps.data.connectedPeers := PeersState.mem_connectedPeers.mpr hq
    rw [hres]
    by_contra hnot
    exact hmem (List.mem_filter.mpr ⟨hcp, by simpa using hnot⟩)

theorem onSetReservedOnly_true_reserved_one :
    let ps : Peerset Nat := ⟨⟨SortedMap.empty.insert 7 ⟨.out, 0⟩, 0, 1, 0, 1, .empty, false⟩,
      false, [], 0⟩
    ps.data.SlotsCounted ∧
      ∃ ps', ps.onSetReservedOnly true 0 = .ok ps' ∧ ps'.reservedOnly = true ∧
        ∀ q, ps'.data.connectionOf q ≠ .notConnected → ps'.reserved.contains q = true := by
  intro ps
  have h : ps.data.SlotsCounted := by
    intro c _
    cases c <;> decide
  exact ⟨h, onSetReservedOnly_true_reserved h 0⟩

/-- `on_set_reserved_only(false)`: both modes are cleared, and `alloc_slots` runs. -/
theorem onSetReservedOnly_false {ps : Peerset P} (h : ps.data.SlotsCounted) (elapsed : Nat) :
    ∃ ps' qs, ps.onSetReservedOnly false elapsed = .ok ps' ∧
      OnlyConnects { ps with reservedOnly := false, data := ps.data.setPriorityOnly false }
        ps' qs := by
  have h₁ : ({ ps with reservedOnly := false, data := ps.data.setPriorityOnly false } :
      Peerset P).data.SlotsCounted := PeersState.slotsCounted_setPriorityOnly h false
  exact allocSlots_onlyConnects h₁ elapsed

/-- A handler that replaces a group, then runs `alloc_slots`. -/
theorem setGroup_allocSlots_ok {ps : Peerset P} (h : ps.data.SlotsCounted) (g : String)
    (peers : SortedSet P) (elapsed : Nat) :
    ∃ data₁ ps' qs, (do
        let data ← ps.data.setPriorityGroup g peers
        (ps.setData data).allocSlots elapsed) = .ok ps' ∧
      PeersState.KeepsNodes ps.data data₁ ∧ data₁.SlotsCounted ∧
      data₁.priorityNodes = (ps.data.priorityNodes.erase g).insert g peers ∧
      OnlyConnects (ps.setData data₁) ps' qs := by
  obtain ⟨data₁, hset, h₁, hkeeps, hprio⟩ := PeersState.setPriorityGroup_ok h g peers
  have h₁' : (ps.setData data₁).data.SlotsCounted := h₁
  obtain ⟨ps', qs, halloc, hview⟩ := allocSlots_onlyConnects h₁' elapsed
  refine ⟨data₁, ps', qs, ?_, hkeeps, h₁, hprio, hview⟩
  rw [hset]
  exact halloc

/-- `on_remove_reserved_peer`: the reserved group loses the node, and in reserved-only mode the
node, if connected, is disconnected with a `Drop`. -/
theorem onRemoveReservedPeer_ok {ps : Peerset P} (h : ps.data.SlotsCounted) (p : P) :
    ∃ data₁ ps', ps.onRemoveReservedPeer p = .ok ps' ∧ PeersState.KeepsNodes ps.data data₁ ∧
      data₁.SlotsCounted ∧
      data₁.priorityNodes =
        (ps.data.priorityNodes.erase reservedNodes).insert reservedNodes (ps.reserved.erase p) ∧
      OnlyDrops (ps.setData data₁) ps'
        (if ps.reservedOnly = true ∧ ps.data.connectionOf p ≠ .notConnected then [p] else []) := by
  obtain ⟨data₁, hset, h₁, hkeeps, hprio⟩ :=
    PeersState.setPriorityGroup_ok h reservedNodes (ps.reserved.erase p)
  have h₁' : (ps.setData data₁).data.SlotsCounted := h₁
  have hcon : data₁.peer p = .connected ↔ ps.data.connectionOf p ≠ .notConnected := by
    rw [PeersState.peer_eq_connected_iff, hkeeps.connectionOf_eq]
  cases hpeer : data₁.peer p with
  | connected =>
      have hp : ps.data.connectionOf p ≠ .notConnected := hcon.mp hpeer
      cases hro : ps.reservedOnly with
      | true =>
          obtain ⟨data', hdis, hdrop⟩ := disconnect_push h₁'
            (by rw [data_setData, hkeeps.connectionOf_eq]; exact hp)
          refine ⟨data₁, _, ?_, hkeeps, h₁, hprio, by rw [if_pos ⟨rfl, hp⟩]; exact hdrop⟩
          rw [data_setData] at hdis
          simp [onRemoveReservedPeer, hset, hpeer, hro, hdis, bind, Except.bind, pure, Except.pure]
      | false =>
          refine ⟨data₁, _, ?_, hkeeps, h₁, hprio, by rw [if_neg (by simp)]; exact .refl h₁'⟩
          simp [onRemoveReservedPeer, hset, hpeer, hro, bind, Except.bind, pure, Except.pure]
  | notConnected | unknown =>
      have hp : ps.data.connectionOf p = .notConnected := by
        by_contra hne
        rw [hcon.mpr hne] at hpeer
        cases hpeer
      refine ⟨data₁, _, ?_, hkeeps, h₁, hprio, by rw [if_neg (by simp [hp])]; exact .refl h₁'⟩
      simp [onRemoveReservedPeer, hset, hpeer, bind, Except.bind, pure, Except.pure]

/-- In reserved-only mode, removing a connected node from the reserved nodes disconnects it with
a `Drop`. -/
theorem onRemoveReservedPeer_drops {ps : Peerset P} (h : ps.data.SlotsCounted) {p : P}
    (hro : ps.reservedOnly = true) (hp : ps.data.connectionOf p ≠ .notConnected) :
    ∃ ps', ps.onRemoveReservedPeer p = .ok ps' ∧
      ps'.messageQueue = ps.messageQueue ++ [.drop p] ∧
      ps'.data.connectionOf p = .notConnected ∧ ps'.reserved.contains p = false := by
  obtain ⟨data₁, ps', hrun, -, -, hprio, hd⟩ := onRemoveReservedPeer_ok h p
  rw [if_pos ⟨hro, hp⟩] at hd
  refine ⟨ps', hrun, hd.messageQueue_eq, ?_, ?_⟩
  · rw [hd.connectionOf_eq, if_pos (List.mem_singleton_self p)]
  · -- the reserved group is now the old one without the node
    have hgroup : ps'.data.getPriorityGroup reservedNodes = some (ps.reserved.erase p) := by
      rw [PeersState.getPriorityGroup, hd.priorityNodes_eq, data_setData, hprio,
        SortedMap.find?_insert, if_pos rfl]
    rw [reserved, hgroup, Option.getD_some, SortedMap.contains_eq, SortedMap.find?_erase,
      if_pos rfl]
    rfl

/-- `on_report_peer`: reputations are brought up to date and the report applied; a connected
node whose reputation falls below the ban threshold is disconnected with a `Drop`. -/
theorem onReportPeer_ok {ps : Peerset P} (h : ps.data.SlotsCounted) (p : P)
    (change : ReputationChange) (elapsed : Nat) :
    ∃ ps₁ ps' qs, ps.onReportPeer p change elapsed = .ok ps' ∧ Reconfigures ps ps₁ ∧
      ps₁.reservedOnly = ps.reservedOnly ∧ OnlyDrops ps₁ ps' qs ∧ (qs = [] ∨ qs = [p]) := by
  obtain ⟨data₀, hupd, hsame₀, -⟩ := updateTime_ok ps elapsed
  set ps₀ : Peerset P :=
    { ps with data := data₀, latestTimeUpdate := ps.latestTimeUpdate + elapsed }
  have hre₀ : Reconfigures ps ps₀ := reconfigures_of_same hsame₀ rfl rfl h
  cases hpeer : data₀.peer p with
  | connected =>
      set data := data₀.addReputation p change.value
      have hre : Reconfigures ps (ps₀.setData data) :=
        hre₀.trans (reconfigures_of_same (PeersState.sameConnections_addReputation _ _ _) rfl rfl
          hre₀.slotsCounted)
      by_cases hban : data.reputation p < bannedThreshold
      · have hp : (ps₀.setData data).data.connectionOf p ≠ .notConnected := by
          rw [hre.connectionOf_eq, ← hsame₀.connectionOf_eq]
          exact (PeersState.peer_eq_connected_iff _ _).mp hpeer
        obtain ⟨data', hdis, hdrop⟩ := disconnect_push hre.slotsCounted hp
        refine ⟨ps₀.setData data, _, [p], ?_, hre, rfl, hdrop, .inr rfl⟩
        rw [data_setData] at hdis
        simp [onReportPeer, hupd, ps₀, hpeer, data, hban, hdis, bind, Except.bind, pure,
          Except.pure]
      · refine ⟨ps₀.setData data, ps₀.setData data, [], ?_, hre, rfl, .refl hre.slotsCounted,
          .inl rfl⟩
        simp [onReportPeer, hupd, ps₀, hpeer, data, hban, bind, Except.bind, pure, Except.pure]
  | notConnected =>
      have hre : Reconfigures ps (ps₀.setData (data₀.addReputation p change.value)) :=
        hre₀.trans (reconfigures_of_same (PeersState.sameConnections_addReputation _ _ _) rfl rfl
          hre₀.slotsCounted)
      refine ⟨_, _, [], ?_, hre, rfl, .refl hre.slotsCounted, .inl rfl⟩
      simp [onReportPeer, hupd, ps₀, hpeer, bind, Except.bind, pure, Except.pure]
  | unknown =>
      have hsame : PeersState.SameConnections data₀
          ((data₀.discover p).addReputation p change.value) :=
        (PeersState.sameConnections_discover ((PeersState.peer_eq_unknown_iff _ _).mp hpeer)).trans
          (PeersState.sameConnections_addReputation _ _ _)
      have hre : Reconfigures ps (ps₀.setData ((data₀.discover p).addReputation p change.value)) :=
        hre₀.trans (reconfigures_of_same hsame rfl rfl hre₀.slotsCounted)
      refine ⟨_, _, [], ?_, hre, rfl, .refl hre.slotsCounted, .inl rfl⟩
      simp [onReportPeer, hupd, ps₀, hpeer, bind, Except.bind, pure, Except.pure]

/-- `on_report_peer` on a connected node, as it runs: the change is added to the reputation
brought up to date, and the node is disconnected with a `Drop` when the sum is below the ban
threshold. -/
theorem onReportPeer_of_connected {ps ps₀ : Peerset P} {p : P} (change : ReputationChange)
    {elapsed : Nat} (hupd : ps.updateTime elapsed = .ok ps₀)
    (hconn : ps.data.connectionOf p ≠ .notConnected) :
    ps.onReportPeer p change elapsed =
      if saturatingAdd (ps₀.data.reputation p) change.value < bannedThreshold then do
        let data ← (ps₀.data.addReputation p change.value).disconnect p
        pure ((ps₀.setData data).push (.drop p))
      else pure (ps₀.setData (ps₀.data.addReputation p change.value)) := by
  obtain ⟨data₀, hupd', hsame₀, -⟩ := updateTime_ok ps elapsed
  rw [hupd'] at hupd
  cases hupd
  have hpeer : data₀.peer p = .connected := by
    rw [PeersState.peer_eq_connected_iff, hsame₀.connectionOf_eq]
    exact hconn
  have hrep : (data₀.addReputation p change.value).reputation p =
      saturatingAdd (data₀.reputation p) change.value := by
    rw [PeersState.reputation_addReputation, if_pos rfl]
  simp only [onReportPeer, hupd', bind, Except.bind, hpeer, hrep]

/-- `on_report_peer` on a connected node: the change is added to its reputation, brought up to
date, with a saturating addition; the node is disconnected with a `Drop` exactly when the sum is
below the ban threshold, and is otherwise left connected with nothing queued. -/
theorem onReportPeer_connected {ps ps₀ : Peerset P} (h : ps.data.SlotsCounted) {p : P}
    (change : ReputationChange) {elapsed : Nat} (hupd : ps.updateTime elapsed = .ok ps₀)
    (hconn : ps.data.connectionOf p ≠ .notConnected) :
    ∃ ps', ps.onReportPeer p change elapsed = .ok ps' ∧
      ps'.data.reputation p = saturatingAdd (ps₀.data.reputation p) change.value ∧
      if saturatingAdd (ps₀.data.reputation p) change.value < bannedThreshold then
        ps'.messageQueue = ps.messageQueue ++ [.drop p] ∧ ps'.data.connectionOf p = .notConnected
      else
        ps'.messageQueue = ps.messageQueue ∧ ps'.data.connectionOf p = ps.data.connectionOf p := by
  obtain ⟨data₀, hupd', hsame₀, -⟩ := updateTime_ok ps elapsed
  have hrun := onReportPeer_of_connected change hupd hconn
  rw [hupd'] at hupd
  cases hupd
  set data := data₀.addReputation p change.value
  have hsame := PeersState.sameConnections_addReputation data₀ p change.value
  have hrep : data.reputation p = saturatingAdd (data₀.reputation p) change.value := by
    rw [PeersState.reputation_addReputation, if_pos rfl]
  by_cases hban : saturatingAdd (data₀.reputation p) change.value < bannedThreshold
  · -- below the threshold: disconnected, with a `Drop`
    obtain ⟨data', hdis, -, hconn', -, -, hrep'⟩ := PeersState.disconnect_connectionOf
      (hsame.slotsCounted (hsame₀.slotsCounted h))
      (by rw [hsame.connectionOf_eq, hsame₀.connectionOf_eq]; exact hconn)
    rw [if_pos hban, hdis] at hrun
    refine ⟨_, hrun, ?_, ?_⟩
    · show data'.reputation p = _
      rw [hrep', hrep]
    · rw [if_pos hban]
      refine ⟨rfl, ?_⟩
      show data'.connectionOf p = _
      rw [hconn', if_pos rfl]
  · rw [if_neg hban] at hrun
    refine ⟨_, hrun, hrep, ?_⟩
    rw [if_neg hban]
    refine ⟨rfl, ?_⟩
    show data.connectionOf p = _
    rw [hsame.connectionOf_eq, hsame₀.connectionOf_eq]

/-- `ReputationChange::new_fatal` does not force the minimum reputation: the report adds
`i32::MIN` with a saturating addition, so a connected node whose reputation, brought up to date,
is at least `386547096` stays connected after a fatal report, and nothing is queued. -/
theorem onReportPeer_fatal_keeps {ps ps₀ : Peerset P} {p : P} (reason : String) {elapsed : Nat}
    (hupd : ps.updateTime elapsed = .ok ps₀)
    (hconn : ps.data.connectionOf p ≠ .notConnected) (hrep : 386547096 ≤ ps₀.data.reputation p) :
    ∃ ps', ps.onReportPeer p (.newFatal reason) elapsed = .ok ps' ∧
      ps'.messageQueue = ps.messageQueue ∧ ps'.data.connectionOf p = ps.data.connectionOf p := by
  have hrun := onReportPeer_of_connected (.newFatal reason) hupd hconn
  have hthreshold : bannedThreshold = -1760936552 := by decide
  -- the sum stays at or above the threshold
  have hkeep : ¬saturatingAdd (ps₀.data.reputation p) (ReputationChange.newFatal reason).value <
      bannedThreshold := by
    rw [hthreshold]
    simp only [ReputationChange.newFatal, saturatingAdd, i32Min, i32Max]
    omega
  rw [if_neg hkeep] at hrun
  -- the report only changes reputations: the queue and the connections are those of `ps`
  obtain ⟨data₀, hupd', hsame₀, -⟩ := updateTime_ok ps elapsed
  rw [hupd'] at hupd
  cases hupd
  refine ⟨_, hrun, rfl, ?_⟩
  show (data₀.addReputation p _).connectionOf p = _
  rw [(PeersState.sameConnections_addReputation data₀ p _).connectionOf_eq,
    hsame₀.connectionOf_eq]

theorem onReportPeer_fatal_keeps_high :
    let ps : Peerset Nat :=
      ⟨⟨SortedMap.empty.insert 7 ⟨.out, 400000000⟩, 0, 1, 0, 1, .empty, false⟩,
      false, [], 0⟩
    ps.updateTime 0 = .ok ps ∧ ps.data.connectionOf 7 ≠ .notConnected ∧
      386547096 ≤ ps.data.reputation 7 ∧
      ∃ ps', ps.onReportPeer 7 (.newFatal "") 0 = .ok ps' ∧
        ps'.messageQueue = ps.messageQueue ∧ ps'.data.connectionOf 7 = ps.data.connectionOf 7 := by
  intro ps
  have hupd : ps.updateTime 0 = .ok ps := by
    simp [ps, updateTime, bind, Except.bind, pure, Except.pure]
  have hconn : ps.data.connectionOf 7 ≠ .notConnected := by decide
  have hrep : 386547096 ≤ ps.data.reputation 7 := by decide
  exact ⟨hupd, hconn, hrep, onReportPeer_fatal_keeps "" hupd hconn hrep⟩

/-- Setting both modes to one value reconfigures. -/
theorem reconfigures_setModes {ps : Peerset P} (h : ps.data.SlotsCounted) (b : Bool) :
    Reconfigures ps { ps with reservedOnly := b, data := ps.data.setPriorityOnly b } :=
  ⟨fun _ => rfl, rfl, PeersState.slotsCounted_setPriorityOnly h b, fun _ => rfl⟩

/-- Every handler of an action, from a state whose counters are right, is a reconfiguration
followed by an operation that only connects, or by one that only disconnects: at most one
node, or, from `on_set_reserved_only(true)`, nodes that are not reserved, in reserved-only
mode. -/
theorem onAction_ok {ps : Peerset P} (h : ps.data.SlotsCounted) (elapsed : Nat) (a : Action P) :
    ∃ ps₁ ps' qs, ps.onAction elapsed a = .ok ps' ∧ Reconfigures ps ps₁ ∧
      (OnlyConnects ps₁ ps' qs ∨ (OnlyDrops ps₁ ps' qs ∧
        (qs.length ≤ 1 ∨
          (ps'.reservedOnly = true ∧ ∀ q ∈ qs, ps'.reserved.contains q = false)))) := by
  cases a with
  | addReservedPeer p =>
      obtain ⟨data₁, ps', qs, hrun, hkeeps, h₁, -, hview⟩ := setGroup_allocSlots_ok h
        reservedNodes (ps.reserved.insert p ()) elapsed
      exact ⟨_, ps', qs, hrun, reconfigures_setData hkeeps h₁, .inl hview⟩
  | removeReservedPeer p =>
      obtain ⟨data₁, ps', hrun, hkeeps, h₁, -, hdrops⟩ := onRemoveReservedPeer_ok h p
      refine ⟨_, ps', _, hrun, reconfigures_setData hkeeps h₁, .inr ⟨hdrops, .inl ?_⟩⟩
      split_ifs <;> simp
  | setReservedOnly reserved =>
      cases reserved with
      | true =>
          obtain ⟨ps', hrun, hdrops⟩ := onSetReservedOnly_true h elapsed
          refine ⟨_, ps', _, hrun, reconfigures_setModes h true,
            .inr ⟨hdrops, .inr ⟨hdrops.reservedOnly_eq, fun q hq => ?_⟩⟩⟩
          -- the nodes dropped are those the reserved group does not hold
          rw [reserved_eq_of_priorityNodes hdrops.priorityNodes_eq]
          show ps.reserved.contains q = false
          simpa using (List.mem_filter.mp hq).2
      | false =>
          obtain ⟨ps', qs, hrun, hview⟩ := onSetReservedOnly_false h elapsed
          exact ⟨_, ps', qs, hrun, reconfigures_setModes h false, .inl hview⟩
  | reportPeer p change =>
      obtain ⟨ps₁, ps', qs, hrun, hre, -, hdrops, hqs⟩ := onReportPeer_ok h p change elapsed
      refine ⟨ps₁, ps', qs, hrun, hre, .inr ⟨hdrops, .inl ?_⟩⟩
      rcases hqs with rfl | rfl <;> simp
  | setPriorityGroup g peers =>
      obtain ⟨data₁, ps', qs, hrun, hkeeps, h₁, -, hview⟩ := setGroup_allocSlots_ok h
        g peers elapsed
      exact ⟨_, ps', qs, hrun, reconfigures_setData hkeeps h₁, .inl hview⟩
  | addToPriorityGroup g p =>
      obtain ⟨data₁, ps', qs, hrun, hkeeps, h₁, -, hview⟩ := setGroup_allocSlots_ok h
        g (((ps.data.getPriorityGroup g).getD .empty).insert p ()) elapsed
      exact ⟨_, ps', qs, hrun, reconfigures_setData hkeeps h₁, .inl hview⟩
  | removeFromPriorityGroup g p =>
      obtain ⟨data₁, ps', qs, hrun, hkeeps, h₁, -, hview⟩ := setGroup_allocSlots_ok h
        g (((ps.data.getPriorityGroup g).getD .empty).erase p) elapsed
      exact ⟨_, ps', qs, hrun, reconfigures_setData hkeeps h₁, .inl hview⟩

/-! ### The network's calls -/

/-- What the network sees of `incoming`'s answer to a node that is not connected: one `Accept`,
with the node connected incoming, or one `Reject`, with no connection changed. A node is
accepted only when it is not banned, and is a priority node or finds a free incoming slot
outside priority-only mode. The groups and the modes are kept, and so is the invariant of the
counters. -/
structure Answers (ps ps' : Peerset P) (p : P) (index : IncomingIndex) : Prop where
  priorityNodes_eq : ps'.data.priorityNodes = ps.data.priorityNodes
  priorityOnly_eq : ps'.data.priorityOnly = ps.data.priorityOnly
  reservedOnly_eq : ps'.reservedOnly = ps.reservedOnly
  slotsCounted : ps'.data.SlotsCounted
  outcome : (ps'.messageQueue = ps.messageQueue ++ [.accept index] ∧
      (∀ q, ps'.data.connectionOf q = if q = p then .«in» else ps.data.connectionOf q) ∧
      bannedThreshold ≤ ps.data.reputation p ∧
      (ps.data.isPriority p = true ∨
        (ps.data.priorityOnly = false ∧ ps.data.slotCount .«in» < ps.data.slotLimit .«in»))) ∨
    (ps'.messageQueue = ps.messageQueue ++ [.reject index] ∧
      ∀ q, ps'.data.connectionOf q = ps.data.connectionOf q)

theorem answerIncoming_answers (ps : Peerset P) {data : PeersState P} (h : data.SlotsCounted)
    {p : P} (hp : data.connectionOf p = .notConnected) (index : IncomingIndex) :
    Answers (ps.setData data) (ps.answerIncoming data p index) p index := by
  unfold answerIncoming
  split_ifs with hban
  · exact ⟨rfl, rfl, rfl, h, .inr ⟨rfl, fun _ => rfl⟩⟩
  · cases hacc : data.tryAcceptIncoming p with
    | mk ok data' =>
        cases ok with
        | false => exact ⟨rfl, rfl, rfl, h, .inr ⟨rfl, fun _ => rfl⟩⟩
        | true =>
            have hprio := PeersState.tryConnect_priorityNodes data .«in» p
            have honly := PeersState.tryConnect_priorityOnly data .«in» p
            have h' := PeersState.slotsCounted_tryConnect h (c := .«in») nofun hp
            rw [← PeersState.tryAcceptIncoming, hacc] at hprio honly h'
            -- `try_accept_incoming` said yes: the node is a priority node or found a slot
            have hallowed : data.isPriority p = true ∨
                (data.priorityOnly = false ∧ data.slotCount .«in» < data.slotLimit .«in») := by
              rcases data.tryConnect_cases .«in» p with hnone | ⟨_, -, hallowed, -⟩
              · rw [← PeersState.tryAcceptIncoming, hacc] at hnone
                cases hnone
              · exact hallowed
            exact ⟨hprio, honly, rfl, h', .inl ⟨rfl, PeersState.tryConnect_connectionOf hacc,
              not_lt.mp hban, hallowed⟩⟩

/-- `incoming` does not panic: it brings reputations up to date and makes the node known; then
it answers nothing when the node is connected, and otherwise one `Accept` or `Reject`. -/
theorem incoming_ok {ps : Peerset P} (h : ps.data.SlotsCounted) (p : P) (index : IncomingIndex)
    (elapsed : Nat) :
    ∃ ps₁ ps', ps.incoming p index elapsed = .ok ps' ∧ Reconfigures ps ps₁ ∧
      ps₁.reservedOnly = ps.reservedOnly ∧ ps₁.data.priorityNodes = ps.data.priorityNodes ∧
      ((ps.data.connectionOf p ≠ .notConnected ∧ ps' = ps₁) ∨
        (ps.data.connectionOf p = .notConnected ∧ Answers ps₁ ps' p index)) := by
  obtain ⟨data₀, hupd, hsame₀, -⟩ := updateTime_ok ps elapsed
  set ps₀ : Peerset P :=
    { ps with data := data₀, latestTimeUpdate := ps.latestTimeUpdate + elapsed }
  have hre₀ : Reconfigures ps ps₀ := reconfigures_of_same hsame₀ rfl rfl h
  cases hpeer : data₀.peer p with
  | connected =>
      have hp : ps.data.connectionOf p ≠ .notConnected := by
        rw [← hsame₀.connectionOf_eq]
        exact (PeersState.peer_eq_connected_iff _ _).mp hpeer
      refine ⟨ps₀, ps₀, ?_, hre₀, rfl, hsame₀.priorityNodes_eq, .inl ⟨hp, rfl⟩⟩
      simp [incoming, hupd, ps₀, hpeer, bind, Except.bind, pure, Except.pure]
  | notConnected =>
      have hp : data₀.connectionOf p = .notConnected :=
        ((PeersState.peer_eq_notConnected_iff _ _).mp hpeer).2
      refine ⟨ps₀.setData data₀, _, ?_, hre₀, rfl, hsame₀.priorityNodes_eq,
        .inr ⟨by rw [← hsame₀.connectionOf_eq]; exact hp,
          answerIncoming_answers ps₀ hre₀.slotsCounted hp index⟩⟩
      simp [incoming, hupd, ps₀, hpeer, bind, Except.bind, pure, Except.pure]
  | unknown =>
      have hnone := (PeersState.peer_eq_unknown_iff _ _).mp hpeer
      have hsame := PeersState.sameConnections_discover hnone
      have hp : (data₀.discover p).connectionOf p = .notConnected := by
        rw [hsame.connectionOf_eq]
        exact PeersState.connectionOf_of_find?_none hnone
      have hre : Reconfigures ps (ps₀.setData (data₀.discover p)) :=
        hre₀.trans (reconfigures_of_same hsame rfl rfl hre₀.slotsCounted)
      refine ⟨ps₀.setData (data₀.discover p), _, ?_, hre, rfl,
        hsame.priorityNodes_eq.trans hsame₀.priorityNodes_eq,
        .inr ⟨by rw [← hsame₀.connectionOf_eq, ← hsame.connectionOf_eq]; exact hp,
          answerIncoming_answers ps₀ hre.slotsCounted hp index⟩⟩
      simp [incoming, hupd, ps₀, hpeer, bind, Except.bind, pure, Except.pure]

/-- `dropped` does not panic: the node is no longer connected, silently, with its reputation
lowered when it was connected; then `alloc_slots` runs. -/
theorem dropped_ok {ps : Peerset P} (h : ps.data.SlotsCounted) (p : P) (elapsed₁ elapsed₂ : Nat) :
    ∃ ps₁ ps' qs, ps.dropped p elapsed₁ elapsed₂ = .ok ps' ∧
      (∀ q, ps₁.data.connectionOf q = if q = p then .notConnected else ps.data.connectionOf q) ∧
      ps₁.messageQueue = ps.messageQueue ∧ ps₁.reservedOnly = ps.reservedOnly ∧
      ps₁.data.priorityNodes = ps.data.priorityNodes ∧
      ps₁.data.priorityOnly = ps.data.priorityOnly ∧ ps₁.data.SlotsCounted ∧
      OnlyConnects ps₁ ps' qs := by
  obtain ⟨data₀, hupd, hsame₀, -⟩ := updateTime_ok ps elapsed₁
  set ps₀ : Peerset P :=
    { ps with data := data₀, latestTimeUpdate := ps.latestTimeUpdate + elapsed₁ }
  have h₀ : data₀.SlotsCounted := hsame₀.slotsCounted h
  cases hpeer : data₀.peer p with
  | connected =>
      set data := data₀.addReputation p disconnectReputationChange
      have hsame := PeersState.sameConnections_addReputation data₀ p disconnectReputationChange
      have hp : data.connectionOf p ≠ .notConnected := by
        rw [hsame.connectionOf_eq]
        exact (PeersState.peer_eq_connected_iff _ _).mp hpeer
      obtain ⟨data₂, hdis, h₂, hconn, hprio, honly, -⟩ :=
        PeersState.disconnect_connectionOf (hsame.slotsCounted h₀) hp
      have h₂' : (ps₀.setData data₂).data.SlotsCounted := h₂
      obtain ⟨ps', qs, halloc, hview⟩ := allocSlots_onlyConnects h₂' elapsed₂
      refine ⟨ps₀.setData data₂, ps', qs, ?_, fun q => ?_, rfl, rfl,
        by rw [data_setData, hprio, hsame.priorityNodes_eq, hsame₀.priorityNodes_eq],
        by rw [data_setData, honly, hsame.priorityOnly_eq, hsame₀.priorityOnly_eq], h₂', hview⟩
      · simp only [dropped, hupd, ps₀, hpeer, hdis, bind, Except.bind, pure, Except.pure]
        exact halloc
      · rw [data_setData, hconn, hsame.connectionOf_eq, hsame₀.connectionOf_eq]
  | notConnected | unknown =>
      -- the node was not connected: nothing changes before `alloc_slots`
      have hp : data₀.connectionOf p = .notConnected := by
        by_contra hne
        rw [(PeersState.peer_eq_connected_iff _ _).mpr hne] at hpeer
        cases hpeer
      have h₀' : ps₀.data.SlotsCounted := h₀
      obtain ⟨ps', qs, halloc, hview⟩ := allocSlots_onlyConnects h₀' elapsed₂
      refine ⟨ps₀, ps', qs, ?_, fun q => ?_, rfl, rfl, hsame₀.priorityNodes_eq,
        hsame₀.priorityOnly_eq, h₀', hview⟩
      · simp only [dropped, hupd, ps₀, hpeer, bind, Except.bind, pure, Except.pure]
        exact halloc
      · show data₀.connectionOf q = _
        split_ifs with hq
        · rw [hq, hp]
        · rw [hsame₀.connectionOf_eq]

theorem OnlyConnects.refl {ps : Peerset P} (h : ps.data.SlotsCounted) : OnlyConnects ps ps [] :=
  ⟨.nil, fun _ h => absurd h List.not_mem_nil, fun q => by simp, by simp, rfl, rfl, rfl,
    fun _ _ h => absurd h List.not_mem_nil, h⟩

/-- A fold whose every step keeps the connections keeps them. -/
theorem foldl_sameConnections {α : Type} (f : α → P → α) (data : α → PeersState P)
    (hf : ∀ acc p, PeersState.SameConnections (data acc) (data (f acc p))) (l : List P) :
    ∀ acc, PeersState.SameConnections (data acc) (data (l.foldl f acc)) := by
  induction l with
  | nil => exact fun acc => .refl _
  | cons p ps ih => exact fun acc => (hf acc p).trans (ih (f acc p))

/-- The loop of `discovered` only makes nodes known. -/
theorem discoverAll_same (data : PeersState P) (l : List P) :
    PeersState.SameConnections data (discoverAll data l).1 := by
  refine foldl_sameConnections _ Prod.fst (fun acc p => ?_) l (data, false)
  split
  · rename_i hpeer
    exact PeersState.sameConnections_discover ((PeersState.peer_eq_unknown_iff _ _).mp hpeer)
  · exact .refl _

/-- `discovered` does not panic, and only connects. -/
theorem discovered_ok {ps : Peerset P} (h : ps.data.SlotsCounted) (l : List P) (elapsed : Nat) :
    ∃ ps' qs, ps.discovered l elapsed = .ok ps' ∧ OnlyConnects ps ps' qs := by
  have hsame := discoverAll_same ps.data l
  have h₁ : (ps.setData (discoverAll ps.data l).1).data.SlotsCounted := hsame.slotsCounted h
  unfold discovered
  cases hany : (discoverAll ps.data l).2 with
  | false =>
      exact ⟨_, [], by simp [hany, pure, Except.pure], (OnlyConnects.refl h₁).of_same hsame rfl rfl⟩
  | true =>
      obtain ⟨ps', qs, halloc, hview⟩ := allocSlots_onlyConnects h₁ elapsed
      exact ⟨ps', qs, by simp [hany, halloc], hview.of_same hsame rfl rfl⟩

/-! ### Construction -/

/-- The loop over the boot nodes only makes nodes known. -/
theorem foldl_discoverBootnode_same (l : List P) (data : PeersState P) :
    PeersState.SameConnections data (l.foldl discoverBootnode data) := by
  refine foldl_sameConnections discoverBootnode id (fun acc p => ?_) l data
  unfold discoverBootnode
  split
  · rename_i hpeer
    exact PeersState.sameConnections_discover ((PeersState.peer_eq_unknown_iff _ _).mp hpeer)
  · exact .refl _

/-- `from_config` does not panic: it builds a manager with nothing connected and nothing queued,
whose `priority_only` is its `reserved_only`, and then only connects. -/
theorem fromConfig_ok (config : PeersetConfig P) (elapsed : Nat) :
    ∃ ps₀ ps qs, fromConfig config elapsed = .ok ps ∧ ps₀.messageQueue = [] ∧
      ps₀.data.SlotsCounted ∧ ps₀.data.priorityOnly = ps₀.reservedOnly ∧
      (∀ q, ps₀.data.connectionOf q = .notConnected) ∧ OnlyConnects ps₀ ps qs := by
  let ps : Peerset P := ⟨PeersState.new config.inPeers config.outPeers config.reservedOnly,
    config.reservedOnly, [], 0⟩
  obtain ⟨data₁, hset, h₁, hkeeps, -⟩ := PeersState.setPriorityGroup_ok
    (PeersState.slotsCounted_new config.inPeers config.outPeers config.reservedOnly)
    reservedNodes (toSortedSet config.reservedNodes)
  have hsame := foldl_discoverBootnode_same config.bootnodes data₁
  let ps₀ := ps.setData (config.bootnodes.foldl discoverBootnode data₁)
  have h₀ : ps₀.data.SlotsCounted := hsame.slotsCounted h₁
  obtain ⟨ps', qs, halloc, hview⟩ := allocSlots_onlyConnects h₀ elapsed
  refine ⟨ps₀, ps', qs, ?_, rfl, h₀, ?_, fun q => ?_, hview⟩
  · simp only [fromConfig, bind, Except.bind]
    rw [hset]
    exact halloc
  · show (config.bootnodes.foldl discoverBootnode data₁).priorityOnly = config.reservedOnly
    rw [hsame.priorityOnly_eq, hkeeps.priorityOnly_eq]
    rfl
  · show (config.bootnodes.foldl discoverBootnode data₁).connectionOf q = _
    rw [hsame.connectionOf_eq, hkeeps.connectionOf_eq]
    exact PeersState.connectionOf_new _ _ _ q

end Peerset

end ScPeerset
