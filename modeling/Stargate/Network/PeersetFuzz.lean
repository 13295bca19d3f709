import Mathlib
import Stargate.Lib.Transition
import Stargate.Network.PeersetCalls
import Stargate.Network.PeersetNetwork

/-!
# Stargate.Network.PeersetFuzz

The peer set manager and the network together, as the fuzz test
(src/network-libp2p/peerset/tests/fuzz.rs) runs them: a transition system whose state is the
manager, the actions sent on its channel and not yet received, and the network's bookkeeping.
The network calls `incoming` only for a node it is neither connected to nor waiting on, and
`dropped` only for a node it is connected to; `discovered`, any action of a handle, and a poll
can happen at any time, in any order.

The messages queued and not yet read are the difference between the two views. `Synced` says
that the network that read them all would see the manager's connections, with what makes this
last: the `Drop`s queued come first and, all from `on_set_reserved_only(true)`, are for nodes a
reserved-only manager will not connect again; a node the network is connected to has no
`Connect` queued; the indices answered were given out. The one `Drop` that `on_report_peer` or
`on_remove_reserved_peer` may queue is returned by the same poll, before any other action runs.

The main theorem is that in every state reachable by any interleaving, every call the test may
make returns without a panic and every message it reads passes its assertions.
-/

namespace ScPeerset

/-! ### The invariant -/

section Synced

variable {P : Type} [LinearOrder P]

open Peerset

/-- The manager `ps` and the network `u` agree up to the messages queued: the network that read
them all would see the manager's connections. The manager's counters are right and its
`priority_only` is its `reserved_only`. The `Drop`s queued come first and are for nodes a
reserved-only manager does not connect; no `Connect` is queued for a node the network is
connected to; the indices answered were given out. -/
structure Synced (ps : Peerset P) (u : User P) : Prop where
  slotsCounted : ps.data.SlotsCounted
  modes : ps.data.priorityOnly = ps.reservedOnly
  dropsFirst : DropsFirst ps.messageQueue
  dropsUnreserved : ∀ q, .drop q ∈ ps.messageQueue →
    ps.reservedOnly = true ∧ ps.reserved.contains q = false
  replay : ∃ u', u.receiveAll ps.messageQueue = some u' ∧
    ∀ q, q ∈ u'.connectedNodes ↔ ps.data.connectionOf q ≠ .notConnected
  quiet : ∀ q ∈ u.connectedNodes, .connect q ∉ ps.messageQueue
  wellFormed : u.WellFormed
  freshQueued : ∀ n, (.accept n ∈ ps.messageQueue ∨ .reject n ∈ ps.messageQueue) →
    n.val < u.nextIncomingId

/-- With nothing queued, the invariant is that the network sees the manager's connections. -/
theorem synced_of_empty {ps : Peerset P} {u : User P} (hQ : ps.messageQueue = [])
    (hslots : ps.data.SlotsCounted) (hmodes : ps.data.priorityOnly = ps.reservedOnly)
    (hu : u.WellFormed)
    (hconn : ∀ q, q ∈ u.connectedNodes ↔ ps.data.connectionOf q ≠ .notConnected) :
    Synced ps u := by
  refine ⟨hslots, hmodes, ?_, fun q hq => ?_, ⟨u, by rw [hQ]; rfl, hconn⟩, fun q _ hq => ?_,
    hu, fun n hn => ?_⟩
  · rw [hQ]
    exact .nil
  · rw [hQ] at hq
    exact absurd hq List.not_mem_nil
  · rw [hQ] at hq
    exact List.not_mem_nil hq
  · simp [hQ] at hn

theorem Synced.connected_iff {ps : Peerset P} {u : User P} (h : Synced ps u)
    (hQ : ps.messageQueue = []) (q : P) :
    q ∈ u.connectedNodes ↔ ps.data.connectionOf q ≠ .notConnected := by
  obtain ⟨u', hu', hiff⟩ := h.replay
  rw [hQ] at hu'
  cases hu'
  exact hiff q

/-- A reconfiguration that keeps the mode and the groups keeps the invariant. -/
theorem Synced.reconfigure {ps ps₁ : Peerset P} {u : User P} (h : Synced ps u)
    (hr : Reconfigures ps ps₁) (hro : ps₁.reservedOnly = ps.reservedOnly)
    (hprio : ps₁.data.priorityNodes = ps.data.priorityNodes) : Synced ps₁ u := by
  obtain ⟨u', hu', hiff⟩ := h.replay
  have hres := reserved_eq_of_priorityNodes hprio
  have hQ := hr.messageQueue_eq
  refine ⟨hr.slotsCounted, hr.modes h.modes, hQ ▸ h.dropsFirst, fun q hq => ?_,
    ⟨u', hQ ▸ hu', fun q => ?_⟩, fun q hq => hQ ▸ h.quiet q hq, h.wellFormed,
    fun n hn => h.freshQueued n (hQ ▸ hn)⟩
  · rw [hro, hres]
    exact h.dropsUnreserved q (hQ ▸ hq)
  · rw [hr.connectionOf_eq]
    exact hiff q

/-- With nothing queued, any reconfiguration keeps the invariant. -/
theorem Synced.reconfigure_empty {ps ps₁ : Peerset P} {u : User P} (h : Synced ps u)
    (hQ : ps.messageQueue = []) (hr : Reconfigures ps ps₁) : Synced ps₁ u :=
  synced_of_empty (hr.messageQueue_eq.trans hQ) hr.slotsCounted (hr.modes h.modes) h.wellFormed
    fun q => by
    rw [hr.connectionOf_eq]
    exact h.connected_iff hQ q

/-- Queuing `Connect`s for nodes not connected keeps the invariant: a node the network is
connected to and the manager is not has a `Drop` queued, so it is not reserved, and in
reserved-only mode only reserved nodes are connected. -/
theorem Synced.onlyConnects {ps ps' : Peerset P} {u : User P} {qs : List P} (h : Synced ps u)
    (hc : OnlyConnects ps ps' qs) : Synced ps' u := by
  obtain ⟨u', hu', hiff⟩ := h.replay
  have hres := reserved_eq_of_priorityNodes hc.priorityNodes_eq
  have hout : ∀ q ∈ qs, q ∉ u'.connectedNodes := fun q hq hmem =>
    (hiff q).mp hmem (hc.notConnected q hq)
  obtain ⟨u'', hu'', hconn⟩ := User.receiveAll_connects qs hc.nodup u' hout
  have hfree : ∀ m ∈ qs.map Message.connect, m.isDrop = false := by
    simp only [List.mem_map]
    rintro m ⟨q, -, rfl⟩
    rfl
  have hQ := hc.messageQueue_eq
  refine ⟨hc.slotsCounted, ?_, ?_, fun q hq => ?_, ⟨u'', ?_, fun q => ?_⟩,
    fun q hq hmem => ?_, h.wellFormed, fun n hn => ?_⟩
  · rw [hc.priorityOnly_eq, hc.reservedOnly_eq]
    exact h.modes
  · rw [hQ]
    exact h.dropsFirst.append_of_dropFree hfree
  · rw [hc.reservedOnly_eq, hres]
    exact h.dropsUnreserved q (by simpa [hQ] using hq)
  · rw [hQ, User.receiveAll_append, hu', Option.bind_some]
    exact hu''
  · rw [hconn, Finset.mem_union, hiff, List.mem_toFinset, hc.connectionOf_eq]
    by_cases hq : q ∈ qs
    · simp [hq]
    · simp [hq]
  · rcases List.mem_append.mp (hQ ▸ hmem) with hmem | hmem
    · exact h.quiet q hq hmem
    · -- the node was disconnected by the manager: its `Drop` is queued, so it is not reserved
      have hqs : q ∈ qs := by simpa using hmem
      have hdrop := User.drop_mem_of_receiveAll hu' hq (hout q hqs)
      obtain ⟨hro, hnot⟩ := h.dropsUnreserved q hdrop
      have hkey := hc.reserved hro q hqs
      rw [SortedMap.mem_keys_iff] at hkey
      rw [SortedMap.contains_eq, hkey] at hnot
      cases hnot
  · exact h.freshQueued n (by simpa [hQ] using hn)

/-- From an empty queue, queuing `Drop`s for connected nodes keeps the invariant when they are
not reserved, in reserved-only mode. -/
theorem Synced.onlyDrops {ps ps' : Peerset P} {u : User P} {qs : List P} (h : Synced ps u)
    (hQ : ps.messageQueue = []) (hd : OnlyDrops ps ps' qs)
    (hqs : ∀ q ∈ qs, ps'.reservedOnly = true ∧ ps'.reserved.contains q = false) :
    Synced ps' u := by
  have hQ' : ps'.messageQueue = qs.map .drop := by rw [hd.messageQueue_eq, hQ, List.nil_append]
  obtain ⟨u', hu', hconn⟩ := User.receiveAll_drops qs u
  refine ⟨hd.slotsCounted, ?_, ?_, fun q hq => ?_, ⟨u', ?_, fun q => ?_⟩, fun q _ hmem => ?_,
    h.wellFormed, fun n hn => ?_⟩
  · rw [hd.priorityOnly_eq, hd.reservedOnly_eq]
    exact h.modes
  · rw [hQ']
    exact dropsFirst_of_drops (by simp [Message.isDrop])
  · exact hqs q (by simpa [hQ'] using hq)
  · rw [hQ']
    exact hu'
  · rw [hconn, Finset.mem_sdiff, h.connected_iff hQ, List.mem_toFinset, hd.connectionOf_eq]
    by_cases hq : q ∈ qs
    · simp [hq]
    · simp [hq]
  · simp [hQ'] at hmem
  · simp [hQ'] at hn

/-- From an empty queue, one `Drop` read at once keeps the invariant. -/
theorem Synced.dropOne {ps ps' : Peerset P} {u : User P} {q : P} (h : Synced ps u)
    (hQ : ps.messageQueue = []) (hd : OnlyDrops ps ps' [q]) :
    Synced { ps' with messageQueue := [] } (u.eraseConnected q) :=
  synced_of_empty rfl hd.slotsCounted
    (by rw [hd.priorityOnly_eq, hd.reservedOnly_eq]; exact h.modes)
    (User.eraseConnected_wellFormed h.wellFormed q) fun r => by
    show r ∈ u.connectedNodes.erase q ↔ ps'.data.connectionOf r ≠ .notConnected
    rw [Finset.mem_erase, h.connected_iff hQ, hd.connectionOf_eq]
    by_cases hr : r = q
    · simp [hr]
    · simp [hr]

/-- Reading the first message queued keeps the invariant. -/
theorem Synced.pop {ps : Peerset P} {u : User P} {m : Message P} {rest : List (Message P)}
    (h : Synced ps u) (hQ : ps.messageQueue = m :: rest) :
    ∃ u₁, u.receive m = some u₁ ∧ Synced { ps with messageQueue := rest } u₁ := by
  obtain ⟨u', hu', hiff⟩ := h.replay
  rw [hQ] at hu'
  obtain ⟨u₁, h₁, h'⟩ := Option.bind_eq_some_iff.mp hu'
  have hd : DropsFirst (m :: rest) := hQ ▸ h.dropsFirst
  have hmem : ∀ m', m' ∈ rest → m' ∈ ps.messageQueue := fun m' hm' => by
    rw [hQ]
    exact List.mem_cons_of_mem _ hm'
  refine ⟨u₁, h₁, h.slotsCounted, h.modes, hd.of_cons, fun q hq => h.dropsUnreserved q (hmem _ hq),
    ⟨u', h', hiff⟩, fun q hq hconn => ?_, User.receive_wellFormed h.wellFormed h₁,
    fun n hn => ?_⟩
  · -- after a message other than a `Drop` the queue is free of them; a `Drop` only disconnects
    cases hdrop : m.isDrop with
    | false => exact (User.receiveAll_of_dropFree h' (hd.dropFree_of_cons hdrop)).2 q hq hconn
    | true =>
        cases m with
        | drop id =>
            cases h₁
            exact h.quiet q (Finset.mem_of_mem_erase hq) (hmem _ hconn)
        | connect _ | accept _ | reject _ => cases hdrop
  · rw [(User.receive_keeps_incoming h₁).2]
    exact h.freshQueued n (hn.imp (hmem _) (hmem _))

/-- An `incoming` call, with the answer not yet given, keeps the invariant. -/
theorem Synced.addIncoming {ps : Peerset P} {u : User P} {p : P} (h : Synced ps u)
    (hp : p ∉ u.connectedNodes) (hpend : ∀ e ∈ u.incomingNodes, e.2 ≠ p) :
    Synced ps (u.addIncoming p) := by
  obtain ⟨u', hu', hiff⟩ := h.replay
  obtain ⟨v', hv', hrel', -⟩ := User.receiveAll_withIncoming
    (User.withIncoming_addIncoming h.wellFormed hpend) hu'
    fun n' hn' => User.ne_of_val_lt (h.freshQueued n' hn')
  refine ⟨h.slotsCounted, h.modes, h.dropsFirst, h.dropsUnreserved, ⟨v', hv', fun q => ?_⟩,
    h.quiet,
    User.addIncoming_wellFormed h.wellFormed hp hpend,
    fun n hn => Nat.lt_succ_of_lt (h.freshQueued n hn)⟩
  rw [hrel'.connectedNodes_eq]
  exact hiff q

/-- The answer to an `incoming` call for a node not connected keeps the invariant: the network,
having read what was queued before, still waits on the node under that index, as no `Connect`
for it is queued. -/
theorem Synced.answers {ps ps' : Peerset P} {u : User P} {p : P} (h : Synced ps u)
    (hp : p ∉ u.connectedNodes) (hpend : ∀ e ∈ u.incomingNodes, e.2 ≠ p)
    (hnc : ps.data.connectionOf p = .notConnected)
    (ha : Answers ps ps' p ⟨u.nextIncomingId⟩) : Synced ps' (u.addIncoming p) := by
  obtain ⟨u', hu', hiff⟩ := h.replay
  obtain ⟨v', hv', hrel', hkeep⟩ := User.receiveAll_withIncoming
    (User.withIncoming_addIncoming h.wellFormed hpend) hu'
    fun n' hn' => User.ne_of_val_lt (h.freshQueued n' hn')
  have hpu' : p ∉ u'.connectedNodes := fun hmem => (hiff p).mp hmem hnc
  have hI : v'.incomingNodes = u'.incomingNodes ++ [(⟨u.nextIncomingId⟩, p)] :=
    hkeep (fun hmem => hpu' (User.mem_of_connect_mem hu' h.dropsFirst hmem))
      (User.addIncoming_incomingNodes h.wellFormed p)
  -- the index is found, with the node, at the end of what the network waits on
  have hget : AssocMap.get (· == ·) v'.incomingNodes ⟨u.nextIncomingId⟩ = some p := by
    rw [hI]
    refine AssocMap.get_append_singleton p ?_ (beq_self_eq_true _)
    simp only [AssocMap.containsKey, List.any_eq_false, beq_iff_eq]
    exact fun e he => User.ne_of_val_lt
      (h.wellFormed.fresh e ((User.receiveAll_keeps_incoming hu').1.subset he))
  have hpv' : p ∉ v'.connectedNodes := by
    rw [hrel'.connectedNodes_eq]
    exact hpu'
  obtain ⟨m, hQ', hm, hreplay⟩ : ∃ m, ps'.messageQueue = ps.messageQueue ++ [m] ∧
      (m = .accept ⟨u.nextIncomingId⟩ ∨ m = .reject ⟨u.nextIncomingId⟩) ∧
      ∃ w, v'.receive m = some w ∧
        ∀ q, q ∈ w.connectedNodes ↔ ps'.data.connectionOf q ≠ .notConnected := by
    rcases ha.outcome with ⟨hQ', hconn', -⟩ | ⟨hQ', hconn'⟩
    · refine ⟨_, hQ', .inl rfl, ⟨insert p v'.connectedNodes,
        User.removeIncoming v'.incomingNodes ⟨u.nextIncomingId⟩, v'.nextIncomingId⟩,
        by simp [User.receive, hget, hpv'], fun q => ?_⟩
      rw [Finset.mem_insert, hrel'.connectedNodes_eq, hiff, hconn']
      by_cases hq : q = p
      · simp [hq]
      · simp [hq]
    · refine ⟨_, hQ', .inr rfl, ⟨v'.connectedNodes,
        User.removeIncoming v'.incomingNodes ⟨u.nextIncomingId⟩, v'.nextIncomingId⟩,
        by simp [User.receive, hget, hpv'], fun q => ?_⟩
      rw [hrel'.connectedNodes_eq, hiff, hconn']
  obtain ⟨w, hw, hwiff⟩ := hreplay
  have hfree : ∀ m' ∈ [m], m'.isDrop = false := by
    rcases hm with rfl | rfl <;> simp [Message.isDrop]
  have hres := reserved_eq_of_priorityNodes ha.priorityNodes_eq
  refine ⟨ha.slotsCounted, ?_, ?_, fun q hq => ?_, ⟨w, ?_, hwiff⟩, fun q hq hmem => ?_,
    User.addIncoming_wellFormed h.wellFormed hp hpend, fun n hn => ?_⟩
  · rw [ha.priorityOnly_eq, ha.reservedOnly_eq]
    exact h.modes
  · rw [hQ']
    exact h.dropsFirst.append_of_dropFree hfree
  · rw [ha.reservedOnly_eq, hres]
    refine h.dropsUnreserved q ?_
    rcases List.mem_append.mp (hQ' ▸ hq) with hq | hq
    · exact hq
    · rcases hm with rfl | rfl <;> simp at hq
  · rw [hQ', User.receiveAll_append, hv', Option.bind_some]
    simp [User.receiveAll, hw]
  · rcases List.mem_append.mp (hQ' ▸ hmem) with hmem | hmem
    · exact h.quiet q hq hmem
    · rcases hm with rfl | rfl <;> simp at hmem
  · -- the index answered is the one given out last
    show n.val < u.nextIncomingId + 1
    simp only [hQ', List.mem_append, List.mem_singleton] at hn
    rcases hn with (hn | hn) | (hn | hn)
    · exact Nat.lt_succ_of_lt (h.freshQueued n (.inl hn))
    · rcases hm with rfl | rfl <;> cases hn
      exact Nat.lt_succ_self _
    · exact Nat.lt_succ_of_lt (h.freshQueued n (.inr hn))
    · rcases hm with rfl | rfl <;> cases hn
      exact Nat.lt_succ_self _

/-- The network's `dropped` call, before the manager's: the invariant holds of the manager that
no longer counts the node connected. -/
theorem Synced.eraseConnected {ps ps₁ : Peerset P} {u : User P} {q : P} (h : Synced ps u)
    (hq : q ∈ u.connectedNodes)
    (hconn : ∀ r, ps₁.data.connectionOf r = if r = q then .notConnected else ps.data.connectionOf r)
    (hQ : ps₁.messageQueue = ps.messageQueue) (hro : ps₁.reservedOnly = ps.reservedOnly)
    (hprio : ps₁.data.priorityNodes = ps.data.priorityNodes)
    (honly : ps₁.data.priorityOnly = ps.data.priorityOnly) (hslots : ps₁.data.SlotsCounted) :
    Synced ps₁ (u.eraseConnected q) := by
  obtain ⟨u', hu', hiff⟩ := h.replay
  have hres := reserved_eq_of_priorityNodes hprio
  have hpend : ∀ e ∈ u.incomingNodes, e.2 ≠ q := fun e he heq =>
    h.wellFormed.disjoint e he (heq ▸ hq)
  refine ⟨hslots, by rw [honly, hro]; exact h.modes, hQ ▸ h.dropsFirst, fun r hr => ?_,
    ⟨u'.eraseConnected q, ?_, fun r => ?_⟩,
    fun r hr hmem => h.quiet r (Finset.mem_of_mem_erase hr) (hQ ▸ hmem),
    User.eraseConnected_wellFormed h.wellFormed q, fun n hn => h.freshQueued n (hQ ▸ hn)⟩
  · rw [hro, hres]
    exact h.dropsUnreserved r (hQ ▸ hr)
  · rw [hQ]
    exact User.receiveAll_eraseConnected hu' (h.quiet q hq) hpend
  · show r ∈ u'.connectedNodes.erase q ↔ _
    rw [Finset.mem_erase, hiff, hconn]
    by_cases hr : r = q
    · simp [hr]
    · simp [hr]

end Synced

/-! ### The manager's entry points keep the invariant -/

section Calls

variable {P : Type} [LinearOrder P]

open Peerset

theorem Synced.incoming {ps : Peerset P} {u : User P} {p : P} (h : Synced ps u)
    (hp : p ∉ u.connectedNodes) (hpend : ∀ e ∈ u.incomingNodes, e.2 ≠ p) (elapsed : Nat) :
    ∃ ps', ps.incoming p ⟨u.nextIncomingId⟩ elapsed = .ok ps' ∧
      Synced ps' (u.addIncoming p) := by
  obtain ⟨ps₁, ps', hrun, hr, hro, hprio, hcase⟩ :=
    incoming_ok h.slotsCounted p ⟨u.nextIncomingId⟩ elapsed
  have h₁ := h.reconfigure hr hro hprio
  rcases hcase with ⟨-, rfl⟩ | ⟨hnc, ha⟩
  · exact ⟨_, hrun, h₁.addIncoming hp hpend⟩
  · refine ⟨ps', hrun, h₁.answers hp hpend ?_ ha⟩
    rw [hr.connectionOf_eq]
    exact hnc

theorem Synced.dropped {ps : Peerset P} {u : User P} {q : P} (h : Synced ps u)
    (hq : q ∈ u.connectedNodes) (elapsed₁ elapsed₂ : Nat) :
    ∃ ps', ps.dropped q elapsed₁ elapsed₂ = .ok ps' ∧ Synced ps' (u.eraseConnected q) := by
  obtain ⟨ps₁, ps', qs, hrun, hconn, hQ, hro, hprio, honly, hslots, hc⟩ :=
    dropped_ok h.slotsCounted q elapsed₁ elapsed₂
  exact ⟨ps', hrun, (h.eraseConnected hq hconn hQ hro hprio honly hslots).onlyConnects hc⟩

theorem Synced.discovered {ps : Peerset P} {u : User P} (h : Synced ps u) (peerIds : List P)
    (elapsed : Nat) : ∃ ps', ps.discovered peerIds elapsed = .ok ps' ∧ Synced ps' u := by
  obtain ⟨ps', qs, hrun, hc⟩ := discovered_ok h.slotsCounted peerIds elapsed
  exact ⟨ps', hrun, h.onlyConnects hc⟩

/-- A poll that finds a message queued returns it, and the network reads it. -/
theorem Synced.pollNext_of_cons {ps : Peerset P} {u : User P} {m : Message P}
    {rest : List (Message P)} (h : Synced ps u) (hQ : ps.messageQueue = m :: rest)
    (rx : List (Action P)) (elapsed : Nat → Nat) :
    ∃ res ps' rx', pollNext rx ps elapsed = .ok (res, ps', rx') ∧
      ∃ u', u.receiveAll res.toList = some u' ∧ Synced ps' u' := by
  obtain ⟨u₁, h₁, h'⟩ := h.pop hQ
  exact ⟨some m, _, rx, Peerset.pollNext.eq_1 ps elapsed rx m rest hQ, u₁,
    by simp [User.receiveAll, h₁], h'⟩

/-- `poll_next` does not panic, and the message it returns, if any, passes the network's
assertions. The induction is on the actions received; each runs from an empty queue, and the
one `Drop` some of them queue is returned before the next runs. -/
theorem Synced.pollNext (rx : List (Action P)) : ∀ (ps : Peerset P) (u : User P)
    (elapsed : Nat → Nat), Synced ps u →
    ∃ res ps' rx', Peerset.pollNext rx ps elapsed = .ok (res, ps', rx') ∧
      ∃ u', u.receiveAll res.toList = some u' ∧ Synced ps' u' := by
  induction rx with
  | nil =>
      intro ps u elapsed h
      cases hQ : ps.messageQueue with
      | cons m rest => exact h.pollNext_of_cons hQ [] elapsed
      | nil =>
          refine ⟨none, ps, [], ?_, u, rfl, h⟩
          simp only [Peerset.pollNext, hQ]
          rfl
  | cons a rx ih =>
      intro ps u elapsed h
      cases hQ : ps.messageQueue with
      | cons m rest => exact h.pollNext_of_cons hQ (a :: rx) elapsed
      | nil =>
          obtain ⟨ps₁, ps', qs, hrun, hr, hview⟩ := onAction_ok h.slotsCounted (elapsed 0) a
          have h₁ := h.reconfigure_empty hQ hr
          have hQ₁ : ps₁.messageQueue = [] := hr.messageQueue_eq.trans hQ
          -- the action is handled, and the poll goes on with the next
          have hstep : Peerset.pollNext (a :: rx) ps elapsed =
              Peerset.pollNext rx ps' fun i => elapsed (i + 1) := by
            simp only [Peerset.pollNext, hQ]
            simp only [bind, Except.bind, hrun]
          rw [hstep]
          rcases hview with hc | ⟨hd, hlen | hres⟩
          · exact ih ps' u _ (h₁.onlyConnects hc)
          · match qs, hlen, hd with
            | [], _, hd =>
                exact ih ps' u _ (h₁.onlyDrops hQ₁ hd fun _ hq => absurd hq List.not_mem_nil)
            | [q], _, hd =>
                -- the one `Drop` is returned at once
                have hQ' : ps'.messageQueue = [.drop q] := by
                  rw [hd.messageQueue_eq, hQ₁]
                  rfl
                exact ⟨some (.drop q), _, rx, Peerset.pollNext.eq_1 _ _ rx _ [] hQ', _, rfl,
                  h₁.dropOne hQ₁ hd⟩
            | _ :: _ :: _, hlen, _ => simp at hlen
          · exact ih ps' u _ (h₁.onlyDrops hQ₁ hd fun q hq => ⟨hres.1, hres.2 q hq⟩)

/-- `from_config` does not panic, and its manager is in step with a network connected to
nothing. -/
theorem fromConfig_synced (config : PeersetConfig P) (elapsed : Nat) :
    ∃ ps, Peerset.fromConfig config elapsed = .ok ps ∧ Synced ps ⟨∅, [], 0⟩ := by
  obtain ⟨ps₀, ps, qs, hrun, hQ, hslots, hmodes, hconn, hc⟩ := fromConfig_ok config elapsed
  have hu : (⟨∅, [], 0⟩ : User P).WellFormed :=
    ⟨fun _ he => absurd he List.not_mem_nil, .nil, fun _ he => absurd he List.not_mem_nil⟩
  have h₀ : Synced ps₀ ⟨∅, [], 0⟩ := synced_of_empty hQ hslots hmodes hu fun q => by
    simp [hconn q]
  exact ⟨ps, hrun, h₀.onlyConnects hc⟩

end Calls

/-! ### The test as a transition system -/

/-- The state of the fuzz test: the manager, the actions sent on its channel and not yet
received, and the network. -/
structure System (P : Type) [LinearOrder P] where
  peerset : Peerset P
  rx : List (Action P)
  user : User P

/-- What the test does at one turn. -/
inductive Event (P : Type) [LinearOrder P] where
  /-- `poll_next`, the clock advancing `elapsed i` nanoseconds before the `i`-th action
  handled. -/
  | poll (elapsed : Nat → Nat)
  | discovered (peerIds : List P) (elapsed : Nat)
  /-- A call of a handle: the action is sent on the channel. -/
  | send (action : Action P)
  | dropped (peerId : P) (elapsed₁ elapsed₂ : Nat)
  | incoming (peerId : P) (elapsed : Nat)

namespace System

variable {P : Type} [LinearOrder P]

/-- The calls the test makes only under a condition: `dropped` for a node the network is
connected to, `incoming` for a node it is neither connected to nor waiting on. -/
def Allowed (S : System P) : Event P → Prop
  | .dropped peerId _ _ => peerId ∈ S.user.connectedNodes
  | .incoming peerId _ =>
      peerId ∉ S.user.connectedNodes ∧ ∀ e ∈ S.user.incomingNodes, e.2 ≠ peerId
  | .poll _ | .discovered _ _ | .send _ => True

/-- One turn of the test: `none` when the manager panics or an assertion of the test fails. -/
def step (S : System P) : Event P → Option (System P)
  | .poll elapsed =>
      match Peerset.pollNext S.rx S.peerset elapsed with
      | .error _ => none
      | .ok (none, ps, rx) => some ⟨ps, rx, S.user⟩
      | .ok (some m, ps, rx) => (S.user.receive m).map fun u => ⟨ps, rx, u⟩
  | .discovered peerIds elapsed =>
      (S.peerset.discovered peerIds elapsed).toOption.map fun ps => ⟨ps, S.rx, S.user⟩
  | .send action => some ⟨S.peerset, S.rx ++ [action], S.user⟩
  | .dropped peerId elapsed₁ elapsed₂ =>
      (S.peerset.dropped peerId elapsed₁ elapsed₂).toOption.map fun ps =>
        ⟨ps, S.rx, S.user.eraseConnected peerId⟩
  | .incoming peerId elapsed =>
      (S.peerset.incoming peerId ⟨S.user.nextIncomingId⟩ elapsed).toOption.map fun ps =>
        ⟨ps, S.rx, S.user.addIncoming peerId⟩

/-- The start of the test: a manager from `from_config`, nothing sent, and a network connected
to nothing. -/
def Init (S : System P) : Prop :=
  ∃ config elapsed, Peerset.fromConfig config elapsed = .ok S.peerset ∧ S.rx = [] ∧
    S.user = ⟨∅, [], 0⟩

/-- A turn of the test with an allowed event. -/
def Step (S S' : System P) : Prop :=
  ∃ e, S.Allowed e ∧ S.step e = some S'

/-- Every allowed event is taken, from a state in step, to a state in step. -/
theorem step_synced {S : System P} (h : Synced S.peerset S.user) {e : Event P}
    (he : S.Allowed e) : ∃ S', S.step e = some S' ∧ Synced S'.peerset S'.user := by
  cases e with
  | poll elapsed =>
      obtain ⟨res, ps', rx', hrun, u', hu', h'⟩ := h.pollNext S.rx S.peerset S.user elapsed
      cases res with
      | none =>
          cases hu'
          exact ⟨⟨ps', rx', S.user⟩, by simp [step, hrun], h'⟩
      | some m =>
          have hm : S.user.receive m = some u' := by simpa [User.receiveAll] using hu'
          exact ⟨⟨ps', rx', u'⟩, by simp [step, hrun, hm], h'⟩
  | discovered peerIds elapsed =>
      obtain ⟨ps', hrun, h'⟩ := h.discovered peerIds elapsed
      exact ⟨⟨ps', S.rx, S.user⟩, by simp [step, hrun, Except.toOption], h'⟩
  | send action => exact ⟨⟨S.peerset, S.rx ++ [action], S.user⟩, rfl, h⟩
  | dropped q elapsed₁ elapsed₂ =>
      obtain ⟨ps', hrun, h'⟩ := h.dropped he elapsed₁ elapsed₂
      exact ⟨⟨ps', S.rx, S.user.eraseConnected q⟩, by simp [step, hrun, Except.toOption], h'⟩
  | incoming p elapsed =>
      obtain ⟨ps', hrun, h'⟩ := h.incoming he.1 he.2 elapsed
      exact ⟨⟨ps', S.rx, S.user.addIncoming p⟩, by simp [step, hrun, Except.toOption], h'⟩

theorem init_synced {S : System P} (h : S.Init) : Synced S.peerset S.user := by
  obtain ⟨config, elapsed, hrun, -, hu⟩ := h
  obtain ⟨ps, hrun', h'⟩ := fromConfig_synced config elapsed
  rw [hrun] at hrun'
  cases hrun'
  rw [hu]
  exact h'

/-- Every state some run of the test reaches is in step. -/
theorem reachable_synced {S : System P} (h : Reachable Init Step S) : Synced S.peerset S.user :=
  h.invariant (fun S : System P => Synced S.peerset S.user) (fun _ hs => init_synced hs)
    fun _ _ hs ⟨_, he, hstep⟩ => by
      obtain ⟨S', hstep', h'⟩ := step_synced hs he
      rw [hstep] at hstep'
      cases hstep'
      exact h'

/-- **The fuzz test never fails.** In every state that some interleaving of the test's calls,
actions and polls reaches, every call the test may make next returns without a panic of the
manager, and the message a poll returns, if any, passes the test's assertions. -/
theorem reachable_step_some {S : System P} (h : Reachable Init Step S) {e : Event P}
    (he : S.Allowed e) : ∃ S', S.step e = some S' := by
  obtain ⟨S', hstep, -⟩ := step_synced (reachable_synced h) he
  exact ⟨S', hstep⟩

theorem reachable_step_some_incoming :
    ∃ S : System Nat, Reachable Init Step S ∧ S.Allowed (.incoming 7 0) ∧
      ∃ S', S.step (.incoming 7 0) = some S' := by
  have h : Reachable Init Step (⟨⟨⟨.empty, 0, 0, 0, 0, SortedMap.empty.insert reservedNodes .empty,
      false⟩, false, [], 0⟩, [], ⟨∅, [], 0⟩⟩ : System Nat) :=
    .init ⟨⟨0, 0, [], false, []⟩, 0, rfl, rfl, rfl⟩
  -- the network is connected to nothing and waits on nothing
  refine ⟨_, h, ?_, reachable_step_some h ?_⟩ <;>
    exact ⟨Finset.notMem_empty 7, fun _ he => absurd he List.not_mem_nil⟩

/-- In every reachable state, the network that read every message queued would see exactly the
manager's connections. -/
theorem reachable_view {S : System P} (h : Reachable Init Step S) :
    ∃ u', S.user.receiveAll S.peerset.messageQueue = some u' ∧
      ∀ q, q ∈ u'.connectedNodes ↔ S.peerset.data.connectionOf q ≠ .notConnected :=
  (reachable_synced h).replay

theorem reachable_view_start :
    ∃ S : System Nat, Reachable Init Step S ∧
      ∃ u', S.user.receiveAll S.peerset.messageQueue = some u' ∧
        ∀ q, q ∈ u'.connectedNodes ↔ S.peerset.data.connectionOf q ≠ .notConnected := by
  have h : Reachable Init Step (⟨⟨⟨.empty, 0, 0, 0, 0, SortedMap.empty.insert reservedNodes .empty,
      false⟩, false, [], 0⟩, [], ⟨∅, [], 0⟩⟩ : System Nat) :=
    .init ⟨⟨0, 0, [], false, []⟩, 0, rfl, rfl, rfl⟩
  exact ⟨_, h, reachable_view h⟩

/-- In every reachable state, the manager's slot counters count the nodes connected outside the
priority groups. -/
theorem reachable_slotsCounted {S : System P} (h : Reachable Init Step S) :
    S.peerset.data.SlotsCounted :=
  (reachable_synced h).slotsCounted

theorem reachable_slotsCounted_start :
    ∃ S : System Nat, Reachable Init Step S ∧ S.peerset.data.SlotsCounted := by
  have h : Reachable Init Step (⟨⟨⟨.empty, 0, 0, 0, 0, SortedMap.empty.insert reservedNodes .empty,
      false⟩, false, [], 0⟩, [], ⟨∅, [], 0⟩⟩ : System Nat) :=
    .init ⟨⟨0, 0, [], false, []⟩, 0, rfl, rfl, rfl⟩
  exact ⟨_, h, reachable_slotsCounted h⟩

/-- In every reachable state, the manager restricts connections to priority nodes exactly in
reserved-only mode: its `priority_only` is its `reserved_only`. -/
theorem reachable_modes {S : System P} (h : Reachable Init Step S) :
    S.peerset.data.priorityOnly = S.peerset.reservedOnly :=
  (reachable_synced h).modes

/-- In every reachable state in reserved-only mode, `incoming` accepts no node outside every
priority group: it answers nothing or a `Reject`, and leaves the node's connection as it was. -/
theorem reachable_incoming_reservedOnly {S : System P} (h : Reachable Init Step S)
    (hro : S.peerset.reservedOnly = true) {p : P} (hp : S.peerset.data.isPriority p = false)
    (index : IncomingIndex) (elapsed : Nat) :
    ∃ ps', S.peerset.incoming p index elapsed = .ok ps' ∧
      (ps'.messageQueue = S.peerset.messageQueue ∨
        ps'.messageQueue = S.peerset.messageQueue ++ [.reject index]) ∧
      ps'.data.connectionOf p = S.peerset.data.connectionOf p := by
  have hsync := reachable_synced h
  obtain ⟨ps₁, ps', hrun, hr, hro₁, hprio, hcase⟩ :=
    Peerset.incoming_ok hsync.slotsCounted p index elapsed
  refine ⟨ps', hrun, ?_⟩
  rcases hcase with ⟨-, rfl⟩ | ⟨-, ha⟩
  · exact ⟨.inl hr.messageQueue_eq, hr.connectionOf_eq p⟩
  · rcases ha.outcome with ⟨-, -, -, hallowed⟩ | ⟨hQ', hconn'⟩
    · -- an `Accept` needs a priority node, or a manager not restricted to them
      have hp₁ : ps₁.data.isPriority p = false := by
        rw [PeersState.isPriority, hprio]
        exact hp
      have honly : ps₁.data.priorityOnly = true := by
        rw [hr.modes hsync.modes, hro₁, hro]
      rw [hp₁, honly] at hallowed
      simp at hallowed
    · rw [hQ', hr.messageQueue_eq, hconn', hr.connectionOf_eq]
      exact ⟨.inr rfl, rfl⟩

theorem reachable_incoming_reservedOnly_start :
    ∃ S : System Nat, Reachable Init Step S ∧ S.peerset.reservedOnly = true ∧
      S.peerset.data.isPriority 7 = false ∧
      ∃ ps', S.peerset.incoming 7 ⟨0⟩ 0 = .ok ps' ∧
        (ps'.messageQueue = S.peerset.messageQueue ∨
          ps'.messageQueue = S.peerset.messageQueue ++ [.reject ⟨0⟩]) ∧
        ps'.data.connectionOf 7 = S.peerset.data.connectionOf 7 := by
  have h : Reachable Init Step (⟨⟨⟨.empty, 0, 0, 0, 0, SortedMap.empty.insert reservedNodes .empty,
      true⟩, true, [], 0⟩, [], ⟨∅, [], 0⟩⟩ : System Nat) :=
    .init ⟨⟨0, 0, [], true, []⟩, 0, rfl, rfl, rfl⟩
  exact ⟨_, h, rfl, by decide, reachable_incoming_reservedOnly h rfl (by decide) ⟨0⟩ 0⟩

end System

end ScPeerset
