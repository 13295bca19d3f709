import Mathlib.Data.Finset.Basic
import Stargate.Lib.AssocMap
import Stargate.Network.Peerset

/-!
# Stargate.Network.PeersetNetwork

The network's side of the peer set manager, as the fuzz test
(src/network-libp2p/peerset/tests/fuzz.rs) plays it. The network (`User`) keeps the nodes it
believes it is connected to (`connected_nodes`), the incoming connections it announced and has
seen no answer to (`incoming_nodes`), and the next index to announce one under. Reading a
message, it asserts that a `Connect` is for a node it is not connected to, and that an `Accept`
or a `Reject` is for an index it waits on, of a node it is not connected to; `receive` is `none`
when an assertion or an `unwrap` fails.

The lemmas say what reading a queue of messages does: `Connect`s and `Drop`s move nodes in and
out of the connected set, nothing read adds to what is waited on, and reading commutes with the
network's own calls (`dropped`, `incoming`) as long as the queue holds nothing about their node.
-/

namespace ScPeerset

/-- Whether a message is a `Drop`. -/
def Message.isDrop {P : Type} : Message P → Bool
  | .drop _ => true
  | _ => false

/-- The `Drop`s of a queue come before every other message. -/
def DropsFirst {P : Type} (ms : List (Message P)) : Prop :=
  ms.Pairwise fun a b => b.isDrop = true → a.isDrop = true

section DropsFirst

variable {P : Type}

theorem DropsFirst.append_of_dropFree {ms ms' : List (Message P)} (h : DropsFirst ms)
    (hfree : ∀ m ∈ ms', m.isDrop = false) : DropsFirst (ms ++ ms') := by
  have hnone : ∀ b ∈ ms', ¬b.isDrop = true := fun b hb => by rw [hfree b hb]; decide
  refine List.pairwise_append.mpr ⟨h, List.pairwise_of_forall_mem_list fun _ _ b hb hdrop => ?_,
    fun _ _ b hb hdrop => ?_⟩
  · exact absurd hdrop (hnone b hb)
  · exact absurd hdrop (hnone b hb)

theorem dropsFirst_of_drops {ms : List (Message P)} (hall : ∀ m ∈ ms, m.isDrop = true) :
    DropsFirst ms :=
  List.pairwise_of_forall_mem_list fun a ha _ _ _ => hall a ha

/-- After a message other than a `Drop` come no `Drop`s. -/
theorem DropsFirst.dropFree_of_cons {m : Message P} {ms : List (Message P)}
    (h : DropsFirst (m :: ms)) (hm : m.isDrop = false) : ∀ b ∈ ms, b.isDrop = false := by
  intro b hb
  cases hb' : b.isDrop with
  | false => rfl
  | true =>
      have := (List.pairwise_cons.mp h).1 b hb hb'
      rw [hm] at this
      cases this

theorem DropsFirst.of_cons {m : Message P} {ms : List (Message P)} (h : DropsFirst (m :: ms)) :
    DropsFirst ms :=
  List.Pairwise.of_cons h

end DropsFirst

/-- The network's side of the fuzz test: `connected_nodes`, `incoming_nodes` and
`next_incoming_id`. -/
structure User (P : Type) where
  connectedNodes : Finset P
  incomingNodes : List (IncomingIndex × P)
  nextIncomingId : Nat

namespace User

variable {P : Type} [DecidableEq P]

/-- `incoming_nodes.remove(&n)`. -/
def removeIncoming (incomingNodes : List (IncomingIndex × P)) (n : IncomingIndex) :
    List (IncomingIndex × P) :=
  (AssocMap.remove (· == ·) incomingNodes n).2

/-- On `Connect(id)`, the connection awaited from the node, if any, is no longer awaited. -/
def forgetIncoming (incomingNodes : List (IncomingIndex × P)) (id : P) :
    List (IncomingIndex × P) :=
  match incomingNodes.find? (fun e => e.2 == id) with
  | some e => removeIncoming incomingNodes e.1
  | none => incomingNodes

/-- The fuzz test's handling of a message it reads: `none` when an `assert!` or an `unwrap`
fails. -/
def receive (u : User P) : Message P → Option (User P)
  | .connect id =>
      if id ∈ u.connectedNodes then none
      else some ⟨insert id u.connectedNodes, forgetIncoming u.incomingNodes id, u.nextIncomingId⟩
  | .drop id => some { u with connectedNodes := u.connectedNodes.erase id }
  | .accept n =>
      match AssocMap.get (· == ·) u.incomingNodes n with
      | none => none
      | some id =>
          if id ∈ u.connectedNodes then none
          else some ⟨insert id u.connectedNodes, removeIncoming u.incomingNodes n, u.nextIncomingId⟩
  | .reject n =>
      match AssocMap.get (· == ·) u.incomingNodes n with
      | none => none
      | some id =>
          if id ∈ u.connectedNodes then none
          else some ⟨u.connectedNodes, removeIncoming u.incomingNodes n, u.nextIncomingId⟩

/-- Reading messages one after the other. -/
def receiveAll (u : User P) : List (Message P) → Option (User P)
  | [] => some u
  | m :: ms => (u.receive m).bind fun u' => u'.receiveAll ms

/-- The network's `incoming` call: `incoming_nodes.insert(next_incoming_id, id)` and the next
index. -/
def addIncoming (u : User P) (id : P) : User P :=
  ⟨u.connectedNodes, AssocMap.insert (· == ·) u.incomingNodes ⟨u.nextIncomingId⟩ id,
    u.nextIncomingId + 1⟩

/-- The network's `dropped` call: `connected_nodes.remove(&id)`. -/
def eraseConnected (u : User P) (id : P) : User P :=
  { u with connectedNodes := u.connectedNodes.erase id }

/-! ### Reading messages -/

theorem receiveAll_append (u : User P) (ms ms' : List (Message P)) :
    u.receiveAll (ms ++ ms') = (u.receiveAll ms).bind fun u' => u'.receiveAll ms' := by
  induction ms generalizing u with
  | nil => rfl
  | cons m ms ih =>
      simp only [List.cons_append, receiveAll]
      cases u.receive m with
      | none => rfl
      | some u₁ => exact ih u₁

omit [DecidableEq P] in
theorem removeIncoming_sublist (incomingNodes : List (IncomingIndex × P)) (n : IncomingIndex) :
    (removeIncoming incomingNodes n).Sublist incomingNodes :=
  List.filter_sublist

theorem forgetIncoming_sublist (incomingNodes : List (IncomingIndex × P)) (id : P) :
    (forgetIncoming incomingNodes id).Sublist incomingNodes := by
  unfold forgetIncoming
  split
  · exact removeIncoming_sublist _ _
  · exact List.Sublist.refl _

/-- Reading a message never adds an awaited connection, and leaves the next index. -/
theorem receive_keeps_incoming {u u' : User P} {m : Message P} (h : u.receive m = some u') :
    u'.incomingNodes.Sublist u.incomingNodes ∧ u'.nextIncomingId = u.nextIncomingId := by
  cases m with
  | connect id =>
      simp only [receive] at h
      split_ifs at h
      cases h
      exact ⟨forgetIncoming_sublist _ _, rfl⟩
  | drop id =>
      cases h
      exact ⟨List.Sublist.refl _, rfl⟩
  | accept n | reject n =>
      simp only [receive] at h
      split at h
      · cases h
      · split_ifs at h
        cases h
        exact ⟨removeIncoming_sublist _ _, rfl⟩

theorem receive_incoming_subset {u u' : User P} {m : Message P} (h : u.receive m = some u') :
    ∀ e ∈ u'.incomingNodes, e ∈ u.incomingNodes :=
  fun _ he => (receive_keeps_incoming h).1.subset he

theorem receiveAll_keeps_incoming {u u' : User P} {ms : List (Message P)}
    (h : u.receiveAll ms = some u') :
    u'.incomingNodes.Sublist u.incomingNodes ∧ u'.nextIncomingId = u.nextIncomingId := by
  induction ms generalizing u with
  | nil =>
      cases h
      exact ⟨List.Sublist.refl _, rfl⟩
  | cons m ms ih =>
      obtain ⟨u₁, h₁, h'⟩ := Option.bind_eq_some_iff.mp h
      obtain ⟨hsub₁, hnext₁⟩ := receive_keeps_incoming h₁
      obtain ⟨hsub, hnext⟩ := ih h'
      exact ⟨hsub.trans hsub₁, hnext.trans hnext₁⟩

/-- Reading `Connect`s for distinct nodes the network is not connected to connects them. -/
theorem receiveAll_connects (qs : List P) (hqs : qs.Nodup) :
    ∀ u : User P, (∀ q ∈ qs, q ∉ u.connectedNodes) →
      ∃ u', u.receiveAll (qs.map .connect) = some u' ∧
        u'.connectedNodes = u.connectedNodes ∪ qs.toFinset := by
  induction qs with
  | nil => exact fun u _ => ⟨u, rfl, by simp⟩
  | cons q qs ih =>
      intro u hout
      obtain ⟨hq, hqs'⟩ := List.nodup_cons.mp hqs
      have hqu : q ∉ u.connectedNodes := hout q List.mem_cons_self
      obtain ⟨u', hrun, hconn⟩ := ih hqs'
        ⟨insert q u.connectedNodes, forgetIncoming u.incomingNodes q, u.nextIncomingId⟩
        fun r hr hmem => by
          rcases Finset.mem_insert.mp hmem with rfl | hmem
          · exact hq hr
          · exact hout r (List.mem_cons_of_mem _ hr) hmem
      refine ⟨u', ?_, ?_⟩
      · simp only [List.map_cons, receiveAll, receive, if_neg hqu, Option.bind_some]
        exact hrun
      · rw [hconn, List.toFinset_cons]
        ext r
        simp only [Finset.mem_union, Finset.mem_insert]
        tauto

/-- Reading `Drop`s disconnects their nodes. -/
theorem receiveAll_drops (qs : List P) :
    ∀ u : User P, ∃ u', u.receiveAll (qs.map .drop) = some u' ∧
      u'.connectedNodes = u.connectedNodes \ qs.toFinset := by
  induction qs with
  | nil => exact fun u => ⟨u, rfl, by simp⟩
  | cons q qs ih =>
      intro u
      obtain ⟨u', hrun, hconn⟩ := ih { u with connectedNodes := u.connectedNodes.erase q }
      refine ⟨u', hrun, ?_⟩
      rw [hconn, List.toFinset_cons]
      ext r
      simp only [Finset.mem_sdiff, Finset.mem_erase, Finset.mem_insert]
      tauto

/-- Reading messages other than `Drop`s only adds connections, and finds no `Connect` for a
node already connected. -/
theorem receiveAll_of_dropFree {u u' : User P} {ms : List (Message P)}
    (h : u.receiveAll ms = some u') (hfree : ∀ m ∈ ms, m.isDrop = false) :
    u.connectedNodes ⊆ u'.connectedNodes ∧ ∀ q ∈ u.connectedNodes, .connect q ∉ ms := by
  induction ms generalizing u with
  | nil =>
      cases h
      exact ⟨subset_refl _, fun _ _ h => List.not_mem_nil h⟩
  | cons m ms ih =>
      obtain ⟨u₁, h₁, h'⟩ := Option.bind_eq_some_iff.mp h
      obtain ⟨hsub, hnot⟩ := ih h' fun m hm => hfree m (List.mem_cons_of_mem _ hm)
      -- one message other than a `Drop` keeps every connection
      have hstep : u.connectedNodes ⊆ u₁.connectedNodes := by
        cases m with
        | connect id =>
            simp only [receive] at h₁
            split_ifs at h₁
            cases h₁
            exact Finset.subset_insert _ _
        | drop id => exact absurd (hfree _ List.mem_cons_self) (by simp [Message.isDrop])
        | accept n =>
            simp only [receive] at h₁
            split at h₁
            · cases h₁
            · split_ifs at h₁
              cases h₁
              exact Finset.subset_insert _ _
        | reject n =>
            simp only [receive] at h₁
            split at h₁
            · cases h₁
            · split_ifs at h₁
              cases h₁
              exact subset_refl _
      refine ⟨hstep.trans hsub, fun q hq hmem => ?_⟩
      rcases List.mem_cons.mp hmem with rfl | hmem
      · simp [receive, hq] at h₁
      · exact hnot q (hstep hq) hmem

/-- A node the network is connected to and is not after reading is one a `Drop` was read for. -/
theorem drop_mem_of_receiveAll {u u' : User P} {ms : List (Message P)}
    (h : u.receiveAll ms = some u') {q : P} (hq : q ∈ u.connectedNodes)
    (hq' : q ∉ u'.connectedNodes) : .drop q ∈ ms := by
  induction ms generalizing u with
  | nil =>
      cases h
      exact absurd hq hq'
  | cons m ms ih =>
      obtain ⟨u₁, h₁, h'⟩ := Option.bind_eq_some_iff.mp h
      by_cases hdrop : m = .drop q
      · rw [hdrop]
        exact List.mem_cons_self
      · refine List.mem_cons_of_mem _ (ih h' ?_)
        -- a message other than `Drop q` keeps `q` connected
        cases m with
        | connect id =>
            simp only [receive] at h₁
            split_ifs at h₁
            cases h₁
            exact Finset.mem_insert_of_mem hq
        | drop id =>
            cases h₁
            exact Finset.mem_erase.mpr ⟨fun h => hdrop (by rw [h]), hq⟩
        | accept n =>
            simp only [receive] at h₁
            split at h₁
            · cases h₁
            · split_ifs at h₁
              cases h₁
              exact Finset.mem_insert_of_mem hq
        | reject n =>
            simp only [receive] at h₁
            split at h₁
            · cases h₁
            · split_ifs at h₁
              cases h₁
              exact hq

/-- A `Connect` read from a queue whose `Drop`s come first leaves its node connected. -/
theorem mem_of_connect_mem {u u' : User P} {ms : List (Message P)} (h : u.receiveAll ms = some u')
    (hd : DropsFirst ms) {q : P} (hq : .connect q ∈ ms) : q ∈ u'.connectedNodes := by
  induction ms generalizing u with
  | nil => exact absurd hq List.not_mem_nil
  | cons m ms ih =>
      obtain ⟨u₁, h₁, h'⟩ := Option.bind_eq_some_iff.mp h
      rcases List.mem_cons.mp hq with rfl | hq
      · -- no `Drop` follows the `Connect`: the node stays connected
        have hq₁ : q ∈ u₁.connectedNodes := by
          simp only [receive] at h₁
          split_ifs at h₁
          cases h₁
          exact Finset.mem_insert_self _ _
        exact (receiveAll_of_dropFree h' (hd.dropFree_of_cons rfl)).1 hq₁
      · exact ih h' hd.of_cons hq

/-! ### The network's bookkeeping -/

/-- The bookkeeping of the fuzz test, as its calls keep it: a node waited on is not one the
network is connected to, no node is waited on twice, and every index waited on is below the
next one. -/
structure WellFormed (u : User P) : Prop where
  disjoint : ∀ e ∈ u.incomingNodes, e.2 ∉ u.connectedNodes
  nodup : (u.incomingNodes.map Prod.snd).Nodup
  fresh : ∀ e ∈ u.incomingNodes, e.1.val < u.nextIncomingId

theorem ne_of_val_lt {n : IncomingIndex} {k : Nat} (h : n.val < k) : n ≠ ⟨k⟩ := by
  rintro rfl
  exact lt_irrefl _ h

omit [DecidableEq P] in
/-- With no node waited on twice, what an answer under an index leaves waits on none of the
node of that index. -/
theorem ne_of_mem_removeIncoming {l : List (IncomingIndex × P)} (hl : (l.map Prod.snd).Nodup)
    {e e' : IncomingIndex × P} (he : e ∈ l) (he' : e' ∈ removeIncoming l e.1) : e'.2 ≠ e.2 := by
  have hmem : e' ∈ l ∧ (e'.1 == e.1) = false := by
    simpa [removeIncoming, AssocMap.remove] using he'
  intro heq
  have hee : e' = e := List.inj_on_of_nodup_map hl hmem.1 he heq
  rw [hee] at hmem
  simp at hmem

theorem ne_of_mem_forgetIncoming {l : List (IncomingIndex × P)} (hl : (l.map Prod.snd).Nodup)
    {id : P} {e' : IncomingIndex × P} (he' : e' ∈ forgetIncoming l id) : e'.2 ≠ id := by
  unfold forgetIncoming at he'
  split at he'
  · rename_i e hfind
    have hid : e.2 = id := by simpa using List.find?_some hfind
    rw [← hid]
    exact ne_of_mem_removeIncoming hl (List.mem_of_find?_eq_some hfind) he'
  · rename_i hfind
    simpa using List.find?_eq_none.mp hfind e' he'

theorem receive_wellFormed {u u' : User P} {m : Message P} (hu : u.WellFormed)
    (h : u.receive m = some u') : u'.WellFormed := by
  obtain ⟨hsub, hnext⟩ := receive_keeps_incoming h
  refine ⟨fun e he => ?_, (hsub.map Prod.snd).nodup hu.nodup, fun e he => ?_⟩
  · have hold := hu.disjoint e (hsub.subset he)
    cases m with
    | connect id =>
        simp only [receive] at h
        split_ifs at h
        cases h
        simp only [Finset.mem_insert, not_or]
        exact ⟨ne_of_mem_forgetIncoming hu.nodup he, hold⟩
    | drop id =>
        cases h
        exact fun hmem => hold (Finset.mem_of_mem_erase hmem)
    | accept n =>
        simp only [receive] at h
        split at h
        · cases h
        · rename_i id hget
          split_ifs at h
          cases h
          -- the node accepted is the one of the entry under `n`, and no other entry has it
          obtain ⟨e₀, he₀, hkey, rfl⟩ := AssocMap.exists_mem_of_get_eq_some hget
          have hn : e₀.1 = n := by simpa using hkey
          rw [← hn] at he
          simp only [Finset.mem_insert, not_or]
          exact ⟨ne_of_mem_removeIncoming hu.nodup he₀ he, hold⟩
    | reject n =>
        simp only [receive] at h
        split at h
        · cases h
        · split_ifs at h
          cases h
          exact hold
  · rw [hnext]
    exact hu.fresh e (hsub.subset he)

omit [DecidableEq P] in
/-- The index an `incoming` call uses is new: the entry goes at the end. -/
theorem addIncoming_incomingNodes {u : User P} (hu : u.WellFormed) (id : P) :
    (u.addIncoming id).incomingNodes = u.incomingNodes ++ [(⟨u.nextIncomingId⟩, id)] := by
  apply AssocMap.insert_of_not_containsKey
  simp only [AssocMap.containsKey, List.any_eq_false, beq_iff_eq]
  exact fun e he => ne_of_val_lt (hu.fresh e he)

omit [DecidableEq P] in
theorem addIncoming_wellFormed {u : User P} (hu : u.WellFormed) {id : P}
    (hid : id ∉ u.connectedNodes) (hpend : ∀ e ∈ u.incomingNodes, e.2 ≠ id) :
    (u.addIncoming id).WellFormed := by
  have hI := addIncoming_incomingNodes hu id
  refine ⟨fun e he => ?_, ?_, fun e he => ?_⟩
  · rw [hI, List.mem_append, List.mem_singleton] at he
    rcases he with he | rfl
    · exact hu.disjoint e he
    · exact hid
  · rw [hI, List.map_append, List.nodup_append]
    refine ⟨hu.nodup, List.nodup_singleton _, ?_⟩
    simp only [List.mem_map, List.map_cons, List.map_nil, List.mem_singleton]
    rintro _ ⟨e, he, rfl⟩ _ rfl
    exact hpend e he
  · rw [hI, List.mem_append, List.mem_singleton] at he
    rcases he with he | rfl
    · exact Nat.lt_succ_of_lt (hu.fresh e he)
    · exact Nat.lt_succ_self _

theorem eraseConnected_wellFormed {u : User P} (hu : u.WellFormed) (id : P) :
    (u.eraseConnected id).WellFormed :=
  ⟨fun e he hmem => hu.disjoint e he (Finset.mem_of_mem_erase hmem), hu.nodup, hu.fresh⟩

/-! ### Reading messages after the network's own calls -/

/-- After `dropped(id)`: reading gives the same, without the node, as long as nothing read
connects it again. -/
theorem receive_eraseConnected {u u' : User P} {m : Message P} {q : P} (h : u.receive m = some u')
    (hm : m ≠ .connect q) (hpend : ∀ e ∈ u.incomingNodes, e.2 ≠ q) :
    (u.eraseConnected q).receive m = some (u'.eraseConnected q) := by
  cases m with
  | connect id =>
      have hid : id ≠ q := fun h => hm (by rw [h])
      simp only [receive] at h
      split_ifs at h with hmem
      cases h
      simp [receive, eraseConnected, hmem, hid, Finset.erase_insert_of_ne hid]
  | drop id =>
      cases h
      simp [receive, eraseConnected, Finset.erase_right_comm]
  | accept n =>
      simp only [receive] at h
      split at h
      · cases h
      · rename_i id hget
        have hid : id ≠ q := by
          obtain ⟨e, he, -, rfl⟩ := AssocMap.exists_mem_of_get_eq_some hget
          exact hpend e he
        split_ifs at h with hmem
        cases h
        simp [receive, eraseConnected, hget, hmem, hid, Finset.erase_insert_of_ne hid]
  | reject n =>
      simp only [receive] at h
      split at h
      · cases h
      · rename_i id hget
        have hid : id ≠ q := by
          obtain ⟨e, he, -, rfl⟩ := AssocMap.exists_mem_of_get_eq_some hget
          exact hpend e he
        split_ifs at h with hmem
        cases h
        simp [receive, eraseConnected, hget, hmem, hid]

theorem receiveAll_eraseConnected {u u' : User P} {ms : List (Message P)} {q : P}
    (h : u.receiveAll ms = some u') (hms : .connect q ∉ ms)
    (hpend : ∀ e ∈ u.incomingNodes, e.2 ≠ q) :
    (u.eraseConnected q).receiveAll ms = some (u'.eraseConnected q) := by
  induction ms generalizing u with
  | nil =>
      cases h
      rfl
  | cons m ms ih =>
      obtain ⟨u₁, h₁, h'⟩ := Option.bind_eq_some_iff.mp h
      have hm : m ≠ .connect q := fun hm => hms (by rw [hm]; exact List.mem_cons_self)
      simp only [receiveAll, receive_eraseConnected h₁ hm hpend, Option.bind_some]
      exact ih h' (fun hmem => hms (List.mem_cons_of_mem _ hmem))
        fun e he => hpend e (receive_incoming_subset h₁ e he)

/-- `v` is `u` with one more connection awaited, `n` from `q`, at the end of the entries, or `u`
itself once a `Connect` for `q` was read; `u` awaits nothing under `n` and nothing from `q`. -/
structure WithIncoming (n : IncomingIndex) (q : P) (u v : User P) : Prop where
  connectedNodes_eq : v.connectedNodes = u.connectedNodes
  incomingNodes_eq : v.incomingNodes = u.incomingNodes ++ [(n, q)] ∨
    v.incomingNodes = u.incomingNodes
  fresh : ∀ e ∈ u.incomingNodes, e.1 ≠ n ∧ e.2 ≠ q

theorem forgetIncoming_append_of_ne {l : List (IncomingIndex × P)} {n : IncomingIndex} {q id : P}
    (hl : ∀ e ∈ l, e.1 ≠ n) (hid : q ≠ id) :
    forgetIncoming (l ++ [(n, q)]) id = forgetIncoming l id ++ [(n, q)] := by
  unfold forgetIncoming
  rw [List.find?_append]
  cases hfind : l.find? (fun e => e.2 == id) with
  | none => simp [hid]
  | some e =>
      have hne : (n == e.1) = false := by
        simpa using Ne.symm (hl e (List.mem_of_find?_eq_some hfind))
      simp only [Option.some_or, removeIncoming]
      rw [AssocMap.remove_append_singleton_of_not _ hne]

theorem forgetIncoming_append_self {l : List (IncomingIndex × P)} {n : IncomingIndex} {q : P}
    (hl : ∀ e ∈ l, e.1 ≠ n ∧ e.2 ≠ q) :
    forgetIncoming (l ++ [(n, q)]) q = l ∧ forgetIncoming l q = l := by
  have hnone : l.find? (fun e => e.2 == q) = none :=
    List.find?_eq_none.mpr fun e he => by simpa using (hl e he).2
  have hkey : AssocMap.containsKey (· == ·) l n = false := by
    simp only [AssocMap.containsKey, List.any_eq_false]
    intro e he
    simpa using (hl e he).1
  refine ⟨?_, by rw [forgetIncoming, hnone]⟩
  rw [forgetIncoming, List.find?_append, hnone]
  simp only [Option.none_or, List.find?_singleton, beq_self_eq_true, if_true, removeIncoming]
  rw [AssocMap.remove_append_singleton q hkey (by simp)]

/-- Reading a message other than an answer under `n` keeps the relation; the connection
awaited stays at the end of the entries unless a `Connect` for `q` is read. -/
theorem receive_withIncoming {n : IncomingIndex} {q : P} {u v u₁ : User P} {m : Message P}
    (hrel : WithIncoming n q u v) (h : u.receive m = some u₁)
    (hm : ∀ n', (m = .accept n' ∨ m = .reject n') → n' ≠ n) :
    ∃ v₁, v.receive m = some v₁ ∧ WithIncoming n q u₁ v₁ ∧
      (m ≠ .connect q → v.incomingNodes = u.incomingNodes ++ [(n, q)] →
        v₁.incomingNodes = u₁.incomingNodes ++ [(n, q)]) := by
  have hsub := receive_incoming_subset h
  have hfresh₁ : ∀ e ∈ u₁.incomingNodes, e.1 ≠ n ∧ e.2 ≠ q := fun e he => hrel.fresh e (hsub e he)
  cases m with
  | connect id =>
      simp only [receive] at h
      split_ifs at h with hmem
      cases h
      refine ⟨⟨insert id v.connectedNodes, forgetIncoming v.incomingNodes id,
        v.nextIncomingId⟩, by simp [receive, hrel.connectedNodes_eq, hmem],
        ⟨by simp [hrel.connectedNodes_eq], ?_, hfresh₁⟩, fun hne hI => ?_⟩
      · dsimp only
        rcases hrel.incomingNodes_eq with hI | hI <;> rw [hI]
        · by_cases hid : q = id
          · subst hid
            exact .inr ((forgetIncoming_append_self hrel.fresh).1.trans
              (forgetIncoming_append_self hrel.fresh).2.symm)
          · exact .inl (forgetIncoming_append_of_ne (fun e he => (hrel.fresh e he).1) hid)
        · exact .inr rfl
      · have hid : q ≠ id := fun h => hne (by rw [h])
        dsimp only
        rw [hI]
        exact forgetIncoming_append_of_ne (fun e he => (hrel.fresh e he).1) hid
  | drop id =>
      cases h
      exact ⟨_, rfl, ⟨by simp [hrel.connectedNodes_eq], hrel.incomingNodes_eq, hrel.fresh⟩,
        fun _ hI => hI⟩
  | accept n' =>
      have hbeq : (n == n') = false := by simpa using Ne.symm (hm n' (by simp))
      simp only [receive] at h
      split at h
      · cases h
      · rename_i id hget
        split_ifs at h with hmem
        cases h
        have hget' : AssocMap.get (· == ·) v.incomingNodes n' = some id := by
          rcases hrel.incomingNodes_eq with hI | hI <;> rw [hI]
          · rw [AssocMap.get_append_singleton_of_not _ hbeq]
            exact hget
          · exact hget
        refine ⟨⟨insert id v.connectedNodes, removeIncoming v.incomingNodes n', v.nextIncomingId⟩,
          by simp [receive, hget', hrel.connectedNodes_eq, hmem],
          ⟨by simp [hrel.connectedNodes_eq], ?_, hfresh₁⟩, fun _ hI => ?_⟩
        · rcases hrel.incomingNodes_eq with hI | hI <;> simp only [hI, removeIncoming]
          · exact .inl (AssocMap.remove_append_singleton_of_not _ hbeq)
          · exact .inr trivial
        · simp only [hI, removeIncoming]
          exact AssocMap.remove_append_singleton_of_not _ hbeq
  | reject n' =>
      have hbeq : (n == n') = false := by simpa using Ne.symm (hm n' (by simp))
      simp only [receive] at h
      split at h
      · cases h
      · rename_i id hget
        split_ifs at h with hmem
        cases h
        have hget' : AssocMap.get (· == ·) v.incomingNodes n' = some id := by
          rcases hrel.incomingNodes_eq with hI | hI <;> rw [hI]
          · rw [AssocMap.get_append_singleton_of_not _ hbeq]
            exact hget
          · exact hget
        refine ⟨⟨v.connectedNodes, removeIncoming v.incomingNodes n', v.nextIncomingId⟩,
          by simp [receive, hget', hrel.connectedNodes_eq, hmem],
          ⟨hrel.connectedNodes_eq, ?_, hfresh₁⟩, fun _ hI => ?_⟩
        · rcases hrel.incomingNodes_eq with hI | hI <;> simp only [hI, removeIncoming]
          · exact .inl (AssocMap.remove_append_singleton_of_not _ hbeq)
          · exact .inr trivial
        · simp only [hI, removeIncoming]
          exact AssocMap.remove_append_singleton_of_not _ hbeq

theorem receiveAll_withIncoming {n : IncomingIndex} {q : P} {u v u' : User P}
    {ms : List (Message P)} (hrel : WithIncoming n q u v) (h : u.receiveAll ms = some u')
    (hms : ∀ n', (.accept n' ∈ ms ∨ .reject n' ∈ ms) → n' ≠ n) :
    ∃ v', v.receiveAll ms = some v' ∧ WithIncoming n q u' v' ∧
      (.connect q ∉ ms → v.incomingNodes = u.incomingNodes ++ [(n, q)] →
        v'.incomingNodes = u'.incomingNodes ++ [(n, q)]) := by
  induction ms generalizing u v with
  | nil =>
      cases h
      exact ⟨v, rfl, hrel, fun _ hI => hI⟩
  | cons m ms ih =>
      obtain ⟨u₁, h₁, h'⟩ := Option.bind_eq_some_iff.mp h
      obtain ⟨v₁, hv₁, hrel₁, hkeep₁⟩ := receive_withIncoming hrel h₁ fun n' hn' => hms n' (by
        rcases hn' with rfl | rfl
        · exact .inl List.mem_cons_self
        · exact .inr List.mem_cons_self)
      obtain ⟨v', hv', hrel', hkeep'⟩ := ih hrel₁ h' fun n' hn' => hms n' (by
        rcases hn' with hn' | hn'
        · exact .inl (List.mem_cons_of_mem _ hn')
        · exact .inr (List.mem_cons_of_mem _ hn'))
      refine ⟨v', by simp only [receiveAll, hv₁, Option.bind_some]; exact hv', hrel',
        fun hq hI => hkeep' (fun hmem => hq (List.mem_cons_of_mem _ hmem))
          (hkeep₁ (fun hm => hq (by rw [← hm]; exact List.mem_cons_self)) hI)⟩

omit [DecidableEq P] in
theorem withIncoming_addIncoming {u : User P} (hu : u.WellFormed) {id : P}
    (hpend : ∀ e ∈ u.incomingNodes, e.2 ≠ id) :
    WithIncoming ⟨u.nextIncomingId⟩ id u (u.addIncoming id) :=
  ⟨rfl, .inl (addIncoming_incomingNodes hu id),
    fun e he => ⟨ne_of_val_lt (hu.fresh e he), hpend e he⟩⟩

end User

end ScPeerset
