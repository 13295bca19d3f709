import Stargate.Router.GraphStore
import Stargate.Lib.PetGraph
import Stargate.Types.Message
import Stargate.Lib.ExceptState

/-!
# Stargate.Router.Table

The table router's view of the channels (src/router/src/lib.rs): each channel event from the
chain puts an edge between the channel's two participants into the graph store, or removes it.

The edge is built from the event's balances map in the order the map yields its entries, and
edges compare with their direction; two maps of one channel need not yield its participants in
one order. So the edge a `Closed` event builds may not be the one its `Opened` event put, and
then the channel stays in the graph, whatever lawful graph the store keeps
(`closed_channel_stays_adjacent`). On a memory-only store every `Closed` or `Locked` event
panics. A stream of events handled over two lawful graphs gives stores that agree
(`foldlM_handleChannelStream_agree`), so the run is computed once, over petgraph's model.

The router also records the event's number in its own storage; nothing modelled reads it, so it
is left out.

A path the router finds is a list of vertices from its own account; `vertexes_to_balance_list`
turns it into hops. The first hop is read from the router's own wallet and statistics, every
later one by `query_balance`, a query to the hop's first node whose answer comes back over the
network. Under the loop's `length > 1` guard its `length - 2` never wraps, and a path of `k + 1`
vertices gives exactly its `k` hops in order (`vertexes_to_balance_list_hops`).
-/

/-- `ChannelChangeEvent`: a channel's balances by participant, in the order its `HashMap` yields
them. -/
inductive ChannelChangeEvent where
  | opened (channelAddress : AccountAddress) (balances : List (AccountAddress × UInt64))
  | closed (channelAddress : AccountAddress) (balances : List (AccountAddress × UInt64))
  | locked (channelAddress : AccountAddress) (balances : List (AccountAddress × UInt64))

namespace RouterInner

/-- `generate_edge`: the participants as vertices, in the balances' order, made an edge. -/
def generateEdge (balances : List (AccountAddress × UInt64)) : Except String Edge :=
  Edge.fromVertexes (balances.map fun balance => Vertex.newWithBiType balance.1)

/-- The edge of an event: `ensure!(balances.len() == 2)` and then `generate_edge`, as each arm
of `handle_channel_stream` does. -/
def eventEdge (balances : List (AccountAddress × UInt64)) : Except Failure Edge := do
  if balances.length ≠ 2 then throw (.error "balances len should be 2")
  Failure.lift (generateEdge balances)

/-- `RouterInner::handle_channel_stream`: an opened channel's edge is put into the graph, memory
only; a closed or locked one's is removed. -/
def handleChannelStream {G : Type} (ops : IndexedGraph G Vertex Edge) (graphStore : GraphStore G)
    (event : ChannelChangeEvent) : Except Failure (GraphStore G) :=
  match event with
  | .opened _ balances => do
    let edge ← eventEdge balances
    let (graphStore, _) ← graphStore.putEdge ops edge 0 true
    pure graphStore
  | .closed _ balances => do
    let edge ← eventEdge balances
    graphStore.removeEdge ops edge
  | .locked _ balances => do
    let edge ← eventEdge balances
    graphStore.removeEdge ops edge

section Agree

variable {G₁ G₂ : Type} {ops₁ : IndexedGraph G₁ Vertex Edge} {ops₂ : IndexedGraph G₂ Vertex Edge}
  {gs₁ : GraphStore G₁} {gs₂ gs₂' : GraphStore G₂} (h₁ : ops₁.Lawful) (h₂ : ops₂.Lawful)

include h₁ h₂

/-- An event handled on stores over two lawful graphs that agree leaves stores that agree. -/
theorem handleChannelStream_agree (h : GraphStore.Agree ops₁ ops₂ gs₁ gs₂)
    {event : ChannelChangeEvent} (hok : handleChannelStream ops₂ gs₂ event = .ok gs₂') :
    ∃ gs₁', handleChannelStream ops₁ gs₁ event = .ok gs₁' ∧
      GraphStore.Agree ops₁ ops₂ gs₁' gs₂' := by
  -- each arm builds the event's edge, which does not read the store, and then puts or removes it
  cases event with
  | opened _ balances =>
    obtain ⟨edge, hedge, hok⟩ := Except.bind_eq_ok.mp hok
    obtain ⟨⟨gs₂e, i⟩, hput, hpure⟩ := Except.bind_eq_ok.mp hok
    cases hpure
    obtain ⟨gs₁', hput₁, h'⟩ := h.putEdge h₁ h₂ hput
    exact ⟨gs₁', Except.bind_eq_ok.mpr ⟨edge, hedge, by rw [hput₁]; rfl⟩, h'⟩
  | closed _ balances =>
    obtain ⟨edge, hedge, hok⟩ := Except.bind_eq_ok.mp hok
    obtain ⟨gs₁', hremove, h'⟩ := h.removeEdge h₁ h₂ hok
    exact ⟨gs₁', Except.bind_eq_ok.mpr ⟨edge, hedge, hremove⟩, h'⟩
  | locked _ balances =>
    obtain ⟨edge, hedge, hok⟩ := Except.bind_eq_ok.mp hok
    obtain ⟨gs₁', hremove, h'⟩ := h.removeEdge h₁ h₂ hok
    exact ⟨gs₁', Except.bind_eq_ok.mpr ⟨edge, hedge, hremove⟩, h'⟩

/-- A stream of events handled on stores over two lawful graphs that agree: where the one run
succeeds, so does the other, and the stores still agree. -/
theorem foldlM_handleChannelStream_agree (events : List ChannelChangeEvent)
    (h : GraphStore.Agree ops₁ ops₂ gs₁ gs₂)
    (hok : events.foldlM (handleChannelStream ops₂) gs₂ = .ok gs₂') :
    ∃ gs₁', events.foldlM (handleChannelStream ops₁) gs₁ = .ok gs₁' ∧
      GraphStore.Agree ops₁ ops₂ gs₁' gs₂' := by
  -- induction on the events, one `handleChannelStream_agree` step each
  induction events generalizing gs₁ gs₂ with
  | nil =>
    cases hok
    exact ⟨gs₁, rfl, h⟩
  | cons event events ih =>
    rw [List.foldlM_cons] at hok
    obtain ⟨gs₂m, hstep, hrest⟩ := Except.bind_eq_ok.mp hok
    obtain ⟨gs₁m, hstep₁, hm⟩ := handleChannelStream_agree h₁ h₂ h hstep
    obtain ⟨gs₁', hrest₁, h'⟩ := ih hm hrest
    exact ⟨gs₁', by rw [List.foldlM_cons, hstep₁]; exact hrest₁, h'⟩

end Agree

/-- A closed channel's event on a store without storage panics, whatever its edge. -/
theorem handleChannelStream_closed_of_storage_none {G : Type} {ops : IndexedGraph G Vertex Edge}
    {graphStore : GraphStore G} (hnone : graphStore.storage = none)
    (channelAddress : AccountAddress) {balances : List (AccountAddress × UInt64)} {edge : Edge}
    (hedge : eventEdge balances = .ok edge) :
    handleChannelStream ops graphStore (.closed channelAddress balances) =
      .error (.panic "should have edge storage") := by
  rw [handleChannelStream, hedge]
  exact GraphStore.removeEdge_of_storage_none edge hnone

theorem closed_channel_stays_adjacent {G : Type} (ops : IndexedGraph G Vertex Edge)
    (hops : ops.Lawful) :
    (∃ graphStore after : GraphStore G, GraphStore.new ops true (some ⟨[], []⟩) = .ok graphStore ∧
      [ChannelChangeEvent.opened [9] [([1], 5), ([2], 5)],
          .closed [9] [([2], 5), ([1], 5)]].foldlM (handleChannelStream ops) graphStore =
        .ok after ∧
      after.adjacent ops [1] [2] = true) ∧
    ∃ graphStore : GraphStore G, GraphStore.new ops false none = .ok graphStore ∧
      [ChannelChangeEvent.opened [9] [([1], 5), ([2], 5)],
          .closed [9] [([1], 5), ([2], 5)]].foldlM (handleChannelStream ops) graphStore =
        .error (.panic "should have edge storage") := by
  constructor
  · -- over petgraph's model the closed event's reversed edge is not the one the map holds, so
    -- the edge stays; every lawful graph agrees with that run
    obtain ⟨P, P', hnew, hrun, hadjacent⟩ : ∃ P P' : GraphStore (PetGraph Vertex Edge),
        GraphStore.new PetGraph.ops true (some ⟨[], []⟩) = .ok P ∧
        [ChannelChangeEvent.opened [9] [([1], 5), ([2], 5)],
            .closed [9] [([2], 5), ([1], 5)]].foldlM (handleChannelStream PetGraph.ops) P =
          .ok P' ∧
        P'.adjacent PetGraph.ops [1] [2] = true :=
      ⟨_, _, rfl, rfl, by decide⟩
    obtain ⟨S, hnew', h⟩ := GraphStore.Agree.new hops PetGraph.lawful hnew
    obtain ⟨S', hrun', h'⟩ := foldlM_handleChannelStream_agree hops PetGraph.lawful _ h hrun
    exact ⟨S, S', hnew', hrun', (h'.adjacent_eq [1] [2]).trans hadjacent⟩
  · -- the opened event puts its edge in memory; the closed one then finds no storage
    obtain ⟨P, hopen, hstorage⟩ : ∃ P : GraphStore (PetGraph Vertex Edge),
        handleChannelStream PetGraph.ops ⟨PetGraph.ops.empty, [], [], [], false, none⟩
          (.opened [9] [([1], 5), ([2], 5)]) = .ok P ∧ P.storage = none :=
      ⟨_, rfl, rfl⟩
    have hempty : GraphStore.Agree ops PetGraph.ops ⟨ops.empty, [], [], [], false, none⟩
        ⟨PetGraph.ops.empty, [], [], [], false, none⟩ :=
      ⟨IndexedGraph.equiv_empty hops PetGraph.lawful, rfl, rfl, rfl, rfl, rfl⟩
    obtain ⟨S, hopen', h⟩ := handleChannelStream_agree hops PetGraph.lawful hempty hopen
    refine ⟨_, rfl, ?_⟩
    rw [List.foldlM_cons, hopen']
    show [ChannelChangeEvent.closed [9] [([1], 5), ([2], 5)]].foldlM (handleChannelStream ops) S = _
    rw [List.foldlM_cons,
      handleChannelStream_closed_of_storage_none (h.storage.trans hstorage) [9] rfl]
    rfl

theorem closed_channel_stays_adjacent_petgraph :
    (PetGraph.ops : IndexedGraph (PetGraph Vertex Edge) Vertex Edge).Lawful ∧
    (∃ graphStore after : GraphStore (PetGraph Vertex Edge),
      GraphStore.new PetGraph.ops true (some ⟨[], []⟩) = .ok graphStore ∧
      [ChannelChangeEvent.opened [9] [([1], 5), ([2], 5)],
          .closed [9] [([2], 5), ([1], 5)]].foldlM (handleChannelStream PetGraph.ops) graphStore =
        .ok after ∧
      after.adjacent PetGraph.ops [1] [2] = true) ∧
    ∃ graphStore : GraphStore (PetGraph Vertex Edge),
      GraphStore.new PetGraph.ops false none = .ok graphStore ∧
      [ChannelChangeEvent.opened [9] [([1], 5), ([2], 5)],
          .closed [9] [([1], 5), ([2], 5)]].foldlM (handleChannelStream PetGraph.ops) graphStore =
        .error (.panic "should have edge storage") :=
  ⟨PetGraph.lawful, closed_channel_stays_adjacent PetGraph.ops PetGraph.lawful⟩

end RouterInner

/-! ### Hops of a path -/

/-- What the table router reads from its own node: its account, its wallet's balances on its
channel with a peer (`channel_balance`, `participant_channel_balance`), and the pressure of
the payments pending over a directed channel (`Stats::back_pressure`). -/
structure RouterWallet where
  account : AccountAddress
  channelBalance : AccountAddress → Result UInt64
  participantChannelBalance : AccountAddress → Result UInt64
  backPressure : AccountAddress × AccountAddress → Result UInt64

/-- `RouterInner` as `vertexes_to_balance_list` reads it: its own node, and `query_balance`, the
answer that comes back to the balance query it sends to `local` about the channel to `remote`
(an `Err` when the query cannot be sent or the answer is not a balance). -/
structure RouterInner where
  wallet : RouterWallet
  queryBalance : AccountAddress → AccountAddress → Result BalanceQueryResponse

namespace RouterInner

/-- `RouterInner::handle_balance_query_request`, on the node a balance query is sent to: the
response it sends back, if any. A query about another account is only logged. -/
def handleBalanceQueryRequest (wallet : RouterWallet) (msg : BalanceQueryRequest) :
    Result (Option BalanceQueryResponse) :=
  if msg.localAddr ≠ wallet.account then .ok none
  else do
    let balance ← wallet.channelBalance msg.remoteAddr
    let totalAmount ← wallet.backPressure (msg.localAddr, msg.remoteAddr)
    let remoteBalance ← wallet.participantChannelBalance msg.remoteAddr
    pure (some ⟨msg.localAddr, msg.remoteAddr, balance, remoteBalance, totalAmount⟩)

/-- A node answers a balance query with the hop it was asked about. -/
theorem handleBalanceQueryRequest_hop {wallet : RouterWallet} {msg : BalanceQueryRequest}
    {response : BalanceQueryResponse}
    (h : handleBalanceQueryRequest wallet msg = .ok (some response)) :
    response.localAddr = msg.localAddr ∧ response.remoteAddr = msg.remoteAddr := by
  unfold handleBalanceQueryRequest at h
  split_ifs at h
  · cases h
  · obtain ⟨_, -, h⟩ := Except.bind_eq_ok.mp h
    obtain ⟨_, -, h⟩ := Except.bind_eq_ok.mp h
    obtain ⟨_, -, h⟩ := Except.bind_eq_ok.mp h
    cases h
    exact ⟨rfl, rfl⟩

/-- The body of the loop of `vertexes_to_balance_list` at one `(index, vertex)` of the
remaining vertices: up to `length - 2`, the hop from the vertex at `index` to the next one. -/
def balanceOfHop (router : RouterInner) (vertexes : List Vertex) (length : Nat)
    (result : List BalanceQueryResponse) (entry : Vertex × Nat) :
    Except Failure (List BalanceQueryResponse) := do
  let index := entry.2
  if index ≤ length - 2 then
    let some localAddr := vertexes[index]? | throw (.panic "called Option::unwrap() on a None value")
    let some remoteAddr := vertexes[index + 1]?
      | throw (.panic "called Option::unwrap() on a None value")
    let response ← Failure.lift (router.queryBalance localAddr.id remoteAddr.id)
    pure (result ++ [response])
  else pure result

/-- `RouterInner::vertexes_to_balance_list`: the first vertex is removed and must be the
router's own account; the first hop is read from its own wallet, and every later one queried. -/
def vertexesToBalanceList (router : RouterInner) (vertexes : List Vertex) :
    Except Failure (List BalanceQueryResponse) := do
  if vertexes.length < 2 then throw (.error "should have at lease 1 hops")
  -- `vertexes.remove(0)`
  let some firstVertex := vertexes.head?
    | throw (.panic "removal index (is 0) should be < len (is 0)")
  let first := firstVertex.id
  let vertexes := vertexes.tail
  let some secondVertex := vertexes[0]? | throw (.panic "should have")
  let second := secondVertex.id
  if first ≠ router.wallet.account then throw (.error "first hop should be local address")
  let totalAmount ← Failure.lift (router.wallet.backPressure (first, second))
  let localBalance ← Failure.lift (router.wallet.channelBalance second)
  let remoteBalance ← Failure.lift (router.wallet.participantChannelBalance second)
  let result := [⟨first, second, localBalance, remoteBalance, totalAmount⟩]
  let length := vertexes.length
  if 1 < length then vertexes.zipIdx.foldlM (balanceOfHop router vertexes length) result
  else pure result

/-- The loop over the vertices from `index` on: each vertex but the last queries the hop to the
next one. The guard `1 < length` keeps `length - 2` from wrapping, so the last index is
skipped. -/
theorem foldlM_balanceOfHop (router : RouterInner) {vertexes : List Vertex}
    (hlength : 1 < vertexes.length) :
    ∀ (suffix : List Vertex) (index : Nat) (result : List BalanceQueryResponse),
      vertexes.drop index = suffix →
      (suffix.zipIdx index).foldlM (balanceOfHop router vertexes vertexes.length) result =
        (result ++ ·) <$> Failure.lift ((suffix.zip suffix.tail).mapM
          fun hop => router.queryBalance hop.1.id hop.2.id)
  | [], _, result, _ => by
      show Except.ok result = Except.ok (result ++ [])
      rw [List.append_nil]
  | [a], index, result, hsuffix => by
      -- the last vertex: its index is `length - 1`, past the guard
      have hindex : index + 1 = vertexes.length := by
        have := congrArg List.length hsuffix
        simp only [List.length_drop, List.length_singleton] at this
        omega
      simp only [List.zipIdx_cons, List.zipIdx_nil, List.foldlM_cons, List.foldlM_nil,
        balanceOfHop, show ¬ index ≤ vertexes.length - 2 by omega, if_false]
      show Except.ok result = Except.ok (result ++ [])
      rw [List.append_nil]
  | a :: b :: rest, index, result, hsuffix => by
      have hindex : index + 2 ≤ vertexes.length := by
        have := congrArg List.length hsuffix
        simp only [List.length_drop, List.length_cons] at this
        omega
      have ha : vertexes[index]? = some a := by
        rw [← Nat.add_zero index, ← List.getElem?_drop, hsuffix]
        rfl
      have hb : vertexes[index + 1]? = some b := by
        rw [← List.getElem?_drop, hsuffix]
        rfl
      have hrest : vertexes.drop (index + 1) = b :: rest := by
        rw [← List.drop_drop, hsuffix]
        rfl
      have ih := foldlM_balanceOfHop router hlength (b :: rest) (index + 1)
      rw [List.zipIdx_cons, List.foldlM_cons]
      simp only [balanceOfHop, show index ≤ vertexes.length - 2 by omega, if_true, ha, hb,
        List.zip_cons_cons, List.tail_cons, List.mapM_cons]
      cases router.queryBalance a.id b.id with
      | error e => rfl
      | ok response =>
          show List.foldlM _ (result ++ [response]) _ = _
          rw [ih (result ++ [response]) hrest, List.tail_cons]
          cases (b :: rest).zip rest |>.mapM fun hop => router.queryBalance hop.1.id hop.2.id with
          | error e => rfl
          | ok hops =>
              show Except.ok (result ++ [response] ++ hops) = Except.ok (result ++ response :: hops)
              rw [List.append_assoc, List.singleton_append]

/-- With its guards passed, `vertexes_to_balance_list` of `v₀ v₁ … vₖ` reads the first hop from
the router's own node and queries the others, in order. -/
theorem vertexesToBalanceList_eq (router : RouterInner) (v₀ v₁ : Vertex) (rest : List Vertex)
    (hlocal : v₀.id = router.wallet.account) :
    vertexesToBalanceList router (v₀ :: v₁ :: rest) = (do
      let totalAmount ← Failure.lift (router.wallet.backPressure (v₀.id, v₁.id))
      let localBalance ← Failure.lift (router.wallet.channelBalance v₁.id)
      let remoteBalance ← Failure.lift (router.wallet.participantChannelBalance v₁.id)
      let hops ← Failure.lift (((v₁ :: rest).zip rest).mapM
        fun hop => router.queryBalance hop.1.id hop.2.id)
      pure (⟨v₀.id, v₁.id, localBalance, remoteBalance, totalAmount⟩ :: hops)) := by
  simp only [vertexesToBalanceList, List.length_cons, show ¬ rest.length + 1 + 1 < 2 by omega,
    if_false, List.head?_cons, List.tail_cons, List.getElem?_cons_zero, hlocal, ne_eq,
    not_true_eq_false]
  congr 1; funext totalAmount
  congr 1; funext localBalance
  congr 1; funext remoteBalance
  cases rest with
  | nil => rfl
  | cons w rest =>
      -- two vertices or more remain: the loop runs over all of them
      refine (foldlM_balanceOfHop router (by simp) (v₁ :: w :: rest) 0 _ rfl).trans ?_
      rw [List.tail_cons]
      cases ((v₁ :: w :: rest).zip (w :: rest)).mapM
          fun hop => router.queryBalance hop.1.id hop.2.id with
      | error e => rfl
      | ok hops => rfl

/-- Every answer to a balance query is about the hop asked for, as the answer of a node running
`handle_balance_query_request` is (`handleBalanceQueryRequest_hop`). -/
def AnswersHops (router : RouterInner) : Prop :=
  ∀ localAddr remoteAddr response, router.queryBalance localAddr remoteAddr = .ok response →
    response.localAddr = localAddr ∧ response.remoteAddr = remoteAddr

/-- Every balance `vertexes_to_balance_list` asks for along the path `v₀ v₁ rest` is answered:
the first hop's by the router's own node, every later hop's by its query. -/
def Answered (router : RouterInner) (v₀ v₁ : Vertex) (rest : List Vertex) : Prop :=
  (∃ totalAmount, router.wallet.backPressure (v₀.id, v₁.id) = .ok totalAmount) ∧
    (∃ balance, router.wallet.channelBalance v₁.id = .ok balance) ∧
    (∃ balance, router.wallet.participantChannelBalance v₁.id = .ok balance) ∧
    ∀ hop ∈ (v₁ :: rest).zip rest, ∃ response, router.queryBalance hop.1.id hop.2.id = .ok response

/-- The hops `vertexes_to_balance_list` builds for a path `v₀ v₁ … vₖ` (`k ≥ 1`) from the
router's own account: it never panics, whatever answers it gets; what it returns is exactly the
`k` hops `(v₀, v₁), …, (vₖ₋₁, vₖ)` in order; and it returns once every balance it asks for is
answered. -/
theorem vertexes_to_balance_list_hops {router : RouterInner} (hanswers : AnswersHops router)
    {v₀ v₁ : Vertex} {rest : List Vertex} (hlocal : v₀.id = router.wallet.account) :
    (∀ message, vertexesToBalanceList router (v₀ :: v₁ :: rest) ≠ .error (.panic message)) ∧
    (∀ result, vertexesToBalanceList router (v₀ :: v₁ :: rest) = .ok result →
      result.length = rest.length + 1 ∧
      result.map (fun r => (r.localAddr, r.remoteAddr)) =
        ((v₀ :: v₁ :: rest).map Vertex.id).zip ((v₁ :: rest).map Vertex.id)) ∧
    (Answered router v₀ v₁ rest →
      ∃ result, vertexesToBalanceList router (v₀ :: v₁ :: rest) = .ok result) := by
  rw [vertexesToBalanceList_eq router v₀ v₁ rest hlocal]
  refine ⟨fun message => ?_, fun result h => ?_, fun hanswered => ?_⟩
  · -- every step is a lifted store result, and the last one is `pure`
    refine Failure.lift_bind_ne_panic _ fun _ => Failure.lift_bind_ne_panic _ fun _ =>
      Failure.lift_bind_ne_panic _ fun _ => Failure.lift_bind_ne_panic _ fun _ => ?_
    intro h
    cases h
  · obtain ⟨totalAmount, -, h⟩ := Except.bind_eq_ok.mp h
    obtain ⟨localBalance, -, h⟩ := Except.bind_eq_ok.mp h
    obtain ⟨remoteBalance, -, h⟩ := Except.bind_eq_ok.mp h
    obtain ⟨hops, hhops, h⟩ := Except.bind_eq_ok.mp h
    cases h
    -- each later hop is answered for the pair it was asked about
    have hpairs : hops.map (fun r => (r.localAddr, r.remoteAddr)) =
        ((v₁ :: rest).zip rest).map fun hop => (hop.1.id, hop.2.id) :=
      Except.map_of_mapM_eq_ok (fun hop response h => by
        obtain ⟨hl, hr⟩ := hanswers _ _ response h
        rw [hl, hr]) (Failure.lift_eq_ok.mp hhops)
    have hlength := congrArg List.length hpairs
    simp only [List.length_map, List.length_zip, List.length_cons] at hlength
    refine ⟨by simp [hlength], ?_⟩
    rw [List.zip_map, List.zip_cons_cons, List.map_cons, List.map_cons, hpairs]
    rfl
  · obtain ⟨⟨totalAmount, htotal⟩, ⟨localBalance, hlocalBalance⟩, ⟨remoteBalance, hremote⟩,
      hqueries⟩ := hanswered
    obtain ⟨hops, hhops⟩ := Except.mapM_eq_ok_of_forall hqueries
    rw [htotal, hlocalBalance, hremote, hhops]
    exact ⟨_, rfl⟩

end RouterInner

/-- A node of account `account` holding `10` on each side of every channel, with nothing
pending. -/
def RouterWallet.sample (account : AccountAddress) : RouterWallet :=
  ⟨account, fun _ => .ok 10, fun _ => .ok 10, fun _ => .ok 0⟩

/-- The router of account `[0]` on a network where every node answers balance queries by
`handle_balance_query_request` over `RouterWallet.sample`. -/
def RouterInner.sample : RouterInner where
  wallet := RouterWallet.sample [0]
  queryBalance localAddr remoteAddr :=
    match RouterInner.handleBalanceQueryRequest (RouterWallet.sample localAddr)
        ⟨localAddr, remoteAddr⟩ with
    | .ok (some response) => .ok response
    | .ok none => .error "future time out"
    | .error e => .error e

theorem RouterInner.answersHops_sample : RouterInner.sample.AnswersHops := by
  intro localAddr remoteAddr response h
  -- the answer is the one the queried node sends back
  simp only [RouterInner.sample] at h
  split at h
  · next hsent =>
      cases h
      exact RouterInner.handleBalanceQueryRequest_hop hsent
  · cases h
  · cases h

theorem RouterInner.vertexes_to_balance_list_hops_three :
    RouterInner.sample.AnswersHops ∧
      (⟨[0], "BI"⟩ : Vertex).id = RouterInner.sample.wallet.account ∧
      (∀ message, RouterInner.sample.vertexesToBalanceList
          [⟨[0], "BI"⟩, ⟨[1], "BI"⟩, ⟨[2], "BI"⟩] ≠ .error (.panic message)) ∧
      (∀ result, RouterInner.sample.vertexesToBalanceList
          [⟨[0], "BI"⟩, ⟨[1], "BI"⟩, ⟨[2], "BI"⟩] = .ok result →
        result.length = 2 ∧
        result.map (fun r => (r.localAddr, r.remoteAddr)) = [([0], [1]), ([1], [2])]) ∧
      (RouterInner.Answered RouterInner.sample ⟨[0], "BI"⟩ ⟨[1], "BI"⟩ [⟨[2], "BI"⟩] →
        ∃ result, RouterInner.sample.vertexesToBalanceList
          [⟨[0], "BI"⟩, ⟨[1], "BI"⟩, ⟨[2], "BI"⟩] = .ok result) :=
  ⟨RouterInner.answersHops_sample, rfl,
    @RouterInner.vertexes_to_balance_list_hops RouterInner.sample RouterInner.answersHops_sample
      ⟨[0], "BI"⟩ ⟨[1], "BI"⟩ [⟨[2], "BI"⟩] rfl⟩
