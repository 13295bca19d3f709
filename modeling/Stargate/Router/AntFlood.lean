import Stargate.Router.Ant
import Stargate.Lib.SimplePaths
import Stargate.Lib.Transition

/-!
# Stargate.Router.AntFlood

The ant router's query flood as a message-passing system (src/router/ant/src/lib.rs).

A route search starts a flood at a node: `send_ant_query_message(s, peer_id, [])` sends the seed
`s` to each of the node's channel participants with the one hop to it (`find_path` at the payer,
`handle_exchange_seed_message_request` at the payee). A node handling a query asks
`match_or_add`; when that glues no route, it passes the query on to each participant that is not
an end of a hop so far, with the hop to it appended. Queries are delivered in any order, each
once. What `match_or_add` answers is left free, since any interleaving of a node's handlers may
have produced it, and so are the balances a node reads and whether a read fails.

Every query ever sent carries hops `(x0,x1), ..., (x(k-1),xk)` over channels of the graph, with
`x0..xk` distinct and `xk` its recipient (`RouteTo`). No two queries of one seed pass the same
nodes, because the query a node passes on extends the route of the one it handles, and that one
is delivered once. So the queries of a seed, and their deliveries, are at most the simple paths
of the graph (`ant_flood_bounded`).
-/

/-- The channel graph the ant router floods: the channel participants `get_all_channels` returns
at each node (a set: none twice), all among finitely many nodes, and no node with a channel to
itself. -/
structure ChannelGraph where
  nodes : Finset AccountAddress
  allChannels : AccountAddress → List AccountAddress
  nodup : ∀ a, (allChannels a).Nodup
  mem_nodes : ∀ a, ∀ b ∈ allChannels a, a ∈ nodes ∧ b ∈ nodes
  loopless : ∀ a, a ∉ allChannels a

namespace ChannelGraph

/-- A channel from `a` to `b`. -/
def Adj (G : ChannelGraph) (a b : AccountAddress) : Prop := b ∈ G.allChannels a

instance decidableAdj (G : ChannelGraph) : DecidableRel G.Adj :=
  fun a b => inferInstanceAs (Decidable (b ∈ G.allChannels a))

/-- The simple paths of the channel graph. -/
def simplePaths (G : ChannelGraph) : Finset (List AccountAddress) :=
  SimplePaths.simplePaths G.nodes G.Adj

end ChannelGraph

/-! ### Sending and handling queries -/

namespace AntRouterInner

/-- What `send_ant_query_message` reads for the channel to one participant: the back pressure
(`stats_mgr.back_pressure`), this node's balance (`channel_balance`) and the participant's
(`participant_channel_balance`). -/
structure ChannelReading where
  totalAmount : UInt64
  channelBalance : UInt64
  participantChannelBalance : UInt64

/-- `already_send_set`: both ends of every hop so far. -/
def alreadySendSet (balanceList : List BalanceQueryResponse) : List AccountAddress :=
  balanceList.flatMap fun response => [response.remoteAddr, response.localAddr]

/-- The loop of `send_ant_query_message` at node `account` over its channel participants: a
participant not yet an end of a hop is sent the hops extended by the hop to it. A failed read
ends the loop with its error, after the sends before it. -/
def sendLoop (account : AccountAddress) (read : AccountAddress → Except String ChannelReading)
    (s : SValue) (peerId : AccountAddress) (balanceList : List BalanceQueryResponse) :
    List AccountAddress → List (AccountAddress × AntQueryMessage) × Except String Unit
  | [] => ([], .ok ())
  | participant :: participants =>
    if participant ∈ alreadySendSet balanceList then
      sendLoop account read s peerId balanceList participants
    else
      match read participant with
      | .error e => ([], .error e)
      | .ok reading =>
        let balanceQueryResponse : BalanceQueryResponse :=
          ⟨account, participant, reading.channelBalance, reading.participantChannelBalance,
            reading.totalAmount⟩
        let rest := sendLoop account read s peerId balanceList participants
        ((participant, ⟨s, peerId, balanceList ++ [balanceQueryResponse]⟩) :: rest.1, rest.2)

/-- `AntRouterInner::send_ant_query_message` at node `account`, whose channel participants are
`allChannels`: the queries sent, each to its recipient, and the result. -/
def sendAntQueryMessage (account : AccountAddress) (allChannels : List AccountAddress)
    (read : AccountAddress → Except String ChannelReading) (s : SValue) (peerId : AccountAddress)
    (balanceList : List BalanceQueryResponse) :
    List (AccountAddress × AntQueryMessage) × Except String Unit :=
  sendLoop account read s peerId balanceList allChannels

/-- `AntRouterInner::handle_ant_query_message` at node `account`, given what `match_or_add`
answered for the query: a glued route goes back to the query's sender as a final message, whose
`r` is the seed's `get_r`; no route passes the query on; a panic sends nothing. The final messages
and the queries sent. -/
def handleAntQueryMessage (getR : SValue → HashValue) (account : AccountAddress)
    (allChannels : List AccountAddress) (read : AccountAddress → Except String ChannelReading)
    (message : AntQueryMessage) (matched : Except Failure (Option (List BalanceQueryResponse))) :
    List (AccountAddress × AntFinalMessage) × List (AccountAddress × AntQueryMessage) :=
  match matched with
  | .ok (some t) => ([(message.senderAddr, ⟨getR message.sValue, t⟩)], [])
  | .ok none =>
    ([], (sendAntQueryMessage account allChannels read message.sValue message.senderAddr
      message.balanceQueryResponseList).1)
  | .error _ => ([], [])

/-- What a query the loop sends carries: the seed and sender it was given, and the hops extended
by one from `account` to a participant not yet an end of a hop. -/
theorem mem_sendLoop {account : AccountAddress} {read : AccountAddress → Except String ChannelReading}
    {s : SValue} {peerId : AccountAddress} {balanceList : List BalanceQueryResponse}
    {participants : List AccountAddress} {p : AccountAddress} {m : AntQueryMessage}
    (h : (p, m) ∈ (sendLoop account read s peerId balanceList participants).1) :
    p ∈ participants ∧ p ∉ alreadySendSet balanceList ∧ m.sValue = s ∧
      ∃ hop : BalanceQueryResponse, hop.localAddr = account ∧ hop.remoteAddr = p ∧
        m.balanceQueryResponseList = balanceList ++ [hop] := by
  induction participants with
  | nil => cases h
  | cons participant participants ih =>
    unfold sendLoop at h
    split at h
    case isTrue _ =>
      obtain ⟨hp, hrest⟩ := ih h
      exact ⟨List.mem_cons_of_mem _ hp, hrest⟩
    case isFalse hnew =>
      split at h
      case h_1 => cases h
      case h_2 reading _ =>
        rcases List.mem_cons.mp h with hfirst | hlater
        · -- the query to `participant` itself
          obtain ⟨rfl, rfl⟩ := Prod.mk.inj hfirst
          exact ⟨List.mem_cons_self, hnew, rfl, _, rfl, rfl, rfl⟩
        · obtain ⟨hp, hrest⟩ := ih hlater
          exact ⟨List.mem_cons_of_mem _ hp, hrest⟩

/-- The loop sends to each participant at most once, in their order. -/
theorem sublist_sendLoop (account : AccountAddress)
    (read : AccountAddress → Except String ChannelReading) (s : SValue) (peerId : AccountAddress)
    (balanceList : List BalanceQueryResponse) (participants : List AccountAddress) :
    ((sendLoop account read s peerId balanceList participants).1.map Prod.fst).Sublist
      participants := by
  induction participants with
  | nil => exact List.Sublist.slnil
  | cons participant participants ih =>
    unfold sendLoop
    split
    · exact ih.cons participant
    · split
      · exact List.nil_sublist _
      · exact ih.cons_cons participant

end AntRouterInner

/-! ### Routes -/

open AntRouterInner

/-- The nodes a query's hops pass: `x0, x1, ..., xk`. -/
def route : List BalanceQueryResponse → List AccountAddress
  | [] => []
  | hop :: hops => hop.localAddr :: (hop :: hops).map BalanceQueryResponse.remoteAddr

theorem route_append_singleton {hops : List BalanceQueryResponse} (hne : hops ≠ [])
    (hop : BalanceQueryResponse) : route (hops ++ [hop]) = route hops ++ [hop.remoteAddr] := by
  cases hops with
  | nil => exact absurd rfl hne
  | cons first hops => simp [route]

theorem getLast?_route (hops : List BalanceQueryResponse) :
    (route hops).getLast? = (hops.getLast?).map BalanceQueryResponse.remoteAddr := by
  cases hops with
  | nil => rfl
  | cons first hops =>
    rw [route, List.map_cons, List.getLast?_cons_cons, ← List.map_cons, List.getLast?_map]

/-- Every node a route passes is an end of one of its hops. -/
theorem mem_alreadySendSet_of_mem_route {hops : List BalanceQueryResponse} {x : AccountAddress}
    (hx : x ∈ route hops) : x ∈ alreadySendSet hops := by
  cases hops with
  | nil => cases hx
  | cons first hops =>
    rw [alreadySendSet, List.mem_flatMap]
    rcases List.mem_cons.mp hx with rfl | hx
    · exact ⟨first, List.mem_cons_self, by simp⟩
    · obtain ⟨hop, hmem, rfl⟩ := List.mem_map.mp hx
      exact ⟨hop, hmem, by simp⟩

/-- A query's hops as a route to its recipient `r`: `(x0,x1), ..., (x(k-1),xk)`,
each hop starting where the one before it ended, with `x0..xk` a simple path of the channel graph
(so `k ≥ 1` and the `xi` are distinct) ending at `xk = r`. -/
structure RouteTo (G : ChannelGraph) (r : AccountAddress) (hops : List BalanceQueryResponse) :
    Prop where
  chain : hops.IsChain fun hop hop' => hop.remoteAddr = hop'.localAddr
  simple : route hops ∈ G.simplePaths
  last : (route hops).getLast? = some r

theorem RouteTo.ne_nil {G : ChannelGraph} {r : AccountAddress} {hops : List BalanceQueryResponse}
    (h : RouteTo G r hops) : hops ≠ [] := by
  rintro rfl
  have hlen := (SimplePaths.mem_simplePaths.mp h.simple).2.2.1
  simp [route] at hlen

/-- A flood's first hop, from a node to one of its channel participants. -/
theorem RouteTo.single {G : ChannelGraph} {hop : BalanceQueryResponse}
    (hchannel : hop.remoteAddr ∈ G.allChannels hop.localAddr) :
    RouteTo G hop.remoteAddr [hop] := by
  have hne : hop.localAddr ≠ hop.remoteAddr := by
    intro heq
    exact G.loopless hop.localAddr (heq ▸ hchannel)
  obtain ⟨hlocal, hremote⟩ := G.mem_nodes hop.localAddr hop.remoteAddr hchannel
  exact ⟨List.isChain_singleton hop,
    SimplePaths.pair_mem_simplePaths hne hlocal hremote hchannel, rfl⟩

/-- A route passed on over a channel to a node not yet an end of its hops. -/
theorem RouteTo.extend {G : ChannelGraph} {r : AccountAddress} {hops : List BalanceQueryResponse}
    (h : RouteTo G r hops) {hop : BalanceQueryResponse} (hlocal : hop.localAddr = r)
    (hchannel : hop.remoteAddr ∈ G.allChannels r) (hfresh : hop.remoteAddr ∉ alreadySendSet hops) :
    RouteTo G hop.remoteAddr (hops ++ [hop]) := by
  have hne := h.ne_nil
  have hlastHop : ∀ x ∈ hops.getLast?, x.remoteAddr = r := by
    intro x hx
    have hlast := h.last
    rw [getLast?_route, hx] at hlast
    exact Option.some.inj hlast
  refine ⟨?_, ?_, ?_⟩
  · refine h.chain.append (List.isChain_singleton hop) ?_
    intro x hx y hy
    rw [List.head?_cons, Option.mem_some_iff] at hy
    rw [hlastHop x hx, ← hy, hlocal]
  · rw [route_append_singleton hne]
    exact SimplePaths.append_mem_simplePaths h.simple h.last
      (fun hmem => hfresh (mem_alreadySendSet_of_mem_route hmem))
      (G.mem_nodes r hop.remoteAddr hchannel).2 hchannel
  · rw [route_append_singleton hne, List.getLast?_append_of_ne_nil _ (List.cons_ne_nil _ _)]
    rfl

/-! ### A node's batch of queries -/

/-- A batch of queries one node sends at once: all of seed `s`, to distinct recipients, each
with hops that route to its recipient through `base` and then that recipient. -/
structure Batch (G : ChannelGraph) (s : SValue) (base : List AccountAddress)
    (sends : List (AccountAddress × AntQueryMessage)) : Prop where
  seed : ∀ e ∈ sends, e.2.sValue = s
  routed : ∀ e ∈ sends, RouteTo G e.1 e.2.balanceQueryResponseList
  grows : ∀ e ∈ sends, route e.2.balanceQueryResponseList = base ++ [e.1]
  recipients : (sends.map Prod.fst).Nodup

theorem Batch.nil (G : ChannelGraph) (s : SValue) (base : List AccountAddress) :
    Batch G s base [] :=
  ⟨nofun, nofun, nofun, List.nodup_nil⟩

/-- A flood's start sends a batch from the node alone. -/
theorem batch_originate (G : ChannelGraph) (node : AccountAddress) (s : SValue)
    (peerId : AccountAddress) (read : AccountAddress → Except String ChannelReading) :
    Batch G s [node] (sendAntQueryMessage node (G.allChannels node) read s peerId []).1 := by
  refine ⟨?_, ?_, ?_, (G.nodup node).sublist (sublist_sendLoop _ _ _ _ _ _)⟩
  all_goals
    rintro ⟨p, m⟩ hmem
    obtain ⟨hp, -, hseed, hop, hlocal, hremote, hhops⟩ := mem_sendLoop hmem
    rw [List.nil_append] at hhops
  · exact hseed
  · rw [hhops, ← hremote]
    exact RouteTo.single (hlocal ▸ hremote ▸ hp)
  · rw [hhops, ← hlocal, ← hremote]
    rfl

/-- A node passing on a query that routes to it sends a batch extending that route. -/
theorem batch_sendAntQueryMessage {G : ChannelGraph} {r : AccountAddress}
    {hops : List BalanceQueryResponse} (h : RouteTo G r hops) (s : SValue)
    (peerId : AccountAddress) (read : AccountAddress → Except String ChannelReading) :
    Batch G s (route hops) (sendAntQueryMessage r (G.allChannels r) read s peerId hops).1 := by
  refine ⟨?_, ?_, ?_, (G.nodup r).sublist (sublist_sendLoop _ _ _ _ _ _)⟩
  all_goals
    rintro ⟨p, m⟩ hmem
    obtain ⟨hp, hfresh, hseed, hop, hlocal, hremote, hhops⟩ := mem_sendLoop hmem
  · exact hseed
  · rw [hhops, ← hremote]
    exact h.extend hlocal (hremote ▸ hp) (hremote ▸ hfresh)
  · rw [hhops, route_append_singleton h.ne_nil, hremote]

/-- Whatever `match_or_add` answers, handling a query that routes to its recipient sends a
batch extending that route. -/
theorem batch_handleAntQueryMessage {G : ChannelGraph} (getR : SValue → HashValue)
    {e : AccountAddress × AntQueryMessage} (h : RouteTo G e.1 e.2.balanceQueryResponseList)
    (read : AccountAddress → Except String ChannelReading)
    (matched : Except Failure (Option (List BalanceQueryResponse))) :
    Batch G e.2.sValue (route e.2.balanceQueryResponseList)
      (handleAntQueryMessage getR e.1 (G.allChannels e.1) read e.2 matched).2 := by
  unfold handleAntQueryMessage
  split
  · exact Batch.nil G _ _
  · exact batch_sendAntQueryMessage h _ _ read
  · exact Batch.nil G _ _

/-! ### The flood -/

/-- The routes of the queries of seed `s` in a list of queries. -/
def routesOf (s : SValue) (queries : List (AccountAddress × AntQueryMessage)) :
    List (List AccountAddress) :=
  (queries.filter fun e => e.2.sValue = s).map fun e => route e.2.balanceQueryResponseList

theorem routesOf_append (s : SValue) (l₁ l₂ : List (AccountAddress × AntQueryMessage)) :
    routesOf s (l₁ ++ l₂) = routesOf s l₁ ++ routesOf s l₂ := by
  simp [routesOf]

theorem mem_routesOf {s : SValue} {queries : List (AccountAddress × AntQueryMessage)}
    {x : List AccountAddress} :
    x ∈ routesOf s queries ↔
      ∃ e ∈ queries, e.2.sValue = s ∧ route e.2.balanceQueryResponseList = x := by
  simp [routesOf, and_assoc]

/-- Fewer queries of a seed have fewer routes, and distinct ones if those of the many were. -/
theorem routesOf_nodup_of_subperm {s : SValue} {l₁ l₂ : List (AccountAddress × AntQueryMessage)}
    (hsub : l₁.Subperm l₂) (hnodup : (routesOf s l₂).Nodup) : (routesOf s l₁).Nodup := by
  obtain ⟨l, hperm, hsublist⟩ := hsub.filter fun e => decide (e.2.sValue = s)
  have hmapped : (l.map fun e => route e.2.balanceQueryResponseList).Nodup :=
    hnodup.sublist (hsublist.map _)
  exact (hperm.map _).nodup_iff.mp hmapped

/-- The routes of a batch are distinct, and those of another seed there are none of. -/
theorem Batch.routesOf_nodup {G : ChannelGraph} {s : SValue} {base : List AccountAddress}
    {sends : List (AccountAddress × AntQueryMessage)} (h : Batch G s base sends) (s' : SValue) :
    (routesOf s' sends).Nodup := by
  have hall : (sends.filter fun e => decide (e.2.sValue = s')).Sublist sends := List.filter_sublist
  have hmap : (routesOf s' sends) =
      ((sends.filter fun e => decide (e.2.sValue = s')).map Prod.fst).map (base ++ [·]) := by
    rw [routesOf, List.map_map]
    apply List.map_congr_left
    intro e he
    exact h.grows e (List.mem_of_mem_filter he)
  rw [hmap]
  refine List.Nodup.map (fun p q hpq => ?_) (h.recipients.sublist (hall.map _))
  simpa using hpq

theorem Batch.exists_of_mem_routesOf {G : ChannelGraph} {s : SValue} {base : List AccountAddress}
    {sends : List (AccountAddress × AntQueryMessage)} (h : Batch G s base sends) {s' : SValue}
    {x : List AccountAddress} (hx : x ∈ routesOf s' sends) : s' = s ∧ ∃ p, x = base ++ [p] := by
  obtain ⟨e, he, hseed, rfl⟩ := mem_routesOf.mp hx
  exact ⟨hseed ▸ h.seed e he, e.1, h.grows e he⟩

/-- Within a batch a route extends another only if the two are the same. -/
theorem Batch.eq_of_prefix {G : ChannelGraph} {s : SValue} {base : List AccountAddress}
    {sends : List (AccountAddress × AntQueryMessage)} (h : Batch G s base sends)
    {e e' : AccountAddress × AntQueryMessage} (he : e ∈ sends) (he' : e' ∈ sends)
    (hextends : route e.2.balanceQueryResponseList <+: route e'.2.balanceQueryResponseList) :
    route e'.2.balanceQueryResponseList = route e.2.balanceQueryResponseList := by
  refine (hextends.eq_of_length ?_).symm
  rw [h.grows e he, h.grows e' he']
  simp

/-- The flood's state: the queries in flight, each to its recipient, and as history every query
sent, every query delivered and every final message sent. -/
structure Flood where
  inFlight : List (AccountAddress × AntQueryMessage)
  sent : List (AccountAddress × AntQueryMessage)
  delivered : List (AccountAddress × AntQueryMessage)
  finals : List (AccountAddress × AntFinalMessage)

namespace Flood

/-- No query yet. -/
def empty : Flood := ⟨[], [], [], []⟩

/-- `node` starts a flood with seed `s` (`find_path` or `handle_exchange_seed_message_request`). -/
def originate (G : ChannelGraph) (st : Flood) (node : AccountAddress) (s : SValue)
    (peerId : AccountAddress) (read : AccountAddress → Except String ChannelReading) : Flood :=
  let sends := (sendAntQueryMessage node (G.allChannels node) read s peerId []).1
  { st with inFlight := st.inFlight ++ sends, sent := st.sent ++ sends }

/-- The query `e` in flight is delivered to its recipient, which handles it. -/
def deliver (G : ChannelGraph) (getR : SValue → HashValue) (st : Flood)
    (e : AccountAddress × AntQueryMessage) (read : AccountAddress → Except String ChannelReading)
    (matched : Except Failure (Option (List BalanceQueryResponse))) : Flood :=
  let out := handleAntQueryMessage getR e.1 (G.allChannels e.1) read e.2 matched
  ⟨st.inFlight.erase e ++ out.2, st.sent ++ out.2, st.delivered ++ [e], st.finals ++ out.1⟩

/-- A step of the flood: a node starts one with a seed no query has carried (each search draws
fresh random seeds), or a query in flight is delivered. -/
inductive Step (G : ChannelGraph) (getR : SValue → HashValue) : Flood → Flood → Prop
  | originate (st : Flood) (node : AccountAddress) (s : SValue) (peerId : AccountAddress)
      (read : AccountAddress → Except String ChannelReading)
      (hfresh : ∀ e ∈ st.sent, e.2.sValue ≠ s) :
      Step G getR st (originate G st node s peerId read)
  | deliver (st : Flood) (e : AccountAddress × AntQueryMessage) (he : e ∈ st.inFlight)
      (read : AccountAddress → Except String ChannelReading)
      (matched : Except Failure (Option (List BalanceQueryResponse))) :
      Step G getR st (deliver G getR st e read matched)

section Bag

variable {α : Type} {inFlight delivered sent : List α} (sends : List α)

/-- What is sent joins the messages in flight and the history of those sent alike. -/
theorem perm_send (hbag : (inFlight ++ delivered).Perm sent) :
    (inFlight ++ sends ++ delivered).Perm (sent ++ sends) := by
  have hperm : (inFlight ++ sends ++ delivered).Perm (inFlight ++ delivered ++ sends) := by
    rw [List.append_assoc, List.append_assoc]
    exact List.Perm.append_left _ List.perm_append_comm
  exact hperm.trans (hbag.append_right sends)

/-- A delivered message moves from those in flight to those delivered, and what its handler
sends joins both sides. -/
theorem perm_deliver [BEq α] [LawfulBEq α] {e : α} (he : e ∈ inFlight)
    (hbag : (inFlight ++ delivered).Perm sent) :
    (inFlight.erase e ++ sends ++ (delivered ++ [e])).Perm (sent ++ sends) := by
  rw [List.perm_iff_count]
  intro a
  have hcount := List.perm_iff_count.mp hbag a
  have herase : (inFlight.erase e).count a =
      inFlight.count a - if (e == a) = true then 1 else 0 := List.count_erase
  have hpos : 0 < inFlight.count e := List.count_pos_iff.mpr he
  simp only [List.count_append, List.count_singleton] at hcount ⊢
  -- only the count of `e` itself moves
  by_cases hae : e = a
  · subst hae
    simp only [beq_self_eq_true, if_true] at herase ⊢
    omega
  · have hne : (e == a) = false := beq_false_of_ne hae
    simp only [hne, Bool.false_eq_true, if_false] at herase ⊢
    omega

end Bag

/-- What every run keeps: each query sent routes to its recipient; the queries in flight and
those delivered are those sent; the queries of a seed have distinct routes; and no query sent
extends the route of a query of its seed still in flight. -/
structure Inv (G : ChannelGraph) (st : Flood) : Prop where
  routed : ∀ e ∈ st.sent, RouteTo G e.1 e.2.balanceQueryResponseList
  bag : (st.inFlight ++ st.delivered).Perm st.sent
  distinct : ∀ s, (routesOf s st.sent).Nodup
  unextended : ∀ e ∈ st.inFlight, ∀ e' ∈ st.sent, e'.2.sValue = e.2.sValue →
    route e.2.balanceQueryResponseList <+: route e'.2.balanceQueryResponseList →
    route e'.2.balanceQueryResponseList = route e.2.balanceQueryResponseList

theorem inv_empty (G : ChannelGraph) : Inv G empty :=
  ⟨nofun, List.Perm.refl [], fun _ => List.nodup_nil, nofun⟩

variable {G : ChannelGraph} {st : Flood}

theorem Inv.mem_sent_of_mem_inFlight (hinv : Inv G st) {e : AccountAddress × AntQueryMessage}
    (he : e ∈ st.inFlight) : e ∈ st.sent :=
  hinv.bag.subset (List.mem_append_left _ he)

/-- Two queries in flight of one seed have different routes: the bag holds both, and the
routes of a seed are distinct. -/
theorem Inv.route_ne_of_mem_erase (hinv : Inv G st) {e f : AccountAddress × AntQueryMessage}
    (he : e ∈ st.inFlight) (hf : f ∈ st.inFlight.erase e) (hseed : f.2.sValue = e.2.sValue) :
    route f.2.balanceQueryResponseList ≠ route e.2.balanceQueryResponseList := by
  intro hroute
  have hpair : [e, f].Subperm st.sent := by
    have hsub : [e, f].Subperm st.inFlight :=
      ((List.subperm_cons e).mpr (List.singleton_subperm_iff.mpr hf)).trans
        (List.perm_cons_erase he).symm.subperm
    exact hsub.trans ((List.sublist_append_left _ _).subperm.trans hinv.bag.subperm)
  have hnodup := routesOf_nodup_of_subperm hpair (hinv.distinct e.2.sValue)
  simp [routesOf, hseed, hroute] at hnodup

/-- **Start.** A flood started with a fresh seed keeps the invariant. -/
theorem Inv.originate (hinv : Inv G st) {node : AccountAddress} {s : SValue}
    {peerId : AccountAddress} {read : AccountAddress → Except String ChannelReading}
    (hfresh : ∀ e ∈ st.sent, e.2.sValue ≠ s) : Inv G (Flood.originate G st node s peerId read) := by
  dsimp only [Flood.originate]
  have hbatch := batch_originate G node s peerId read
  set sends := (sendAntQueryMessage node (G.allChannels node) read s peerId []).1
  -- no query sent before carries the new seed
  have hold : ∀ e' ∈ st.sent, ∀ e ∈ sends, e'.2.sValue ≠ e.2.sValue := by
    intro e' he' e he
    rw [hbatch.seed e he]
    exact hfresh e' he'
  refine ⟨?_, ?_, ?_, ?_⟩
  · intro e he
    rcases List.mem_append.mp he with he | he
    · exact hinv.routed e he
    · exact hbatch.routed e he
  · exact perm_send sends hinv.bag
  · intro s'
    rw [routesOf_append, List.nodup_append]
    refine ⟨hinv.distinct s', hbatch.routesOf_nodup s', ?_⟩
    intro x hx y hy hxy
    obtain ⟨e', he', hseed', rfl⟩ := mem_routesOf.mp hx
    obtain ⟨e, he, hseed, rfl⟩ := mem_routesOf.mp hy
    exact hold e' he' e he (hseed'.trans hseed.symm)
  · intro f hf f' hf' hseed hextends
    rcases List.mem_append.mp hf with hf | hf <;> rcases List.mem_append.mp hf' with hf' | hf'
    · exact hinv.unextended f hf f' hf' hseed hextends
    · exact absurd hseed.symm (hold f (hinv.mem_sent_of_mem_inFlight hf) f' hf')
    · exact absurd hseed (hold f' hf' f hf)
    · exact hbatch.eq_of_prefix hf hf' hextends

/-- **Delivery.** Handling a query in flight keeps the invariant, whatever `match_or_add`
answers. -/
theorem Inv.deliver (hinv : Inv G st) (getR : SValue → HashValue)
    {e : AccountAddress × AntQueryMessage} (he : e ∈ st.inFlight)
    (read : AccountAddress → Except String ChannelReading)
    (matched : Except Failure (Option (List BalanceQueryResponse))) :
    Inv G (Flood.deliver G getR st e read matched) := by
  dsimp only [Flood.deliver]
  have hsent := hinv.mem_sent_of_mem_inFlight he
  have hbatch := batch_handleAntQueryMessage getR (hinv.routed e hsent) read matched
  set sends := (handleAntQueryMessage getR e.1 (G.allChannels e.1) read e.2 matched).2
  set base := route e.2.balanceQueryResponseList
  -- a query sent before whose route extends `e`'s has `e`'s route, so none of a new query's
  have hbeyond : ∀ e' ∈ st.sent, e'.2.sValue = e.2.sValue → ∀ p,
      ¬ base ++ [p] <+: route e'.2.balanceQueryResponseList := by
    intro e' he' hseed p hextends
    have heq := hinv.unextended e he e' he' hseed ((List.prefix_append base [p]).trans hextends)
    have hlen := hextends.length_le
    rw [heq] at hlen
    have hlen' : (base ++ [p]).length ≤ base.length := hlen
    simp at hlen'
  refine ⟨?_, ?_, ?_, ?_⟩
  · intro e' he'
    rcases List.mem_append.mp he' with he' | he'
    · exact hinv.routed e' he'
    · exact hbatch.routed e' he'
  · exact perm_deliver sends he hinv.bag
  · intro s'
    rw [routesOf_append, List.nodup_append]
    refine ⟨hinv.distinct s', hbatch.routesOf_nodup s', ?_⟩
    intro x hx y hy hxy
    obtain ⟨hseed, p, rfl⟩ := hbatch.exists_of_mem_routesOf hy
    obtain ⟨e', he', hseed', rfl⟩ := mem_routesOf.mp hx
    exact hbeyond e' he' (hseed'.trans hseed) p (hxy ▸ List.prefix_refl _)
  · intro f hf f' hf' hseed hextends
    rcases List.mem_append.mp hf with hf | hf <;> rcases List.mem_append.mp hf' with hf' | hf'
    · exact hinv.unextended f (List.mem_of_mem_erase hf) f' hf' hseed hextends
    · -- a new query extending `f`'s route: `f`'s route is `e`'s, so `f` and `e` coincide
      obtain ⟨hnew, p, hroute⟩ := hbatch.exists_of_mem_routesOf
        (mem_routesOf.mpr ⟨f', hf', rfl, rfl⟩ : route f'.2.balanceQueryResponseList ∈
          routesOf f'.2.sValue sends)
      have hfe : f.2.sValue = e.2.sValue := hseed.symm.trans hnew
      rw [hroute, List.prefix_concat_iff] at hextends
      rcases hextends with hfull | hshort
      · exact absurd (hfull ▸ List.prefix_refl _)
          (hbeyond f (hinv.mem_sent_of_mem_inFlight (List.mem_of_mem_erase hf)) hfe p)
      · have heq := hinv.unextended f (List.mem_of_mem_erase hf) e hsent hfe.symm hshort
        exact absurd heq.symm (hinv.route_ne_of_mem_erase he hf hfe)
    · obtain ⟨hnew, p, hroute⟩ := hbatch.exists_of_mem_routesOf
        (mem_routesOf.mpr ⟨f, hf, rfl, rfl⟩ : route f.2.balanceQueryResponseList ∈
          routesOf f.2.sValue sends)
      rw [hroute] at hextends
      exact absurd hextends (hbeyond f' hf' (hseed.trans hnew) p)
    · exact hbatch.eq_of_prefix hf hf' hextends

theorem Inv.step {getR : SValue → HashValue} {st' : Flood} (hinv : Inv G st)
    (hstep : Step G getR st st') : Inv G st' := by
  cases hstep with
  | originate node s peerId read hfresh => exact hinv.originate hfresh
  | deliver e he read matched => exact hinv.deliver getR he read matched

/-- The queries of a seed sent so far are at most the simple paths of the graph. -/
theorem Inv.sent_le (hinv : Inv G st) (s : SValue) :
    (st.sent.filter fun e => e.2.sValue = s).length ≤ G.simplePaths.card := by
  have hlen : (routesOf s st.sent).length = (st.sent.filter fun e => e.2.sValue = s).length :=
    List.length_map _
  rw [← hlen]
  apply SimplePaths.length_le_card_of_nodup (hinv.distinct s)
  intro x hx
  obtain ⟨e, he, -, rfl⟩ := mem_routesOf.mp hx
  exact (hinv.routed e he).simple

/-- Each query is delivered once, so the deliveries of a seed are at most its queries sent. -/
theorem Inv.delivered_le_sent (hinv : Inv G st) (s : SValue) :
    (st.delivered.filter fun e => e.2.sValue = s).length ≤
      (st.sent.filter fun e => e.2.sValue = s).length := by
  have hsub : st.delivered.Subperm st.sent :=
    (List.sublist_append_right _ _).subperm.trans hinv.bag.subperm
  exact (hsub.filter _).length_le

end Flood

theorem ant_flood_bounded (G : ChannelGraph) (getR : SValue → HashValue) {st : Flood}
    (h : Reachable (· = Flood.empty) (Flood.Step G getR) st) :
    (∀ e ∈ st.inFlight, RouteTo G e.1 e.2.balanceQueryResponseList) ∧
      ∀ s : SValue, (st.sent.filter fun e => e.2.sValue = s).length ≤ G.simplePaths.card ∧
        (st.delivered.filter fun e => e.2.sValue = s).length ≤ G.simplePaths.card := by
  have hinv : Flood.Inv G st := by
    refine Reachable.invariant (Flood.Inv G) ?_ ?_ h
    · rintro _ rfl
      exact Flood.inv_empty G
    · intro st st' hinv hstep
      exact hinv.step hstep
  refine ⟨fun e he => hinv.routed e (hinv.mem_sent_of_mem_inFlight he), fun s => ?_⟩
  exact ⟨hinv.sent_le s, (hinv.delivered_le_sent s).trans (hinv.sent_le s)⟩

/-- Two nodes, `[1]` and `[2]`, with a channel between them. -/
def pairGraph : ChannelGraph where
  nodes := {[1], [2]}
  allChannels a := if a = [1] then [[2]] else if a = [2] then [[1]] else []
  nodup a := by split_ifs <;> simp
  mem_nodes a b hb := by split_ifs at hb with h1 h2 <;> simp_all
  loopless a := by split_ifs with h1 h2 <;> simp_all

theorem ant_flood_bounded_pair :
    ∃ st : Flood, Reachable (· = Flood.empty) (Flood.Step pairGraph fun _ => []) st ∧
      st.inFlight.length = 1 ∧
      (∀ e ∈ st.inFlight, RouteTo pairGraph e.1 e.2.balanceQueryResponseList) ∧
      ∀ s : SValue, (st.sent.filter fun e => e.2.sValue = s).length ≤ pairGraph.simplePaths.card ∧
        (st.delivered.filter fun e => e.2.sValue = s).length ≤ pairGraph.simplePaths.card := by
  have h : Reachable (· = Flood.empty) (Flood.Step pairGraph fun _ => [])
      (Flood.originate pairGraph Flood.empty [1] ⟨List.replicate 33 0, by simp⟩ [1]
        fun _ => .ok ⟨0, 0, 0⟩) :=
    Reachable.step (Reachable.init rfl) (Flood.Step.originate _ _ _ _ _ nofun)
  exact ⟨_, h, by decide, ant_flood_bounded pairGraph _ h⟩
