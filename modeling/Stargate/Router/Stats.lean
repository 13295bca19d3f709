import Mathlib
import Stargate.Storage.Stores
import Stargate.Lib.AssocMap
import Stargate.Lib.ExceptState

/-!
# Stargate.Router.Stats

The payment statistics of a router (src/router/stats/src/lib.rs). The node reports each payment
over a directed channel as `Paying` when it sends it and as `Payed` when it is settled;
`StatsInner::handle_data_message` keeps, per directed channel, the amounts of the pending
payments by hash, and `back_pressure` sums a channel's amounts for the routers to rank paths.

The map of channels sits behind a `futures::lock::Mutex`, taken with `lock().await`, and a
task holds the lock until the guard is dropped. In `handle_data_message` the guard is a
temporary of the `match` scrutinee, so it lives until the end of the `match`. In the `Paying`
arm for a channel the map does not hold yet, `insert_channel_stats` takes the same lock again.
That mutex is not reentrant, so the task waits for a lock it holds itself, forever. From then
on the lock is never released, and every `back_pressure` waits on it too.

A run here is a sequence of whole calls, each a computation in `StatsM`. A lock a call finds
taken is held by a call that waits forever, since every call that ends releases what it took.
`locked` is whether such a call holds the lock. From fresh statistics, the first `Paying` event
blocks the statistics task, and `back_pressure` never answers again
(`back_pressure_after_events`). So the sum of the amounts pending over a channel
(`inFlightPressure`), which `back_pressure` is meant to report, is then never reported, whatever
the amounts (`pressure_never_reported`).

A channel's sum is taken in `u64` and wraps, but the channel map stays empty while a `Paying`
event blocks the task, so no run reaches the sum of a non-empty channel.
-/

/-- `PayEnum`. -/
inductive PayEnum where
  | paying
  | payed
  deriving DecidableEq, Repr

/-- `DirectedChannel`: the paying side and the paid side. -/
abbrev DirectedChannel := AccountAddress × AccountAddress

/-- `PaymentInfo`: the payment's hash, its amount and what happened to it. -/
abbrev PaymentInfo := HashValue × UInt64 × PayEnum

/-- `ChannelStats`: the pending amounts by payment hash. Its own mutex is taken and released
within each of its methods, so it never waits. -/
structure ChannelStats where
  paymentData : List (HashValue × UInt64)

namespace ChannelStats

/-- `ChannelStats::new`. -/
def new : ChannelStats := ⟨[]⟩

/-- `ChannelStats::insert`. -/
def insert (s : ChannelStats) (amount : UInt64) (hashValue : HashValue) : ChannelStats :=
  ⟨AssocMap.insert (fun a b => decide (a = b)) s.paymentData hashValue amount⟩

/-- `ChannelStats::remove`. -/
def remove (s : ChannelStats) (hashValue : HashValue) : ChannelStats :=
  ⟨(AssocMap.remove (fun a b => decide (a = b)) s.paymentData hashValue).2⟩

/-- `ChannelStats::sum`: the amounts added up in a `u64` (`result += amount`, which wraps in a
release build). -/
def sum (s : ChannelStats) : UInt64 := s.paymentData.foldl (fun result e => result + e.2) 0

end ChannelStats

/-- `StatsInner`: the statistics of each directed channel, and whether their mutex is held by a
call that waits forever. -/
structure StatsInner where
  userChannelStats : List (DirectedChannel × ChannelStats)
  locked : Bool

/-- What a call that waits on the statistics' lock comes to: the call holding the lock never
releases it, so the waiting call never ends. -/
inductive Blocked where
  | forever
  deriving DecidableEq, Repr

/-- A call on the statistics: it ends, or it waits forever, and what it wrote stays. -/
abbrev StatsM := ExceptT Blocked (StateM StatsInner)

namespace StatsInner

/-- `HashMap<DirectedChannel, ChannelStats>` finds a channel by both addresses. -/
def channelEq (a b : DirectedChannel) : Bool := decide (a = b)

/-- `Stats::new`: no channel, the lock free. -/
def new : StatsInner := ⟨[], false⟩

/-- `user_channel_stats.lock().await`: the lock, unless a call that never ends holds it. -/
def lockUserChannelStats : StatsM Unit := do
  let s ← get
  if s.locked then throw .forever
  set { s with locked := true }

/-- Dropping the guard of `user_channel_stats`. -/
def unlockUserChannelStats : StatsM Unit :=
  modify fun s => { s with locked := false }

/-- The statistics of a channel, read under the lock. -/
def channelStats (channel : DirectedChannel) : StatsM (Option ChannelStats) := do
  pure (AssocMap.get channelEq (← get).userChannelStats channel)

/-- Put a channel's statistics into the map, under a lock already held. -/
def setChannelStats (channel : DirectedChannel) (stats : ChannelStats) : StatsM Unit :=
  modify fun s => { s with userChannelStats := AssocMap.insert channelEq s.userChannelStats channel stats }

/-- `StatsInner::insert_channel_stats`. -/
def insertChannelStats (channel : DirectedChannel) (stats : ChannelStats) : StatsM Unit := do
  lockUserChannelStats
  setChannelStats channel stats
  unlockUserChannelStats

/-- `StatsInner::handle_data_message`. Each arm's `match` holds the guard of its scrutinee's
`lock().await` to its end. -/
def handleDataMessage (channel : DirectedChannel) (paymentInfo : PaymentInfo) : StatsM Unit :=
  match paymentInfo.2.2 with
  | .paying => do
      lockUserChannelStats
      match ← channelStats channel with
      | some stats => setChannelStats channel (stats.insert paymentInfo.2.1 paymentInfo.1)
      | none => insertChannelStats channel (ChannelStats.new.insert paymentInfo.2.1 paymentInfo.1)
      unlockUserChannelStats
  | .payed => do
      lockUserChannelStats
      match ← channelStats channel with
      | some stats => setChannelStats channel (stats.remove paymentInfo.1)
      | none => pure ()
      unlockUserChannelStats

/-- `StatsInner::payment_pressure`, which `Stats::back_pressure` returns. -/
def paymentPressure (channel : DirectedChannel) : StatsM UInt64 := do
  lockUserChannelStats
  let pressure := match ← channelStats channel with
    | some stats => stats.sum
    | none => 0
  unlockUserChannelStats
  pure pressure

/-- The loop of `StatsInner::start` over the data messages it receives. -/
def handleDataMessages (events : List (DirectedChannel × PaymentInfo)) : StatsM Unit :=
  events.forM fun event => handleDataMessage event.1 event.2

/-! ### Each call -/

open ExceptState

theorem run_lockUserChannelStats_of_locked {s : StatsInner} (h : s.locked = true) :
    run lockUserChannelStats s = (.error .forever, s) := by
  simp [lockUserChannelStats, h]

theorem run_lockUserChannelStats {s : StatsInner} (h : s.locked = false) :
    run lockUserChannelStats s = (.ok (), { s with locked := true }) := by
  simp [lockUserChannelStats, h]

theorem run_channelStats (channel : DirectedChannel) (s : StatsInner) :
    run (channelStats channel) s = (.ok (AssocMap.get channelEq s.userChannelStats channel), s) :=
  rfl

theorem run_paymentPressure_of_locked {s : StatsInner} (h : s.locked = true)
    (channel : DirectedChannel) : run (paymentPressure channel) s = (.error .forever, s) := by
  rw [paymentPressure, run_bind, run_lockUserChannelStats_of_locked h]

/-- The first payment over a channel the map does not hold: `insert_channel_stats` waits for the
lock the `match` still holds, and the lock stays held. -/
theorem run_handleDataMessage_paying_of_none {s : StatsInner} (h : s.locked = false)
    {channel : DirectedChannel} (hnone : AssocMap.get channelEq s.userChannelStats channel = none)
    (hash : HashValue) (amount : UInt64) :
    run (handleDataMessage channel (hash, amount, .paying)) s =
      (.error .forever, { s with locked := true }) := by
  simp only [handleDataMessage]
  rw [run_bind_of_ok (run_lockUserChannelStats h), run_bind_of_ok (run_channelStats _ _)]
  dsimp only
  -- the `match` still holds the lock when `insert_channel_stats` asks for it
  rw [hnone, insertChannelStats, run_bind, run_bind, run_lockUserChannelStats_of_locked rfl]

/-- A settled payment over a channel the map does not hold changes nothing. -/
theorem run_handleDataMessage_payed_of_none {s : StatsInner} (h : s.locked = false)
    {channel : DirectedChannel} (hnone : AssocMap.get channelEq s.userChannelStats channel = none)
    (hash : HashValue) (amount : UInt64) :
    run (handleDataMessage channel (hash, amount, .payed)) s = (.ok (), s) := by
  simp only [handleDataMessage]
  rw [run_bind_of_ok (run_lockUserChannelStats h), run_bind_of_ok (run_channelStats _ _)]
  dsimp only
  rw [hnone]
  -- the lock taken is dropped, and the lock was free before
  show (Except.ok (), { s with locked := false }) = (Except.ok (), s)
  cases s
  cases h
  rfl

/-! ### Runs from fresh statistics -/

/-- From fresh statistics, settled payments change nothing, and the first payment sent blocks
the statistics' task with the lock held, whatever comes after it. -/
theorem run_handleDataMessages_new (events : List (DirectedChannel × PaymentInfo)) :
    run (handleDataMessages events) new =
      if events.any (fun event => event.2.2.2 = .paying) then (.error .forever, ⟨[], true⟩)
      else (.ok (), new) := by
  induction events with
  | nil => rfl
  | cons event events ih =>
      obtain ⟨channel, hash, amount, kind⟩ := event
      rw [handleDataMessages, List.forM_eq_forM, List.forM_cons, run_bind]
      cases kind with
      | paying =>
          rw [run_handleDataMessage_paying_of_none rfl rfl]
          simp [new]
      | payed =>
          -- the map stays empty, and the rest of the run starts from fresh statistics again
          rw [run_handleDataMessage_payed_of_none rfl rfl]
          exact ih

/-! ### What the statistics are for -/

/-- The amount of the payment `hash` pending over `channel` after `events`: the amount of its
last `Paying` event, unless a `Payed` event for it came later. -/
def pendingAmount (channel : DirectedChannel) (hash : HashValue)
    (events : List (DirectedChannel × PaymentInfo)) : Option Nat :=
  events.foldl (fun pending event =>
    if event.1 = channel ∧ event.2.1 = hash then
      match event.2.2.2 with
      | .paying => some event.2.2.1.toNat
      | .payed => none
    else pending) none

/-- The pressure `back_pressure` should report: the exact sum, over the payment hashes, of the
amounts pending over `channel`. -/
def inFlightPressure (channel : DirectedChannel) (events : List (DirectedChannel × PaymentInfo)) :
    Nat :=
  ((events.map fun event => event.2.1).dedup.map fun hash =>
    (pendingAmount channel hash events).getD 0).sum

/-- With no payment sent, nothing is pending. -/
theorem pendingAmount_of_payed {events : List (DirectedChannel × PaymentInfo)}
    (h : ∀ event ∈ events, event.2.2.2 = .payed) (channel : DirectedChannel) (hash : HashValue) :
    pendingAmount channel hash events = none := by
  unfold pendingAmount
  -- every event leaves the fold at `none`
  induction events with
  | nil => rfl
  | cons event events ih =>
      have hevent : event.2.2.2 = .payed := h event List.mem_cons_self
      rw [List.foldl_cons, hevent]
      simp only [ite_self]
      exact ih fun e he => h e (List.mem_cons_of_mem event he)

theorem inFlightPressure_of_payed {events : List (DirectedChannel × PaymentInfo)}
    (h : ∀ event ∈ events, event.2.2.2 = .payed) (channel : DirectedChannel) :
    inFlightPressure channel events = 0 := by
  simp [inFlightPressure, pendingAmount_of_payed h]

/-- `back_pressure` after any sequence of payment events, from fresh statistics. With no payment
sent, every channel's pressure is `0`, which is what is pending. Once a payment is sent, the
statistics' task waits forever with the lock held, and so does every `back_pressure`. -/
theorem back_pressure_after_events (events : List (DirectedChannel × PaymentInfo))
    (channel : DirectedChannel) :
    ((∀ event ∈ events, event.2.2.2 = .payed) ∧
        run (handleDataMessages events) new = (.ok (), new) ∧
        run (paymentPressure channel) new = (.ok 0, new) ∧ inFlightPressure channel events = 0) ∨
      ((∃ event ∈ events, event.2.2.2 = .paying) ∧
        ∃ s, run (handleDataMessages events) new = (.error .forever, s) ∧
          run (paymentPressure channel) s = (.error .forever, s)) := by
  rw [run_handleDataMessages_new]
  by_cases hpaying : events.any (fun event => event.2.2.2 = .paying)
  · obtain ⟨event, hmem, hkind⟩ := List.any_eq_true.mp hpaying
    refine .inr ⟨⟨event, hmem, of_decide_eq_true hkind⟩, _, if_pos hpaying, ?_⟩
    exact run_paymentPressure_of_locked rfl channel
  · -- every event is a settled payment
    have hpayed : ∀ event ∈ events, event.2.2.2 = .payed := by
      intro event hmem
      cases hkind : event.2.2.2 with
      | payed => rfl
      | paying =>
          exact absurd (List.any_eq_true.mpr ⟨event, hmem, by simp [hkind]⟩) hpaying
    exact .inl ⟨hpayed, if_neg hpaying, rfl, inFlightPressure_of_payed hpayed channel⟩

/-- One payment of `1` sent over the channel `[1] → [2]`: `1` is pending over it, and
`back_pressure` of that channel never answers. -/
theorem pressure_never_reported :
    inFlightPressure ([1], [2]) [(([1], [2]), ([7], 1, .paying))] = 1 ∧
      ∃ s, run (handleDataMessages [(([1], [2]), ([7], 1, .paying))]) new = (.error .forever, s) ∧
        run (paymentPressure ([1], [2])) s = (.error .forever, s) :=
  ⟨by decide, _, rfl, rfl⟩

end StatsInner
