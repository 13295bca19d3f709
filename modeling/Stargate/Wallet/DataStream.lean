import Stargate.Storage.Stores

/-!
# Stargate.Wallet.DataStream

`DataStream` (src/sgwallet/src/data_stream.rs): a stream of the items a `DataQuery` returns by
number, from `start_version` on. Each poll hands out the item at `start_number` from a cache of
fetched items. With the cache empty, it waits for its backoff delay, queries from
`start_number`, and keeps what comes back. An error or an empty answer starts the next backoff
delay.

The stream is modelled as a debug build runs it: `debug_assert!` is checked, and
`start_number + 1` panics when it overflows (a release build wraps to `0`). What the
environment does at each poll is an input (`PollInput`):

* whether the stream's delay has fired;
* what the query's future gives at its one poll (the code builds a new query future at every
  poll, polls it once and drops it when it is pending);
* whether a delay polled at its creation has fired.

`ExponentialBackoff` is a parameter (`Backoff`) with its `next_backoff` and `reset`.

The cache always holds the items at `start_number`, `start_number + 1`, ... with no gap
(`CacheInv`). So neither the `debug_assert!` nor the `unreachable!()` after a fresh answer is
ever hit (`pollNext_spec`). Along every run the items handed out are the queried items at `s`,
`s + 1`, ..., in order (`yields_in_order`). The one exception is the last number: the item at
`u64::MAX` is fetched, but `start_number + 1` overflows before it is handed out
(`max_item_never_yielded`).
-/

/-- `Poll`: a result, or not yet. -/
inductive Poll (α : Type) where
  | ready (a : α)
  | pending
  deriving DecidableEq, Repr

/-- The item a poll of the stream hands out, if any. -/
def Poll.items {T : Type} : Poll (Except String T) → List T
  | .ready (.ok v) => [v]
  | _ => []

/-- `ExponentialBackoff`, as the stream uses it: `next_backoff`, and `reset` after an answer. -/
structure Backoff (β : Type) where
  nextBackoff : β → Option Duration × β
  reset : β → β

/-- A `DataStream`; its `DataQuery` is the environment's. -/
structure DataStream (T β : Type) where
  startNumber : UInt64
  limit : UInt64
  /-- The backoff delay, by its duration. -/
  delay : Option Duration
  backoff : β
  cache : SortedMap UInt64 T

/-- What the environment does at one poll of the stream. -/
structure PollInput (T : Type) where
  /-- Whether the stream's delay has fired when it is polled. -/
  delayReady : Bool
  /-- What the query's future gives at its one poll: nothing yet, or the query's result. -/
  response : Option (Except String (SortedMap UInt64 T))
  /-- Whether a delay has fired when it is polled at its creation. -/
  freshDelayReady : Bool

namespace DataStream

variable {T β : Type} (bo : Backoff β)

/-- `u64::MAX`. -/
def u64Max : UInt64 := 18446744073709551615

/-- What `unreachable!()` panics with. -/
def unreachableMessage : String := "internal error: entered unreachable code"

/-- `DataStream::new`, with the backoff's initial state. -/
def new (startVersion limit : UInt64) (backoff : β) : DataStream T β :=
  ⟨startVersion, limit, none, backoff, .empty⟩

/-- `try_backoff`: the next backoff delay, polled once at its creation, where it must not have
fired; or the error once the backoff gives up. -/
def tryBackoff (freshDelayReady : Bool) (s : DataStream T β) :
    Except Failure (Except String Unit × DataStream T β) :=
  match bo.nextBackoff s.backoff with
  | (some nextBackoff, backoff) =>
      if freshDelayReady then .error (.panic unreachableMessage)
      else .ok (.ok (), { s with backoff, delay := some nextBackoff })
  | (none, backoff) => .ok (.error "backoff timout", { s with backoff })

/-- `try_backoff`'s outcome as `poll_next` returns it: an error is handed out, a new delay
waits. -/
def backoffPoll (freshDelayReady : Bool) (s : DataStream T β) :
    Except Failure (Poll (Except String T) × DataStream T β) :=
  match tryBackoff bo freshDelayReady s with
  | .ok (.error e, s) => .ok (.ready (.error e), s)
  | .ok (.ok (), s) => .ok (.pending, s)
  | .error f => .error f

/-- `s.start_number = s.start_number + 1`, then the item handed out. The addition overflows at
`u64::MAX`, which panics in a debug build. -/
def yieldItem (s : DataStream T β) (v : T) :
    Except Failure (Poll (Except String T) × DataStream T β) :=
  if s.startNumber = u64Max then .error (.panic "attempt to add with overflow")
  else .ok (.ready (.ok v), { s with startNumber := s.startNumber + 1 })

/-- `poll_next`. -/
def pollNext (input : PollInput T) (s : DataStream T β) :
    Except Failure (Poll (Except String T) × DataStream T β) :=
  match s.cache.find? s.startNumber with
  | some v => yieldItem { s with cache := s.cache.erase s.startNumber } v
  | none =>
      if s.delay.isSome && !input.delayReady then .ok (.pending, s)
      else if !s.cache.toList.isEmpty then .error (.panic "assertion failed: s.cache.is_empty()")
      else
        match input.response with
        | none => .ok (.pending, s)
        | some (.ok data) =>
            let s := { s with backoff := bo.reset s.backoff }
            if !data.toList.isEmpty then
              match data.find? s.startNumber with
              | some v => yieldItem { s with cache := data.erase s.startNumber } v
              | none => .error (.panic unreachableMessage)
            else backoffPoll bo input.freshDelayReady s
        | some (.error _) => backoffPoll bo input.freshDelayReady s

/-! ### What the query answers, and what the cache holds -/

section Invariant

variable {T β : Type} (source : UInt64 → T)

/-- The items of a map are those of `source`, the data being queried, at their numbers. -/
def Agrees (m : SortedMap UInt64 T) : Prop :=
  ∀ k v, m.find? k = some v → v = source k

/-- What a `DataQuery` may answer a query from `start`: an error, an empty map, or the items of
`source` at `start`, `start + 1`, ..., `start + m`. -/
def Admissible (start : UInt64) : Option (Except String (SortedMap UInt64 T)) → Prop
  | some (.ok data) =>
      Agrees source data ∧
        (data.toList = [] ∨ ∃ m, data.keys.map UInt64.toNat = List.range' start.toNat (m + 1))
  | _ => True

/-- A poll's environment as the code expects it: the query answers as a `DataQuery` may, and a
delay polled at its creation has not fired yet. -/
def InputOk (start : UInt64) (input : PollInput T) : Prop :=
  Admissible source start input.response ∧ input.freshDelayReady = false

/-- The cache holds the items of `source` at `start_number`, `start_number + 1`, ..., with no
gap. -/
def CacheInv (s : DataStream T β) : Prop :=
  (∃ j, s.cache.keys.map UInt64.toNat = List.range' s.startNumber.toNat j) ∧ Agrees source s.cache

/-- What a successful poll does from `start`: the cache keeps its invariant, and the poll hands
out nothing and stays at `start`, or hands out the item at `start` and moves to the next
number. -/
def Advances (start : UInt64) (p : Poll (Except String T)) (s' : DataStream T β) : Prop :=
  CacheInv source s' ∧
    ((p.items = [] ∧ s'.startNumber = start) ∨
      (p.items = [source start] ∧ s'.startNumber.toNat = start.toNat + 1))

/-- The outcomes of a poll from `start` that the invariant allows: a step that `Advances`, or the
overflow of `start_number + 1` at `u64::MAX`. No other panic is among them. -/
def Allowed (start : UInt64) (r : Except Failure (Poll (Except String T) × DataStream T β)) :
    Prop :=
  (r = .error (.panic "attempt to add with overflow") ∧ start = u64Max) ∨
    ∃ p s', r = .ok (p, s') ∧ Advances source start p s'

end Invariant

section Cache

variable {T : Type} {source : UInt64 → T}

/-- A map holding the numbers from `start` on without a gap holds `start`; without it, it holds
the numbers from `start + 1` on. -/
theorem find?_erase_of_keys {m : SortedMap UInt64 T} {start : UInt64} {j : Nat}
    (hkeys : m.keys.map UInt64.toNat = List.range' start.toNat (j + 1)) :
    ∃ v, m.find? start = some v ∧
      (m.erase start).keys.map UInt64.toNat = List.range' (start.toNat + 1) j := by
  unfold SortedMap.keys at hkeys ⊢
  cases hm : m.toList with
  | nil => simp [hm] at hkeys
  | cons e es =>
      rw [hm, List.map_cons, List.map_cons, List.range'_succ] at hkeys
      obtain ⟨hhead, htail⟩ := List.cons.inj hkeys
      -- the head of the map is its smallest key, `start`
      have he : e.1 = start := UInt64.toNat_inj.mp hhead
      refine ⟨e.2, ?_, ?_⟩
      · rw [SortedMap.find?, hm, SortedMap.lookup_cons_ite, if_pos he.symm]
      · rw [← he, SortedMap.toList_erase_head hm, he]
        exact htail

theorem toList_eq_nil_of_keys_nil {m : SortedMap UInt64 T}
    (hkeys : m.keys.map UInt64.toNat = []) : m.toList = [] := by
  simpa [SortedMap.keys] using hkeys

/-- A map holding the numbers from `start` on without a gap, but not `start`, is empty. -/
theorem toList_eq_nil_of_keys {m : SortedMap UInt64 T} {start : UInt64} {j : Nat}
    (hkeys : m.keys.map UInt64.toNat = List.range' start.toNat j) (hnone : m.find? start = none) :
    m.toList = [] := by
  cases j with
  | zero => exact toList_eq_nil_of_keys_nil hkeys
  | succ j =>
      obtain ⟨v, hv, -⟩ := find?_erase_of_keys hkeys
      rw [hv] at hnone
      cases hnone

/-- Below `u64::MAX`, `start_number + 1` is exact. -/
theorem toNat_add_one_of_ne {a : UInt64} (h : a ≠ u64Max) : (a + 1).toNat = a.toNat + 1 := by
  have hne : a.toNat ≠ 18446744073709551615 :=
    fun h' => h (UInt64.toNat_inj.mp (by simpa [u64Max] using h'))
  have hlt := UInt64.toNat_lt_size a
  rw [UInt64.toNat_add, UInt64.toNat_one]
  simp only [UInt64.size] at hlt
  omega

theorem agrees_erase {m : SortedMap UInt64 T} (h : Agrees source m) (k : UInt64) :
    Agrees source (m.erase k) := by
  intro k' v hv
  rw [SortedMap.find?_erase] at hv
  split_ifs at hv
  exact h k' v hv

end Cache

section Step

variable {T β : Type} (bo : Backoff β) {source : UInt64 → T}

/-- A poll that hands out nothing and keeps `start_number` and the cache's invariant. -/
theorem allowed_stay {start : UInt64} {p : Poll (Except String T)} {s' : DataStream T β}
    (hs : CacheInv source s') (hstart : s'.startNumber = start) (hp : p.items = []) :
    Allowed source start (.ok (p, s')) :=
  .inr ⟨p, s', rfl, hs, .inl ⟨hp, hstart⟩⟩

/-- Handing out the item at `start_number` of a map that holds the numbers from there on, with
the map's other items as the cache: the overflow at `u64::MAX`, or a step that `Advances`. -/
theorem yieldItem_allowed {s : DataStream T β} {m : SortedMap UInt64 T} {j : Nat} {v : T}
    (hkeys : m.keys.map UInt64.toNat = List.range' s.startNumber.toNat (j + 1))
    (hagree : Agrees source m) (hv : m.find? s.startNumber = some v) :
    Allowed source s.startNumber (yieldItem { s with cache := m.erase s.startNumber } v) := by
  obtain ⟨-, -, hrest⟩ := find?_erase_of_keys hkeys
  have hsource : v = source s.startNumber := hagree _ _ hv
  unfold yieldItem
  by_cases hmax : s.startNumber = u64Max
  · exact .inl ⟨if_pos hmax, hmax⟩
  · rw [if_neg hmax]
    have hsucc := toNat_add_one_of_ne hmax
    refine .inr ⟨_, _, rfl, ⟨⟨j, ?_⟩, agrees_erase hagree _⟩, .inr ⟨?_, hsucc⟩⟩
    · rw [hsucc]
      exact hrest
    · rw [hsource]
      rfl

/-- `try_backoff`, with a fresh delay that has not fired: a new delay, or the backoff's error
handed out; the cache and `start_number` stay. -/
theorem backoffPoll_allowed {s : DataStream T β} (hs : CacheInv source s) :
    Allowed source s.startNumber (backoffPoll bo false s) := by
  unfold backoffPoll tryBackoff
  cases bo.nextBackoff s.backoff with
  | mk d backoff =>
      cases d with
      | some d => exact allowed_stay hs rfl rfl
      | none => exact allowed_stay hs rfl rfl

/-- One poll keeps the cache's invariant: it hands out the item at `start_number` and moves
past it, or hands out nothing and stays, or overflows at `u64::MAX`. Neither the `debug_assert!`
nor either `unreachable!()` is reached. -/
theorem pollNext_spec {s : DataStream T β} {input : PollInput T} (hs : CacheInv source s)
    (hinput : InputOk source s.startNumber input) :
    Allowed source s.startNumber (pollNext bo input s) := by
  obtain ⟨hresp, hfresh⟩ := hinput
  unfold pollNext
  cases hfind : s.cache.find? s.startNumber with
  | some v =>
      -- a cache hit: the cache holds `start_number`, so it holds the numbers from there on
      obtain ⟨⟨j, hkeys⟩, hagree⟩ := hs
      cases j with
      | zero =>
          rw [SortedMap.find?, toList_eq_nil_of_keys_nil hkeys] at hfind
          cases hfind
      | succ j => exact yieldItem_allowed hkeys hagree hfind
  | none =>
      -- a miss: the invariant says the cache is empty, so the `debug_assert!` holds
      have hempty : s.cache.toList = [] := by
        obtain ⟨⟨j, hkeys⟩, -⟩ := hs
        exact toList_eq_nil_of_keys hkeys hfind
      dsimp only
      by_cases hdelay : (s.delay.isSome && !input.delayReady) = true
      · rw [if_pos hdelay]
        exact allowed_stay hs rfl rfl
      · rw [if_neg hdelay, hempty, List.isEmpty_nil, Bool.not_true, if_neg Bool.false_ne_true]
        cases hr : input.response with
        | none => exact allowed_stay hs rfl rfl
        | some r =>
            rw [hr] at hresp
            cases r with
            | error e =>
                rw [hfresh]
                exact backoffPoll_allowed bo hs
            | ok data =>
                obtain ⟨hdagree, hdata⟩ := hresp
                dsimp only
                by_cases hne : data.toList = []
                · rw [hne, List.isEmpty_nil, Bool.not_true, if_neg Bool.false_ne_true, hfresh]
                  exact backoffPoll_allowed bo hs
                · -- a fresh answer holds `start_number`, so the `unreachable!()` is not reached
                  obtain ⟨m, hm⟩ := hdata.resolve_left hne
                  obtain ⟨v, hv, -⟩ := find?_erase_of_keys hm
                  have hne' : (!data.toList.isEmpty) = true := by
                    simpa [List.isEmpty_iff] using hne
                  rw [if_pos hne', hv]
                  exact @yieldItem_allowed T β source { s with backoff := bo.reset s.backoff } _ _ _
                    hm hdagree hv

end Step

/-! ### Runs -/

section Run

variable {T β : Type} (bo : Backoff β) (source : UInt64 → T)

/-- The runs of a stream from `s` whose environment behaves as the code expects at every poll:
the items handed out, in order, and the state reached. -/
inductive Yields (s : DataStream T β) : List T → DataStream T β → Prop where
  | nil : Yields s [] s
  | poll {items : List T} {s' s'' : DataStream T β} {input : PollInput T}
      {p : Poll (Except String T)} :
      Yields s items s' → InputOk source s'.startNumber input →
      pollNext bo input s' = .ok (p, s'') → Yields s (items ++ p.items) s''

/-- Along a run, the cache keeps its invariant, and the items handed out are those of `source`
at the numbers from where the run started, one per number, in order. -/
theorem yields_spec {s s' : DataStream T β} {items : List T} (hs : CacheInv source s)
    (h : Yields bo source s items s') :
    CacheInv source s' ∧ s'.startNumber.toNat = s.startNumber.toNat + items.length ∧
      items = (List.range' s.startNumber.toNat items.length).map
        (fun n => source (UInt64.ofNat n)) := by
  induction h with
  | nil => exact ⟨hs, rfl, rfl⟩
  | poll _ hinput hpoll ih =>
      obtain ⟨hinv, hstart, hitems⟩ := ih
      rcases pollNext_spec bo hinv hinput with ⟨hpanic, -⟩ | ⟨p', s₂, hok, hinv', hstep⟩
      · -- a run only takes polls that succeed
        rw [hpoll] at hpanic
        cases hpanic
      · rw [hpoll] at hok
        cases hok
        rcases hstep with ⟨hnone, hsame⟩ | ⟨hone, hnext⟩
        · rw [hnone, List.append_nil, hsame]
          exact ⟨hinv', hstart, hitems⟩
        · -- the poll hands out the item at the run's next number
          refine ⟨hinv', ?_, ?_⟩
          · rw [hnext, hstart, hone, List.length_append, List.length_singleton, Nat.add_assoc]
          · rw [hone, List.length_append, List.length_singleton, List.range'_concat,
              List.map_append, ← hitems, Nat.one_mul, ← hstart, List.map_singleton,
              UInt64.ofNat_toNat]

/-- Every run from `DataStream::new` hands out the items of `source` at `start_version`,
`start_version + 1`, ..., in order, none skipped or repeated; and its next poll hands out the
next item, or nothing, or overflows at `u64::MAX`. -/
theorem yields_in_order {startVersion limit : UInt64} {backoff : β} {items : List T}
    {s : DataStream T β} (h : Yields bo source (new startVersion limit backoff) items s) :
    items = (List.range' startVersion.toNat items.length).map (fun n => source (UInt64.ofNat n)) ∧
      ∀ input, InputOk source s.startNumber input →
        Allowed source s.startNumber (pollNext bo input s) := by
  -- a new stream's cache is empty
  have hnew : CacheInv source (new startVersion limit backoff : DataStream T β) :=
    ⟨⟨0, rfl⟩, fun k v hv => by simp [new] at hv⟩
  obtain ⟨hinv, -, hitems⟩ := yields_spec bo source hnew h
  exact ⟨hitems, fun input hinput => pollNext_spec bo hinv hinput⟩

/-- A stream from `0` whose query answers the item at `0`: one poll hands it out. -/
theorem yields_in_order_first :
    ∃ (items : List Unit) (s : DataStream Unit Unit),
      Yields ⟨fun b => (none, b), id⟩ (fun _ => ()) (new 0 5 ()) items s ∧ items = [()] ∧
      items = (List.range' (0 : UInt64).toNat items.length).map
        (fun n => (fun _ => ()) (UInt64.ofNat n)) ∧
      ∀ input, InputOk (fun _ => ()) s.startNumber input →
        Allowed (fun _ => ()) s.startNumber (pollNext ⟨fun b => (none, b), id⟩ input s) := by
  have hinput : InputOk (fun _ : UInt64 => ()) (new 0 5 () : DataStream Unit Unit).startNumber
      ⟨false, some (.ok (SortedMap.empty.insert 0 ())), false⟩ :=
    ⟨⟨fun _ _ _ => rfl, .inr ⟨0, rfl⟩⟩, rfl⟩
  obtain ⟨p, s', hpoll, hitems⟩ : ∃ p s', pollNext ⟨fun b => (none, b), id⟩
      ⟨false, some (.ok (SortedMap.empty.insert 0 ())), false⟩ (new 0 5 ()) = .ok (p, s') ∧
      p.items = [()] := ⟨_, _, rfl, rfl⟩
  have hrun := Yields.poll Yields.nil hinput hpoll
  exact ⟨_, _, hrun, by rw [hitems]; rfl, yields_in_order _ _ hrun⟩

/-- The item at `u64::MAX`: a stream from `u64::MAX` fetches it, as its query may answer, and
the poll that should hand it out overflows instead. -/
theorem max_item_never_yielded (limit : UInt64) (backoff : β) (x : T) :
    InputOk (fun _ => x) u64Max ⟨false, some (.ok (SortedMap.empty.insert u64Max x)), false⟩ ∧
      pollNext bo ⟨false, some (.ok (SortedMap.empty.insert u64Max x)), false⟩
          (new u64Max limit backoff) = .error (.panic "attempt to add with overflow") := by
  refine ⟨⟨⟨fun k v hv => ?_, .inr ⟨0, rfl⟩⟩, rfl⟩, rfl⟩
  simp only [SortedMap.find?_insert, SortedMap.find?_empty] at hv
  split_ifs at hv
  exact (Option.some.inj hv).symm

end Run

end DataStream
