import Stargate.Lib.Schedule
import Stargate.Router.Ant

/-!
# Stargate.Router.SeedConcurrency

`SeedManager::match_or_add` (src/router/ant/src/path_finder.rs) as concurrent calls run it. The
ant router handles each network message in a task of its own (`executor.spawn` in
`AntRouterInner::start`, src/router/ant/src/lib.rs), and `handle_ant_query_message` calls
`match_or_add`. That call takes the manager's lock once for each statement: to look for its key,
to look for the conjugate, and then to remove the conjugate or to insert its key. Between two
of them another task may take the lock. `Call` is such a call and `Call.step` one of its lock
sections; `Stargate.Lib.Schedule` runs any interleaving of them.

A call running alone is `SeedManager.matchOrAdd`, and calls that run one after another are
`matchOrAdd` in sequence, none of which panics (`serial_calls_matchOrAdd`). Under any
interleaving, every route a call returns is its own hops after hops stored under the conjugate
of its seed, by the manager before or by one of the calls (`glued_routes_stored`).

The sections of two calls interleave, though. Two calls carrying the conjugate of a stored seed
can both find it, and the second `remove` then finds nothing, so `expect("should have key")`
panics in that task (`overlapping_calls_panic`). And the two halves of one query, arriving
together, can both find nothing and both be stored, so the node never glues them
(`overlapping_halves_never_meet`). Run one after the other, the same calls do neither.
-/

namespace SeedManager

/-- Where a call of `match_or_add` stands: before one of its lock sections, or finished. -/
inductive Pc where
  /-- before `contains_key(&key)` -/
  | checkKey
  /-- before `contains_key(&peer)` -/
  | checkPeer
  /-- before `remove(&peer)` -/
  | removePeer
  /-- before `insert(key, value)` -/
  | insertKey
  /-- returned its result -/
  | returned (result : Option (List BalanceQueryResponse))
  /-- panicked with its message -/
  | panicked (message : String)
  deriving DecidableEq

/-- A call of `match_or_add` with its arguments. -/
structure Call where
  key : SValue
  value : List BalanceQueryResponse
  pc : Pc
  deriving DecidableEq

/-- A call about to take the lock for the first time. -/
def Call.start (key : SValue) (value : List BalanceQueryResponse) : Call :=
  ⟨key, value, .checkKey⟩

/-- One lock section of a call of `match_or_add`, on the manager as the lock finds it, with
`eq` the key equality of its map. -/
def Call.step (eq : SValue → SValue → Bool) (mgr : SeedManager) (c : Call) :
    SeedManager × Call :=
  match c.pc with
  | .checkKey =>
      if AssocMap.containsKey eq mgr.seedHashMap c.key then (mgr, { c with pc := .returned none })
      else (mgr, { c with pc := .checkPeer })
  | .checkPeer =>
      if AssocMap.containsKey eq mgr.seedHashMap c.key.getPeer then
        (mgr, { c with pc := .removePeer })
      else (mgr, { c with pc := .insertKey })
  | .removePeer =>
      -- `.remove(&peer).take().expect("should have key")`; the guard is dropped as the task
      -- unwinds, so a panic leaves the lock free
      match AssocMap.remove eq mgr.seedHashMap c.key.getPeer with
      | (some result, seedHashMap) =>
          (⟨seedHashMap⟩, { c with pc := .returned (some (result ++ c.value)) })
      | (none, seedHashMap) => (⟨seedHashMap⟩, { c with pc := .panicked "should have key" })
  | .insertKey =>
      (⟨AssocMap.insert eq mgr.seedHashMap c.key c.value⟩, { c with pc := .returned none })
  | .returned _ | .panicked _ => (mgr, c)

/-- `match_or_add` on each query in turn, each call atomic: what calls that never overlap
compute. -/
def matchOrAddEach (eq : SValue → SValue → Bool) :
    SeedManager → List (SValue × List BalanceQueryResponse) →
      Except Failure (List (Option (List BalanceQueryResponse)) × SeedManager)
  | mgr, [] => .ok ([], mgr)
  | mgr, (key, value) :: queries => do
      let (r, mgr) ← mgr.matchOrAdd eq key value
      let (rs, mgr) ← matchOrAddEach eq mgr queries
      pure (r :: rs, mgr)

variable {eq : SValue → SValue → Bool}

/-! The sections one at a time: each lemma is the section a call at that point runs. -/

@[simp] theorem step_checkKey (mgr : SeedManager) (key : SValue)
    (value : List BalanceQueryResponse) :
    Call.step eq mgr ⟨key, value, .checkKey⟩ =
      if AssocMap.containsKey eq mgr.seedHashMap key then (mgr, ⟨key, value, .returned none⟩)
      else (mgr, ⟨key, value, .checkPeer⟩) := rfl

@[simp] theorem step_checkPeer (mgr : SeedManager) (key : SValue)
    (value : List BalanceQueryResponse) :
    Call.step eq mgr ⟨key, value, .checkPeer⟩ =
      if AssocMap.containsKey eq mgr.seedHashMap key.getPeer then
        (mgr, ⟨key, value, .removePeer⟩)
      else (mgr, ⟨key, value, .insertKey⟩) := rfl

theorem step_removePeer_some (mgr : SeedManager) {key : SValue}
    (value : List BalanceQueryResponse) {result : List BalanceQueryResponse}
    {m : List (SValue × List BalanceQueryResponse)}
    (h : AssocMap.remove eq mgr.seedHashMap key.getPeer = (some result, m)) :
    Call.step eq mgr ⟨key, value, .removePeer⟩ =
      (⟨m⟩, ⟨key, value, .returned (some (result ++ value))⟩) := by
  simp only [Call.step, h]

theorem step_removePeer_none (mgr : SeedManager) {key : SValue}
    (value : List BalanceQueryResponse) {m : List (SValue × List BalanceQueryResponse)}
    (h : AssocMap.remove eq mgr.seedHashMap key.getPeer = (none, m)) :
    Call.step eq mgr ⟨key, value, .removePeer⟩ =
      (⟨m⟩, ⟨key, value, .panicked "should have key"⟩) := by
  simp only [Call.step, h]

@[simp] theorem step_insertKey (mgr : SeedManager) (key : SValue)
    (value : List BalanceQueryResponse) :
    Call.step eq mgr ⟨key, value, .insertKey⟩ =
      (⟨AssocMap.insert eq mgr.seedHashMap key value⟩, ⟨key, value, .returned none⟩) := rfl

@[simp] theorem step_returned (mgr : SeedManager) (key : SValue)
    (value : List BalanceQueryResponse) (r : Option (List BalanceQueryResponse)) :
    Call.step eq mgr ⟨key, value, .returned r⟩ = (mgr, ⟨key, value, .returned r⟩) := rfl

@[simp] theorem step_panicked (mgr : SeedManager) (key : SValue)
    (value : List BalanceQueryResponse) (message : String) :
    Call.step eq mgr ⟨key, value, .panicked message⟩ =
      (mgr, ⟨key, value, .panicked message⟩) := rfl

/-- A section changes where a call stands, never its arguments. -/
theorem step_args (mgr : SeedManager) (c : Call) :
    (Call.step eq mgr c).2.key = c.key ∧ (Call.step eq mgr c).2.value = c.value := by
  obtain ⟨key, value, pc⟩ := c
  cases pc with
  | checkKey => simp only [step_checkKey]; split <;> exact ⟨rfl, rfl⟩
  | checkPeer => simp only [step_checkPeer]; split <;> exact ⟨rfl, rfl⟩
  | removePeer =>
      cases hremove : AssocMap.remove eq mgr.seedHashMap key.getPeer with
      | mk result m =>
          cases result with
          | some result => rw [step_removePeer_some mgr value hremove]; exact ⟨rfl, rfl⟩
          | none => rw [step_removePeer_none mgr value hremove]; exact ⟨rfl, rfl⟩
  | insertKey => exact ⟨rfl, rfl⟩
  | returned r => exact ⟨rfl, rfl⟩
  | panicked message => exact ⟨rfl, rfl⟩

/-! ### A call alone, and calls one after another -/

/-- **A call alone is the atomic call.** Its three lock sections compute what
`SeedManager.matchOrAdd` does, and that never panics: the conjugate found held is there to be
removed. -/
theorem alone_start (eq : SValue → SValue → Bool) (mgr : SeedManager) (key : SValue)
    (value : List BalanceQueryResponse) :
    ∃ r mgr', mgr.matchOrAdd eq key value = .ok (r, mgr') ∧
      Schedule.alone (Call.step eq) 3 mgr (Call.start key value) =
        (mgr', ⟨key, value, .returned r⟩) := by
  by_cases hkey : AssocMap.containsKey eq mgr.seedHashMap key = true
  · -- the key is held: the call returns `None` at once
    refine ⟨none, mgr, by simp [matchOrAdd, hkey], ?_⟩
    simp [Schedule.alone, Call.start, hkey]
  rw [Bool.not_eq_true] at hkey
  by_cases hpeer : AssocMap.containsKey eq mgr.seedHashMap key.getPeer = true
  · -- the conjugate is held, so `remove` finds its hops
    obtain ⟨r, hr⟩ := Option.isSome_iff_exists.mp
      ((AssocMap.get_isSome mgr.seedHashMap key.getPeer).trans hpeer)
    set m := (AssocMap.remove eq mgr.seedHashMap key.getPeer).2 with hm
    have hremove : AssocMap.remove eq mgr.seedHashMap key.getPeer = (some r, m) := by
      rw [hm, AssocMap.remove, hr]
    refine ⟨some (r ++ value), ⟨m⟩, ?_, ?_⟩
    · simp only [matchOrAdd, hkey, hpeer, hremove]
      rfl
    · simp [Schedule.alone, Call.start, hkey, hpeer, step_removePeer_some mgr value hremove]
  · rw [Bool.not_eq_true] at hpeer
    refine ⟨none, ⟨AssocMap.insert eq mgr.seedHashMap key value⟩, ?_, ?_⟩
    · simp only [matchOrAdd, hkey, hpeer]
      rfl
    · simp [Schedule.alone, Call.start, hkey, hpeer]

/-- **Calls that never overlap are the atomic calls in sequence.** Run by a serial schedule, the
calls compute what `match_or_add` computes on each query in turn: each returns that result and
none panics. -/
theorem serial_calls_matchOrAdd (eq : SValue → SValue → Bool) (mgr : SeedManager)
    (queries : List (SValue × List BalanceQueryResponse)) :
    ∃ rs mgr', matchOrAddEach eq mgr queries = .ok (rs, mgr') ∧
      Schedule.run (Call.step eq) (mgr, queries.map fun q => Call.start q.1 q.2)
          (Schedule.serial 3 queries.length) =
        (mgr', List.zipWith (fun q r => ⟨q.1, q.2, .returned r⟩) queries rs) := by
  rw [← List.length_map (fun q => Call.start q.1 q.2), Schedule.run_serial]
  -- each call runs alone on the manager the calls before it left
  induction queries generalizing mgr with
  | nil => exact ⟨[], mgr, rfl, rfl⟩
  | cons q queries ih =>
      obtain ⟨key, value⟩ := q
      obtain ⟨r, mgr₁, hcall, halone⟩ := alone_start eq mgr key value
      obtain ⟨rs, mgr', heach, hrest⟩ := ih mgr₁
      refine ⟨r :: rs, mgr', ?_, ?_⟩
      · simp only [matchOrAddEach, hcall, bind, Except.bind, heach]
        rfl
      · simp only [List.map_cons, Schedule.aloneEach, halone, hrest, List.zipWith_cons_cons]

/-! ### Any interleaving -/

section Interleaved

variable (eq) (mgr₀ : SeedManager) (queries : List (SValue × List BalanceQueryResponse))

/-- An entry the map may hold: one the manager held before the calls, or one a call stored, under
its own key or under the equal key whose value it replaced. -/
def Stored (e : SValue × List BalanceQueryResponse) : Prop :=
  e ∈ mgr₀.seedHashMap ∨ ∃ q ∈ queries, e.2 = q.2 ∧ (e.1 = q.1 ∨ eq e.1 q.1 = true)

/-- A call that returned a route returned its own hops after those of a stored entry whose key
equals the conjugate of its seed. -/
def Glued (c : Call) : Prop :=
  ∀ l, c.pc = .returned (some l) →
    ∃ e, Stored eq mgr₀ queries e ∧ eq e.1 c.key.getPeer = true ∧ l = e.2 ++ c.value

variable {eq mgr₀ queries}

/-- One lock section keeps every entry stored and every returned route glued. -/
theorem step_glued {mgr : SeedManager} {c : Call}
    (hm : ∀ e ∈ mgr.seedHashMap, Stored eq mgr₀ queries e) (hc : (c.key, c.value) ∈ queries)
    (hg : Glued eq mgr₀ queries c) :
    (∀ e ∈ (Call.step eq mgr c).1.seedHashMap, Stored eq mgr₀ queries e) ∧
      Glued eq mgr₀ queries (Call.step eq mgr c).2 := by
  obtain ⟨key, value, pc⟩ := c
  cases pc with
  | checkKey =>
      rw [step_checkKey]
      split <;> exact ⟨hm, fun l hl => by cases hl⟩
  | checkPeer =>
      rw [step_checkPeer]
      split <;> exact ⟨hm, fun l hl => by cases hl⟩
  | removePeer =>
      -- what `remove` leaves is part of what was there
      rcases hremove : AssocMap.remove eq mgr.seedHashMap key.getPeer with ⟨found, m⟩
      have hm' : ∀ e ∈ m, Stored eq mgr₀ queries e := fun e he =>
        hm e (AssocMap.mem_of_mem_remove (by rw [hremove]; exact he))
      cases found with
      | some result =>
          rw [step_removePeer_some mgr value hremove]
          refine ⟨hm', fun l hl => ?_⟩
          -- the route is the hops of the entry `remove` found, then the call's own
          have hget : AssocMap.get eq mgr.seedHashMap key.getPeer = some result :=
            congrArg Prod.fst hremove
          obtain ⟨e, he, heq, hval⟩ := AssocMap.exists_mem_of_get_eq_some hget
          cases hl
          exact ⟨e, hm e he, heq, by rw [hval]⟩
      | none =>
          rw [step_removePeer_none mgr value hremove]
          exact ⟨hm', fun l hl => by cases hl⟩
  | insertKey =>
      rw [step_insertKey]
      refine ⟨AssocMap.forall_mem_insert hm fun k hk => .inr ⟨(key, value), hc, rfl, hk⟩,
        fun l hl => by cases hl⟩
  | returned r => exact ⟨hm, hg⟩
  | panicked message => exact ⟨hm, hg⟩

/-- **Under any interleaving, a route is glued from stored hops.** Whatever the schedule, every
route a call returns is its own hops after the hops of an entry whose key equals the conjugate
of its seed, an entry the manager held before the calls or one a call stored. -/
theorem glued_routes_stored (eq : SValue → SValue → Bool) (mgr₀ : SeedManager)
    (queries : List (SValue × List BalanceQueryResponse)) (sched : List Nat) :
    ∀ c ∈ (Schedule.run (Call.step eq) (mgr₀, queries.map fun q => Call.start q.1 q.2)
        sched).2, ∀ l, c.pc = .returned (some l) →
      ∃ e, Stored eq mgr₀ queries e ∧ eq e.1 c.key.getPeer = true ∧ l = e.2 ++ c.value := by
  -- the invariant: the map holds stored entries, the calls are the queries, their routes glued
  let inv : SeedManager → List Call → Prop := fun mgr cs =>
    (∀ e ∈ mgr.seedHashMap, Stored eq mgr₀ queries e) ∧
      ∀ c ∈ cs, (c.key, c.value) ∈ queries ∧ Glued eq mgr₀ queries c
  have hinit : inv mgr₀ (queries.map fun q => Call.start q.1 q.2) := by
    refine ⟨fun e he => .inl he, fun c hc => ?_⟩
    obtain ⟨q, hq, rfl⟩ := List.mem_map.mp hc
    exact ⟨hq, fun l hl => by cases hl⟩
  have hstep : ∀ mgr cs i c, cs[i]? = some c → inv mgr cs →
      inv (Call.step eq mgr c).1 (cs.set i (Call.step eq mgr c).2) := by
    intro mgr cs i c hci ⟨hm, hcs⟩
    obtain ⟨hq, hg⟩ := hcs c (List.mem_of_getElem? hci)
    obtain ⟨hm', hg'⟩ := step_glued hm hq hg
    refine ⟨hm', fun c' hc' => ?_⟩
    rcases List.mem_or_eq_of_mem_set hc' with hold | rfl
    · exact hcs c' hold
    · rw [(step_args mgr c).1, (step_args mgr c).2]
      exact ⟨hq, hg'⟩
  intro c hc
  exact ((Schedule.run_invariant inv hstep _ hinit sched).2 c hc).2

/-- A call carrying the conjugate of the one seed the manager holds, run alone: it returns the
stored hops glued before its own. -/
theorem glued_routes_stored_held :
    let s : SValue := ⟨List.replicate 33 0, by simp⟩
    let mgr : SeedManager := ⟨[(s, [])]⟩
    let c : Call := ⟨s.getPeer, [], .returned (some ([] ++ []))⟩
    c ∈ (Schedule.run (Call.step byteEq) (mgr, [(s.getPeer, [])].map fun q => Call.start q.1 q.2)
        [0, 0, 0]).2 ∧ c.pc = .returned (some ([] ++ [])) ∧
      ∃ e, Stored byteEq mgr [(s.getPeer, [])] e ∧ byteEq e.1 c.key.getPeer = true ∧
        [] ++ [] = e.2 ++ c.value := by
  intro s mgr c
  have hmem : c ∈ (Schedule.run (Call.step byteEq)
      (mgr, [(s.getPeer, [])].map fun q => Call.start q.1 q.2) [0, 0, 0]).2 := by decide
  exact ⟨hmem, rfl, glued_routes_stored byteEq mgr [(s.getPeer, [])] [0, 0, 0] c hmem _ rfl⟩

end Interleaved

/-! ### Two calls that overlap -/

/-- **Two overlapping calls can panic.** Two calls carrying the conjugate of a seed the manager
holds both find the seed before either removes it. The first takes its hops; the second's
`remove` then finds nothing and its task panics on `expect("should have key")`. One after the
other, the second call finds the seed gone and stores its own hops. -/
theorem overlapping_calls_panic {mgr : SeedManager} {key : SValue}
    (v₁ v₂ : List BalanceQueryResponse)
    (hkey : AssocMap.containsKey eq mgr.seedHashMap key = false)
    (hpeer : AssocMap.containsKey eq mgr.seedHashMap key.getPeer = true) :
    ∃ r, AssocMap.get eq mgr.seedHashMap key.getPeer = some r ∧
      Schedule.run (Call.step eq) (mgr, [Call.start key v₁, Call.start key v₂])
          [0, 1, 0, 1, 0, 1] =
        (⟨(AssocMap.remove eq mgr.seedHashMap key.getPeer).2⟩,
          [⟨key, v₁, .returned (some (r ++ v₁))⟩,
            ⟨key, v₂, .panicked "should have key"⟩]) ∧
      Schedule.run (Call.step eq) (mgr, [Call.start key v₁, Call.start key v₂])
          [0, 0, 0, 1, 1, 1] =
        (⟨(AssocMap.remove eq mgr.seedHashMap key.getPeer).2 ++ [(key, v₂)]⟩,
          [⟨key, v₁, .returned (some (r ++ v₁))⟩, ⟨key, v₂, .returned none⟩]) := by
  obtain ⟨r, hr⟩ := Option.isSome_iff_exists.mp
    ((AssocMap.get_isSome mgr.seedHashMap key.getPeer).trans hpeer)
  set m' := (AssocMap.remove eq mgr.seedHashMap key.getPeer).2 with hm'
  have hremove : AssocMap.remove eq mgr.seedHashMap key.getPeer = (some r, m') := by
    rw [hm', AssocMap.remove, hr]
  -- after the first `remove`, neither the conjugate nor the key is held
  have hpeer' : AssocMap.containsKey eq m' key.getPeer = false :=
    AssocMap.containsKey_remove_self _ _
  have hkey' : AssocMap.containsKey eq m' key = false :=
    AssocMap.containsKey_remove_of_not _ hkey
  have hremove' : AssocMap.remove eq m' key.getPeer = (none, m') :=
    AssocMap.remove_of_not_containsKey hpeer'
  refine ⟨r, hr, ?_, ?_⟩
  · simp [Schedule.stepAt, Call.start, hkey, hpeer, step_removePeer_some mgr v₁ hremove,
      step_removePeer_none ⟨m'⟩ v₂ hremove']
  · simp [Schedule.stepAt, Call.start, hkey, hpeer, step_removePeer_some mgr v₁ hremove, hkey',
      hpeer', AssocMap.insert_of_not_containsKey _ hkey']

theorem overlapping_calls_panic_held :
    let s : SValue := ⟨List.replicate 33 0, by simp⟩
    let mgr : SeedManager := ⟨[(s, [])]⟩
    AssocMap.containsKey byteEq mgr.seedHashMap s.getPeer = false ∧
      AssocMap.containsKey byteEq mgr.seedHashMap s.getPeer.getPeer = true ∧
      ∃ r, AssocMap.get byteEq mgr.seedHashMap s.getPeer.getPeer = some r ∧
        Schedule.run (Call.step byteEq) (mgr, [Call.start s.getPeer [], Call.start s.getPeer []])
            [0, 1, 0, 1, 0, 1] =
          (⟨(AssocMap.remove byteEq mgr.seedHashMap s.getPeer.getPeer).2⟩,
            [⟨s.getPeer, [], .returned (some (r ++ []))⟩,
              ⟨s.getPeer, [], .panicked "should have key"⟩]) ∧
        Schedule.run (Call.step byteEq) (mgr, [Call.start s.getPeer [], Call.start s.getPeer []])
            [0, 0, 0, 1, 1, 1] =
          (⟨(AssocMap.remove byteEq mgr.seedHashMap s.getPeer.getPeer).2 ++
              [(s.getPeer, [])]⟩,
            [⟨s.getPeer, [], .returned (some (r ++ []))⟩,
              ⟨s.getPeer, [], .returned none⟩]) := by
  intro s mgr
  -- the manager holds the seed flagged `0`, and the calls carry its conjugate
  have hkey : AssocMap.containsKey byteEq mgr.seedHashMap s.getPeer = false := by decide
  have hpeer : AssocMap.containsKey byteEq mgr.seedHashMap s.getPeer.getPeer = true := by decide
  exact ⟨hkey, hpeer, overlapping_calls_panic [] [] hkey hpeer⟩

/-- **The two halves of a query can miss each other.** When a seed and its conjugate arrive
together at a node holding neither, both calls find nothing before either stores, and both are
stored: the node never glues the two halves. One after the other, the second call finds the
first and returns the route glued. -/
theorem overlapping_halves_never_meet {mgr : SeedManager} {s : SValue}
    (v₁ v₂ : List BalanceQueryResponse) (hflag : s.flag = 0 ∨ s.flag = 1)
    (hrefl : eq s s = true) (hne : eq s s.getPeer = false)
    (hs : AssocMap.containsKey eq mgr.seedHashMap s = false)
    (hs' : AssocMap.containsKey eq mgr.seedHashMap s.getPeer = false) :
    Schedule.run (Call.step eq) (mgr, [Call.start s v₁, Call.start s.getPeer v₂])
        [0, 1, 0, 1, 0, 1] =
      (⟨mgr.seedHashMap ++ [(s, v₁), (s.getPeer, v₂)]⟩,
        [⟨s, v₁, .returned none⟩, ⟨s.getPeer, v₂, .returned none⟩]) ∧
    Schedule.run (Call.step eq) (mgr, [Call.start s v₁, Call.start s.getPeer v₂])
        [0, 0, 0, 1, 1, 1] =
      (mgr, [⟨s, v₁, .returned none⟩,
        ⟨s.getPeer, v₂, .returned (some (v₁ ++ v₂))⟩]) := by
  -- once the seed is stored, its conjugate is still not held, and the seed is
  have hs'₁ : AssocMap.containsKey eq (mgr.seedHashMap ++ [(s, v₁)]) s.getPeer = false := by
    rw [AssocMap.containsKey_append_singleton, hs', hne]
    rfl
  have hs₁ : AssocMap.containsKey eq (mgr.seedHashMap ++ [(s, v₁)]) s = true := by
    rw [AssocMap.containsKey_append_singleton, hrefl, Bool.or_true]
  have hremove : AssocMap.remove eq (mgr.seedHashMap ++ [(s, v₁)]) s.getPeer.getPeer =
      (some v₁, mgr.seedHashMap) := by
    rw [SValue.getPeer_getPeer hflag]
    exact AssocMap.remove_append_singleton v₁ hs hrefl
  constructor
  · simp [Schedule.stepAt, Call.start, hs, hs', SValue.getPeer_getPeer hflag,
      AssocMap.insert_of_not_containsKey _ hs, AssocMap.insert_of_not_containsKey _ hs'₁]
  · simp [Schedule.stepAt, Call.start, hs, hs', hs'₁, hs₁, SValue.getPeer_getPeer hflag,
      AssocMap.insert_of_not_containsKey _ hs,
      step_removePeer_some ⟨mgr.seedHashMap ++ [(s, v₁)]⟩ v₂ hremove]

theorem overlapping_halves_never_meet_new :
    let s : SValue := ⟨List.replicate 33 0, by simp⟩
    (s.flag = 0 ∨ s.flag = 1) ∧ byteEq s s = true ∧ byteEq s s.getPeer = false ∧
      AssocMap.containsKey byteEq new.seedHashMap s = false ∧
      AssocMap.containsKey byteEq new.seedHashMap s.getPeer = false ∧
      Schedule.run (Call.step byteEq) (new, [Call.start s [], Call.start s.getPeer []])
          [0, 1, 0, 1, 0, 1] =
        (⟨new.seedHashMap ++ [(s, []), (s.getPeer, [])]⟩,
          [⟨s, [], .returned none⟩, ⟨s.getPeer, [], .returned none⟩]) ∧
      Schedule.run (Call.step byteEq) (new, [Call.start s [], Call.start s.getPeer []])
          [0, 0, 0, 1, 1, 1] =
        (new, [⟨s, [], .returned none⟩, ⟨s.getPeer, [], .returned (some ([] ++ []))⟩]) := by
  intro s
  have hflag : s.flag = 0 ∨ s.flag = 1 := by decide
  have hrefl : byteEq s s = true := by decide
  have hne : byteEq s s.getPeer = false := by decide
  exact ⟨hflag, hrefl, hne, rfl, rfl,
    overlapping_halves_never_meet [] [] hflag hrefl hne rfl rfl⟩

end SeedManager
