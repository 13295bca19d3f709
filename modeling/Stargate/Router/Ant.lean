import Mathlib.Data.List.Perm.Basic
import Stargate.Types.Message
import Stargate.Storage.Stores
import Stargate.Lib.AssocMap

/-!
# Stargate.Router.Ant

The ant router's bookkeeping of seeds and routes (src/router/ant/src/path_finder.rs and
lib.rs).

A node looking for a route floods a seed `S` from itself and has the payee flood its conjugate
`S.get_peer()`; each copy carries the hops it has passed, and a node that sees both halves glues
them together (`SeedManager::match_or_add`). The node that asked turns each glued list into a
walk from itself to the payee (`format_response_list`) and keeps the walk of least pressure
(`find_path_by_pressure`).

Matching depends on the key equality of the manager's map. Under `SValue`'s own `PartialEq`,
which ignores the flag byte, a seed equals its conjugate: the second half finds "its own key"
held and is dropped, so the halves never meet (`conjugate_seed_never_matches`). Under byte
equality, which the derived `Hash` makes the real map use, they are glued
(`SeedManager.matchOrAdd_conjugate`).

A walk is assembled from any list: it starts at the start address, each hop starts where the one
before ended, each hop is a distinct entry of the list or that entry reverted, and it stops at
the first hop into the end address (`AntRouterInner.formatResponseList_assembled`). The walk
chosen is one of least pressure among all the walks assembled
(`AntRouterInner.findPathByPressure_minimal`), and those include walks that never reach the end.
-/

/-! ### Seeds -/

/-- `SeedManager`: the seeds this node holds, each with the hops its query has made. -/
structure SeedManager where
  seedHashMap : List (SValue × List BalanceQueryResponse)

namespace SeedManager

/-- `SeedManager::new`. -/
def new : SeedManager := ⟨[]⟩

/-- `SeedManager::match_or_add`, over the key equality `eq` its map finds keys by. The source
takes the map's lock afresh for each step; this is one call running alone. -/
def matchOrAdd (eq : SValue → SValue → Bool) (mgr : SeedManager) (key : SValue)
    (value : List BalanceQueryResponse) :
    Except Failure (Option (List BalanceQueryResponse) × SeedManager) :=
  if AssocMap.containsKey eq mgr.seedHashMap key then .ok (none, mgr)
  else
    let peer := key.getPeer
    if AssocMap.containsKey eq mgr.seedHashMap peer then
      -- `.remove(&peer).take().expect("should have key")`
      match AssocMap.remove eq mgr.seedHashMap peer with
      | (some result, seedHashMap) => .ok (some (result ++ value), ⟨seedHashMap⟩)
      | (none, _) => .error (.panic "should have key")
    else .ok (none, ⟨AssocMap.insert eq mgr.seedHashMap key value⟩)

/-- Under the source's `==`, a map holds a seed's conjugate exactly when it holds the seed. -/
theorem containsKey_getPeer (m : List (SValue × List BalanceQueryResponse)) (s : SValue) :
    AssocMap.containsKey SValue.eq m s.getPeer = AssocMap.containsKey SValue.eq m s := by
  simp [AssocMap.containsKey]

theorem conjugate_seed_never_matches (mgr : SeedManager) (s : SValue)
    (l₁ l₂ : List BalanceQueryResponse)
    (hs : AssocMap.containsKey SValue.eq mgr.seedHashMap s = false)
    (hpeer : AssocMap.containsKey SValue.eq mgr.seedHashMap s.getPeer = false) :
    mgr.matchOrAdd SValue.eq s.getPeer l₁ =
        .ok (none, ⟨mgr.seedHashMap ++ [(s.getPeer, l₁)]⟩) ∧
      matchOrAdd SValue.eq ⟨mgr.seedHashMap ++ [(s.getPeer, l₁)]⟩ s l₂ =
        .ok (none, ⟨mgr.seedHashMap ++ [(s.getPeer, l₁)]⟩) := by
  -- the conjugate of `S.get_peer()` is as absent as `S` itself
  have hpeerpeer : AssocMap.containsKey SValue.eq mgr.seedHashMap s.getPeer.getPeer = false := by
    rw [containsKey_getPeer, containsKey_getPeer, hs]
  -- and once `S.get_peer()` is stored, `S` counts as held
  have hheld :
      AssocMap.containsKey SValue.eq (mgr.seedHashMap ++ [(s.getPeer, l₁)]) s = true := by
    simp [AssocMap.containsKey_append_singleton, SValue.eq]
  constructor
  · simp only [matchOrAdd, hpeer, hpeerpeer, AssocMap.insert_of_not_containsKey _ hpeer]
    rfl
  · simp only [matchOrAdd, hheld]
    rfl

theorem conjugate_seed_never_matches_new :
    AssocMap.containsKey SValue.eq new.seedHashMap ⟨List.replicate 33 0, by simp⟩ = false ∧
      AssocMap.containsKey SValue.eq new.seedHashMap
        (SValue.getPeer ⟨List.replicate 33 0, by simp⟩) = false ∧
      new.matchOrAdd SValue.eq (SValue.getPeer ⟨List.replicate 33 0, by simp⟩) [] =
        .ok (none, ⟨[] ++ [(SValue.getPeer ⟨List.replicate 33 0, by simp⟩, [])]⟩) ∧
      matchOrAdd SValue.eq ⟨[] ++ [(SValue.getPeer ⟨List.replicate 33 0, by simp⟩, [])]⟩
          ⟨List.replicate 33 0, by simp⟩ [] =
        .ok (none, ⟨[] ++ [(SValue.getPeer ⟨List.replicate 33 0, by simp⟩, [])]⟩) :=
  ⟨rfl, rfl, conjugate_seed_never_matches new _ [] [] rfl rfl⟩

/-- Byte-for-byte equality of seeds: what the real map ends up comparing, since the derived
`Hash` of a seed and of its conjugate differ. -/
def byteEq (s t : SValue) : Bool := decide (s = t)

/-- Under byte equality the two halves of a query are glued: the conjugate's hops first, then
the seed's, and the manager is left as it was. -/
theorem matchOrAdd_conjugate (mgr : SeedManager) {s : SValue}
    (l₁ l₂ : List BalanceQueryResponse) (hflag : s.flag = 0 ∨ s.flag = 1)
    (hs : AssocMap.containsKey byteEq mgr.seedHashMap s = false)
    (hpeer : AssocMap.containsKey byteEq mgr.seedHashMap s.getPeer = false) :
    mgr.matchOrAdd byteEq s.getPeer l₁ = .ok (none, ⟨mgr.seedHashMap ++ [(s.getPeer, l₁)]⟩) ∧
      matchOrAdd byteEq ⟨mgr.seedHashMap ++ [(s.getPeer, l₁)]⟩ s l₂ =
        .ok (some (l₁ ++ l₂), mgr) := by
  have hfresh : AssocMap.containsKey byteEq (mgr.seedHashMap ++ [(s.getPeer, l₁)]) s = false := by
    simp [AssocMap.containsKey_append_singleton, hs, byteEq, SValue.getPeer_ne]
  have hheld :
      AssocMap.containsKey byteEq (mgr.seedHashMap ++ [(s.getPeer, l₁)]) s.getPeer = true := by
    simp [AssocMap.containsKey_append_singleton, byteEq]
  have hremove : AssocMap.remove byteEq (mgr.seedHashMap ++ [(s.getPeer, l₁)]) s.getPeer =
      (some l₁, mgr.seedHashMap) :=
    AssocMap.remove_append_singleton l₁ hpeer (by simp [byteEq])
  constructor
  · simp only [matchOrAdd, hpeer, SValue.getPeer_getPeer hflag, hs,
      AssocMap.insert_of_not_containsKey _ hpeer]
    rfl
  · simp only [matchOrAdd, hfresh, hheld, hremove]
    rfl

/-- The two halves of a query for the seed of thirty-three zero bytes, at a new node. -/
theorem matchOrAdd_conjugate_new :
    let s : SValue := ⟨List.replicate 33 0, by simp⟩
    (s.flag = 0 ∨ s.flag = 1) ∧ AssocMap.containsKey byteEq new.seedHashMap s = false ∧
      AssocMap.containsKey byteEq new.seedHashMap s.getPeer = false ∧
      new.matchOrAdd byteEq s.getPeer [] = .ok (none, ⟨new.seedHashMap ++ [(s.getPeer, [])]⟩) ∧
      matchOrAdd byteEq ⟨new.seedHashMap ++ [(s.getPeer, [])]⟩ s [] =
        .ok (some ([] ++ []), new) := by
  intro s
  have hflag : s.flag = 0 ∨ s.flag = 1 := by decide
  exact ⟨hflag, rfl, rfl, matchOrAdd_conjugate new [] [] hflag rfl rfl⟩

end SeedManager

/-! ### Routes -/

namespace AntRouterInner

/-- One step of `find_response`'s scan of `response_list.iter().enumerate()`: a response
touching `localAddr` moves the mark `(index, find)` to its position. -/
def scanStep (localAddr : AccountAddress) (acc : Nat × Bool)
    (entry : BalanceQueryResponse × Nat) : Nat × Bool :=
  if entry.1.localAddr = localAddr ∨ entry.1.remoteAddr = localAddr then (entry.2, true) else acc

/-- `AntRouterInner::find_response`: take out the last response touching `localAddr`, turned to
start there. -/
def findResponse (localAddr : AccountAddress) (responseList : List BalanceQueryResponse) :
    Option BalanceQueryResponse × List BalanceQueryResponse :=
  let (index, find) := responseList.zipIdx.foldl (scanStep localAddr) (0, false)
  if find then
    -- `Vec::remove` panics past the end; the scan only marks positions of the list
    -- (`scan_found`), so the fallback is unreachable
    if h : index < responseList.length then
      let response := responseList.get ⟨index, h⟩
      (some (if response.remoteAddr = localAddr then response.revert else response),
        responseList.eraseIdx index)
    else (none, responseList)
  else (none, responseList)

/-- The scan marks a position of the list holding a response that touches `localAddr`, or
keeps the mark it started from. -/
theorem scan_found (localAddr : AccountAddress) (l : List BalanceQueryResponse) (n : Nat)
    (acc : Nat × Bool) :
    (l.zipIdx n).foldl (scanStep localAddr) acc = acc ∨
      ∃ i, ∃ hi : i < l.length, (l.zipIdx n).foldl (scanStep localAddr) acc = (n + i, true) ∧
        (l[i].localAddr = localAddr ∨ l[i].remoteAddr = localAddr) := by
  induction l generalizing n acc with
  | nil => exact Or.inl rfl
  | cons a l ih =>
    rw [List.zipIdx_cons, List.foldl_cons]
    rcases ih (n + 1) (scanStep localAddr acc (a, n)) with h | ⟨i, hi, h, htouch⟩
    · -- the rest of the list marks nothing: the mark is the one `a` leaves
      rw [h]
      by_cases ha : a.localAddr = localAddr ∨ a.remoteAddr = localAddr
      · exact Or.inr ⟨0, by simp, by simp [scanStep, ha], ha⟩
      · exact Or.inl (if_neg ha)
    · refine Or.inr ⟨i + 1, by simp [hi], ?_, htouch⟩
      rw [h, Nat.add_right_comm]
      rfl

/-- What `find_response` takes out: a response at some position of the list that touches
`localAddr`, turned to start there, and the list without that position. -/
theorem findResponse_eq_some {localAddr : AccountAddress} {l rest : List BalanceQueryResponse}
    {b : BalanceQueryResponse} (h : findResponse localAddr l = (some b, rest)) :
    ∃ i, ∃ hi : i < l.length, (l[i].localAddr = localAddr ∨ l[i].remoteAddr = localAddr) ∧
      b = (if l[i].remoteAddr = localAddr then l[i].revert else l[i]) ∧ rest = l.eraseIdx i := by
  rcases scan_found localAddr l 0 (0, false) with hscan | ⟨i, hi, hscan, htouch⟩
  · simp [findResponse, hscan] at h
  · simp only [findResponse, hscan, Nat.zero_add, if_true, dif_pos hi, List.get_eq_getElem,
      Prod.mk.injEq, Option.some.injEq] at h
    exact ⟨i, hi, htouch, h.1.symm, h.2.symm⟩

/-- The response `find_response` takes out starts at `localAddr`. -/
theorem localAddr_of_findResponse {localAddr : AccountAddress}
    {l rest : List BalanceQueryResponse} {b : BalanceQueryResponse}
    (h : findResponse localAddr l = (some b, rest)) : b.localAddr = localAddr := by
  obtain ⟨i, hi, htouch, rfl, -⟩ := findResponse_eq_some h
  split
  case isTrue hremote => exact hremote
  case isFalse hremote => exact htouch.resolve_right hremote

/-- `find_response` takes one entry out of the list, as it is or reverted. -/
theorem perm_of_findResponse {localAddr : AccountAddress} {l rest : List BalanceQueryResponse}
    {b : BalanceQueryResponse} (h : findResponse localAddr l = (some b, rest)) :
    ∃ pick, (b = pick ∨ b = pick.revert) ∧ (pick :: rest).Perm l := by
  obtain ⟨i, hi, -, hb, rfl⟩ := findResponse_eq_some h
  refine ⟨l[i], ?_, List.getElem_cons_eraseIdx_perm hi⟩
  split at hb
  · exact Or.inr hb
  · exact Or.inl hb

theorem length_lt_of_findResponse {localAddr : AccountAddress}
    {l rest : List BalanceQueryResponse} {b : BalanceQueryResponse}
    (h : findResponse localAddr l = (some b, rest)) : rest.length < l.length := by
  obtain ⟨pick, -, hperm⟩ := perm_of_findResponse h
  have hlen := hperm.length_eq
  rw [List.length_cons] at hlen
  omega

-- the loop's `h` is read only by its termination proof, which the linter does not see
set_option linter.unusedVariables false in
/-- `AntRouterInner::format_response_list`: the walk from `start` that repeatedly takes the
response `find_response` gives for the current address, until one ends at `endAddr` or none is
left. -/
def formatResponseList (resp : AntFinalMessage) (start endAddr : AccountAddress) :
    List BalanceQueryResponse :=
  loop start resp.balanceQueryResponseList
where
  /-- The `while !done` loop, from `seed` over what is left of the list. -/
  loop (seed : AccountAddress) (list : List BalanceQueryResponse) : List BalanceQueryResponse :=
    match h : findResponse seed list with
    | (some balanceResponse, rest) =>
      if balanceResponse.remoteAddr = endAddr then [balanceResponse]
      else balanceResponse :: loop balanceResponse.remoteAddr rest
    | (none, _) => []
  termination_by list.length
  decreasing_by exact length_lt_of_findResponse h

theorem loop_of_findResponse_none {endAddr seed : AccountAddress}
    {list rest : List BalanceQueryResponse} (h : findResponse seed list = (none, rest)) :
    formatResponseList.loop endAddr seed list = [] := by
  rw [formatResponseList.loop]
  split <;> simp_all

theorem loop_of_findResponse_some {endAddr seed : AccountAddress}
    {list rest : List BalanceQueryResponse} {b : BalanceQueryResponse}
    (h : findResponse seed list = (some b, rest)) :
    formatResponseList.loop endAddr seed list =
      if b.remoteAddr = endAddr then [b] else b :: formatResponseList.loop endAddr b.remoteAddr rest := by
  rw [formatResponseList.loop]
  split <;> simp_all

/-- A walk from `seed`: each hop starts where the one before it ended. -/
def IsWalkFrom : AccountAddress → List BalanceQueryResponse → Prop
  | _, [] => True
  | seed, hop :: hops => hop.localAddr = seed ∧ IsWalkFrom hop.remoteAddr hops

/-- A walk assembled from `list` between `start` and `endAddr`: it walks from `start`, its hops
are distinct entries of `list`, each as it is or reverted, and no hop but the last ends at
`endAddr`. -/
structure Assembled (list : List BalanceQueryResponse) (start endAddr : AccountAddress)
    (hops : List BalanceQueryResponse) : Prop where
  walk : IsWalkFrom start hops
  picked : ∃ picks : List BalanceQueryResponse, picks.Subperm list ∧
    List.Forall₂ (fun hop pick => hop = pick ∨ hop = pick.revert) hops picks
  stops : ∀ hop ∈ hops.dropLast, hop.remoteAddr ≠ endAddr

theorem Assembled.nil (list : List BalanceQueryResponse) (start endAddr : AccountAddress) :
    Assembled list start endAddr [] :=
  ⟨trivial, ⟨[], List.nil_subperm, .nil⟩, by simp⟩

/-- A hop taken out of `list` in front of a walk assembled from what is left. -/
theorem Assembled.cons {list rest hops : List BalanceQueryResponse}
    {seed endAddr : AccountAddress} {b : BalanceQueryResponse}
    (hfind : findResponse seed list = (some b, rest)) (hnext : b.remoteAddr ≠ endAddr ∨ hops = [])
    (hrest : Assembled rest b.remoteAddr endAddr hops) :
    Assembled list seed endAddr (b :: hops) := by
  obtain ⟨pick, hpick, hperm⟩ := perm_of_findResponse hfind
  obtain ⟨picks, hsub, hforall⟩ := hrest.picked
  refine ⟨⟨localAddr_of_findResponse hfind, hrest.walk⟩,
    ⟨pick :: picks, ((List.subperm_cons pick).mpr hsub).trans hperm.subperm, .cons hpick hforall⟩,
    ?_⟩
  cases hops with
  | nil => simp
  | cons c hops =>
    have hne : b.remoteAddr ≠ endAddr := hnext.resolve_right (List.cons_ne_nil c hops)
    rw [List.dropLast_cons_cons]
    rintro hop (_ | ⟨_, hmem⟩)
    · exact hne
    · exact hrest.stops hop hmem

/-- The loop assembles a walk from what is left of the list. The induction follows the loop. -/
theorem loop_assembled (endAddr seed : AccountAddress) (list : List BalanceQueryResponse) :
    Assembled list seed endAddr (formatResponseList.loop endAddr seed list) := by
  fun_induction formatResponseList.loop endAddr seed list with
  | case1 seed list b rest hfind hend =>
    exact Assembled.cons hfind (Or.inr rfl) (Assembled.nil rest b.remoteAddr endAddr)
  | case2 seed list b rest hfind hend ih => exact Assembled.cons hfind (Or.inl hend) ih
  | case3 seed list rest hfind => exact Assembled.nil list seed endAddr

theorem formatResponseList_assembled (resp : AntFinalMessage) (start endAddr : AccountAddress) :
    Assembled resp.balanceQueryResponseList start endAddr (formatResponseList resp start endAddr) :=
  loop_assembled endAddr start resp.balanceQueryResponseList

/-- The pressure `find_path_by_pressure` ranks a walk by: the sum over its hops of
`total_pay_amount + remote_balance - local_balance`. The source sums in `i128`, which no list
shorter than `2^62` hops can overflow. -/
def pressure (balances : List BalanceQueryResponse) : Int :=
  balances.foldl (fun pressure balance =>
    pressure + balance.totalPayAmount.toNat + balance.remoteBalance.toNat -
      balance.localBalance.toNat) 0

/-- `std::i128::MAX` (`2 ^ 127 - 1`), where the minimum starts. -/
def i128Max : Int := 170141183460469231731687303715884105727

/-- One path of `find_path_by_pressure`'s loop: its walk is stored under its pressure, replacing
a walk of the same pressure, and the minimum is updated. -/
def pressureStep (start endAddr : AccountAddress)
    (acc : List (Int × List BalanceQueryResponse) × Int) (path : AntFinalMessage) :
    List (Int × List BalanceQueryResponse) × Int :=
  let balances := formatResponseList path start endAddr
  let pressure := pressure balances
  (AssocMap.insert (· == ·) acc.1 pressure balances, if pressure < acc.2 then pressure else acc.2)

/-- `AntRouterInner::find_path_by_pressure`. -/
def findPathByPressure (paths : List AntFinalMessage) (start endAddr : AccountAddress) :
    Except String (List BalanceQueryResponse) :=
  let (balanceMap, minPressure) := paths.foldl (pressureStep start endAddr) ([], i128Max)
  match (AssocMap.remove (· == ·) balanceMap minPressure).1 with
  | some t => .ok t
  | none => .error "no path find"

/-- What `find_path_by_pressure`'s loop keeps over the paths it has read: each stored walk is
the walk of one of them, stored under its own pressure, and the minimum is at most the pressure
of each of their walks. -/
structure PressureInv (start endAddr : AccountAddress) (read : List AntFinalMessage)
    (acc : List (Int × List BalanceQueryResponse) × Int) : Prop where
  stored : ∀ entry ∈ acc.1,
    (∃ path ∈ read, formatResponseList path start endAddr = entry.2) ∧ pressure entry.2 = entry.1
  least : ∀ path ∈ read, acc.2 ≤ pressure (formatResponseList path start endAddr)

theorem pressureInv_nil (start endAddr : AccountAddress) :
    PressureInv start endAddr [] ([], i128Max) :=
  ⟨by simp, by simp⟩

theorem pressureInv_step {start endAddr : AccountAddress} {read : List AntFinalMessage}
    {acc : List (Int × List BalanceQueryResponse) × Int} (path : AntFinalMessage)
    (hinv : PressureInv start endAddr read acc) :
    PressureInv start endAddr (read ++ [path]) (pressureStep start endAddr acc path) := by
  constructor
  · apply AssocMap.forall_mem_insert
    · intro entry hentry
      obtain ⟨⟨old, hold, hwalk⟩, hpressure⟩ := hinv.stored entry hentry
      exact ⟨⟨old, List.mem_append_left _ hold, hwalk⟩, hpressure⟩
    · -- the new walk is stored under its pressure, or replaces the value of that same key
      intro k hk
      have hkey : k = pressure (formatResponseList path start endAddr) := by
        rcases hk with hk | hk
        · exact hk
        · exact beq_iff_eq.mp hk
      exact ⟨⟨path, by simp, rfl⟩, hkey.symm⟩
  · intro p hp
    have hmin : (pressureStep start endAddr acc path).2 ≤ acc.2 := by
      simp only [pressureStep]
      split <;> omega
    rcases List.mem_append.mp hp with hold | hnew
    · exact hmin.trans (hinv.least p hold)
    · rw [List.mem_singleton.mp hnew]
      simp only [pressureStep]
      split <;> omega

theorem pressureInv_foldl {start endAddr : AccountAddress} (paths : List AntFinalMessage) :
    ∀ {read : List AntFinalMessage} {acc : List (Int × List BalanceQueryResponse) × Int},
      PressureInv start endAddr read acc →
        PressureInv start endAddr (read ++ paths) (paths.foldl (pressureStep start endAddr) acc) := by
  induction paths with
  | nil => intro read acc hinv; simpa using hinv
  | cons path paths ih =>
    intro read acc hinv
    have hnext := ih (pressureInv_step path hinv)
    rwa [List.append_assoc, List.singleton_append] at hnext

/-- The walk `find_path_by_pressure` returns is the walk of one of the paths, and its pressure is
the least of them all: reaching `endAddr` or not. -/
theorem findPathByPressure_minimal {paths : List AntFinalMessage}
    {start endAddr : AccountAddress} {p : List BalanceQueryResponse}
    (h : findPathByPressure paths start endAddr = .ok p) :
    (∃ path ∈ paths, formatResponseList path start endAddr = p) ∧
      ∀ path ∈ paths, pressure p ≤ pressure (formatResponseList path start endAddr) := by
  have hinv := pressureInv_foldl paths (pressureInv_nil start endAddr)
  rw [List.nil_append] at hinv
  rcases hfold : paths.foldl (pressureStep start endAddr) ([], i128Max) with
    ⟨balanceMap, minPressure⟩
  rw [hfold] at hinv
  simp only [findPathByPressure, hfold, AssocMap.remove] at h
  split at h
  case h_2 => cases h
  case h_1 t hget =>
    cases h
    obtain ⟨entry, hentry, hkey, rfl⟩ := AssocMap.exists_mem_of_get_eq_some hget
    obtain ⟨hpath, hpressure⟩ := hinv.stored entry hentry
    have hmin : pressure entry.2 = minPressure := hpressure.trans (beq_iff_eq.mp hkey)
    exact ⟨hpath, fun path hp => hmin ▸ hinv.least path hp⟩

/-- One path, of no response: its empty walk is the one returned. -/
theorem findPathByPressure_minimal_empty :
    findPathByPressure [⟨[], []⟩] [1] [3] = .ok [] ∧
      (∃ path ∈ [(⟨[], []⟩ : AntFinalMessage)], formatResponseList path [1] [3] = []) ∧
      ∀ path ∈ [(⟨[], []⟩ : AntFinalMessage)],
        pressure [] ≤ pressure (formatResponseList path [1] [3]) := by
  have hnil : formatResponseList ⟨[], []⟩ [1] [3] = [] := loop_of_findResponse_none rfl
  have h : findPathByPressure [⟨[], []⟩] [1] [3] = .ok [] := by
    simp only [findPathByPressure, List.foldl, pressureStep, hnil]
    decide
  exact ⟨h, findPathByPressure_minimal h⟩

theorem assembled_path_may_miss_end :
    (∀ (resp : AntFinalMessage) (start endAddr : AccountAddress),
      Assembled resp.balanceQueryResponseList start endAddr
        (formatResponseList resp start endAddr)) ∧
    (∀ (r : HashValue) (start endAddr : AccountAddress),
      findPathByPressure [⟨r, []⟩] start endAddr = .ok []) ∧
    findPathByPressure
        [⟨[], [⟨[1], [2], 0, 0, 0⟩, ⟨[2], [3], 0, 0, 0⟩]⟩, ⟨[], [⟨[1], [4], 5, 0, 0⟩]⟩] [1] [3] =
      .ok [⟨[1], [4], 5, 0, 0⟩] := by
  refine ⟨formatResponseList_assembled, ?_, ?_⟩
  · -- an empty list assembles the empty walk, of pressure `0`, the least of one
    intro r start endAddr
    have hnil : formatResponseList ⟨r, []⟩ start endAddr = [] := loop_of_findResponse_none rfl
    simp only [findPathByPressure, List.foldl, pressureStep, hnil]
    decide
  · -- the route `[1] → [2] → [3]` has pressure `0`; the dead end `[1] → [4]` has `-5`
    have hfull : formatResponseList ⟨[], [⟨[1], [2], 0, 0, 0⟩, ⟨[2], [3], 0, 0, 0⟩]⟩ [1] [3] =
        [⟨[1], [2], 0, 0, 0⟩, ⟨[2], [3], 0, 0, 0⟩] := by
      have hfirst : findResponse [1] [⟨[1], [2], 0, 0, 0⟩, ⟨[2], [3], 0, 0, 0⟩] =
          (some ⟨[1], [2], 0, 0, 0⟩, [⟨[2], [3], 0, 0, 0⟩]) := by decide
      have hsecond :
          findResponse [2] [⟨[2], [3], 0, 0, 0⟩] = (some ⟨[2], [3], 0, 0, 0⟩, []) := by
        decide
      rw [formatResponseList, loop_of_findResponse_some hfirst, if_neg (by decide),
        loop_of_findResponse_some hsecond, if_pos rfl]
    have hdead :
        formatResponseList ⟨[], [⟨[1], [4], 5, 0, 0⟩]⟩ [1] [3] = [⟨[1], [4], 5, 0, 0⟩] := by
      have hfirst :
          findResponse [1] [⟨[1], [4], 5, 0, 0⟩] = (some ⟨[1], [4], 5, 0, 0⟩, []) := by
        decide
      have hsecond : findResponse [4] [] = (none, []) := rfl
      rw [formatResponseList, loop_of_findResponse_some hfirst, if_neg (by decide),
        loop_of_findResponse_none hsecond]
    simp only [findPathByPressure, List.foldl, pressureStep, hfull, hdead]
    decide

end AntRouterInner
