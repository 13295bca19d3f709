import Stargate.Lib.SortedMap
import Stargate.Lib.ByteOrder

/-!
# Stargate.Lib.OrderedStore

A sorted key-value store read through **cursors**, and the **view of a store under one
key prefix**.

A cursor is represented by the entries the iterator goes on to yield through `next`,
in order; the empty list is an iterator that is no longer valid. The four ways of
positioning one follow the documented contract of an ordered store's iterator:

* `seek k` — at the first key at or above `k`;
* `seekForPrev k` — at the last key at or below `k` (after which `next` continues
  upwards, through the keys above `k`);
* `seekToFirst`, `seekToLast` — at the first and at the last key.

`restrict p m` is the store that holds exactly the entries of `m` under the prefix `p`,
with `p` removed from their keys: a store of its own, as one tenant of a shared store
should see it. `yieldUnder p c` is what an iterator over the shared store yields when it
stops at the first key outside `p` and strips `p` from the keys it returns.

The results say when a prefixed view behaves as the tenant's own store:

* lookups and updates under `p` are lookups and updates of `restrict p m`
  (`find?_restrict`, `restrict_insert_of_prefix`, `restrict_erase_of_prefix`);
* a shared iterator sought to `p ++ k` yields what the tenant's iterator sought to `k`
  yields (`yieldUnder_seek`).

All of them rest on one fact about the order: the keys under a prefix are contiguous
(`ListOrder.isPrefix_of_between`).
-/

namespace SortedMap

/-! ### Cursors -/

section Cursor

variable {κ ν : Type} [LinearOrder κ]

/-- The entries an iterator yields after `seek k`: from the first key at or above `k`. -/
def seek (m : SortedMap κ ν) (k : κ) : List (κ × ν) := m.toList.filter (fun e => k ≤ e.1)

/-- The entries with keys at or below `k`, in order. -/
def atMost (m : SortedMap κ ν) (k : κ) : List (κ × ν) := m.toList.filter (fun e => e.1 ≤ k)

/-- The entries with keys above `k`, in order. -/
def above (m : SortedMap κ ν) (k : κ) : List (κ × ν) := m.toList.filter (fun e => k < e.1)

/-- The entries an iterator yields after `seek_for_prev k`: from the last key at or below
`k`, then upwards. -/
def seekForPrev (m : SortedMap κ ν) (k : κ) : List (κ × ν) :=
  match (m.atMost k).getLast? with
  | none => []
  | some e => e :: m.above k

/-- The entries an iterator yields after `seek_to_first`: all of them. -/
def seekToFirst (m : SortedMap κ ν) : List (κ × ν) := m.toList

/-- The entries an iterator yields after `seek_to_last`: the last one. -/
def seekToLast (m : SortedMap κ ν) : List (κ × ν) := m.toList.getLast?.toList

theorem mem_atMost {m : SortedMap κ ν} {k : κ} {e : κ × ν} :
    e ∈ m.atMost k ↔ e ∈ m.toList ∧ e.1 ≤ k := by
  simp [atMost]

/-- After `seek k₀`, a key is found as in the map if it is at or above `k₀`, and not otherwise. -/
theorem lookup_seek (m : SortedMap κ ν) (k₀ k : κ) :
    (m.seek k₀).lookup k = if k₀ ≤ k then m.find? k else none := by
  unfold seek find?
  induction m.toList with
  | nil => simp
  | cons e es ih =>
      rw [List.filter_cons, lookup_cons_ite]
      by_cases he : k₀ ≤ e.1
      · rw [if_pos (decide_eq_true he), lookup_cons_ite, ih]
        by_cases hk : k = e.1
        · subst hk
          simp [he]
        · simp [hk]
      · rw [if_neg (by simpa using he), ih]
        by_cases hk : k = e.1
        · subst hk
          simp [he]
        · simp [hk]

/-- A map that holds `m₀` and a sorted run of entries `l`, placed at or above `k₀` and below
every entry of `m₀` from `k₀` on: from `k₀` it yields the run, then those entries of `m₀`. -/
theorem seek_of_find?_eq {m m₀ : SortedMap κ ν} {l : List (κ × ν)} {k₀ : κ}
    (hl : l.Pairwise (fun a b => a.1 < b.1)) (hlo : ∀ e ∈ l, k₀ ≤ e.1)
    (hhi : ∀ e ∈ l, ∀ e' ∈ m₀.seek k₀, e.1 < e'.1)
    (hm : ∀ k, m.find? k = ((ofList l).find? k).or (m₀.find? k)) :
    m.seek k₀ = l ++ m₀.seek k₀ := by
  have hnodup : (l.map Prod.fst).Nodup := (List.pairwise_map.mpr hl).imp ne_of_lt
  refine eq_of_lookup_eq (m.sorted.filter _) (List.pairwise_append.mpr ⟨hl, m₀.sorted.filter _, hhi⟩)
    fun k => ?_
  rw [lookup_seek, List.lookup_append, lookup_seek, hm, find?_ofList, lookup_reverse hnodup]
  by_cases hk : k₀ ≤ k
  · rw [if_pos hk, if_pos hk]
  · -- no entry of the run lies below `k₀`
    have hnone : l.lookup k = none := List.lookup_eq_none_iff.mpr fun e he => by
      have hne : k ≠ e.1 := fun hke => hk (hke ▸ hlo e he)
      simpa using hne
    rw [if_neg hk, if_neg hk, hnone]
    rfl

end Cursor

/-! ### The view under a prefix -/

section Prefix

variable {α ν : Type} [LinearOrder α]

/-- Whether an entry's key starts with `p`. -/
def underPrefix (p : List α) (e : List α × ν) : Bool := p.isPrefixOf e.1

/-- The entry with `p` removed from the front of its key. -/
def stripPrefix (p : List α) (e : List α × ν) : List α × ν := (e.1.drop p.length, e.2)

@[simp] theorem underPrefix_iff (p : List α) (e : List α × ν) :
    underPrefix p e = true ↔ p <+: e.1 := by
  simp [underPrefix]

theorem underPrefix_append (p k : List α) (v : ν) : underPrefix p (p ++ k, v) = true := by
  simp

omit [LinearOrder α] in
@[simp] theorem stripPrefix_append (p k : List α) (v : ν) : stripPrefix p (p ++ k, v) = (k, v) := by
  simp [stripPrefix]

/-- An entry under `p` is `p` followed by its stripped key. -/
theorem eq_append_of_underPrefix {p : List α} {e : List α × ν} (h : underPrefix p e = true) :
    e = (p ++ (stripPrefix p e).1, e.2) := by
  obtain ⟨t, ht⟩ := (underPrefix_iff p e).mp h
  obtain ⟨k, v⟩ := e
  simp only at ht
  subst ht
  simp [stripPrefix]

/-- Stripping a common prefix keeps keys in order. -/
theorem stripPrefix_lt {p : List α} {e e' : List α × ν} (he : underPrefix p e = true)
    (he' : underPrefix p e' = true) : (stripPrefix p e).1 < (stripPrefix p e').1 ↔ e.1 < e'.1 := by
  conv_rhs => rw [eq_append_of_underPrefix he, eq_append_of_underPrefix he']
  exact (ListOrder.append_lt_append_iff p).symm

theorem sorted_restrict (p : List α) (m : SortedMap (List α) ν) :
    ((m.toList.filter (underPrefix p)).map (stripPrefix p)).Pairwise (fun a b => a.1 < b.1) := by
  rw [List.pairwise_map]
  refine (m.sorted.filter _).imp_of_mem fun ha hb hab => ?_
  exact (stripPrefix_lt (List.mem_filter.mp ha).2 (List.mem_filter.mp hb).2).mpr hab

/-- The entries of `m` under `p`, with `p` removed from their keys. -/
def restrict (p : List α) (m : SortedMap (List α) ν) : SortedMap (List α) ν :=
  ⟨(m.toList.filter (underPrefix p)).map (stripPrefix p), sorted_restrict p m⟩

/-- What an iterator confined to `p` yields from a cursor of the shared store: the
entries up to the first key outside `p`, with `p` removed from their keys. -/
def yieldUnder (p : List α) (c : List (List α × ν)) : List (List α × ν) :=
  (c.takeWhile (underPrefix p)).map (stripPrefix p)

/-! ### Lookups and updates -/

theorem find?_restrict (p : List α) (m : SortedMap (List α) ν) (k : List α) :
    (restrict p m).find? k = m.find? (p ++ k) := by
  unfold restrict find?
  dsimp only
  induction m.toList with
  | nil => rfl
  | cons e es ih =>
      rw [List.filter_cons]
      by_cases he : underPrefix p e = true
      · rw [if_pos he, List.map_cons, lookup_cons_ite, lookup_cons_ite, ih]
        conv_rhs => rw [eq_append_of_underPrefix he]
        simp only [List.append_cancel_left_eq]
        congr 1
      · rw [if_neg he, ih, lookup_cons_ite, if_neg]
        intro hk
        exact he ((underPrefix_iff p e).mpr (hk ▸ List.prefix_append p k))

theorem restrict_insert_of_prefix (p : List α) (m : SortedMap (List α) ν) (k : List α)
    (v : ν) : restrict p (m.insert (p ++ k) v) = (restrict p m).insert k v :=
  ext fun k' => by simp [find?_restrict]

theorem restrict_erase_of_prefix (p : List α) (m : SortedMap (List α) ν) (k : List α) :
    restrict p (m.erase (p ++ k)) = (restrict p m).erase k :=
  ext fun k' => by simp [find?_restrict]

/-! ### Iterators -/

/-- On a sorted run of entries at or above a key `t` under `p`, the entries under `p`
form an initial segment: stopping at the first key outside `p` loses none of them. -/
theorem takeWhile_eq_filter_of_ge {p t : List α} (ht : p <+: t) :
    ∀ {S : List (List α × ν)}, S.Pairwise (fun a b => a.1 < b.1) → (∀ e ∈ S, t ≤ e.1) →
      S.takeWhile (underPrefix p) = S.filter (underPrefix p)
  | [], _, _ => rfl
  | e :: es, hs, hge => by
      obtain ⟨hlt, hes⟩ := List.pairwise_cons.mp hs
      by_cases he : underPrefix p e = true
      · rw [List.takeWhile_cons_of_pos he, List.filter_cons_of_pos he,
          takeWhile_eq_filter_of_ge ht hes fun x hx => hge x (List.mem_cons_of_mem _ hx)]
      · rw [List.takeWhile_cons_of_neg he, List.filter_cons_of_neg he, eq_comm,
          List.filter_eq_nil_iff]
        -- a later key under `p` would put `e`, squeezed between `t` and it, under `p`
        intro x hx hxp
        apply he
        rw [underPrefix_iff] at hxp ⊢
        exact ListOrder.isPrefix_of_between ht hxp (hge e List.mem_cons_self)
          (le_of_lt (hlt x hx))

/-- The key of an entry under `p` is `p` followed by its stripped key. -/
theorem key_eq_append {p : List α} {e : List α × ν} (h : underPrefix p e = true) :
    e.1 = p ++ (stripPrefix p e).1 :=
  congrArg Prod.fst (eq_append_of_underPrefix h)

/-- A filter of the tenant's entries is the filter of the shared entries under `p` by any test
that agrees with it on the full keys. -/
theorem restrict_filter (p : List α) (m : SortedMap (List α) ν) (q q' : List α × ν → Bool)
    (hq : ∀ e, underPrefix p e = true → q e = q' (stripPrefix p e)) :
    (restrict p m).toList.filter q' =
      ((m.toList.filter q).filter (underPrefix p)).map (stripPrefix p) := by
  unfold restrict
  dsimp only
  rw [List.filter_map, List.filter_comm (underPrefix p) q]
  congr 1
  refine List.filter_congr fun e he => ?_
  exact (hq e (List.mem_filter.mp he).2).symm

@[simp] theorem yieldUnder_nil (p : List α) : yieldUnder p ([] : List (List α × ν)) = [] := rfl

theorem yieldUnder_cons_of_neg {p : List α} {e : List α × ν} (c : List (List α × ν))
    (he : ¬ underPrefix p e = true) : yieldUnder p (e :: c) = [] := by
  simp [yieldUnder, List.takeWhile_cons_of_neg he]

/-- A sorted run of shared entries, all at or above a key `t` under `p`, read under `p`: the
iterator loses no entry by stopping at the first key outside `p`. -/
theorem yieldUnder_filter {p t : List α} (ht : p <+: t) (m : SortedMap (List α) ν)
    (q q' : List α × ν → Bool) (hge : ∀ e, q e = true → t ≤ e.1)
    (hq : ∀ e, underPrefix p e = true → q e = q' (stripPrefix p e)) :
    yieldUnder p (m.toList.filter q) = (restrict p m).toList.filter q' := by
  unfold yieldUnder
  rw [takeWhile_eq_filter_of_ge ht (m.sorted.filter _) (fun e he => hge e (List.mem_filter.mp he).2),
    restrict_filter p m q q' hq]

/-- Seeking the shared store to `p ++ k` yields what seeking the tenant's store to `k`
yields. -/
theorem yieldUnder_seek (p k : List α) (m : SortedMap (List α) ν) :
    yieldUnder p (m.seek (p ++ k)) = (restrict p m).seek k :=
  yieldUnder_filter (List.prefix_append p k) m _ _ (fun _ h => of_decide_eq_true h)
    fun e he => by
      rw [key_eq_append he]
      exact decide_eq_decide.mpr (ListOrder.append_le_append_iff p)

end Prefix

end SortedMap
