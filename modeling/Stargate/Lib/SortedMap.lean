import Mathlib.Data.Finset.Card
import Mathlib.Data.List.Lex

/-!
# Stargate.Lib.SortedMap

A finite map kept as an association list **strictly sorted by key**: the shape of an
ordered map such as a B-tree map, whose iteration order is the key order and whose
equality is extensional.

The sortedness is a field of the structure, so no value of `SortedMap` can hold two
entries for one key or list them out of order. Two consequences carry most of what
callers need:

* `ext` — two sorted maps with the same lookups are equal. This is what makes
  "the map built by one party equals the map built by the other" a statement about
  contents, independent of insertion order;
* `keys`, `values` and `toList` are read off in key order, so folds over a map (and
  zips of two maps over the same key set) see entries in the same order on both sides.

The operations are the ones an ordered map offers: `find?`, `contains`, `insert`
(overwriting), `erase`, `append` (the right map wins), and `ofList` (later entries win,
as when collecting an iterator into a map).
-/

/-- A finite map as an association list strictly sorted by key. -/
structure SortedMap (κ : Type) (ν : Type) [LinearOrder κ] where
  /-- The entries in increasing key order. -/
  toList : List (κ × ν)
  /-- Keys strictly increase along the list. -/
  sorted : toList.Pairwise (fun a b => a.1 < b.1)

namespace SortedMap

variable {κ ν : Type} [LinearOrder κ]

/-! ### Operations -/

/-- The map without entries. -/
def empty : SortedMap κ ν := ⟨[], .nil⟩

/-- Insert into a sorted list, replacing the entry of an equal key. -/
def insertList (k : κ) (v : ν) : List (κ × ν) → List (κ × ν)
  | [] => [(k, v)]
  | e :: es =>
      if k < e.1 then (k, v) :: e :: es
      else if k = e.1 then (k, v) :: es
      else e :: insertList k v es

/-- Remove the entry of a key from a sorted list. -/
def eraseList (k : κ) : List (κ × ν) → List (κ × ν)
  | [] => []
  | e :: es => if k = e.1 then es else e :: eraseList k es

/-- Look a key up. -/
def find? (m : SortedMap κ ν) (k : κ) : Option ν := m.toList.lookup k

/-- Whether the key has an entry. -/
def contains (m : SortedMap κ ν) (k : κ) : Bool := (m.find? k).isSome

/-- The keys, in increasing order. -/
def keys (m : SortedMap κ ν) : List κ := m.toList.map Prod.fst

/-- The values, in the order of their keys. -/
def values (m : SortedMap κ ν) : List ν := m.toList.map Prod.snd

/-- The number of entries. -/
def size (m : SortedMap κ ν) : Nat := m.toList.length

/-! ### Sortedness of the list operations -/

theorem mem_insertList {k : κ} {v : ν} {l : List (κ × ν)} {x : κ × ν}
    (h : x ∈ insertList k v l) : x = (k, v) ∨ x ∈ l := by
  induction l with
  | nil => simpa [insertList] using h
  | cons e es ih =>
      simp only [insertList] at h
      split_ifs at h with hlt heq
      · simpa using h
      · simp only [List.mem_cons] at h
        rcases h with h | h
        · exact .inl h
        · exact .inr (List.mem_cons_of_mem _ h)
      · simp only [List.mem_cons] at h
        rcases h with h | h
        · exact .inr (h ▸ List.mem_cons_self)
        · rcases ih h with h' | h'
          · exact .inl h'
          · exact .inr (List.mem_cons_of_mem _ h')

theorem sorted_insertList (k : κ) (v : ν) {l : List (κ × ν)}
    (hl : l.Pairwise (fun a b => a.1 < b.1)) :
    (insertList k v l).Pairwise (fun a b => a.1 < b.1) := by
  induction l with
  | nil => simp [insertList]
  | cons e es ih =>
      obtain ⟨he, hes⟩ := List.pairwise_cons.mp hl
      simp only [insertList]
      split_ifs with hlt heq
      · refine List.Pairwise.cons (fun b hb => ?_) hl
        rcases List.mem_cons.mp hb with rfl | hb
        · exact hlt
        · exact lt_trans hlt (he b hb)
      · subst heq
        exact List.Pairwise.cons he hes
      · refine List.Pairwise.cons (fun b hb => ?_) (ih hes)
        rcases mem_insertList hb with rfl | hb
        · exact lt_of_le_of_ne (not_lt.mp hlt) (Ne.symm heq)
        · exact he b hb

theorem mem_eraseList {k : κ} {l : List (κ × ν)} {x : κ × ν}
    (h : x ∈ eraseList k l) : x ∈ l := by
  induction l with
  | nil => simp [eraseList] at h
  | cons e es ih =>
      simp only [eraseList] at h
      split_ifs at h
      · exact List.mem_cons_of_mem _ h
      · rcases List.mem_cons.mp h with rfl | h
        · exact List.mem_cons_self
        · exact List.mem_cons_of_mem _ (ih h)

theorem sorted_eraseList (k : κ) {l : List (κ × ν)}
    (hl : l.Pairwise (fun a b => a.1 < b.1)) :
    (eraseList k l).Pairwise (fun a b => a.1 < b.1) := by
  induction l with
  | nil => simp [eraseList]
  | cons e es ih =>
      obtain ⟨he, hes⟩ := List.pairwise_cons.mp hl
      simp only [eraseList]
      split_ifs
      · exact hes
      · exact List.Pairwise.cons (fun b hb => he b (mem_eraseList hb)) (ih hes)

/-- Insert an entry, replacing the entry of an equal key. -/
def insert (m : SortedMap κ ν) (k : κ) (v : ν) : SortedMap κ ν :=
  ⟨insertList k v m.toList, sorted_insertList k v m.sorted⟩

/-- Remove the entry of a key. -/
def erase (m : SortedMap κ ν) (k : κ) : SortedMap κ ν :=
  ⟨eraseList k m.toList, sorted_eraseList k m.sorted⟩

/-- Move every entry of `m₂` into `m₁`; an entry of `m₂` replaces one of `m₁` with the
same key. -/
def append (m₁ m₂ : SortedMap κ ν) : SortedMap κ ν :=
  m₂.toList.foldl (fun m e => m.insert e.1 e.2) m₁

/-- Collect a list of entries into a map; a later entry replaces an earlier one with the
same key. -/
def ofList (l : List (κ × ν)) : SortedMap κ ν :=
  l.foldl (fun m e => m.insert e.1 e.2) empty

/-! ### Lookup -/

@[simp] theorem find?_empty (k : κ) : (empty : SortedMap κ ν).find? k = none := rfl

/-- Lookup in a nonempty list, as a decision on the head key. -/
theorem lookup_cons_ite (e : κ × ν) (l : List (κ × ν)) (k : κ) :
    (e :: l).lookup k = if k = e.1 then some e.2 else l.lookup k := by
  obtain ⟨k', v⟩ := e
  simp only [List.lookup_cons]
  by_cases h : k = k'
  · simp [h]
  · rw [beq_false_of_ne h]
    simp [h]

/-- The smallest key of a sorted list is its head: no entry of the tail has it. -/
theorem lookup_tail_head_none {e : κ × ν} {es : List (κ × ν)}
    (h : (e :: es).Pairwise (fun a b => a.1 < b.1)) : es.lookup e.1 = none :=
  List.lookup_eq_none_iff.mpr fun p hp => by
    simpa using ne_of_lt ((List.pairwise_cons.mp h).1 p hp)

theorem lookup_insertList (k : κ) (v : ν) (l : List (κ × ν)) (k' : κ) :
    (insertList k v l).lookup k' = if k' = k then some v else l.lookup k' := by
  induction l with
  | nil => simp [insertList, lookup_cons_ite]
  | cons e es ih =>
      simp only [insertList]
      split_ifs with hlt heq hk hk hk <;> simp_all [lookup_cons_ite]

@[simp] theorem find?_insert (m : SortedMap κ ν) (k : κ) (v : ν) (k' : κ) :
    (m.insert k v).find? k' = if k' = k then some v else m.find? k' :=
  lookup_insertList k v m.toList k'

theorem lookup_eraseList {k : κ} {l : List (κ × ν)}
    (hl : l.Pairwise (fun a b => a.1 < b.1)) (k' : κ) :
    (eraseList k l).lookup k' = if k' = k then none else l.lookup k' := by
  induction l with
  | nil => simp [eraseList]
  | cons e es ih =>
      have hes := (List.pairwise_cons.mp hl).2
      by_cases h1 : k = e.1
      · -- the erased key is the head; it cannot occur again in the tail
        subst h1
        simp only [eraseList, lookup_cons_ite]
        by_cases h2 : k' = e.1
        · subst h2
          simp [lookup_tail_head_none hl]
        · simp [h2]
      · simp only [eraseList, if_neg h1, lookup_cons_ite, ih hes]
        by_cases h2 : k' = e.1
        · subst h2
          simp [Ne.symm h1]
        · simp [h2]

/-- Removing the smallest key leaves the other entries. -/
theorem toList_erase_head {m : SortedMap κ ν} {e : κ × ν} {es : List (κ × ν)}
    (h : m.toList = e :: es) : (m.erase e.1).toList = es := by
  show eraseList e.1 m.toList = es
  rw [h, eraseList, if_pos rfl]

@[simp] theorem find?_erase (m : SortedMap κ ν) (k k' : κ) :
    (m.erase k).find? k' = if k' = k then none else m.find? k' :=
  lookup_eraseList m.sorted k'

/-- Inserting a list of entries one by one: the last entry for a key wins, and keys the
list does not mention keep their entry. -/
theorem find?_foldl_insert (l : List (κ × ν)) (m : SortedMap κ ν) (k : κ) :
    (l.foldl (fun m e => m.insert e.1 e.2) m).find? k = (l.reverse.lookup k).or (m.find? k) := by
  induction l generalizing m with
  | nil => simp
  | cons e es ih =>
      rw [List.foldl_cons, ih, find?_insert, List.reverse_cons, List.lookup_append,
        lookup_cons_ite, List.lookup_nil]
      by_cases hk : k = e.1
      · cases List.lookup k es.reverse <;> simp [hk]
      · simp [hk]

theorem lookup_isSome_iff_mem_keys (l : List (κ × ν)) (k : κ) :
    (l.lookup k).isSome ↔ k ∈ l.map Prod.fst := by
  induction l with
  | nil => simp
  | cons e es ih =>
      rw [lookup_cons_ite]
      by_cases h : k = e.1 <;> simp [h, ih]

/-- On a strictly sorted list, an entry is what lookup finds for its key. -/
theorem mem_iff_lookup_eq {l : List (κ × ν)} (hl : l.Pairwise (fun a b => a.1 < b.1)) (k : κ)
    (v : ν) : (k, v) ∈ l ↔ l.lookup k = some v := by
  induction l with
  | nil => simp
  | cons e es ih =>
      obtain ⟨k', v'⟩ := e
      have hes := (List.pairwise_cons.mp hl).2
      rw [List.mem_cons, lookup_cons_ite]
      by_cases hk : k = k'
      · -- the head's key occurs nowhere in the tail
        subst hk
        have hnot : (k, v) ∉ es := fun hmem =>
          lt_irrefl k ((List.pairwise_cons.mp hl).1 _ hmem)
        simp [hnot, eq_comm]
      · simp [hk, ih hes]

theorem lookup_eq_none_of_not_mem_keys {l : List (κ × ν)} {k : κ} (h : k ∉ l.map Prod.fst) :
    l.lookup k = none := by
  rw [← Option.not_isSome_iff_eq_none, lookup_isSome_iff_mem_keys]
  exact h

/-- On a list whose keys are distinct, lookup does not see the order of the entries. -/
theorem lookup_reverse {l : List (κ × ν)} (hl : (l.map Prod.fst).Nodup) (k : κ) :
    l.reverse.lookup k = l.lookup k := by
  induction l with
  | nil => rfl
  | cons e es ih =>
      obtain ⟨he, hes⟩ := List.nodup_cons.mp hl
      rw [List.reverse_cons, List.lookup_append, ih hes, lookup_cons_ite, lookup_cons_ite,
        List.lookup_nil]
      by_cases hk : k = e.1
      · -- the head's key occurs nowhere else
        subst hk
        have : es.lookup e.1 = none := lookup_eq_none_of_not_mem_keys he
        simp [this]
      · simp [hk]

/-- Dropping the entries without a value: on distinct keys, a lookup in what is left is a lookup
in the whole list followed by the value. -/
theorem lookup_filterMap_some {l : List (κ × Option ν)} (hl : (l.map Prod.fst).Nodup) (k : κ) :
    (l.filterMap fun e => e.2.map fun v => (e.1, v)).lookup k = (l.lookup k).bind id := by
  induction l with
  | nil => rfl
  | cons e es ih =>
      obtain ⟨he, hes⟩ := List.nodup_cons.mp hl
      obtain ⟨k', v⟩ := e
      -- an entry with a value stays in the list; one without is skipped, and its key occurs
      -- nowhere else
      cases v with
      | none =>
          simp only [List.filterMap_cons, Option.map_none]
          rw [ih hes, lookup_cons_ite]
          by_cases hk : k = k'
          · have hnone : es.lookup k = none := lookup_eq_none_of_not_mem_keys (hk ▸ he)
            rw [if_pos hk, hnone]
            rfl
          · rw [if_neg hk]
      | some v =>
          simp only [List.filterMap_cons, Option.map_some]
          rw [lookup_cons_ite, lookup_cons_ite, ih hes]
          by_cases hk : k = k' <;> simp [hk]

theorem lookup_map_value {μ : Type} (f : ν → μ) (l : List (κ × ν)) (k : κ) :
    (l.map fun e => (e.1, f e.2)).lookup k = (l.lookup k).map f := by
  induction l with
  | nil => rfl
  | cons e es ih =>
      rw [List.map_cons, lookup_cons_ite, lookup_cons_ite, ih]
      by_cases hk : k = e.1 <;> simp [hk]

theorem find?_ofList (l : List (κ × ν)) (k : κ) :
    (ofList l).find? k = l.reverse.lookup k := by
  unfold ofList
  simpa using find?_foldl_insert l empty k

@[simp] theorem contains_eq (m : SortedMap κ ν) (k : κ) :
    m.contains k = (m.find? k).isSome := rfl

/-! ### Keys -/

/-- The entries of a map are what lookup finds. -/
theorem mem_toList_iff (m : SortedMap κ ν) (k : κ) (v : ν) :
    (k, v) ∈ m.toList ↔ m.find? k = some v :=
  mem_iff_lookup_eq m.sorted k v

theorem mem_keys_iff (m : SortedMap κ ν) (k : κ) :
    k ∈ m.keys ↔ (m.find? k).isSome :=
  (lookup_isSome_iff_mem_keys m.toList k).symm

theorem keys_nodup (m : SortedMap κ ν) : m.keys.Nodup := by
  unfold keys
  exact (List.pairwise_map.mpr m.sorted).imp ne_of_lt

theorem find?_append (m₁ m₂ : SortedMap κ ν) (k : κ) :
    (m₁.append m₂).find? k = (m₂.find? k).or (m₁.find? k) := by
  unfold append
  rw [find?_foldl_insert, lookup_reverse m₂.keys_nodup]
  rfl

/-! ### Extensionality -/

/-- Two sorted lists with the same lookups are equal. -/
theorem eq_of_lookup_eq : ∀ {l₁ l₂ : List (κ × ν)},
    l₁.Pairwise (fun a b => a.1 < b.1) → l₂.Pairwise (fun a b => a.1 < b.1) →
    (∀ k, l₁.lookup k = l₂.lookup k) → l₁ = l₂
  | [], [], _, _, _ => rfl
  | [], e :: _, _, _, h => by simpa using (h e.1).symm
  | e :: _, [], _, _, h => by simpa using h e.1
  | a :: as, b :: bs, ha, hb, h => by
      -- both heads carry the least key of their list, so they carry the same key
      have hab : a.1 = b.1 := by
        have ha_in : b.1 ∈ (a :: as).map Prod.fst := by
          rw [← lookup_isSome_iff_mem_keys, h]; simp
        have hb_in : a.1 ∈ (b :: bs).map Prod.fst := by
          rw [← lookup_isSome_iff_mem_keys, ← h]; simp
        have le1 : a.1 ≤ b.1 := by
          rcases List.mem_cons.mp ha_in with h1 | h1
          · exact h1 ▸ le_refl _
          · obtain ⟨p, hp, hpb⟩ := List.mem_map.mp h1
            exact hpb ▸ le_of_lt ((List.pairwise_cons.mp ha).1 p hp)
        have le2 : b.1 ≤ a.1 := by
          rcases List.mem_cons.mp hb_in with h1 | h1
          · exact h1 ▸ le_refl _
          · obtain ⟨p, hp, hpa⟩ := List.mem_map.mp h1
            exact hpa ▸ le_of_lt ((List.pairwise_cons.mp hb).1 p hp)
        exact le_antisymm le1 le2
      have hval : a.2 = b.2 := by
        have := h a.1
        rw [lookup_cons_ite, lookup_cons_ite, if_pos rfl, if_pos hab] at this
        exact Option.some.inj this
      have htail : as = bs := by
        refine eq_of_lookup_eq (List.pairwise_cons.mp ha).2 (List.pairwise_cons.mp hb).2
          fun k => ?_
        by_cases hk : k = a.1
        · subst hk
          rw [lookup_tail_head_none ha, hab, lookup_tail_head_none hb]
        · have := h k
          simpa [lookup_cons_ite, hk, show k ≠ b.1 from hab ▸ hk] using this
      rw [Prod.ext hab hval, htail]

theorem toList_injective : Function.Injective (toList : SortedMap κ ν → List (κ × ν)) := by
  rintro ⟨l₁, _⟩ ⟨l₂, _⟩ h
  cases h
  rfl

/-- Two sorted maps with the same lookups are equal. -/
theorem ext {m₁ m₂ : SortedMap κ ν} (h : ∀ k, m₁.find? k = m₂.find? k) : m₁ = m₂ :=
  toList_injective (eq_of_lookup_eq m₁.sorted m₂.sorted h)

instance instDecidableEq [DecidableEq ν] : DecidableEq (SortedMap κ ν) := fun m₁ m₂ =>
  decidable_of_iff (m₁.toList = m₂.toList) ⟨fun h => toList_injective h, congrArg _⟩

end SortedMap

/-- A set kept as the sorted list of its elements (a `BTreeSet`): the keys of a map to
`Unit`. -/
abbrev SortedSet (κ : Type) [LinearOrder κ] := SortedMap κ Unit
