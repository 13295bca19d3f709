import Mathlib.Data.List.Basic

/-!
# Stargate.Lib.AssocMap

A hash map as its entries: a list of key-value pairs, looked up with a key equality `eq` that is
a parameter. Rust's `HashMap` finds a key by its hash and then by its `PartialEq`; when the two
disagree (a type whose `Hash` reads bytes its `PartialEq` ignores), which entries a lookup
finds depends on which of them decides, and a model fixes that choice by its `eq`.

`insert` replaces the value of an entry whose key is equal (keeping that key, as `HashMap` does)
and otherwise appends; `remove` takes the value of the first equal key and drops every equal
entry. The lemmas are the ones an insert-then-lookup argument needs.
-/

namespace AssocMap

variable {K V : Type} (eq : K → K → Bool)

/-- `HashMap::contains_key`. -/
def containsKey (m : List (K × V)) (key : K) : Bool :=
  m.any fun entry => eq entry.1 key

/-- `HashMap::get`. -/
def get (m : List (K × V)) (key : K) : Option V :=
  (m.find? fun entry => eq entry.1 key).map Prod.snd

/-- `HashMap::insert`: a new value for an equal key, or a new entry. -/
def insert (m : List (K × V)) (key : K) (value : V) : List (K × V) :=
  if containsKey eq m key then m.map fun entry => if eq entry.1 key then (entry.1, value) else entry
  else m ++ [(key, value)]

/-- `HashMap::remove`: the value of an equal key, and the map without it. -/
def remove (m : List (K × V)) (key : K) : Option V × List (K × V) :=
  (get eq m key, m.filter fun entry => !eq entry.1 key)

variable {eq}

@[simp] theorem containsKey_nil (key : K) : containsKey eq ([] : List (K × V)) key = false := rfl

theorem containsKey_append_singleton (m : List (K × V)) (k q : K) (v : V) :
    containsKey eq (m ++ [(k, v)]) q = (containsKey eq m q || eq k q) := by
  simp [containsKey]

theorem insert_of_not_containsKey {m : List (K × V)} {key : K} (value : V)
    (h : containsKey eq m key = false) : insert eq m key value = m ++ [(key, value)] := by
  rw [insert, h]
  rfl

/-- `get` finds a value exactly for a key that some entry's key equals. -/
theorem get_isSome (m : List (K × V)) (key : K) :
    (get eq m key).isSome = containsKey eq m key := by
  rw [get, containsKey, Option.isSome_map]
  exact List.isSome_find?

/-- A key no entry equals is found nowhere in the entries. -/
theorem find?_eq_none_of_not_containsKey {m : List (K × V)} {key : K}
    (h : containsKey eq m key = false) : m.find? (fun entry => eq entry.1 key) = none := by
  rw [List.find?_eq_none]
  intro entry hmem heq
  have hany : containsKey eq m key = true := List.any_eq_true.mpr ⟨entry, hmem, heq⟩
  rw [h] at hany
  cases hany

theorem get_append_singleton {m : List (K × V)} {k q : K} (v : V)
    (h : containsKey eq m q = false) (hk : eq k q = true) : get eq (m ++ [(k, v)]) q = some v := by
  simp [get, List.find?_append, find?_eq_none_of_not_containsKey h, hk]

theorem filter_of_not_containsKey {m : List (K × V)} {key : K}
    (h : containsKey eq m key = false) : m.filter (fun entry => !eq entry.1 key) = m := by
  rw [List.filter_eq_self]
  intro entry hmem
  have hne : eq entry.1 key = false := by
    cases hentry : eq entry.1 key with
    | false => rfl
    | true =>
      have hany : containsKey eq m key = true := List.any_eq_true.mpr ⟨entry, hmem, hentry⟩
      rw [h] at hany
      cases hany
  simp [hne]

/-- A value `get` finds is the value of an entry whose key is equal. -/
theorem exists_mem_of_get_eq_some {m : List (K × V)} {key : K} {v : V}
    (h : get eq m key = some v) : ∃ entry ∈ m, eq entry.1 key = true ∧ entry.2 = v := by
  simp only [get, Option.map_eq_some_iff] at h
  obtain ⟨entry, hfind, rfl⟩ := h
  have hkey := List.find?_some hfind
  exact ⟨entry, List.mem_of_find?_eq_some hfind, hkey, rfl⟩

/-- A property of every entry survives an insert whose new value has it under the key it is
stored with: the inserted key, or the equal key it replaces the value of. -/
theorem forall_mem_insert {P : K × V → Prop} {m : List (K × V)} {key : K} {value : V}
    (hm : ∀ entry ∈ m, P entry) (hnew : ∀ k, (k = key ∨ eq k key = true) → P (k, value)) :
    ∀ entry ∈ insert eq m key value, P entry := by
  intro entry hmem
  unfold insert at hmem
  split at hmem
  · obtain ⟨old, hold, rfl⟩ := List.mem_map.mp hmem
    split
    case isTrue hkey => exact hnew old.1 (Or.inr hkey)
    case isFalse => exact hm old hold
  · rcases List.mem_append.mp hmem with hold | hadded
    · exact hm entry hold
    · rw [List.mem_singleton.mp hadded]
      exact hnew key (Or.inl rfl)

/-- Removing the one entry equal to a key gives back the map before it was added. -/
theorem remove_append_singleton {m : List (K × V)} {k q : K} (v : V)
    (h : containsKey eq m q = false) (hk : eq k q = true) :
    remove eq (m ++ [(k, v)]) q = (some v, m) := by
  have hfilter : (m ++ [(k, v)]).filter (fun entry => !eq entry.1 q) = m := by
    rw [List.filter_append, filter_of_not_containsKey h]
    simp [hk]
  rw [remove, get_append_singleton v h hk, hfilter]

/-- An entry added at the end with a key that is not equal is not what `get` finds. -/
theorem get_append_singleton_of_not {m : List (K × V)} {k q : K} (v : V) (hk : eq k q = false) :
    get eq (m ++ [(k, v)]) q = get eq m q := by
  cases hget : get eq m q with
  | some w =>
      simp only [get, Option.map_eq_some_iff] at hget ⊢
      obtain ⟨entry, hfind, rfl⟩ := hget
      exact ⟨entry, by rw [List.find?_append, hfind]; rfl, rfl⟩
  | none =>
      simp only [get, Option.map_eq_none_iff] at hget ⊢
      rw [List.find?_append, hget]
      simp [hk]

/-- An entry added at the end with a key that is not equal survives `remove`. -/
theorem remove_append_singleton_of_not {m : List (K × V)} {k q : K} (v : V)
    (hk : eq k q = false) : (remove eq (m ++ [(k, v)]) q).2 = (remove eq m q).2 ++ [(k, v)] := by
  simp [remove, List.filter_append, hk]

/-- `remove` of a key no entry equals finds nothing and drops nothing. -/
theorem remove_of_not_containsKey {m : List (K × V)} {key : K}
    (h : containsKey eq m key = false) : remove eq m key = (none, m) := by
  have hget : get eq m key = none := by
    rw [← Option.not_isSome_iff_eq_none, get_isSome, h]
    exact Bool.false_ne_true
  rw [remove, hget, filter_of_not_containsKey h]

/-- After `remove`, no entry's key equals the removed key. -/
theorem containsKey_remove_self (m : List (K × V)) (key : K) :
    containsKey eq (remove eq m key).2 key = false := by
  simp [remove, containsKey]

/-- `remove` only drops entries: a key no entry equals stays so. -/
theorem containsKey_remove_of_not {m : List (K × V)} {q : K} (key : K)
    (h : containsKey eq m q = false) : containsKey eq (remove eq m key).2 q = false := by
  rw [remove, containsKey, List.any_eq_false]
  intro entry hmem
  rw [containsKey, List.any_eq_false] at h
  exact h entry (List.mem_of_mem_filter hmem)

theorem mem_of_mem_remove {m : List (K × V)} {key : K} {entry : K × V}
    (h : entry ∈ (remove eq m key).2) : entry ∈ m :=
  List.mem_of_mem_filter h

end AssocMap
