import Mathlib.Data.Fintype.List
import Mathlib.Data.Finset.Powerset
import Mathlib.Data.List.Chain

/-!
# Stargate.Lib.SimplePaths

The simple paths of a finite graph as a finite set: the lists of at least two distinct nodes,
each joined to the next by an edge. A process that never produces the same path twice, and
produces only simple paths, produces at most as many items as the graph has simple paths
(`length_le_card_of_nodup`).

`nodupLists s` enumerates the lists without repeats over a finite set `s`: the orderings of each
of its subsets.
-/

namespace SimplePaths

variable {α : Type} [DecidableEq α]

/-- The lists without repeated entries whose entries all lie in `s`. -/
def nodupLists (s : Finset α) : Finset (List α) :=
  s.powerset.biUnion fun t => (Multiset.lists t.val).toFinset

theorem mem_nodupLists {s : Finset α} {l : List α} :
    l ∈ nodupLists s ↔ l.Nodup ∧ ∀ x ∈ l, x ∈ s := by
  simp only [nodupLists, Finset.mem_biUnion, Finset.mem_powerset, Multiset.mem_toFinset,
    Multiset.mem_lists_iff, Multiset.quot_mk_to_coe]
  constructor
  · rintro ⟨t, hts, hl⟩
    have hnodup : (l : Multiset α).Nodup := hl ▸ t.nodup
    refine ⟨Multiset.coe_nodup.mp hnodup, ?_⟩
    intro x hx
    have hxt : x ∈ t.val := by
      rw [hl]
      exact Multiset.mem_coe.mpr hx
    exact hts hxt
  · rintro ⟨hnodup, hmem⟩
    refine ⟨l.toFinset, ?_, ?_⟩
    · intro x hx
      exact hmem x (List.mem_toFinset.mp hx)
    · rw [List.toFinset_val, hnodup.dedup]

/-- The simple paths of the graph on `nodes` with edges `adj`. -/
def simplePaths (nodes : Finset α) (adj : α → α → Prop) [DecidableRel adj] : Finset (List α) :=
  (nodupLists nodes).filter fun l => 2 ≤ l.length ∧ l.IsChain adj

variable {nodes : Finset α} {adj : α → α → Prop} [DecidableRel adj]

theorem mem_simplePaths {l : List α} :
    l ∈ simplePaths nodes adj ↔
      l.Nodup ∧ (∀ x ∈ l, x ∈ nodes) ∧ 2 ≤ l.length ∧ l.IsChain adj := by
  simp only [simplePaths, Finset.mem_filter, mem_nodupLists, and_assoc]

/-- An edge between two distinct nodes is a simple path. -/
theorem pair_mem_simplePaths {a b : α} (hne : a ≠ b) (ha : a ∈ nodes) (hb : b ∈ nodes)
    (hab : adj a b) : [a, b] ∈ simplePaths nodes adj := by
  rw [mem_simplePaths]
  refine ⟨by simp [hne], ?_, by simp, List.isChain_pair.mpr hab⟩
  intro x hx
  rcases List.mem_pair.mp hx with rfl | rfl
  · exact ha
  · exact hb

/-- A simple path extended by an edge to a node it does not pass is a simple path. -/
theorem append_mem_simplePaths {l : List α} {a b : α} (hl : l ∈ simplePaths nodes adj)
    (hlast : l.getLast? = some a) (hb : b ∉ l) (hbnode : b ∈ nodes) (hab : adj a b) :
    l ++ [b] ∈ simplePaths nodes adj := by
  obtain ⟨hnodup, hmem, hlen, hchain⟩ := mem_simplePaths.mp hl
  rw [mem_simplePaths]
  refine ⟨?_, ?_, by simp; omega, ?_⟩
  · rw [List.nodup_append]
    refine ⟨hnodup, List.nodup_singleton b, ?_⟩
    intro x hx y hy hxy
    rw [List.mem_singleton.mp hy] at hxy
    exact hb (hxy ▸ hx)
  · intro x hx
    rcases List.mem_append.mp hx with hx | hx
    · exact hmem x hx
    · rw [List.mem_singleton.mp hx]
      exact hbnode
  · refine hchain.append (List.isChain_singleton b) ?_
    intro x hx y hy
    rw [hlast, Option.mem_some_iff] at hx
    rw [List.head?_cons, Option.mem_some_iff] at hy
    rw [← hx, ← hy]
    exact hab

/-- A list of distinct members of a finite set is no longer than the set. -/
theorem length_le_card_of_nodup {β : Type} [DecidableEq β] {s : Finset β} {l : List β}
    (hnodup : l.Nodup) (hmem : ∀ x ∈ l, x ∈ s) : l.length ≤ s.card := by
  rw [← List.toFinset_card_of_nodup hnodup]
  apply Finset.card_le_card
  intro x hx
  exact hmem x (List.mem_toFinset.mp hx)

end SimplePaths
