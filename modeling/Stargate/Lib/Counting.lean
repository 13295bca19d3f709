import Mathlib.Data.Finset.Card
import Mathlib.Data.List.Count

/-!
# Stargate.Lib.Counting

Counting, for the counters a program keeps beside a set: a set that changes in one element
changes its size by that element alone, and a list without duplicates counts what a predicate
picks as the finite set of those elements does.
-/

namespace Finset

variable {α : Type} [DecidableEq α]

/-- A set without one of its elements has one element fewer. -/
theorem card_erase_add_ite (s : Finset α) (a : α) :
    (s.erase a).card + (if a ∈ s then 1 else 0) = s.card := by
  split_ifs with ha
  · exact card_erase_add_one ha
  · rw [erase_eq_of_notMem ha, Nat.add_zero]

/-- Two sets that agree except perhaps at `a`: their sizes differ by whether each holds `a`. -/
theorem card_add_ite_of_erase_eq {s t : Finset α} {a : α} (h : t.erase a = s.erase a) :
    t.card + (if a ∈ s then 1 else 0) = s.card + (if a ∈ t then 1 else 0) := by
  have hs := card_erase_add_ite s a
  have ht := card_erase_add_ite t a
  rw [h] at ht
  omega

end Finset

namespace List

variable {α : Type} [DecidableEq α]

/-- On a list without duplicates, counting the elements a predicate picks is the size of the
finite set of them. -/
theorem countP_eq_card_filter_toFinset {l : List α} (hl : l.Nodup) (q : α → Bool) :
    l.countP q = (l.toFinset.filter fun x => q x = true).card := by
  rw [countP_eq_length_filter, ← toFinset_card_of_nodup (hl.filter _), toFinset_filter]

end List
