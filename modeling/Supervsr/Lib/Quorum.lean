import Mathlib.Tactic.Common

/-
# Supervsr.Lib.Quorum — counting voters by a predicate

Voters are the elements of a list.  Two groups that no voter belongs to at once have no more members
together than the list is long; two groups that have more share a voter.
-/

namespace Quorum

variable {α : Type*}

/-- Two groups without a common member fit side by side. -/
theorem countP_add_countP_le_length {p q : α → Bool} {voters : List α}
    (disjoint : ∀ voter ∈ voters, p voter = true → q voter = false) :
    voters.countP p + voters.countP q ≤ voters.length := by
  induction voters with
  | nil => exact Nat.le_refl 0
  | cons voter voters ih =>
    have hrest := ih fun other hmem => disjoint other (List.mem_cons_of_mem voter hmem)
    have hvoter := disjoint voter List.mem_cons_self
    rw [List.countP_cons, List.countP_cons, List.length_cons]
    cases hp : p voter with
    | true =>
      rw [if_pos rfl, hvoter hp, if_neg Bool.false_ne_true]
      omega
    | false =>
      rw [if_neg Bool.false_ne_true]
      split_ifs <;> omega

/-- Two groups that together outnumber the voters meet. -/
theorem exists_common {p q : α → Bool} {voters : List α}
    (many : voters.length < voters.countP p + voters.countP q) :
    ∃ voter ∈ voters, p voter = true ∧ q voter = true := by
  by_contra hnone
  apply Nat.not_le.mpr many
  apply countP_add_countP_le_length
  intro voter hmem hp
  by_contra hq
  rw [Bool.not_eq_false] at hq
  exact hnone ⟨voter, hmem, hp, hq⟩

/-- Counting the entries of a list is counting its places. -/
theorem countP_eq_countP_range (p : α → Bool) (fallback : α) (voters : List α) :
    voters.countP p = (List.range voters.length).countP fun place => p (voters.getD place fallback) := by
  have hmap : voters = (List.range voters.length).map fun place => voters.getD place fallback := by
    apply List.ext_getElem
    · rw [List.length_map, List.length_range]
    · intro place hplace hplace'
      rw [List.getElem_map, List.getElem_range, List.getD_eq_getElem?_getD, List.getElem?_eq_getElem hplace]
      rfl
  conv_lhs => rw [hmap]
  rw [List.countP_map]
  rfl

end Quorum
