import Mathlib.Data.List.Basic
import Mathlib.Data.List.Pairwise
import Mathlib.Data.Nat.Basic

/-
# Supervsr.Lib.ExchangeSort — the two-loop exchange sort on short arrays

For each position, the value there is swapped with every later value of a smaller key.  The inner loop
leaves a smallest value in front, so the whole sorts by key; nothing is lost or duplicated.
-/

namespace ExchangeSort

variable {α : Type} (key : α → Nat)

/-- The inner loop: the value in front after meeting the rest, and what it leaves behind. -/
def exchangeLeft (left : α) : List α → α × List α
  | [] => (left, [])
  | right :: rest =>
    if key right < key left then
      let (left', rest') := exchangeLeft right rest
      (left', left :: rest')
    else
      let (left', rest') := exchangeLeft left rest
      (left', right :: rest')

/-- The outer loop, `fuel` bounding the positions still to fill. -/
def exchangeSort : Nat → List α → List α
  | 0, values => values
  | _ + 1, [] => []
  | fuel + 1, left :: rest =>
    let (left', rest') := exchangeLeft key left rest
    left' :: exchangeSort fuel rest'

variable {key}

theorem exchangeLeft_perm (left : α) (rest : List α) :
    ((exchangeLeft key left rest).1 :: (exchangeLeft key left rest).2).Perm (left :: rest) := by
  induction rest generalizing left with
  | nil => exact List.Perm.refl _
  | cons right rest ih =>
    unfold exchangeLeft
    split
    · -- `left` goes behind whatever the smaller `right` turns up in front
      exact (List.Perm.swap _ _ _).trans ((ih right).cons left)
    · exact (List.Perm.swap _ _ _).trans (((ih left).cons right).trans (List.Perm.swap _ _ _))

theorem exchangeLeft_le_left (left : α) (rest : List α) :
    key (exchangeLeft key left rest).1 ≤ key left := by
  induction rest generalizing left with
  | nil => exact le_rfl
  | cons right rest ih =>
    unfold exchangeLeft
    split
    · rename_i hlt
      exact Nat.le_trans (ih right) (Nat.le_of_lt hlt)
    · exact ih left

theorem exchangeLeft_le_rest (left : α) (rest : List α) :
    ∀ x ∈ (exchangeLeft key left rest).2, key (exchangeLeft key left rest).1 ≤ key x := by
  induction rest generalizing left with
  | nil => intro x hx; cases hx
  | cons right rest ih =>
    unfold exchangeLeft
    split
    · rename_i hlt
      intro x hx
      rcases List.mem_cons.mp hx with rfl | hx
      · exact Nat.le_trans (exchangeLeft_le_left right rest) (Nat.le_of_lt hlt)
      · exact ih right x hx
    · rename_i hge
      intro x hx
      rcases List.mem_cons.mp hx with rfl | hx
      · exact Nat.le_trans (exchangeLeft_le_left left rest) (Nat.le_of_not_lt hge)
      · exact ih left x hx

theorem exchangeSort_perm (fuel : Nat) (values : List α) :
    (exchangeSort key fuel values).Perm values := by
  induction fuel generalizing values with
  | zero => exact List.Perm.refl _
  | succ fuel ih =>
    cases values with
    | nil => exact List.Perm.refl _
    | cons left rest => exact ((ih _).cons _).trans (exchangeLeft_perm left rest)

theorem exchangeSort_sorted (fuel : Nat) (values : List α) (hfuel : values.length ≤ fuel) :
    (exchangeSort key fuel values).Pairwise (fun a b => key a ≤ key b) := by
  induction fuel generalizing values with
  | zero =>
    obtain rfl : values = [] := List.length_eq_zero_iff.mp (Nat.le_zero.mp hfuel)
    exact List.Pairwise.nil
  | succ fuel ih =>
    cases values with
    | nil => exact List.Pairwise.nil
    | cons left rest =>
      have hlength : (exchangeLeft key left rest).2.length = rest.length := by
        simpa using (@exchangeLeft_perm _ key left rest).length_eq
      refine List.Pairwise.cons ?_ (ih _ (by simp only [List.length_cons] at hfuel; omega))
      intro x hx
      exact exchangeLeft_le_rest left rest x ((exchangeSort_perm fuel _).mem_iff.mp hx)

/-- With distinct keys the result is strictly increasing. -/
theorem exchangeSort_strictly_sorted (values : List α) (hnodup : (values.map key).Nodup) :
    (exchangeSort key values.length values).Pairwise (fun a b => key a < key b) := by
  have hsorted := @exchangeSort_sorted _ key values.length values le_rfl
  have hdistinct : ((exchangeSort key values.length values).map key).Nodup :=
    ((exchangeSort_perm values.length values).map key).nodup_iff.mpr hnodup
  have hne : (exchangeSort key values.length values).Pairwise (fun a b => key a ≠ key b) :=
    List.pairwise_map.mp hdistinct
  exact (hsorted.and hne).imp fun h => lt_of_le_of_ne h.1 h.2

end ExchangeSort
