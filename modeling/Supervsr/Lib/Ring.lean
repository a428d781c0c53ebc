import Mathlib.Data.List.Basic
import Mathlib.Data.List.Perm.Basic
import Mathlib.Data.List.Nodup
import Mathlib.Data.Nat.Init

/-
# Supervsr.Lib.Ring — positions of a ring read from a moving start

A ring of `size` places is written from a start that rotates.  `offset size start place` is how far
`place` lies behind the start; what is counted over places can be counted over offsets.
-/

namespace Ring

/-- The distance of `place` behind `start`, going round. -/
def offset (size start place : Nat) : Nat :=
  (place + (size - start % size)) % size

variable {size : Nat}

theorem offset_lt (hsize : 0 < size) (start place : Nat) : offset size start place < size :=
  Nat.mod_lt _ hsize

/-- The place `distance` behind the start. -/
theorem offset_add_mod (start distance : Nat) (hdistance : distance < size) :
    offset size start ((start + distance) % size) = distance := by
  have hstart : start % size < size := Nat.mod_lt _ (by omega)
  have hsum : (start % size + distance) + (size - start % size) = distance + size := by omega
  unfold offset
  rw [← Nat.mod_add_mod start, Nat.mod_add_mod, hsum, Nat.add_mod_right, Nat.mod_eq_of_lt hdistance]

section

variable (hsize : 0 < size)

include hsize

theorem add_offset_mod (start place : Nat) (hplace : place < size) :
    (start + offset size start place) % size = place := by
  have hstart : start % size < size := Nat.mod_lt _ hsize
  have hsum : start % size + (place + (size - start % size)) = place + size := by omega
  unfold offset
  rw [Nat.add_mod_mod, ← Nat.mod_add_mod, hsum, Nat.add_mod_right, Nat.mod_eq_of_lt hplace]

theorem offset_injOn (start : Nat) {a b : Nat} (ha : a < size) (hb : b < size)
    (h : offset size start a = offset size start b) : a = b := by
  rw [← add_offset_mod hsize start a ha, h, add_offset_mod hsize start b hb]

/-- Moving the start by one place shortens every distance by one, the start's own going to the end. -/
theorem offset_succ (start place : Nat) (hplace : place < size) :
    offset size (start + 1) place =
      if offset size start place = 0 then size - 1 else offset size start place - 1 := by
  have hlt := offset_lt hsize start place
  have hplace' := add_offset_mod hsize start place hplace
  split
  · rename_i hzero
    rw [hzero, Nat.add_zero] at hplace'
    have : (start + 1 + (size - 1)) % size = place := by
      rw [show start + 1 + (size - 1) = start + size by omega, Nat.add_mod_right, hplace']
    rw [← this]
    exact offset_add_mod (start + 1) (size - 1) (by omega)
  · have : (start + 1 + (offset size start place - 1)) % size = place := by
      rw [show start + 1 + (offset size start place - 1) = start + offset size start place by omega,
        hplace']
    conv_lhs => rw [← this]
    exact offset_add_mod (start + 1) _ (by omega)

theorem map_offset_perm (start : Nat) :
    ((List.range size).map (offset size start)).Perm (List.range size) := by
  refine (List.perm_ext_iff_of_nodup ?_ List.nodup_range).mpr ?_
  · refine List.Nodup.map_on ?_ List.nodup_range
    intro a ha b hb h
    exact offset_injOn hsize start (List.mem_range.mp ha) (List.mem_range.mp hb) h
  intro d
  simp only [List.mem_map, List.mem_range]
  constructor
  · rintro ⟨place, -, rfl⟩
    exact offset_lt hsize start place
  · intro hd
    exact ⟨(start + d) % size, Nat.mod_lt _ hsize, offset_add_mod start d hd⟩

/-- Counting over places is counting over offsets. -/
theorem countP_offset (start : Nat) (p : Nat → Bool) :
    (List.range size).countP (fun place => p (offset size start place)) = (List.range size).countP p := by
  rw [← (map_offset_perm hsize start).countP_eq p, List.countP_map]
  rfl

end

/-- Losing one place loses at most one of what is counted. -/
theorem countP_range_le_without (lost : Nat) (p q : Nat → Bool)
    (h : ∀ d, p d → d ≠ lost → q d) :
    (List.range size).countP p ≤ (List.range size).countP q + 1 := by
  have hsplit : ∀ l : List Nat, l.countP p ≤ l.countP q + l.count lost := by
    intro l
    induction l with
    | nil => simp
    | cons d l ih =>
      rw [List.countP_cons, List.countP_cons, List.count_cons]
      by_cases hd : d = lost
      · simp only [hd, beq_self_eq_true, if_true]
        split <;> omega
      have hpq := fun hp => h d hp hd
      split
      · rw [if_pos (hpq ‹_›)]
        omega
      · omega
  exact Nat.le_trans (hsplit _)
    (Nat.add_le_add_left (List.nodup_iff_count_le_one.mp List.nodup_range lost) _)

/-- A run from the start that has lost one of its places is short. -/
theorem countP_range_lt_without {lost last : Nat} (hlost : lost < last) (hlast : last ≤ size) :
    (List.range size).countP (fun d => d ≠ lost ∧ d < last) < last := by
  induction size, hlast using Nat.le_induction with
  | base =>
    refine Nat.lt_of_le_of_ne (by simpa using List.countP_le_length (l := List.range last)) fun hall => ?_
    have hevery := List.countP_eq_length.mp (hall.trans List.length_range.symm)
    simpa using hevery lost (List.mem_range.mpr hlost)
  | succ size hlast ih =>
    rw [List.range_succ, List.countP_append, List.countP_singleton, if_neg (by simp; omega)]
    exact ih

/-- The length of a run of places. -/
theorem countP_range_run (first last : Nat) :
    (List.range size).countP (fun d => first ≤ d ∧ d < last) = min last size - first := by
  induction size with
  | zero => simp
  | succ size ih =>
    rw [List.range_succ, List.countP_append, ih, List.countP_singleton]
    split <;> simp_all <;> omega

/-- The length of a run that begins at the start and has lost the places behind it up to `gap`. -/
theorem countP_range_gap (hsize : 0 < size) (gap last : Nat) :
    (List.range size).countP (fun d => d = 0 ∨ gap < d ∧ d < last) = 1 + (min last size - (gap + 1)) := by
  induction size, hsize using Nat.le_induction with
  | base =>
    rw [show min last 1 - (gap + 1) = 0 by omega]
    rfl
  | succ size hsize ih =>
    rw [List.range_succ, List.countP_append, ih, List.countP_singleton]
    split <;> simp_all <;> omega

end Ring
