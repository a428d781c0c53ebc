import Mathlib.Tactic.Common

/-
# Supervsr.Lib.Table — a total map with a default, stored as the list of the keys that were set

A region of memory or storage is read at any address and written at a few.  A `Table` keeps the
written addresses only, so that its values stay small data that can be compared and evaluated, and is
used through `get` and the equations of `get` over each way of writing.
-/

/-- A total map from numbers that is the default value where nothing was stored. -/
structure Table (α : Type) where
  entries : List (Nat × α)
deriving DecidableEq, Repr

namespace Table

variable {α : Type}

def empty : Table α := ⟨[]⟩

def lookup [Inhabited α] (key : Nat) : List (Nat × α) → α
  | [] => default
  | (other, value) :: rest => if other = key then value else lookup key rest

def replace (key : Nat) (value : α) : List (Nat × α) → List (Nat × α)
  | [] => [(key, value)]
  | (other, old) :: rest =>
    if other = key then (key, value) :: rest else (other, old) :: replace key value rest

def get [Inhabited α] (table : Table α) (key : Nat) : α :=
  lookup key table.entries

def set (table : Table α) (key : Nat) (value : α) : Table α :=
  ⟨replace key value table.entries⟩

/-- Overwrite the keys `first, first + 1, …` (`count` of them) with the values of `source`. -/
def copyRange [Inhabited α] (table source : Table α) (first count : Nat) : Table α :=
  (List.range count).foldl (fun table k => table.set (first + k) (source.get (first + k))) table

section

variable [Inhabited α]

theorem lookup_replace (key other : Nat) (value : α) (entries : List (Nat × α)) :
    lookup other (replace key value entries) = if other = key then value else lookup other entries := by
  induction entries with
  | nil =>
    simp only [replace, lookup]
    split <;> split <;> simp_all
  | cons entry rest ih =>
    obtain ⟨stored, old⟩ := entry
    by_cases hstored : stored = key
    · simp only [replace, hstored, if_true, lookup]
      by_cases hother : other = key
      · simp [hother]
      · rw [if_neg (Ne.symm hother), if_neg hother, if_neg (Ne.symm hother)]
    · simp only [replace, hstored, if_false, lookup, ih]
      by_cases hother : other = key
      · rw [if_neg (by rw [hother]; exact hstored), if_pos hother, if_pos hother]
      · simp only [if_neg hother]

theorem get_set (table : Table α) (key other : Nat) (value : α) :
    (table.set key value).get other = if other = key then value else table.get other :=
  lookup_replace key other value table.entries

@[simp] theorem get_set_self (table : Table α) (key : Nat) (value : α) :
    (table.set key value).get key = value := by
  rw [get_set, if_pos rfl]

theorem get_set_of_ne (table : Table α) {key other : Nat} (h : other ≠ key) (value : α) :
    (table.set key value).get other = table.get other := by
  rw [get_set, if_neg h]

theorem get_copyRange (table source : Table α) (first count key : Nat) :
    (table.copyRange source first count).get key =
      if first ≤ key ∧ key < first + count then source.get key else table.get key := by
  induction count with
  | zero => rw [if_neg (by omega)]; rfl
  | succ count ih =>
    rw [copyRange, List.range_succ, List.foldl_append, List.foldl_cons, List.foldl_nil, get_set]
    by_cases hkey : key = first + count
    · rw [if_pos hkey, if_pos (by omega), hkey]
    rw [if_neg hkey]
    show (table.copyRange source first count).get key = _
    rw [ih]
    by_cases hin : first ≤ key ∧ key < first + count
    · rw [if_pos hin, if_pos (by omega)]
    · rw [if_neg hin, if_neg (by omega)]

end

end Table
