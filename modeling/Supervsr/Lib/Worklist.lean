import Mathlib.Algebra.Ring.Nat
import Mathlib.Logic.Relation
import Mathlib.Data.Set.Lattice
import Mathlib.Algebra.BigOperators.Group.List.Basic
import Mathlib.Tactic.Common

/-
# Supervsr.Lib.Worklist — exploring what is reachable, in any order

Items name further items.  A worklist takes some of the items it has still to do, does them, and adds what they
name.  Whatever the order, and however often an item is taken up again, the items that are done once the list is
empty are the reachable ones.  With ranks that fall along names and a bound on the names of an item, the list
runs empty.
-/

namespace Worklist

variable {α : Type*}

/-- The items that can be reached from the roots. -/
def reach (next : α → α → Prop) (roots : Set α) : Set α :=
  {item | ∃ root ∈ roots, Relation.ReflTransGen next root item}

/-- A worklist on its way: nothing reachable is lost, nothing else is on it. -/
structure Explores (next : α → α → Prop) (roots todo done : Set α) : Prop where
  covers : roots ⊆ todo ∪ done
  closed : ∀ ⦃item named⦄, item ∈ done → next item named → named ∈ todo ∪ done
  sound : todo ∪ done ⊆ reach next roots

variable {next : α → α → Prop} {roots todo done : Set α}

theorem explores_start (next : α → α → Prop) (roots : Set α) : Explores next roots roots ∅ where
  covers := Set.subset_union_left
  closed := fun _ _ h => absurd h (Set.notMem_empty _)
  sound := by
    rintro item (hitem | hitem)
    · exact ⟨item, hitem, .refl⟩
    · exact absurd hitem (Set.notMem_empty _)

/-- Some items are done, all they name is on the list or done, and nothing that is not reachable comes on the
list. -/
theorem Explores.proceed (explores : Explores next roots todo done) {taken later : Set α} (known : taken ⊆ todo)
    (kept : todo ⊆ later ∪ (done ∪ taken))
    (named : ∀ ⦃item other⦄, item ∈ taken → next item other → other ∈ later ∪ (done ∪ taken))
    (reached : later ⊆ reach next roots) : Explores next roots later (done ∪ taken) where
  covers := by
    intro root hroot
    obtain h | h := explores.covers hroot
    · exact kept h
    · exact .inr (.inl h)
  closed := by
    rintro item other (hitem | hitem) hnext
    · obtain h | h := explores.closed hitem hnext
      · exact kept h
      · exact .inr (.inl h)
    · exact named hitem hnext
  sound := by
    rintro item (hitem | hitem | hitem)
    · exact reached hitem
    · exact explores.sound (.inr hitem)
    · exact explores.sound (.inl (known hitem))

theorem reach_of_next {item other : α} (reached : item ∈ reach next roots) (names : next item other) :
    other ∈ reach next roots := by
  obtain ⟨root, hroot, hpath⟩ := reached
  exact ⟨root, hroot, hpath.tail names⟩

/-- Some items are done, and all they name is on the list or done. -/
theorem Explores.advance (explores : Explores next roots todo done) {taken later : Set α} (known : taken ⊆ todo)
    (kept : todo ⊆ later ∪ (done ∪ taken))
    (named : ∀ ⦃item other⦄, item ∈ taken → next item other → other ∈ later ∪ (done ∪ taken))
    (origin : ∀ ⦃other⦄, other ∈ later → other ∈ todo ∨ ∃ item ∈ taken, next item other) :
    Explores next roots later (done ∪ taken) := by
  refine explores.proceed known kept named fun other hother => ?_
  obtain h | ⟨item, hitem, hnext⟩ := origin hother
  · exact explores.sound (.inl h)
  · exact reach_of_next (explores.sound (.inl (known hitem))) hnext

/-- What is done need not stay on the list. -/
theorem Explores.shrink (explores : Explores next roots todo done) {fewer : Set α} (known : fewer ⊆ todo)
    (kept : todo ⊆ fewer ∪ done) : Explores next roots fewer done where
  covers := fun _ hroot => (explores.covers hroot).elim (fun h => kept h) .inr
  closed := fun _ _ hitem hnext => (explores.closed hitem hnext).elim (fun h => kept h) .inr
  sound := fun _ hitem => explores.sound (hitem.imp (fun h => known h) id)

/-- When nothing is left, exactly the reachable items are done. -/
theorem Explores.finished (explores : Explores next roots ∅ done) : done = reach next roots := by
  apply Set.Subset.antisymm
  · exact fun item h => explores.sound (.inr h)
  rintro item ⟨root, hroot, hpath⟩
  induction hpath with
  | refl => simpa using explores.covers hroot
  | tail _ hnext ih => simpa using explores.closed ih hnext

theorem reach_union (next : α → α → Prop) (left right : Set α) :
    reach next (left ∪ right) = reach next left ∪ reach next right := by
  ext item
  constructor
  · rintro ⟨root, hroot | hroot, hpath⟩
    · exact .inl ⟨root, hroot, hpath⟩
    · exact .inr ⟨root, hroot, hpath⟩
  · rintro (⟨root, hroot, hpath⟩ | ⟨root, hroot, hpath⟩)
    · exact ⟨root, .inl hroot, hpath⟩
    · exact ⟨root, .inr hroot, hpath⟩

/-! ## The list runs empty -/

/-- What is left to do at most, when items name fewer than `base` items of a lower rank. -/
def weight (rank : α → Nat) (base : Nat) (items : List α) : Nat :=
  (items.map fun item => base ^ rank item).sum

theorem weight_cons (rank : α → Nat) (base : Nat) (item : α) (items : List α) :
    weight rank base (item :: items) = base ^ rank item + weight rank base items := rfl

theorem weight_append (rank : α → Nat) (base : Nat) (left right : List α) :
    weight rank base (left ++ right) = weight rank base left + weight rank base right := by
  simp [weight]

theorem weight_perm (rank : α → Nat) (base : Nat) {left right : List α} (same : left.Perm right) :
    weight rank base left = weight rank base right :=
  (same.map _).sum_eq

theorem weight_sublist (rank : α → Nat) (base : Nat) {left right : List α} (fewer : left.Sublist right) :
    weight rank base left ≤ weight rank base right := by
  induction fewer with
  | slnil => exact Nat.le_refl _
  | cons item _ ih =>
    rw [weight_cons]
    omega
  | cons_cons item _ ih =>
    rw [weight_cons, weight_cons]
    omega

/-- The items an item names weigh less than the item. -/
theorem weight_lt {rank : α → Nat} {base : Nat} {item : α} {named : List α} (few : named.length < base)
    (lower : ∀ other ∈ named, rank other < rank item) : weight rank base named < base ^ rank item := by
  have hbase : 0 < base := by omega
  cases hrank : rank item with
  | zero =>
    cases named with
    | nil => simp [weight]
    | cons other rest =>
      have := lower other (List.mem_cons_self ..)
      omega
  | succ below =>
    have hsum : weight rank base named ≤ named.length * base ^ below := by
      clear few
      induction named with
      | nil => simp [weight]
      | cons other rest ih =>
        have hother : base ^ rank other ≤ base ^ below :=
          Nat.pow_le_pow_right hbase (by have := lower other (List.mem_cons_self ..); omega)
        have hrest := ih fun other h => lower other (List.mem_cons_of_mem _ h)
        rw [weight_cons, List.length_cons, Nat.succ_mul]
        omega
    calc weight rank base named
        ≤ named.length * base ^ below := hsum
      _ < base * base ^ below := Nat.mul_lt_mul_of_pos_right few (Nat.pow_pos hbase)
      _ = base ^ (below + 1) := (Nat.pow_succ').symm

end Worklist
