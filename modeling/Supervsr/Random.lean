import Mathlib.Data.Int.CardIntervalMod
import Mathlib.Data.Set.Card
import Mathlib.Tactic.FieldSimp

/-
# Supervsr.Random — the generator behind timers and repair, and sampling below a bound

`DeterministicRandom` steps a word with shifts and exclusive ors and multiplies it on the way out.  `Uniform` draws until
a value is not below its threshold, which leaves out just so many words that every residue is equally frequent.
-/

namespace Supervsr

structure DeterministicRandom where
  state : BitVec 64
deriving DecidableEq, Repr

namespace DeterministicRandom

/-- `NewDeterministicRandom`. -/
def new (seed : BitVec 64) : DeterministicRandom := ⟨if seed = 0#64 then 0x9e3779b97f4a7c15 else seed⟩

def next (random : DeterministicRandom) : BitVec 64 × DeterministicRandom :=
  let value := random.state
  let value := value ^^^ (value >>> 12)
  let value := value ^^^ (value <<< 25)
  let value := value ^^^ (value >>> 27)
  (value * 0x2545f4914f6cdd1d, ⟨value⟩)

/-- What `Uniform` makes of a value of `Next`, if it accepts it. -/
def accept (bound value : BitVec 64) : Option (BitVec 64) :=
  if value ≥ -bound % bound then some (value % bound) else none

/-- `Uniform`, as far as so many values take it. -/
def uniform (bound : BitVec 64) : Nat → DeterministicRandom → Option (BitVec 64) × DeterministicRandom
  | 0, random => (none, random)
  | rounds + 1, random =>
    if bound ≤ 1 then (some 0, random)
    else
      match accept bound random.next.1 with
      | some value => (some value, random.next.2)
      | none => uniform bound rounds random.next.2

/-! ## The step -/

theorem xor_injective {shift : BitVec 64 → BitVec 64}
    (linear : ∀ left right, shift (left ^^^ right) = shift left ^^^ shift right)
    (fixed : ∀ word, word = shift word → word = 0#64) : Function.Injective fun word => word ^^^ shift word := by
  intro left right h
  apply BitVec.xor_eq_zero_iff.mp
  apply fixed
  rw [linear]
  apply BitVec.eq_of_getLsbD_eq
  intro index _
  have hbit := congrArg (BitVec.getLsbD · index) h
  simp only [BitVec.getLsbD_xor] at hbit ⊢
  revert hbit
  cases left.getLsbD index <;> cases right.getLsbD index <;> cases (shift left).getLsbD index <;> simp

theorem xor_ushiftRight_injective {count : Nat} (pos : 0 < count) :
    Function.Injective fun word : BitVec 64 => word ^^^ (word >>> count) := by
  refine xor_injective (fun _ _ => BitVec.ushiftRight_xor_distrib ..) fun word h => ?_
  have heq := congrArg BitVec.toNat h
  rw [BitVec.toNat_ushiftRight, Nat.shiftRight_eq_div_pow] at heq
  by_contra hne
  have hlt := Nat.div_lt_self (Nat.pos_of_ne_zero fun h => hne (BitVec.eq_of_toNat_eq h)) (Nat.one_lt_two_pow pos.ne')
  omega

theorem xor_shiftLeft_injective : Function.Injective fun word : BitVec 64 => word ^^^ (word <<< 25) := by
  refine xor_injective (fun _ _ => BitVec.shiftLeft_xor_distrib ..) fun word h => ?_
  -- a word equal to itself shifted is so when it is shifted three times, and then nothing is left
  rw [h, h, h, ← BitVec.shiftLeft_add, ← BitVec.shiftLeft_add, BitVec.shiftLeft_eq_zero (by decide)]

theorem next_injective : Function.Injective fun random : DeterministicRandom => random.next.2 := by
  intro left right h
  have hstate := congrArg state h
  have heq := xor_ushiftRight_injective (by decide) (xor_shiftLeft_injective (xor_ushiftRight_injective (by decide) hstate))
  cases left
  cases right
  exact congrArg mk heq

theorem next_nonzero {random : DeterministicRandom} (nonzero : random.state ≠ 0#64) : random.next.2.state ≠ 0#64 := by
  intro h
  have hzero : random = ⟨0#64⟩ := next_injective (by simp [next] at h ⊢; exact h)
  exact nonzero (congrArg state hzero)

/-! ## The threshold leaves every residue equally often -/

theorem toNat_threshold {bound : BitVec 64} (positive : 0 < bound) :
    (-bound % bound).toNat = 2 ^ 64 % bound.toNat := by
  have hlt := bound.isLt
  have hpos : 0 < bound.toNat := positive
  rw [BitVec.toNat_umod, BitVec.toNat_neg, Nat.mod_eq_of_lt (Nat.sub_lt (Nat.two_pow_pos 64) hpos),
    Nat.mod_eq_sub_mod hlt.le]

theorem card_residue (first count : Nat) {bound residue : Nat} (lt : residue < bound) :
    ((Finset.Ico first (first + count * bound)).filter (· % bound = residue)).card = count := by
  have hcard := Nat.Ico_filter_modEq_card first (first + count * bound) (Nat.zero_lt_of_lt lt) residue
  have hne : (bound : ℚ) ≠ 0 := Nat.cast_ne_zero.mpr (by omega)
  have hends : (((first + count * bound : Nat) : ℚ) - residue) / bound = (first - residue) / bound + count := by
    push_cast
    field_simp
    ring
  rw [hends, Int.ceil_add_natCast] at hcard
  simpa [Nat.ModEq, Nat.mod_eq_of_lt lt] using hcard

theorem ncard_words (first : Nat) (p : Nat → Prop) [DecidablePred p] :
    {value : BitVec 64 | first ≤ value.toNat ∧ p value.toNat}.ncard = ((Finset.Ico first (2 ^ 64)).filter p).card := by
  rw [← Set.ncard_coe_finset]
  refine Set.ncard_congr (fun value _ => value.toNat) ?_ (fun _ _ _ _ h => BitVec.eq_of_toNat_eq h) ?_
  · intro value hvalue
    rw [Finset.mem_coe, Finset.mem_filter, Finset.mem_Ico]
    exact ⟨⟨hvalue.1, value.isLt⟩, hvalue.2⟩
  intro number hnumber
  rw [Finset.mem_coe, Finset.mem_filter, Finset.mem_Ico] at hnumber
  have hword : (BitVec.ofNat 64 number).toNat = number := BitVec.toNat_ofNat .. ▸ Nat.mod_eq_of_lt hnumber.1.2
  refine ⟨BitVec.ofNat 64 number, ?_, hword⟩
  rw [Set.mem_ofPred_eq, hword]
  exact ⟨hnumber.1.1, hnumber.2⟩

theorem accept_eq_some {bound value residue : BitVec 64} (positive : 0 < bound) :
    accept bound value = some residue ↔
      2 ^ 64 % bound.toNat ≤ value.toNat ∧ value.toNat % bound.toNat = residue.toNat := by
  rw [accept, ← toNat_threshold positive, ← BitVec.toNat_umod, BitVec.toNat_inj, ← BitVec.le_def]
  split_ifs with h
  · rw [Option.some_inj, and_iff_right h]
  · exact ⟨nofun, fun haccepted => absurd haccepted.1 h⟩

/-- From every seed the generator never comes to the state zero, and no two states step to the same one.  The values
that a bound accepts are a multiple of the bound in number, every residue comes from equally many of them, and what
`Uniform` answers is the residue of the first value that it accepts. -/
theorem uniform_unbiased :
    (∀ seed count, ((fun random => random.next.2)^[count] (new seed)).state ≠ 0#64) ∧
      (Function.Injective fun random : DeterministicRandom => random.next.2) ∧
      ∀ bound : BitVec 64, 2 ≤ bound →
        {value | (accept bound value).isSome}.ncard = 2 ^ 64 / bound.toNat * bound.toNat ∧
        (∀ residue < bound, {value | accept bound value = some residue}.ncard = 2 ^ 64 / bound.toNat) ∧
        (∀ value residue, accept bound value = some residue → residue < bound) ∧
        ∀ rounds random, (uniform bound rounds random).1 =
          (List.range rounds).findSome? fun count =>
            accept bound ((fun random => random.next.2)^[count] random).next.1 := by
  refine ⟨fun seed count => ?_, next_injective, fun bound large => ?_⟩
  · induction count with
    | zero =>
      rw [Function.iterate_zero_apply, new]
      split <;> simp_all
    | succ count ih =>
      rw [Function.iterate_succ_apply']
      exact next_nonzero ih
  have hpos : 0 < bound := BitVec.lt_def.mpr (Nat.lt_of_lt_of_le Nat.zero_lt_two large)
  have hends := Nat.mod_add_div' (2 ^ 64) bound.toNat
  refine ⟨?_, fun residue hresidue => ?_, fun value residue haccept => ?_, fun rounds random => ?_⟩
  · have hsome : ∀ value, (accept bound value).isSome ↔ 2 ^ 64 % bound.toNat ≤ value.toNat ∧ True := by
      intro value
      rw [accept, ← toNat_threshold hpos, ← BitVec.le_def, and_true]
      split_ifs with h <;> simpa using h
    simp only [hsome]
    rw [ncard_words _ fun _ => True, Finset.filter_true, Nat.card_Ico]
    omega
  · have hcount := card_residue (2 ^ 64 % bound.toNat) (2 ^ 64 / bound.toNat) hresidue
    simp only [accept_eq_some hpos]
    rw [ncard_words _ (· % bound.toNat = residue.toNat), ← hcount, hends]
  · rw [BitVec.lt_def, ← ((accept_eq_some hpos).mp haccept).2]
    exact Nat.mod_lt _ hpos
  · induction rounds generalizing random with
    | zero => rfl
    | succ rounds ih =>
      rw [uniform, if_neg (by rw [BitVec.le_def] at large ⊢; exact Nat.not_le.mpr large), List.range_succ_eq_map,
        List.findSome?_cons, List.findSome?_map, Function.iterate_zero_apply]
      cases accept bound random.next.1 with
      | none => exact ih _
      | some value => rfl

end DeterministicRandom

end Supervsr
