import Mathlib.Logic.Equiv.List
import Supervsr.Protocol

/-
# Supervsr.Digest — a collision-free checksum that can be evaluated

The development is generic in the checksum.  `Digest` is one instance, used wherever a concrete run is
evaluated: an encoding is packed into a single number, each word followed by its bit length so that
the packing can be undone from its low end.  Words of 2³² bits or more, which no run reaches, fall
back to the standard enumeration of lists.
-/

namespace Supervsr

/-- A checksum that carries the whole encoding it was taken over. -/
structure Digest where
  value : Nat
deriving DecidableEq, Repr

namespace Digest

/-- The number a word stands for: plain numbers are even, checksums odd. -/
def wordValue : Word Digest → Nat
  | .num n => 2 * n
  | .sum c => 2 * c.value + 1

theorem wordValue_injective : Function.Injective wordValue := by
  intro a b h
  cases a with
  | num a =>
    cases b with
    | num b => rw [show a = b by simp only [wordValue] at h; omega]
    | sum b => simp only [wordValue] at h; omega
  | sum a =>
    cases b with
    | num b => simp only [wordValue] at h; omega
    | sum b =>
      obtain ⟨a⟩ := a
      obtain ⟨b⟩ := b
      rw [show a = b by simp only [wordValue] at h; omega]

/-- The bit length a word is packed with. -/
def width (n : Nat) : Nat := n.log2 + 1

theorem lt_two_pow_width (n : Nat) : n < 2 ^ width n := Nat.lt_log2_self

/-- Pack the words, the first one lowest. -/
def pack : List Nat → Nat
  | [] => 0
  | n :: rest => (pack rest * 2 ^ width n + n) * 2 ^ 32 + width n

/-- Every word is short enough for its length to be packed in 32 bits. -/
def packable (words : List Nat) : Bool :=
  words.all (fun n => width n < 2 ^ 32)

/-- Two packed pairs agree in both parts when the low parts fit below the shift. -/
theorem shift_add_inj {a b x y m : Nat} (hx : x < m) (hy : y < m) (h : a * m + x = b * m + y) :
    a = b ∧ x = y := by
  have hlow : x = y := by
    have := congrArg (· % m) h
    simpa [Nat.mul_add_mod', Nat.mod_eq_of_lt hx, Nat.mod_eq_of_lt hy] using this
  subst hlow
  have hm : 0 < m := by omega
  exact ⟨Nat.eq_of_mul_eq_mul_right hm (by omega), rfl⟩

theorem pack_inj : ∀ {a b : List Nat}, packable a → packable b → pack a = pack b → a = b
  | [], [], _, _, _ => rfl
  | [], n :: rest, _, _, h => by
    simp only [pack, width] at h
    omega
  | n :: rest, [], _, _, h => by
    simp only [pack, width] at h
    omega
  | n :: as, m :: bs, ha, hb, h => by
    simp only [packable, List.all_cons, Bool.and_eq_true, decide_eq_true_eq] at ha hb
    obtain ⟨hbody, hwidth⟩ := shift_add_inj ha.1 hb.1 h
    rw [hwidth] at hbody
    have hn : n < 2 ^ width m := hwidth ▸ lt_two_pow_width n
    obtain ⟨hrest, hword⟩ := shift_add_inj hn (lt_two_pow_width m) hbody
    rw [hword, pack_inj ha.2 hb.2 hrest]

/-- The packing where it is faithful, the enumeration of lists elsewhere; parity keeps them apart. -/
def sum (words : List (Word Digest)) : Digest :=
  let values := words.map wordValue
  if packable values then ⟨2 * pack values + 2⟩ else ⟨2 * Encodable.encode values + 1⟩

theorem sum_injective : Function.Injective sum := by
  intro a b h
  have hvalues : a.map wordValue = b.map wordValue := by
    unfold sum at h
    simp only at h
    split at h <;> split at h <;> simp only [Digest.mk.injEq] at h
    · exact pack_inj ‹_› ‹_› (by omega)
    · omega
    · omega
    · exact Encodable.encode_injective (by omega)
  exact (List.map_inj_right fun _ _ e => wordValue_injective e).mp hvalues

instance : Checksums Digest where
  zero := ⟨0⟩
  checksumBytes := sum
  checksumBytes_injective := sum_injective

end Digest

end Supervsr
