import Mathlib.Data.List.Perm.Subperm
import Supervsr.Lib.Bytes
import Supervsr.SuperblockStore

/-
# Supervsr.Reconfiguration — the verdict on a proposed membership

`ValidateReconfiguration` looks for every proposed member among the current ones and never the other way round.  The
checks before it have counted the proposed members and seen that they are distinct, so that none of the current ones
can be missing.
-/

namespace Supervsr

open Bytes

inductive ReconfigurationResult where
  | reserved
  | ok
  | replicaCountZero
  | replicaCountMaxExceeded
  | standbyCountMaxExceeded
  | membersInvalid
  | membersCountInvalid
  | reservedField
  | resultMustBeReserved
  | epochInPast
  | epochInFuture
  | differentReplicaCount
  | differentStandbyCount
  | differentMemberSet
  | applied
  | conflict
  | isNoOp
deriving DecidableEq, Repr

/-- The loop of `decodeReconfigurationMembers`, after the members in `seen`. -/
def scanMembers (seen : List Nat) (zeroSeen : Bool) (nonzero : Nat) : List Nat → Option Nat
  | [] => some nonzero
  | member :: rest =>
    if member = 0 then scanMembers (seen ++ [member]) true nonzero rest
    else if zeroSeen then none
    else if member ∈ seen then none
    else scanMembers (seen ++ [member]) zeroSeen (nonzero + 1) rest

/-- The member array of a body. -/
def proposedMembers (body : Bytes) : List Nat :=
  (List.range membersMax).map fun index => uint (body.slice (index * 16) ((index + 1) * 16))

def decodeReconfigurationMembers (encoded : Bytes) : Option (List Nat × Nat) :=
  (scanMembers [] false 0 (proposedMembers encoded)).map (proposedMembers encoded, ·)

def sameMemberSet (proposed current : List Nat) (count : Nat) : Bool :=
  (proposed.take count).all fun member => (current.take count).any (member = ·)

def validateReconfiguration (body : Bytes) (current : Membership) (currentEpoch : Nat) : ReconfigurationResult :=
  if body.length ≠ 256 then .reservedField
  else
    let active := uint (body.slice 196 197)
    let standby := uint (body.slice 197 198)
    if active = 0 then .replicaCountZero
    else if active > activeMax then .replicaCountMaxExceeded
    else if standby > standbyMax ∨ active + standby > membersMax then .standbyCountMaxExceeded
    else
      match decodeReconfigurationMembers (body.slice 0 192) with
      | none => .membersInvalid
      | some (members, nonzero) =>
        let epoch := uint (body.slice 192 196)
        if nonzero ≠ active + standby then .membersCountInvalid
        else if ¬ (body.slice 198 252).allZero then .reservedField
        else if uint (body.slice 252 256) ≠ 0 then .resultMustBeReserved
        else if active ≠ current.activeCount then .differentReplicaCount
        else if standby ≠ current.standbyCount then .differentStandbyCount
        else if epoch < currentEpoch then .epochInPast
        else if epoch > currentEpoch + 1 then .epochInFuture
        else if ¬ sameMemberSet members current.members nonzero then .differentMemberSet
        else if epoch = currentEpoch then if members = current.members then .applied else .conflict
        else if members = current.members then .isNoOp
        else .ok

/-! ## The members of a body -/

variable {members seen : List Nat} {count nonzero : Nat}

theorem scanMembers_zeros : scanMembers seen true nonzero members = some count ↔
    nonzero = count ∧ ∀ member ∈ members, member = 0 := by
  induction members generalizing seen with
  | nil => simp [scanMembers]
  | cons member rest ih => by_cases hzero : member = 0 <;> simp [scanMembers, hzero, ih]

/-- What the scan accepts: so many distinct members, none of them zero, and zeros after them. -/
theorem scanMembers_eq_some : scanMembers seen false nonzero members = some count ↔
    ∃ front back, members = front ++ back ∧ nonzero + front.length = count ∧ front.Nodup ∧ 0 ∉ front ∧
      front.Disjoint seen ∧ ∀ member ∈ back, member = 0 := by
  induction members generalizing seen nonzero with
  | nil => simp [scanMembers]
  | cons member rest ih =>
    by_cases hzero : member = 0
    · -- the zeros begin here
      rw [scanMembers, if_pos hzero, scanMembers_zeros]
      constructor
      · rintro ⟨hcount, hrest⟩
        exact ⟨[], _, rfl, hcount, .nil, List.not_mem_nil, List.disjoint_nil_left _, by simpa [hzero] using hrest⟩
      · rintro ⟨front, back, hsplit, hcount, -, hnone, -, hback⟩
        cases front with
        | nil =>
          cases hsplit
          exact ⟨hcount, fun other hmem => hback other (List.mem_cons_of_mem _ hmem)⟩
        | cons first front =>
          cases hsplit
          exact absurd List.mem_cons_self (hzero ▸ hnone)
    · simp only [scanMembers, if_neg hzero, Bool.false_eq_true, if_false]
      constructor
      · intro h
        split at h
        · cases h
        · obtain ⟨front, back, rfl, hcount, hnodup, hnone, hdisjoint, hback⟩ := ih.mp h
          refine ⟨member :: front, back, rfl, ?_, ?_, ?_, ?_, hback⟩ <;> grind [List.Disjoint]
      · rintro ⟨front, back, hsplit, hcount, hnodup, hnone, hdisjoint, hback⟩
        cases front with
        | nil =>
          cases hsplit
          exact absurd (hback member List.mem_cons_self) hzero
        | cons first front =>
          cases hsplit
          rw [if_neg (by grind [List.Disjoint]), ih]
          refine ⟨front, back, rfl, ?_, ?_, ?_, ?_, hback⟩ <;> grind [List.Disjoint]

/-! ## The verdict -/

/-- A proposal that can be judged: nothing but the epoch and the order of the members differs from the current
membership. -/
structure Proposal (body : Bytes) (current : Membership) (currentEpoch : Nat) : Prop where
  active : uint (body.slice 196 197) = current.activeCount
  standby : uint (body.slice 197 198) = current.standbyCount
  reserved : (body.slice 198 252).allZero = true
  result : uint (body.slice 252 256) = 0
  epoch : uint (body.slice 192 196) = currentEpoch ∨ uint (body.slice 192 196) = currentEpoch + 1
  members : ∃ front, front.Perm (current.members.take (current.activeCount + current.standbyCount)) ∧
    proposedMembers (body.slice 0 192) =
      front ++ List.replicate (membersMax - (current.activeCount + current.standbyCount)) 0

theorem members_iff (encoded : Bytes) {current : List Nat} {total : Nat} (distinct : (current.take total).Nodup)
    (present : 0 ∉ current.take total) (length : (current.take total).length = total) :
    (scanMembers [] false 0 (proposedMembers encoded) = some total ∧
      sameMemberSet (proposedMembers encoded) current total = true) ↔
    ∃ front, front.Perm (current.take total) ∧
      proposedMembers encoded = front ++ List.replicate (membersMax - total) 0 := by
  have hwidth : (proposedMembers encoded).length = membersMax := by simp [proposedMembers]
  rw [scanMembers_eq_some]
  constructor
  · rintro ⟨⟨front, back, hsplit, hcount, hnodup, -, -, hback⟩, hsame⟩
    rw [Nat.zero_add] at hcount
    have hsubset : front ⊆ current.take total := by
      rw [hsplit, sameMemberSet, List.take_left' hcount] at hsame
      intro member hmem
      simpa using List.all_eq_true.mp hsame member hmem
    refine ⟨front, (hnodup.subperm hsubset).perm_of_length_le (by omega), ?_⟩
    rw [hsplit, List.eq_replicate_of_mem hback]
    rw [hsplit, List.length_append] at hwidth
    congr 2
    omega
  · rintro ⟨front, hperm, hsplit⟩
    have hcount := hperm.length_eq.trans length
    refine ⟨⟨front, _, hsplit, by omega, hperm.nodup_iff.mpr distinct, fun h => present (hperm.mem_iff.mp h),
      List.disjoint_nil_right _, fun _ => List.eq_of_mem_replicate⟩, ?_⟩
    rw [hsplit, sameMemberSet, List.take_left' hcount, List.all_eq_true]
    intro member hmem
    simpa using hperm.mem_iff.mp hmem

/-- The verdicts other than a refusal. -/
def judged : List ReconfigurationResult := [.ok, .applied, .conflict, .isNoOp]

theorem mem_judged_ite {p : Prop} [Decidable p] {refusal verdict : ReconfigurationResult} (refused : refusal ∉ judged) :
    (if p then refusal else verdict) ∈ judged ↔ ¬ p ∧ verdict ∈ judged := by
  split <;> simp_all

/-- Under a membership that is valid for one of its members, the body is judged exactly when it is such a proposal, by
its epoch and the order of its members. -/
theorem validateReconfiguration_verdict {body : Bytes} {current : Membership} (currentEpoch : Nat)
    (length : body.length = 256) (valid : ∃ member, { current with localMember := member }.valid = true) :
    (validateReconfiguration body current currentEpoch ∈ judged ↔ Proposal body current currentEpoch) ∧
    (Proposal body current currentEpoch → validateReconfiguration body current currentEpoch =
      if uint (body.slice 192 196) = currentEpoch then
        if proposedMembers (body.slice 0 192) = current.members then .applied else .conflict
      else if proposedMembers (body.slice 0 192) = current.members then .isNoOp else .ok) := by
  obtain ⟨_, valid⟩ := valid
  simp only [Membership.valid, decide_eq_true_eq, List.all_eq_true] at valid
  obtain ⟨hactive, hactiveMax, hstandbyMax, htotal, hwidth, hpresent, hdistinct, -⟩ := valid
  have hiff := members_iff (body.slice 0 192) hdistinct (fun h => hpresent 0 h rfl) (by rw [List.length_take]; omega)
  have hverdict : Proposal body current currentEpoch → validateReconfiguration body current currentEpoch =
      if uint (body.slice 192 196) = currentEpoch then
        if proposedMembers (body.slice 0 192) = current.members then .applied else .conflict
      else if proposedMembers (body.slice 0 192) = current.members then .isNoOp else .ok := by
    intro proposal
    obtain ⟨hscan, hsame⟩ := hiff.mpr proposal.members
    have hepoch := proposal.epoch
    rw [validateReconfiguration, if_neg (not_not.mpr length), decodeReconfigurationMembers, hscan, proposal.active,
      proposal.standby]
    dsimp only [Option.map_some]
    rw [if_neg hactive, if_neg (Nat.not_lt.mpr hactiveMax), if_neg (by omega), if_neg (not_not.mpr rfl),
      if_neg (not_not.mpr proposal.reserved), if_neg (not_not.mpr proposal.result), if_neg (not_not.mpr rfl),
      if_neg (not_not.mpr rfl), if_neg (by omega), if_neg (by omega), if_neg (not_not.mpr hsame)]
  refine ⟨⟨fun h => ?_, fun proposal => ?_⟩, hverdict⟩
  · rw [validateReconfiguration, decodeReconfigurationMembers] at h
    iterate 4 rw [mem_judged_ite (by decide)] at h
    obtain ⟨-, -, -, -, h⟩ := h
    cases hscan : scanMembers [] false 0 (proposedMembers (body.slice 0 192)) with
    | none =>
      rw [hscan] at h
      exact absurd h (by decide : ReconfigurationResult.membersInvalid ∉ judged)
    | some nonzero =>
      rw [hscan] at h
      dsimp only [Option.map_some] at h
      iterate 8 rw [mem_judged_ite (by decide)] at h
      obtain ⟨hcount, hreserved, hresult, hactive, hstandby, hpast, hfuture, hsame, -⟩ := h
      rw [not_not] at hcount hreserved hresult hactive hstandby hsame
      refine ⟨hactive, hstandby, hreserved, hresult, by omega, hiff.mp ⟨?_, ?_⟩⟩
      · rw [hscan, hcount, hactive, hstandby]
      · rwa [hcount, hactive, hstandby] at hsame
  · rw [hverdict proposal]
    split_ifs <;> decide

/-- Members 1, 2 and 3 of epoch 7 are asked to go on as 2, 1 and 3. -/
theorem proposal_of_judged :
    Proposal (putUint 16 2 ++ putUint 16 1 ++ putUint 16 3 ++ zeros 144 ++ putUint 4 8 ++ 3 :: zeros 59)
      ⟨[1, 2, 3] ++ List.replicate 9 0, 3, 0, 1⟩ 7 :=
  (validateReconfiguration_verdict 7 (by decide +kernel) ⟨1, by decide⟩).1.mp (by decide +kernel)

end Supervsr
