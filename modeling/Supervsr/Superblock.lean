import Supervsr.Lib.ExchangeSort
import Supervsr.Checkpoint

/-
# Supervsr.Superblock — the durable root record and how one is selected among its copies

A superblock carries a sequence number and the checksum of its predecessor.  `selectSuperblock` groups
the copies that decode by sequence, insists that the surviving generations form a chain, and picks the
newest one that enough copies hold.  The first generation needs as many copies as one write leaves
behind, every later one only an open quorum.
-/

namespace Supervsr

structure Membership where
  members : List Nat
  activeCount : Nat
  standbyCount : Nat
  localMember : Nat
deriving DecidableEq, Repr

/-- `Membership.Primary`. -/
def Membership.primary (membership : Membership) (view : Nat) : Nat :=
  view % membership.activeCount

/-- `DurableReplicaState`, over the form of the checkpoint and that of a member's identity. -/
@[ext] structure DurableStateOf (κ ι : Type) where
  checkpoint : κ
  localMember : ι
  members : List ι
  commitMax : Nat
  syncMin : Nat
  syncMax : Nat
  logView : Nat
  view : Nat
  activeCount : Nat
  standbyCount : Nat
deriving DecidableEq, Repr

/-- `Superblock` without its own checksum, over the forms of its state, of an identity, of a checksum and
of a view header. -/
structure SuperblockOf (σ ι χ η : Type) where
  formatVersion : Nat
  release : Nat
  sequence : Nat
  group : ι
  parentChecksum : χ
  state : σ
  configurationChecksum : χ
  protocolVersion : Nat
  viewHeaders : List η
deriving DecidableEq, Repr

abbrev DurableReplicaState (χ : Type) := DurableStateOf (CheckpointState χ) Nat

/-- The superblock of a replica.  A view header is `none` where its bytes do not decode as a prepare
header. -/
abbrev Superblock (χ : Type) := SuperblockOf (DurableReplicaState χ) Nat χ (Option (Header χ))

structure SuperblockValidation (χ : Type) where
  group : Nat
  membership : Membership
  configurationChecksum : χ
  cluster : ClusterConfig
deriving DecidableEq, Repr

/-- The errors of `superblock.go` and `superblock_store.go`.  `errors.Join` is a pair. -/
inductive SuperblockError where
  | invalidSuperblock
  | fork
  | quorum
  | initializationIncomplete
  | incompatibleConfiguration
  | invalidCheckpoint
  | invalidConfiguration
  | unformatted
  | corrupt
  | storage
  | storageNotEmpty
  | ioBackpressure
  | joined (outer inner : SuperblockError)
deriving DecidableEq, Repr

/-- `errors.Is`. -/
def SuperblockError.is (err target : SuperblockError) : Bool :=
  match err with
  | .joined outer inner => outer.is target || inner.is target
  | err => err = target

def superblockHeadersMax : Nat := 16

/-! ## Encoding -/

section Encoding

variable {χ : Type}

variable {validation : SuperblockValidation χ}

def encodeViewHeader : Option (Header χ) → List (Word χ)
  | none => [.num 0]
  | some header => .num 1 :: header.encode

/-- `Superblock.Encode` without the copy's index, the span the checksum covers. -/
def Superblock.encode (superblock : Superblock χ) : List (Word χ) :=
  superblock.state.checkpoint.encode ++
    ([.num superblock.formatVersion, .num superblock.release, .num superblock.sequence,
      .num superblock.group, .sum superblock.parentChecksum, .num superblock.state.localMember,
      .num superblock.state.commitMax, .num superblock.state.syncMin, .num superblock.state.syncMax,
      .num superblock.state.logView, .num superblock.state.view, .num superblock.state.activeCount,
      .num superblock.state.standbyCount, .sum superblock.configurationChecksum,
      .num superblock.protocolVersion, .num superblock.state.members.length] ++
    (superblock.state.members.map Word.num ++ superblock.viewHeaders.flatMap encodeViewHeader))

theorem encodeViewHeader_append_inj {a b : Option (Header χ)} {s t : List (Word χ)}
    (h : encodeViewHeader a ++ s = encodeViewHeader b ++ t) : a = b ∧ s = t := by
  cases a with
  | none =>
    cases b with
    | none => simpa [encodeViewHeader] using h
    | some b => simp [encodeViewHeader] at h
  | some a =>
    cases b with
    | none => simp [encodeViewHeader] at h
    | some b =>
      simp only [encodeViewHeader, List.cons_append, List.cons.injEq, true_and] at h
      obtain ⟨hheader, hrest⟩ := List.append_inj h (by simp)
      exact ⟨by rw [Header.encode_injective hheader], hrest⟩

theorem flatMap_encodeViewHeader_injective :
    Function.Injective (fun headers : List (Option (Header χ)) => headers.flatMap encodeViewHeader) := by
  intro a
  induction a with
  | nil =>
    intro b h
    cases b with
    | nil => rfl
    | cons b bs => cases b <;> simp [encodeViewHeader] at h
  | cons a as ih =>
    intro b h
    cases b with
    | nil => cases a <;> simp [encodeViewHeader] at h
    | cons b bs =>
      simp only [List.flatMap_cons] at h
      obtain ⟨rfl, htail⟩ := encodeViewHeader_append_inj h
      rw [ih htail]

theorem Superblock.encode_injective : Function.Injective (encode (χ := χ)) := by
  intro a b h
  obtain ⟨hcheckpoint, hrest⟩ := List.append_inj h (by simp)
  obtain ⟨hfixed, hlists⟩ := List.append_inj hrest (by simp)
  simp only [List.cons.injEq, Word.num.injEq, Word.sum.injEq] at hfixed
  obtain ⟨hmembers, hheaders⟩ := List.append_inj hlists (by simp [hfixed])
  have hcheckpoint := CheckpointState.encode_injective hcheckpoint
  have hmembers := (List.map_inj_right fun _ _ h => Word.num.inj h).mp hmembers
  have hheaders := flatMap_encodeViewHeader_injective hheaders
  obtain ⟨_, _, _, _, _, ⟨_, _, _, _, _, _, _, _, _, _⟩, _, _, _⟩ := a
  obtain ⟨_, _, _, _, _, ⟨_, _, _, _, _, _, _, _, _, _⟩, _, _, _⟩ := b
  simp_all

variable [Checksums χ]

/-- `Superblock.Checksum`. -/
def Superblock.checksum (superblock : Superblock χ) : χ :=
  checksumBytes superblock.encode

theorem Superblock.checksum_injective : Function.Injective (checksum (χ := χ)) :=
  checksumBytes_injective.comp Superblock.encode_injective

end Encoding

/-! ## Validation -/

section Checks

variable {σ κ ι χ η : Type} [DecidableEq ι] [DecidableEq χ]

/-- The superblock is of this version, group and configuration. -/
def SuperblockOf.identifies (superblock : SuperblockOf σ ι χ η) (group : ι) (configurationChecksum : χ) :
    Bool :=
  superblock.formatVersion = Supervsr.formatVersion ∧ superblock.release ≠ 0 ∧ superblock.sequence ≠ 0 ∧
    superblock.group = group ∧ superblock.configurationChecksum = configurationChecksum ∧
    superblock.protocolVersion = Supervsr.protocolVersion

/-- The state is that of this member among these. -/
def DurableStateOf.belongs (state : DurableStateOf κ ι) (localMember : ι) (members : List ι)
    (activeCount standbyCount : Nat) : Bool :=
  state.localMember = localMember ∧ state.members = members ∧ state.activeCount = activeCount ∧
    state.standbyCount = standbyCount

/-- The checks of `Superblock.Validate` in their order: what it finds of the identity, the membership, the
checkpoint with its op, the number of view headers with its limit, and the headers. -/
def DurableStateOf.validateOf (state : DurableStateOf κ ι) (identity membership checkpoint : Bool)
    (prepareOp headerCount limit : Nat) (headers : Bool) : Except SuperblockError Unit :=
  if ¬ identity then .error .invalidSuperblock
  else if ¬ membership then .error (.joined .invalidSuperblock .incompatibleConfiguration)
  else if ¬ checkpoint then .error .invalidCheckpoint
  else if state.commitMax < prepareOp ∨ state.syncMax < state.syncMin ∨
      ¬ (state.syncMax = 0 ↔ state.syncMin = 0) ∨ state.view < state.logView then
    .error .invalidSuperblock
  else if headerCount > limit ∨ headerCount > superblockHeadersMax then .error .invalidSuperblock
  else if ¬ headers then .error .invalidSuperblock
  else .ok ()

end Checks

section Validation

variable {χ : Type} [DecidableEq χ] [Checksums χ] {superblock : Superblock χ}

def Superblock.validIdentity (superblock : Superblock χ) (validation : SuperblockValidation χ) : Bool :=
  superblock.identifies validation.group validation.configurationChecksum

/-- The checkpoint bounds of the cluster; `BlockBase` is 0 where it overflows. -/
def SuperblockValidation.checkpointValidation (validation : SuperblockValidation χ) :
    CheckpointValidation where
  blockBase := validation.cluster.blockBase.getD 0
  blockSize := validation.cluster.blockSize
  clientsMax := validation.cluster.clientsMax

def Superblock.sameMembership (superblock : Superblock χ) (membership : Membership) : Bool :=
  superblock.state.belongs membership.localMember membership.members membership.activeCount
    membership.standbyCount

/-- `Superblock.Validate`. -/
def Superblock.validate (superblock : Superblock χ) (validation : SuperblockValidation χ) :
    Except SuperblockError Unit :=
  superblock.state.validateOf (superblock.validIdentity validation)
    (superblock.sameMembership validation.membership)
    (superblock.state.checkpoint.valid validation.checkpointValidation) superblock.state.checkpoint.prepareOp
    superblock.viewHeaders.length (validation.cluster.pipelineMax + 1) (superblock.viewHeaders.all Option.isSome)

/-- Acceptance, check by check. -/
structure Superblock.Accepted (superblock : Superblock χ) (validation : SuperblockValidation χ) :
    Prop where
  identity : superblock.validIdentity validation
  membership : superblock.sameMembership validation.membership
  checkpoint : superblock.state.checkpoint.valid validation.checkpointValidation
  commit : superblock.state.checkpoint.prepareOp ≤ superblock.state.commitMax
  sync : superblock.state.syncMin ≤ superblock.state.syncMax
  sync_zero : superblock.state.syncMax = 0 ↔ superblock.state.syncMin = 0
  views : superblock.state.logView ≤ superblock.state.view
  headers_le_pipeline : superblock.viewHeaders.length ≤ validation.cluster.pipelineMax + 1
  headers_le_max : superblock.viewHeaders.length ≤ superblockHeadersMax
  headers : superblock.viewHeaders.all Option.isSome

theorem Superblock.validate_eq_ok :
    superblock.validate validation = .ok () ↔ superblock.Accepted validation := by
  constructor
  · intro h
    unfold validate DurableStateOf.validateOf at h
    split_ifs at h with hidentity hmembership hcheckpoint hcommit hlength hheaders
    push Not at hcommit hlength
    exact ⟨hidentity, hmembership, hcheckpoint, hcommit.1, hcommit.2.1, hcommit.2.2.1, hcommit.2.2.2,
      hlength.1, hlength.2, hheaders⟩
  · intro h
    have hcommit := h.commit
    have hsync := h.sync
    have hviews := h.views
    have hpipeline := h.headers_le_pipeline
    have hmax := h.headers_le_max
    unfold validate DurableStateOf.validateOf
    rw [if_neg (not_not.mpr h.identity), if_neg (not_not.mpr h.membership),
      if_neg (not_not.mpr h.checkpoint), if_neg (by have := h.sync_zero; omega), if_neg (by omega),
      if_neg (not_not.mpr h.headers)]

theorem Superblock.Accepted.sequence_ne_zero (h : superblock.Accepted validation) :
    superblock.sequence ≠ 0 := by
  have := h.identity
  simp only [validIdentity, SuperblockOf.identifies, decide_eq_true_eq] at this
  exact this.2.2.1

end Validation

/-! ## Selection -/

/-- `SuperblockCandidate`: a copy that decoded. -/
structure SuperblockCandidate (χ : Type) where
  superblock : Superblock χ
  physicalIndex : Nat
  misdirectedIndex : Bool
deriving DecidableEq, Repr

/-- `superblockLogicalValue`: a generation and the number of copies that hold it. -/
structure SuperblockLogicalValue (χ : Type) where
  candidate : SuperblockCandidate χ
  count : Nat
deriving DecidableEq, Repr

def SuperblockLogicalValue.sequence {χ : Type} (value : SuperblockLogicalValue χ) : Nat :=
  value.candidate.superblock.sequence

def superblockOpenQuorum (copies : Nat) : Option Nat :=
  match copies with
  | 4 => some 2
  | 6 => some 3
  | 8 => some 4
  | _ => none

def superblockWriteCopies (copies : Nat) : Option Nat :=
  match copies with
  | 4 => some 3
  | 6 => some 4
  | 8 => some 5
  | _ => none

section Selection

variable {χ : Type} [DecidableEq χ] [Checksums χ]

def durableStateRegressed (previous current : DurableReplicaState χ) : Bool :=
  current.checkpoint.prepareOp < previous.checkpoint.prepareOp ∨ current.commitMax < previous.commitMax ∨
    current.logView < previous.logView ∨ current.view < previous.view

/-- One round of the grouping loop: count the candidate in the generation of its sequence, or open a
new one behind those met so far. -/
def groupCandidate (candidate : SuperblockCandidate χ) :
    List (SuperblockLogicalValue χ) → Except SuperblockError (List (SuperblockLogicalValue χ))
  | [] => .ok [⟨candidate, 1⟩]
  | value :: values =>
    if value.sequence = candidate.superblock.sequence then
      if value.candidate.superblock.checksum ≠ candidate.superblock.checksum then .error .fork
      else .ok ({ value with count := value.count + 1 } :: values)
    else do
      let values ← groupCandidate candidate values
      return value :: values

/-- The grouping loop of `SelectSuperblock`. -/
def groupCandidates (candidates : List (SuperblockCandidate χ)) :
    Except SuperblockError (List (SuperblockLogicalValue χ)) :=
  candidates.foldlM (fun values candidate => groupCandidate candidate values) []

/-- The link the code demands between neighbouring generations. -/
def successor (previous current : Superblock χ) : Bool :=
  current.sequence = (previous.sequence + 1) % 2 ^ 64 ∧
    current.parentChecksum = previous.checksum ∧
    ¬ durableStateRegressed previous.state current.state

def generationsLinked : List (SuperblockLogicalValue χ) → Bool
  | previous :: current :: rest =>
    successor previous.candidate.superblock current.candidate.superblock &&
      generationsLinked (current :: rest)
  | _ => true

/-- A superblock no other precedes: its copies were all written by `Format`. -/
def Superblock.initial (superblock : Superblock χ) : Bool :=
  superblock.sequence = 1 ∧ superblock.parentChecksum = Checksums.zero

def requiredQuorum (copies openQuorum : Nat) (superblock : Superblock χ) : Nat :=
  if superblock.initial then (superblockWriteCopies copies).getD 0 else openQuorum

/-- `betterSuperblock` between generations of one run of the selection loop, whose sequences differ. -/
def betterSuperblock (left right : SuperblockLogicalValue χ) : Bool :=
  if left.sequence ≠ right.sequence then right.sequence < left.sequence
  else right.count < left.count

/-- The last loop of `SelectSuperblock`. -/
def selectGeneration (copies openQuorum : Nat) (values : List (SuperblockLogicalValue χ)) :
    Option (SuperblockLogicalValue χ) :=
  values.foldl (fun selected value =>
    if value.count < requiredQuorum copies openQuorum value.candidate.superblock then selected
    else
      match selected with
      | none => some value
      | some best => if betterSuperblock value best then some value else some best) none

def selectSuperblock (candidates : List (SuperblockCandidate χ)) (copies : Nat) :
    Except SuperblockError (SuperblockCandidate χ) :=
  match superblockOpenQuorum copies with
  | none => .error .quorum
  | some openQuorum =>
    if candidates.length = 0 ∨ candidates.length > copies then .error .quorum
    else do
      let values ← groupCandidates candidates
      -- the two nested loops that order the generations by sequence
      let values := ExchangeSort.exchangeSort SuperblockLogicalValue.sequence values.length values
      if ¬ generationsLinked values then .error .invalidSuperblock
      else
        match selectGeneration copies openQuorum values with
        | some selected => .ok selected.candidate
        | none =>
          if values.any (fun value => value.candidate.superblock.initial) then
            .error .initializationIncomplete
          else .error .quorum

end Selection

end Supervsr
