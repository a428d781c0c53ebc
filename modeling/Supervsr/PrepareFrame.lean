import Supervsr.FrameValidation
import Supervsr.SmallCluster

/-
# Supervsr.PrepareFrame — the prepares a primary seals and what its peers make of them

`createPrepare`, `createPulse` and `createUpgrade`, down to the bytes.  A request is validated by
`validateRequest`, the prepare made of it by `validatePrepare`; the two do not ask for the same things.
-/

namespace Supervsr

open Bytes
open FrameHeader (field_of_record number_of_record clear_of_record)

variable {χ : Type} {header : FrameHeader}

variable {sender limit target maximum : Nat} {body frame : Bytes} {context : ValidationContext}

/-- How checksums look on the wire. -/
structure Wire (χ : Type) where
  hash : ChecksumFunction
  bytes : χ → Bytes
  length_bytes : ∀ checksum, (bytes checksum).length = 16

/-- The limit of a frame: `MessageSizeMax` as a 32-bit number. -/
def Config.frameLimit (cfg : Config) : Nat := cfg.cluster.messageSizeMax % 256 ^ 4

def Config.groupBytes (cfg : Config) : Bytes := putUint 16 cfg.group

/-- `validationContext` for a frame from another member, with its narrowing conversions. -/
def Config.peerContext (cfg : Config) (sender repairRequestsMax : Nat) : ValidationContext where
  authenticated := true
  replicaSource := true
  sender := sender
  activeCount := cfg.activeCount
  memberCount := cfg.memberCount
  pipelineMax := cfg.pipelineMax % 256
  releaseHistoryMax := cfg.cluster.releaseHistoryMax % 256 ^ 2
  applicationBatchSizeMax := cfg.cluster.applicationBatchSizeMax % 256 ^ 4
  applicationReplySizeMax := cfg.cluster.applicationReplySizeMax % 256 ^ 4
  repairRequestsMax := repairRequestsMax
  currentRelease := cfg.currentRelease
  clientReleaseMin := cfg.clientReleaseMin
  group := cfg.groupBytes
  messageSizeMax := cfg.frameLimit

/-- `validationContext` for a frame from a client. -/
def Config.clientContext (cfg : Config) (repairRequestsMax : Nat) : ValidationContext :=
  { cfg.peerContext 0 repairRequestsMax with replicaSource := false }

/-! ## Sealing a prepare -/

/-- The command-specific fields of a prepare. -/
def prepareLayout (parent requestChecksum checkpointID client : Bytes) (op commit timestamp : Nat)
    (request operation : Bytes) : List (Nat × Bytes) :=
  [(0, parent), (32, requestChecksum), (64, checkpointID), (80, client), (96, putUint 8 op),
    (104, putUint 8 commit), (112, putUint 8 timestamp), (120, request), (124, operation)]

namespace Replica

variable [Checksums χ]

/-- The op of the next prepare, as a 64-bit number. -/
def nextPrepareOp (replica : Replica χ) : Nat := (replica.headOp + 1) % 256 ^ 8

/-- The timestamp of the next prepare, as a 64-bit number. -/
def nextTimestamp (replica : Replica χ) (wall : Nat) : Nat :=
  max (max 1 wall) (max ((replica.lastPrepareTimestamp + 1) % 256 ^ 8)
    ((replica.lastCommitTimestamp + 1) % 256 ^ 8))

/-- The header of the next prepare: its place in the log and the given fields. -/
def unsealedPrepare (replica : Replica χ) (cfg : Config) (wire : Wire χ) (author wall release : Nat)
    (requestChecksum client request operation : Bytes) : FrameHeader where
  headerChecksum := zeros 16
  bodyChecksum := zeros 16
  group := cfg.groupBytes
  size := 0
  epoch := 0
  view := replica.view
  release := release
  protocol := protocolVersion
  command := .prepare
  author := author
  fields := record 128 (prepareLayout (wire.bytes replica.headChecksum) requestChecksum
    (wire.bytes replica.checkpointID) client replica.nextPrepareOp replica.commitMin
    (replica.nextTimestamp wall) request operation)

/-- What `createPrepare`, `createPulse` and `createUpgrade` have in common: acquire a frame, fill it in and
seal it. -/
def sealPrepare (replica : Replica χ) (cfg : Config) (wire : Wire χ) (author wall release : Nat)
    (requestChecksum client request operation body : Bytes) : Option (FrameHeader × Bytes) :=
  if cfg.frameLimit < headerSize + body.length then none
  else
    sealFrame wire.hash
      (replica.unsealedPrepare cfg wire author wall release requestChecksum client request operation) body

/-- The body `createPrepare` gives the prepare of a request; `verdict` is `ValidateReconfiguration`. -/
def preparedBody (cfg : Config) (verdict : Bytes → Nat) (request : FrameHeader) (body : Bytes) : Bytes :=
  let operation := request.number 68 69
  if operation = Operation.register.code then
    (zeros 256).splice 0 (putUint 4 cfg.cluster.applicationBatchSizeMax)
  else if operation = Operation.reconfigure.code then body.splice 252 (putUint 4 (verdict body))
  else body

def createPrepare (replica : Replica χ) (cfg : Config) (wire : Wire χ) (verdict : Bytes → Nat)
    (request : FrameHeader) (body : Bytes) (wall : Nat) : Option (FrameHeader × Bytes) :=
  replica.sealPrepare cfg wire (cfg.primary replica.view) wall request.release request.headerChecksum (request.field 32 48)
    (request.field 64 68) (request.field 68 69) (preparedBody cfg verdict request body)

def createPulse (replica : Replica χ) (cfg : Config) (wire : Wire χ) (wall : Nat) :
    Option (FrameHeader × Bytes) :=
  replica.sealPrepare cfg wire cfg.localIndex wall cfg.currentRelease (zeros 16) (zeros 16)
    (zeros 4) (putUint 1 Operation.pulse.code) []

def createUpgrade (replica : Replica χ) (cfg : Config) (wire : Wire χ) (target wall : Nat) :
    Option (FrameHeader × Bytes) :=
  replica.sealPrepare cfg wire cfg.localIndex wall cfg.currentRelease (zeros 16) (zeros 16)
    (zeros 4) (putUint 1 Operation.upgrade.code) ((zeros 16).splice 0 (putUint 4 target))

end Replica

/-! ## What `validatePrepare` reads -/

section Fields

variable {parent requestChecksum checkpointID client request operation : Bytes}
  {op commit timestamp : Nat}

/-- The fields of a prepare, with the lengths their Go types have. -/
structure PrepareFields (header : FrameHeader)
    (parent requestChecksum checkpointID client : Bytes) (op commit timestamp : Nat)
    (request operation : Bytes) : Prop where
  fields : header.fields =
    record 128 (prepareLayout parent requestChecksum checkpointID client op commit timestamp request operation)
  parent : parent.length = 16
  requestChecksum : requestChecksum.length = 16
  checkpointID : checkpointID.length = 16
  client : client.length = 16
  request : request.length = 4
  operation : operation.length = 1
  op : op < 256 ^ 8
  commit : commit < 256 ^ 8
  timestamp : timestamp < 256 ^ 8

namespace PrepareFields

variable (of : PrepareFields header parent requestChecksum checkpointID client op commit timestamp request
  operation)

include of

theorem placed : Placed 128 0
    (prepareLayout parent requestChecksum checkpointID client op commit timestamp request operation) := by
  simp [prepareLayout, Placed, of.parent, of.requestChecksum, of.checkpointID, of.client, of.request,
    of.operation]

theorem length_fields : header.fields.length = 128 := by
  rw [of.fields, length_record of.placed]

/-- `validatePrepare` in terms of the values that were written. -/
theorem validatePrepare_iff (body : Bytes) (context : ValidationContext) :
    validatePrepare header body context = .ok () ↔
      op ≠ 0 ∧ commit < op ∧ timestamp ≠ 0 ∧ validPreparedOperation (uint operation) = true ∧
        if uint operation = Operation.register.code then
          uint request = 0 ∧ isZero16 client = false ∧ body.length = 256 ∧
            uint (body.slice 0 4) = context.applicationBatchSizeMax ∧
            (body.slice 4 body.length).allZero = true
        else validateOperationBody (uint operation) body context.applicationBatchSizeMax true = .ok () := by
  have hop : header.number 96 104 = op :=
    number_of_record of.fields of.placed (by simp [prepareLayout]) rfl of.op
  have hcommit : header.number 104 112 = commit :=
    number_of_record of.fields of.placed (by simp [prepareLayout]) rfl of.commit
  have htimestamp : header.number 112 120 = timestamp :=
    number_of_record of.fields of.placed (by simp [prepareLayout]) rfl of.timestamp
  have hclient : header.field 80 96 = client :=
    field_of_record of.fields of.placed (by simp [prepareLayout]) (by rw [of.client])
  have hrequest : header.number 120 124 = uint request :=
    congrArg uint (field_of_record of.fields of.placed (by simp [prepareLayout]) (by rw [of.request]))
  have hoperation : header.number 124 125 = uint operation :=
    congrArg uint (field_of_record of.fields of.placed (by simp [prepareLayout]) (by rw [of.operation]))
  have hgaps : header.clear 16 32 = true ∧ header.clear 48 64 = true ∧ header.clear 125 128 = true := by
    have hclear := @clear_of_record header _ of.fields of.placed
    refine ⟨hclear (by decide) ?_, hclear (by decide) ?_, hclear (by decide) ?_⟩ <;>
    simp [prepareLayout, of.parent, of.requestChecksum, of.checkpointID, of.client, of.request,
      of.operation]
  have hroot : ∀ op commit timestamp, validRootPrepare header body op commit timestamp = false :=
    validRootPrepare_eq_false header of.length_fields body
  unfold validatePrepare
  simp only [hop, hcommit, htimestamp, hclient, hrequest, hoperation, hgaps, hroot, not_true_eq_false,
    or_self, if_false, Bool.false_eq_true, not_false_eq_true, if_true]
  by_cases hreserved : uint operation = Operation.root.code ∨ uint operation = Operation.reserved.code
  · have hrefused : validPreparedOperation (uint operation) = false := by
      rcases hreserved with h | h <;> rw [h] <;> decide
    rw [if_pos hreserved, hrefused]
    simp
  · rw [if_neg hreserved]
    by_cases hplace : op = 0 ∨ op ≤ commit ∨ timestamp = 0 ∨ ¬ validPreparedOperation (uint operation)
    · rw [if_pos hplace]
      constructor
      · intro hok
        cases hok
      rintro ⟨hop, hcommit, htimestamp, hprepared, -⟩
      rcases hplace with h | h | h | h
      · exact absurd h hop
      · omega
      · exact absurd h htimestamp
      · exact absurd hprepared h
    · rw [if_neg hplace]
      simp only [not_or, Nat.not_le, not_not] at hplace
      simp only [ne_eq, hplace, not_false_eq_true, true_and]
      split_ifs with hregister hbody
      · refine ⟨False.elim, ?_⟩
        rintro ⟨hrequest, hclient, hlength, hbatch, hzero⟩
        rcases hbody with h | h | h | h | h
        · exact absurd hrequest h
        · rw [hclient] at h
          cases h
        · exact absurd hlength h
        · exact absurd hbatch h
        · exact absurd hzero h
      · simp only [not_or, not_not, Bool.not_eq_true, Bool.not_eq_false] at hbody
        exact ⟨fun _ => hbody, fun _ => rfl⟩
      · exact Iff.rfl

end PrepareFields

end Fields

/-! ## Prepares at a peer -/

/-- The numbers a prepare is made of fit the words they are written to. -/
structure Replica.Words (replica : Replica χ) (wall : Nat) : Prop where
  view : replica.view < 256 ^ 4
  commitMin : replica.commitMin < 256 ^ 8
  wall : wall < 256 ^ 8

section Peer

variable [Checksums χ] {replica : Replica χ} {cfg : Config} {wire : Wire χ} {wall : Nat}

omit [Checksums χ] in
theorem Replica.Words.nextTimestamp (words : replica.Words wall) :
    replica.nextTimestamp wall ≠ 0 ∧ replica.nextTimestamp wall < 256 ^ 8 := by
  have hwall := words.wall
  have hprepare : (replica.lastPrepareTimestamp + 1) % 256 ^ 8 < 256 ^ 8 := Nat.mod_lt _ (by decide)
  have hcommit : (replica.lastCommitTimestamp + 1) % 256 ^ 8 < 256 ^ 8 := Nat.mod_lt _ (by decide)
  unfold Replica.nextTimestamp
  omega

theorem Config.primary_lt (valid : cfg.cluster.Validated cfg.activeCount) (view : Nat) :
    cfg.primary view < cfg.activeCount :=
  Nat.mod_lt _ valid.active_pos

/-- `ValidateSemantics` of a primary's own prepare comes down to the release and `validatePrepare`. -/
theorem validateSemantics_prepare (hash : ChecksumFunction) (body : Bytes)
    (valid : cfg.cluster.Validated cfg.activeCount) (member : sender < cfg.memberCount)
    (prepare : header.command = .prepare) (own : header.author = cfg.primary header.view) :
    header.validateSemantics hash body (cfg.peerContext sender limit) = .ok () ↔
      validRelease header (cfg.peerContext sender limit) = true ∧
      validatePrepare header body (cfg.peerContext sender limit) = .ok () := by
  have hpos := valid.active_pos
  have hmembers : cfg.activeCount ≤ cfg.memberCount := Nat.le_add_right _ _
  have hauthor : validAuthor header.command header.author sender true (header.view % cfg.activeCount) = true := by
    rw [prepare]
    exact decide_eq_true own
  have hcommand : validateCommand hash header body (cfg.peerContext sender limit) =
      validatePrepare header body (cfg.peerContext sender limit) := by
    rw [validateCommand, prepare]
  rw [FrameHeader.validateSemantics_eq_ok_iff, hcommand]
  constructor
  · rintro ⟨-, -, -, -, -, hrelease, hvalid⟩
    exact ⟨hrelease, hvalid⟩
  · rintro ⟨hrelease, hvalid⟩
    exact ⟨rfl, ⟨Nat.ne_of_gt hpos, hmembers⟩, fun _ => member, fun h => absurd rfl h, hauthor, hrelease,
      hvalid⟩

/-- What is left of the checks at a peer: the place in the log and the shape of the operation. -/
theorem admits_sealPrepare_iff {author release : Nat} {requestChecksum client request operation : Bytes}
    (valid : cfg.cluster.Validated cfg.activeCount) (words : replica.Words wall)
    (own : author = cfg.primary replica.view) (member : sender < cfg.memberCount)
    (released : release ≠ 0 ∧ release ≤ cfg.currentRelease ∧ release < 256 ^ 4)
    (requestChecksum_length : requestChecksum.length = 16) (client_length : client.length = 16)
    (request_length : request.length = 4) (operation_length : operation.length = 1)
    (seals : replica.sealPrepare cfg wire author wall release requestChecksum client request operation body =
      some (header, frame)) :
    (cfg.peerContext sender limit).admits wire.hash frame = true ↔
      replica.nextPrepareOp ≠ 0 ∧ replica.commitMin < replica.nextPrepareOp ∧
      validPreparedOperation (uint operation) = true ∧
      if uint operation = Operation.register.code then
        uint request = 0 ∧ isZero16 client = false ∧ body.length = 256 ∧
        uint (body.slice 0 4) = cfg.cluster.applicationBatchSizeMax % 256 ^ 4 ∧
        (body.slice 4 body.length).allZero = true
      else validateOperationBody (uint operation) body (cfg.cluster.applicationBatchSizeMax % 256 ^ 4) true =
        .ok () := by
  unfold Replica.sealPrepare at seals
  split at seals
  · cases seals
  rename_i hfits
  rw [Nat.not_lt] at hfits
  have hprimary := cfg.primary_lt valid replica.view
  have hactive : cfg.activeCount ≤ 6 := valid.active_le
  have hmembers : cfg.activeCount ≤ cfg.memberCount := Nat.le_add_right _ _
  obtain ⟨htimestamp, htimestampWord⟩ := words.nextTimestamp
  obtain ⟨-, -, hsealed, -⟩ := sealFrame_eq_some _ seals
  have hfields : PrepareFields header (wire.bytes replica.headChecksum) requestChecksum
      (wire.bytes replica.checkpointID) client replica.nextPrepareOp replica.commitMin
      (replica.nextTimestamp wall) request operation := by
    rw [hsealed]
    exact ⟨rfl, wire.length_bytes _, requestChecksum_length, wire.length_bytes _, client_length,
      request_length, operation_length, Nat.mod_lt _ (by decide), words.commitMin, htimestampWord⟩
  have hrepresentable : (replica.unsealedPrepare cfg wire author wall release requestChecksum client request
      operation).Representable :=
    ⟨length_zeros 16, length_putUint 16 _, (by decide : 0 < 256 ^ 4), words.view, released.2.2,
      (by show author < 256 ^ 1; omega), length_record hfields.placed⟩
  have hdecodes := decodeFrame_sealFrame wire.hash hrepresentable seals hfits
    (by show author < cfg.memberCount; omega)
  rw [(cfg.peerContext sender limit).admits_iff hdecodes, validateSemantics_prepare wire.hash body valid member (by rw [hsealed]; rfl)
    (by rw [hsealed]; exact own), hfields.validatePrepare_iff]
  constructor
  · rintro ⟨-, hop, hcommit, -, hprepared, hshape⟩
    exact ⟨hop, hcommit, hprepared, hshape⟩
  rintro ⟨hop, hcommit, hprepared, hshape⟩
  refine ⟨?_, hop, hcommit, htimestamp, hprepared, hshape⟩
  have hoperation : header.number 124 125 = uint operation :=
    congrArg uint (field_of_record hfields.fields hfields.placed (by simp [prepareLayout])
      (by rw [operation_length]))
  have hrequires : requiresRelease header = true := by
    rw [requiresRelease, show header.command = .prepare by rw [hsealed]; rfl, hoperation]
    apply decide_eq_true
    constructor
    · intro hroot
      rw [hroot] at hprepared
      cases hprepared
    · intro hreserved
      rw [hreserved] at hprepared
      cases hprepared
  rw [validRelease, hrequires, if_pos rfl, show header.release = release by rw [hsealed]; rfl]
  exact decide_eq_true ⟨released.1, released.2.1⟩

/-- The body of an upgrade prepare. -/
theorem validateOperationBody_upgrade (nonzero : target ≠ 0) (word : target < 256 ^ 4) :
    validateOperationBody Operation.upgrade.code ((zeros 16).splice 0 (putUint 4 target)) maximum true =
        .ok () ↔ 16 ≤ maximum := by
  have hlength : ((zeros 16).splice 0 (putUint 4 target)).length = 16 := by
    rw [length_splice (by simp), length_zeros]
  have htarget : uint (((zeros 16).splice 0 (putUint 4 target)).slice 0 4) = target := by
    rw [slice_splice_self (Nat.zero_le _) (by rw [length_putUint]), uint_putUint, Nat.mod_eq_of_lt word]
  have hrest : (((zeros 16).splice 0 (putUint 4 target)).slice 4 16).allZero = true := by
    rw [slice_splice_after (by rw [length_putUint]) (Nat.zero_le _), slice_zeros (Nat.le_refl 16),
      allZero_zeros]
  unfold validateOperationBody
  rw [hlength, htarget, hrest]
  by_cases hlong : maximum < 16
  · rw [if_pos hlong]
    constructor
    · intro hok
      cases hok
    · intro hle
      omega
  · rw [if_neg hlong, if_neg (by decide : ¬ (Operation.upgrade.code = Operation.noop.code ∨
      Operation.upgrade.code = Operation.pulse.code)), if_pos rfl, if_neg (by simp [nonzero])]
    exact ⟨fun _ => Nat.not_lt.mp hlong, fun _ => rfl⟩

section Own

variable (valid : cfg.cluster.Validated cfg.activeCount) (words : replica.Words wall)
    (own : cfg.localIndex = cfg.primary replica.view) (member : sender < cfg.memberCount)
    (released : cfg.currentRelease ≠ 0 ∧ cfg.currentRelease < 256 ^ 4)

include valid words own member released

/-- A pulse is accepted where its place in the log is. -/
theorem admits_createPulse_iff (created : replica.createPulse cfg wire wall = some (header, frame)) :
    (cfg.peerContext sender limit).admits wire.hash frame = true ↔
      replica.nextPrepareOp ≠ 0 ∧ replica.commitMin < replica.nextPrepareOp := by
  have hoperation : uint (putUint 1 Operation.pulse.code) = Operation.pulse.code := by decide
  rw [admits_sealPrepare_iff valid words own member ⟨released.1, Nat.le_refl _, released.2⟩
    (length_zeros 16) (length_zeros 16) (length_zeros 4) (length_putUint 1 _) created, hoperation]
  have hprepared : validPreparedOperation Operation.pulse.code = true := by decide
  have hbody : ∀ maximum, validateOperationBody Operation.pulse.code [] maximum true = .ok () := by
    intro maximum
    simp [validateOperationBody]
  rw [if_neg (by decide)]
  simp only [hprepared, hbody, and_true]

/-- An upgrade is accepted where its place in the log is and its body of 16 bytes is not too long. -/
theorem admits_createUpgrade_iff (nonzero : target ≠ 0) (word : target < 256 ^ 4)
    (created : replica.createUpgrade cfg wire target wall = some (header, frame)) :
    (cfg.peerContext sender limit).admits wire.hash frame = true ↔
      (replica.nextPrepareOp ≠ 0 ∧ replica.commitMin < replica.nextPrepareOp) ∧
      16 ≤ cfg.cluster.applicationBatchSizeMax % 256 ^ 4 := by
  have hoperation : uint (putUint 1 Operation.upgrade.code) = Operation.upgrade.code := by decide
  have hprepared : validPreparedOperation Operation.upgrade.code = true := by decide
  rw [admits_sealPrepare_iff valid words own member ⟨released.1, Nat.le_refl _, released.2⟩
    (length_zeros 16) (length_zeros 16) (length_zeros 4) (length_putUint 1 _) created, hoperation,
    if_neg (by decide), validateOperationBody_upgrade nonzero word]
  simp only [hprepared, true_and, and_assoc]

end Own

/-! ### Prepares of requests -/

/-- What `validateRequest` has checked that the prepare's own checks ask for again. -/
theorem validateRequest_eq_ok {request : FrameHeader} (validates : validateRequest request body context = .ok ()) :
    (request.number 68 69 = Operation.register.code → request.number 64 68 = 0) ∧
      (request.number 68 69 ≠ Operation.register.code →
        validClientOperation (request.number 68 69) = true ∧
          validateOperationBody (request.number 68 69) body context.applicationBatchSizeMax false =
            .ok ()) := by
  unfold validateRequest at validates
  simp only at validates
  split_ifs at validates with hreserved hregister hidentity hbody hsession
  · simp only [not_or, not_not] at hidentity
    exact ⟨fun _ => hidentity.2.2.1, fun hother => absurd hregister hother⟩
  · simp only [not_or, not_not] at hsession
    exact ⟨fun h => absurd h hregister, fun _ => ⟨hsession.2.2, validates⟩⟩

/-- A client's operation may be prepared, and the body it was requested with passes again; only the
result at the end of a reconfiguration changes. -/
theorem validateOperationBody_prepared (cfg : Config) (verdict : Bytes → Nat) {request : FrameHeader}
    (other : request.number 68 69 ≠ Operation.register.code)
    (client : validClientOperation (request.number 68 69) = true)
    (validates : validateOperationBody (request.number 68 69) body maximum false = .ok ()) :
    validPreparedOperation (request.number 68 69) = true ∧
      validateOperationBody (request.number 68 69) (Replica.preparedBody cfg verdict request body) maximum
        true = .ok () := by
  have hprepared : validPreparedOperation (request.number 68 69) = true := by
    simp only [validClientOperation, decide_eq_true_eq] at client
    simp only [validPreparedOperation, decide_eq_true_eq]
    rcases client with h | h | h
    · exact .inr (.inl h)
    · exact .inr (.inr (.inr (.inr (.inl h))))
    · exact .inr (.inr (.inr (.inr (.inr h))))
  refine ⟨hprepared, ?_⟩
  rw [Replica.preparedBody, if_neg other]
  by_cases hreconfigure : request.number 68 69 = Operation.reconfigure.code
  · rw [if_pos hreconfigure]
    rw [hreconfigure] at validates ⊢
    have hlength : body.length ≤ maximum ∧ body.length = 256 := by
      unfold validateOperationBody at validates
      split at validates
      · cases validates
      rename_i hlong
      rw [if_neg (by decide : ¬ (Operation.reconfigure.code = Operation.noop.code ∨
        Operation.reconfigure.code = Operation.pulse.code)),
        if_neg (by decide : ¬ Operation.reconfigure.code = Operation.upgrade.code), if_pos rfl] at validates
      split at validates
      · cases validates
      rename_i hshape
      exact ⟨Nat.not_lt.mp hlong, not_not.mp hshape⟩
    have hspliced : (body.splice 252 (putUint 4 (verdict body))).length = 256 := by
      rw [length_splice (by rw [length_putUint, hlength.2]), hlength.2]
    unfold validateOperationBody
    rw [hspliced, if_neg (by omega), if_neg (by decide : ¬ (Operation.reconfigure.code = Operation.noop.code ∨
      Operation.reconfigure.code = Operation.pulse.code)),
      if_neg (by decide : ¬ Operation.reconfigure.code = Operation.upgrade.code), if_pos rfl,
      if_neg (fun h => h rfl), if_neg (fun h => h.1 rfl)]
  · rw [if_neg hreconfigure]
    unfold validateOperationBody at validates ⊢
    rw [if_neg hreconfigure] at validates ⊢
    exact validates

theorem preparedBody_register (cfg : Config) (verdict : Bytes → Nat) {request : FrameHeader} (body : Bytes)
    (register : request.number 68 69 = Operation.register.code) :
    (Replica.preparedBody cfg verdict request body).length = 256 ∧
      uint ((Replica.preparedBody cfg verdict request body).slice 0 4) =
        cfg.cluster.applicationBatchSizeMax % 256 ^ 4 ∧
      ((Replica.preparedBody cfg verdict request body).slice 4 256).allZero = true := by
  rw [Replica.preparedBody, if_pos register]
  refine ⟨?_, ?_, ?_⟩
  · rw [length_splice (by rw [length_putUint, length_zeros]; decide), length_zeros]
  · rw [slice_splice_self (Nat.zero_le _) (by rw [length_putUint]), uint_putUint]
  · rw [slice_splice_after (by rw [length_putUint]) (Nat.zero_le _), slice_zeros (Nat.le_refl 256),
      allZero_zeros]

/-- The prepare of a validated request is accepted where its place in the log is and, if it registers a
client, the client is not zero. -/
theorem admits_createPrepare_iff {verdict : Bytes → Nat} {request : FrameHeader} {requestFrame : Bytes}
    (valid : cfg.cluster.Validated cfg.activeCount) (words : replica.Words wall)
    (member : sender < cfg.memberCount)
    (decodes : decodeFrame wire.hash requestFrame context.group context.messageSizeMax context.memberCount =
      .ok (request, body))
    (validates : request.validateSemantics wire.hash body context = .ok ())
    (command : request.command = .request) (release : context.currentRelease = cfg.currentRelease)
    (batch : context.applicationBatchSizeMax = cfg.cluster.applicationBatchSizeMax % 256 ^ 4)
    (created : replica.createPrepare cfg wire verdict request body wall = some (header, frame)) :
    (cfg.peerContext sender limit).admits wire.hash frame = true ↔
      (replica.nextPrepareOp ≠ 0 ∧ replica.commitMin < replica.nextPrepareOp) ∧
      (request.number 68 69 = Operation.register.code → isZero16 (request.field 32 48) = false) := by
  obtain ⟨hrepresentable, hchecksum⟩ := representable_of_decodeFrame decodes
  have hfield : ∀ {start stop : Nat}, stop ≤ 128 → (request.field start stop).length = stop - start := by
    intro start stop hstop
    exact length_slice (by rw [hrepresentable.fields]; exact hstop)
  obtain ⟨-, -, -, -, -, hrelease, hcommand⟩ := FrameHeader.validateSemantics_eq_ok_iff.mp validates
  have hreleased : request.release ≠ 0 ∧ request.release ≤ cfg.currentRelease := by
    have hrequires : requiresRelease request = true := by rw [requiresRelease, command]
    rw [validRelease, hrequires, if_pos rfl, release] at hrelease
    exact of_decide_eq_true hrelease
  have hrequest : validateRequest request body context = .ok () := by
    rwa [validateCommand, command] at hcommand
  obtain ⟨hregister, hother⟩ := validateRequest_eq_ok hrequest
  rw [admits_sealPrepare_iff valid words rfl member ⟨hreleased.1, hreleased.2, hrepresentable.release⟩
    hchecksum (hfield (by decide)) (hfield (by decide)) (hfield (by decide)) created]
  change _ ∧ _ ∧ validPreparedOperation (request.number 68 69) = true ∧
    (if request.number 68 69 = Operation.register.code then request.number 64 68 = 0 ∧ _ else _) ↔ _
  by_cases hop : request.number 68 69 = Operation.register.code
  · obtain ⟨hlength, hbatch, hzero⟩ := preparedBody_register cfg verdict body hop
    rw [if_pos hop, hlength, hbatch, hzero, hregister hop]
    have hprepared : validPreparedOperation Operation.register.code = true := by decide
    simp only [hprepared, hop, true_and, and_true, forall_const, and_assoc]
  · obtain ⟨hclient, hbody⟩ := hother hop
    rw [batch] at hbody
    obtain ⟨hprepared, hshape⟩ := validateOperationBody_prepared cfg verdict hop hclient hbody
    rw [if_neg hop]
    change _ ∧ _ ∧ _ ∧ validateOperationBody (request.number 68 69) _ _ true = .ok () ↔ _
    simp only [hprepared, hshape, hop, and_true, false_imp_iff]

/-! ### Every prepare a primary creates -/

/-- What a primary makes a prepare of. -/
inductive PrepareOrigin where
  | request (header : FrameHeader) (body : Bytes)
  | pulse
  | upgrade (target : Nat)
deriving DecidableEq, Repr

/-- The prepare made of it. -/
def Replica.create (replica : Replica χ) (cfg : Config) (wire : Wire χ) (verdict : Bytes → Nat)
    (wall : Nat) : PrepareOrigin → Option (FrameHeader × Bytes)
  | .request header body => replica.createPrepare cfg wire verdict header body wall
  | .pulse => replica.createPulse cfg wire wall
  | .upgrade target => replica.createUpgrade cfg wire target wall

namespace PrepareOrigin

/-- What has been checked before: a request came in as a frame, from a client or through another member;
an upgrade goes to a release of the history. -/
def Checked (cfg : Config) (hash : ChecksumFunction) : PrepareOrigin → Prop
  | .request header body => header.command = .request ∧ ∃ frame sender limit, ∃ context : ValidationContext,
      (context = cfg.clientContext limit ∨ context = cfg.peerContext sender limit) ∧
        decodeFrame hash frame context.group context.messageSizeMax context.memberCount =
          .ok (header, body) ∧
        header.validateSemantics hash body context = .ok ()
  | .pulse => True
  | .upgrade target => target ≠ 0 ∧ target < 256 ^ 4

/-- What is not checked before: that a client which registers is not zero, and that the 16 bytes of an
upgrade fit the batch limit. -/
def acceptable (cfg : Config) : PrepareOrigin → Bool
  | .request header _ => header.number 68 69 = Operation.register.code → isZero16 (header.field 32 48) = false
  | .pulse => true
  | .upgrade _ => 16 ≤ cfg.cluster.applicationBatchSizeMax % 256 ^ 4

end PrepareOrigin

/-- A prepare passes the checks of every member with the primary's configuration exactly where its op lies
above what is committed and its origin is acceptable. -/
theorem admits_create_iff {verdict : Bytes → Nat} {origin : PrepareOrigin} {header : FrameHeader}
    {frame : Bytes} {sender limit : Nat} (valid : cfg.toFormatConfig.valid = true)
    (word : cfg.currentRelease < 256 ^ 4) (words : replica.Words wall)
    (primary : replica.isPrimary cfg = true) (member : sender < cfg.memberCount)
    (checked : origin.Checked cfg wire.hash)
    (created : replica.create cfg wire verdict wall origin = some (header, frame)) :
    (cfg.peerContext sender limit).admits wire.hash frame = true ↔
      replica.commitMin < replica.nextPrepareOp ∧ origin.acceptable cfg = true := by
  have hcluster : cfg.cluster.Validated cfg.activeCount := FormatConfig.validated_of_valid valid
  simp only [FormatConfig.valid, decide_eq_true_eq] at valid
  have hown : cfg.localIndex = cfg.primary replica.view := by
    simpa [Replica.isPrimary] using Eq.symm (of_decide_eq_true primary)
  have hplace : (replica.nextPrepareOp ≠ 0 ∧ replica.commitMin < replica.nextPrepareOp) ↔
      replica.commitMin < replica.nextPrepareOp := by omega
  cases origin with
  | request request body =>
    obtain ⟨hcommand, requestFrame, source, room, context, hcontext, hdecodes, hvalidates⟩ := checked
    have hsame : context.currentRelease = cfg.currentRelease ∧
        context.applicationBatchSizeMax = cfg.cluster.applicationBatchSizeMax % 256 ^ 4 := by
      rcases hcontext with rfl | rfl <;> exact ⟨rfl, rfl⟩
    rw [admits_createPrepare_iff hcluster words member hdecodes hvalidates hcommand hsame.1 hsame.2 created,
      hplace, PrepareOrigin.acceptable, decide_eq_true_eq]
  | pulse =>
    rw [admits_createPulse_iff hcluster words hown member ⟨valid.2.1, word⟩ created, hplace]
    simp [PrepareOrigin.acceptable]
  | upgrade target =>
    rw [admits_createUpgrade_iff hcluster words hown member ⟨valid.2.1, word⟩ checked.1 checked.2 created,
      hplace, PrepareOrigin.acceptable, decide_eq_true_eq]

end Peer

/-! ### Two prepares at a reached primary -/

/-- Checksums of zeros. -/
def Wire.blank : Wire Digest where
  hash := ⟨fun _ => zeros 16, fun _ => length_zeros 16⟩
  bytes := fun _ => zeros 16
  length_bytes := fun _ => length_zeros 16

/-- The header of a request to register the given client. -/
def FrameHeader.registration (client : Nat) : FrameHeader where
  headerChecksum := zeros 16
  bodyChecksum := zeros 16
  group := threeMembers.groupBytes
  size := headerSize
  epoch := 0
  view := 0
  release := 1
  protocol := protocolVersion
  command := .request
  author := 0
  fields := record 128 [(32, putUint 16 client), (68, putUint 1 Operation.register.code)]

/-- The registration as a frame. -/
def registrationFrame (client : Nat) : Bytes := (FrameHeader.registration client).encoded Wire.blank.hash

/-- Whether the registration of the client comes in as a frame that passes every check and is prepared by
the primary in its pipeline. -/
def Replica.registers (replica : Replica Digest) (cfg : Config) (client : Nat) : Bool :=
  let context := cfg.clientContext 8
  decide (replica.status = .normal ∧ replica.isPrimary cfg = true ∧
    decodeFrame Wire.blank.hash (registrationFrame client) context.group context.messageSizeMax
      context.memberCount = .ok (FrameHeader.registration client, []) ∧
    (FrameHeader.registration client).validateSemantics Wire.blank.hash [] context = .ok () ∧
    (replica.handleRequest cfg (.prompt cfg 1) (.registration client) ⟨1, 1, true⟩).headOp =
      replica.headOp + 1)

/-- Whether a member refuses the prepare made of it. -/
def Replica.refused (replica : Replica Digest) (cfg : Config) (sender : Nat) (origin : PrepareOrigin) : Bool :=
  (replica.create cfg Wire.blank (fun _ => 0) 1 origin).any fun sealed =>
    ¬ (cfg.peerContext sender 8).admits Wire.blank.hash sealed.2

theorem admits_create_registration : ∃ header frame,
    (Replica.fresh threeMembers).create threeMembers Wire.blank (fun _ => 0) 1
        (.request (.registration 1) []) = some (header, frame) ∧
      (threeMembers.peerContext 0 8).admits Wire.blank.hash frame = true := by
  have hsealed : ((Replica.fresh threeMembers).create threeMembers Wire.blank (fun _ => 0) 1
      (.request (.registration 1) [])).isSome = true := by decide +kernel
  obtain ⟨⟨header, frame⟩, hcreated⟩ := Option.isSome_iff_exists.mp hsealed
  have hchecked : (PrepareOrigin.request (.registration 1) []).Checked threeMembers Wire.blank.hash :=
    ⟨rfl, registrationFrame 1, 0, 8, threeMembers.clientContext 8, .inl rfl, by decide +kernel,
      by decide +kernel⟩
  exact ⟨header, frame, hcreated, (admits_create_iff (by decide) (by decide) ⟨by decide, by decide, by decide⟩
    (by decide) (by decide) hchecked hcreated).mpr ⟨by decide +kernel, by decide +kernel⟩⟩

/-- A registration of client zero passes every check and is prepared by a reached primary, and every other
member refuses the prepare. -/
theorem zero_client_registers_refused : ∃ cluster replica,
    Transition.Reaches (Cluster.step threeMembers) (fun _ _ => True) (Cluster.initial threeMembers) cluster ∧
      cluster.running? 1 = some replica ∧ replica.registers (threeMembers.member 1) 0 = true ∧
      replica.refused (threeMembers.member 1) 1 (.request (.registration 0) []) = true := by
  have hfinds : (Cluster.follow threeMembers (fun _ _ => true) toPrimary).any (fun cluster =>
      (cluster.running? 1).any fun replica => replica.registers (threeMembers.member 1) 0 &&
        replica.refused (threeMembers.member 1) 1 (.request (.registration 0) [])) = true := by
    decide +kernel
  obtain ⟨cluster, hreached, hfound⟩ :=
    Cluster.reaches_of_follow (fun _ _ => True) (fun _ _ _ => trivial) hfinds
  obtain ⟨replica, hrunning, hboth⟩ := (Option.any_eq_true _ _).mp hfound
  rw [Bool.and_eq_true] at hboth
  exact ⟨cluster, replica, hreached, hrunning, hboth.1, hboth.2⟩

end Supervsr
