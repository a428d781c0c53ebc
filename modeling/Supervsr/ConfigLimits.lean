import Supervsr.PrepareFrame
import Supervsr.Sessions

/-
# Supervsr.ConfigLimits — the limits of a configuration, as the replica narrows them

`Config.Validate` works on 64-bit limits; frames, sessions and blocks are then checked against the same
limits in 32, 16 and 8 bits.  `Validate` bounds some of them and not others, so a limit can change its value
on the way.
-/

namespace Supervsr

/-! ## `Config.Validate` -/

/-- `ProcessConfig`; times are in nanoseconds. -/
structure ProcessConfig where
  tick : Int
  initialRTT : Int
  maximumRTT : Int
  rttMultiplier : Nat
  backoffMin : Int
  backoffMax : Int
  primaryRequestQueueMax : Nat
  journalReadConcurrency : Nat
  journalWriteConcurrency : Nat
  replyReadConcurrency : Nat
  replyWriteConcurrency : Nat
  blockReadConcurrency : Nat
  blockWriteConcurrency : Nat
  storageSizeLimit : Nat
  repairRequestsMax : Nat
  repairReadsMax : Nat
  scrubReadConcurrency : Nat
  scrubWriteConcurrency : Nat
  scrubCycle : Int
  scrubIntervalMin : Int
  scrubIntervalMax : Int
  clockOffsetToleranceMax : Int
  clockEpochMax : Int
  clockWindowMin : Int
  clockWindowMax : Int
deriving DecidableEq, Repr

namespace ProcessConfig

def millisecond : Int := 1000000

def second : Int := 1000 * millisecond

/-- `DefaultProcessConfig`. -/
def default : ProcessConfig where
  tick := 10 * millisecond
  initialRTT := 300 * millisecond
  maximumRTT := 60 * second
  rttMultiplier := 2
  backoffMin := 10 * millisecond
  backoffMax := 10 * second
  primaryRequestQueueMax := 2
  journalReadConcurrency := 8
  journalWriteConcurrency := 32
  replyReadConcurrency := 1
  replyWriteConcurrency := 2
  blockReadConcurrency := 32
  blockWriteConcurrency := 32
  storageSizeLimit := 16 * 2 ^ 40
  repairRequestsMax := 4
  repairReadsMax := 4
  scrubReadConcurrency := 1
  scrubWriteConcurrency := 1
  scrubCycle := 180 * 24 * 3600 * second
  scrubIntervalMin := 50 * millisecond
  scrubIntervalMax := 10 * second
  clockOffsetToleranceMax := 10 * second
  clockEpochMax := 60 * second
  clockWindowMin := 2 * second
  clockWindowMax := 20 * second

def concurrencyPositive (cfg : ProcessConfig) : Bool :=
  [cfg.primaryRequestQueueMax, cfg.journalReadConcurrency, cfg.journalWriteConcurrency, cfg.replyReadConcurrency,
    cfg.replyWriteConcurrency, cfg.blockReadConcurrency, cfg.blockWriteConcurrency, cfg.repairRequestsMax,
    cfg.repairReadsMax, cfg.scrubReadConcurrency, cfg.scrubWriteConcurrency].all (0 < ·)

open ClusterConfig in
/-- `ProcessConfig.Validate`. -/
def validate (cfg : ProcessConfig) (cluster : ClusterConfig) : Except ConfigError Unit := do
  refuseIf (cfg.tick ≤ 0 ∨ cfg.initialRTT < cfg.tick ∨ cfg.maximumRTT < cfg.initialRTT)
    "RTT" "require 0 < Tick <= InitialRTT <= MaximumRTT"
  refuseIf (50 * millisecond ≤ cfg.tick) "Tick" "must be less than half the 100ms failure-detector minimum"
  refuseIf (cfg.rttMultiplier = 0) "RTTMultiplier" "must be positive"
  refuseIf (cfg.backoffMin ≤ 0 ∨ cfg.backoffMax < cfg.backoffMin)
    "Backoff" "require 0 < BackoffMin <= BackoffMax"
  refuseIf (¬ cfg.concurrencyPositive) "concurrency" "queue and concurrency values must be positive"
  refuseIf (cfg.scrubIntervalMin ≤ 0 ∨ cfg.scrubIntervalMax < cfg.scrubIntervalMin ∨
      cfg.scrubCycle < cfg.scrubIntervalMax)
    "ScrubInterval" "require 0 < minimum <= maximum <= cycle"
  refuseIf (cfg.clockWindowMin ≤ 0 ∨ cfg.clockWindowMax < cfg.clockWindowMin ∨
      cfg.clockEpochMax < cfg.clockWindowMax)
    "ClockWindow" "require 0 < minimum <= maximum <= epoch"
  refuseIf (¬ cluster.blockBase.any (fun blockBase =>
      blockBase ≤ cfg.storageSizeLimit ∧ (cfg.storageSizeLimit - blockBase) % cluster.blockSize = 0))
    "StorageSizeLimit" "must cover BlockBase in whole block extents"

end ProcessConfig

/-- What `Config.Validate` refuses a configuration for. -/
inductive ConfigRefusal where
  | field (error : ConfigError)
  | invalidMembership
deriving DecidableEq, Repr

/-- `Config.Validate`. -/
def Config.validate (cfg : Config) (process : ProcessConfig) : Except ConfigRefusal Unit :=
  if cfg.group = 0 then .error (.field ⟨"Group", "must be nonzero"⟩)
  else if ¬ cfg.membership.valid then .error .invalidMembership
  else
    match cfg.cluster.validate cfg.membership.activeCount cfg.membership.standbyCount with
    | .error error => .error (.field error)
    | .ok () =>
      match process.validate cfg.cluster with
      | .error error => .error (.field error)
      | .ok () =>
        if cfg.clientReleaseMin = 0 ∨ cfg.currentRelease < cfg.clientReleaseMin then
          .error (.field ⟨"release", "require 0 < ClientReleaseMin <= CurrentRelease"⟩)
        else .ok ()

/-! ## The narrowed limits -/

/-- `newOpenSessionTable`. -/
def Config.sessionTableConfig (cfg : Config) : SessionTableConfig where
  clientsMax := cfg.cluster.clientsMax % 256 ^ 4
  activeCount := cfg.activeCount
  messageSizeMax := cfg.cluster.messageSizeMax % 256 ^ 4
  applicationReplySizeMax := cfg.cluster.applicationReplySizeMax % 256 ^ 4

/-- The limit `BlockStore` decodes blocks with. -/
def Config.blockLimit (cfg : Config) : Nat := cfg.cluster.blockSize % 256 ^ 4

/-- The value of a product of two `int`s. -/
def intProduct (left right : Nat) : Int := Int.bmod (left * right) (2 ^ 64)

/-- The sizes `newBlockRepairBudget` allocates. -/
structure BlockRepairSizes where
  batchMax : Nat
  perPeer : Nat
  requests : Nat
  requestStorage : Int
  entries : Int
deriving DecidableEq, Repr

def newBlockRepairBudget (memberCount batchMax : Nat) : Option BlockRepairSizes :=
  if memberCount = 0 ∨ membersMax < memberCount ∨ batchMax = 0 then none
  else
    let perPeer := (batchMax + 1) % 256 ^ 4
    some {
      batchMax := batchMax
      perPeer := perPeer
      requests := batchMax
      requestStorage := intProduct batchMax batchMax
      entries := intProduct memberCount perPeer }

/-- Every limit has the value of the configuration after its conversion. -/
structure Config.Preserved (cfg : Config) (process : ProcessConfig) : Prop where
  frames : ∀ sender, let context := cfg.peerContext sender process.repairRequestsMax
    context.messageSizeMax = cfg.cluster.messageSizeMax ∧
    context.applicationBatchSizeMax = cfg.cluster.applicationBatchSizeMax ∧
    context.applicationReplySizeMax = cfg.cluster.applicationReplySizeMax ∧
    context.pipelineMax = cfg.cluster.pipelineMax ∧
    context.releaseHistoryMax = cfg.cluster.releaseHistoryMax
  sessions : cfg.sessionTableConfig = {
    clientsMax := cfg.cluster.clientsMax
    activeCount := cfg.activeCount
    messageSizeMax := cfg.cluster.messageSizeMax
    applicationReplySizeMax := cfg.cluster.applicationReplySizeMax }
  blocks : cfg.blockLimit = cfg.cluster.blockSize
  budget : newBlockRepairBudget cfg.memberCount process.repairRequestsMax = some {
    batchMax := process.repairRequestsMax
    perPeer := process.repairRequestsMax + 1
    requests := process.repairRequestsMax
    requestStorage := process.repairRequestsMax * process.repairRequestsMax
    entries := cfg.memberCount * (process.repairRequestsMax + 1) }

/-- What `Validate` leaves open: messages of 4 GiB and more, 2³² clients and more, and repair batches whose
square does not fit an `int`. -/
def Config.narrow (cfg : Config) (process : ProcessConfig) : Bool :=
  cfg.cluster.messageSizeMax < 2 ^ 32 ∧ cfg.cluster.clientsMax < 2 ^ 32 ∧
    process.repairRequestsMax * process.repairRequestsMax < 2 ^ 63

section Narrow

variable {cfg : Config} {process : ProcessConfig}

theorem Config.cluster_of_validate (valid : cfg.validate process = .ok ()) :
    cfg.membership.valid = true ∧
      cfg.cluster.validate cfg.membership.activeCount cfg.membership.standbyCount = .ok () ∧
      process.validate cfg.cluster = .ok () := by
  unfold Config.validate at valid
  split at valid
  · cases valid
  split at valid
  · cases valid
  rename_i hmembership
  split at valid
  · cases valid
  rename_i hcluster
  split at valid
  · cases valid
  rename_i hprocess
  exact ⟨not_not.mp hmembership, hcluster, hprocess⟩

theorem Config.members_of_validate (valid : cfg.validate process = .ok ()) :
    0 < cfg.memberCount ∧ cfg.memberCount ≤ membersMax := by
  have hmembership := (cluster_of_validate valid).1
  simp only [Membership.valid, decide_eq_true_eq] at hmembership
  have hactive := hmembership.1
  have htotal := hmembership.2.2.2.1
  simp only [Config.memberCount]
  omega

theorem ProcessConfig.repairRequests_pos {cluster : ClusterConfig} (valid : process.validate cluster = .ok ()) :
    0 < process.repairRequestsMax := by
  simp only [ProcessConfig.validate, bind_eq_ok, ClusterConfig.refuseIf_eq_ok, exists_and_left,
    exists_const, not_not] at valid
  have hconcurrency := valid.2.2.2.2.1
  simp only [concurrencyPositive, List.all_cons, List.all_nil, Bool.and_eq_true, decide_eq_true_eq] at hconcurrency
  omega

theorem intProduct_eq {left right : Nat} (fits : left * right < 2 ^ 63) :
    intProduct left right = (left * right : Nat) := by
  have hbmod : ∀ {n : Int}, 0 ≤ n → n < 2 ^ 63 → Int.bmod n (2 ^ 64) = n := by
    intro n hpos hlt
    exact Int.bmod_eq_of_le (by omega) (by omega)
  unfold intProduct
  exact hbmod (by omega) (by omega)

theorem lt_of_intProduct {left right : Nat} (same : intProduct left right = (left * right : Nat)) :
    left * right < 2 ^ 63 := by
  have hlt : intProduct left right < ((2 ^ 64 : Nat) + 1) / 2 := Int.bmod_lt (by decide)
  rw [same] at hlt
  omega

end Narrow

/-- Every limit keeps its value exactly where the limits `Validate` leaves open are narrow. -/
theorem limits_preserved_iff (cfg : Config) (process : ProcessConfig) (valid : cfg.validate process = .ok ()) :
    cfg.Preserved process ↔ cfg.narrow process = true := by
  obtain ⟨-, hcluster, hprocess⟩ := Config.cluster_of_validate valid
  have hsized := ClusterConfig.sized_of_validate hcluster
  have hpipeline := (ClusterConfig.validated_of_validate hcluster).pipeline_le
  have hmembers := Config.members_of_validate valid
  have hrepair := ProcessConfig.repairRequests_pos hprocess
  have hbudget : ¬ (cfg.memberCount = 0 ∨ membersMax < cfg.memberCount ∨ process.repairRequestsMax = 0) := by omega
  rw [Config.narrow, decide_eq_true_eq]
  constructor
  · intro hpreserved
    have hmessage : cfg.cluster.messageSizeMax % 256 ^ 4 = cfg.cluster.messageSizeMax :=
      (hpreserved.frames 0).1
    have hclients : cfg.cluster.clientsMax % 256 ^ 4 = cfg.cluster.clientsMax :=
      congrArg SessionTableConfig.clientsMax hpreserved.sessions
    have hsizes := hpreserved.budget
    rw [newBlockRepairBudget, if_neg hbudget] at hsizes
    simp only [Option.some.injEq, BlockRepairSizes.mk.injEq] at hsizes
    refine ⟨by omega, by omega, lt_of_intProduct ?_⟩
    rw [Int.natCast_mul]
    exact hsizes.2.2.2.1
  · rintro ⟨hmessage, hclients, hsquare⟩
    have hblock := hsized.block_le
    have hbatch := hsized.batch_le
    have hreply := hsized.reply_le
    have hhistory := hsized.history_le
    have hpeer : process.repairRequestsMax + 1 < 256 ^ 4 := by
      by_contra hlarge
      have hle : 2 ^ 32 - 1 ≤ process.repairRequestsMax := by omega
      have hproduct := Nat.mul_le_mul hle hle
      omega
    have hentries : cfg.memberCount * (process.repairRequestsMax + 1) < 2 ^ 63 := by
      have hproduct := Nat.mul_le_mul hmembers.2 (Nat.le_of_lt hpeer)
      simp only [membersMax, activeMax, standbyMax] at hproduct
      omega
    refine ⟨fun sender => ⟨Nat.mod_eq_of_lt (by omega), Nat.mod_eq_of_lt (by omega), Nat.mod_eq_of_lt (by omega),
      Nat.mod_eq_of_lt (show cfg.cluster.pipelineMax < 256 by omega), Nat.mod_eq_of_lt (by omega)⟩, ?_, Nat.mod_eq_of_lt (by omega), ?_⟩
    · simp only [Config.sessionTableConfig, SessionTableConfig.mk.injEq, true_and]
      exact ⟨Nat.mod_eq_of_lt (by omega), Nat.mod_eq_of_lt (by omega), Nat.mod_eq_of_lt (by omega)⟩
    rw [newBlockRepairBudget, if_neg hbudget]
    simp only [Option.some.injEq, BlockRepairSizes.mk.injEq, Nat.mod_eq_of_lt hpeer, intProduct_eq hsquare,
      intProduct_eq hentries, Int.natCast_mul, Int.natCast_add, true_and]
    exact rfl

/-- Three members with the default limits, and storage for no block. -/
def defaultConfig (messageSizeMax : Nat) : Config where
  group := 1
  membership := {
    members := [1, 2, 3, 0, 0, 0, 0, 0, 0, 0, 0, 0]
    activeCount := 3
    standbyCount := 0
    localMember := 1 }
  cluster := { ClusterConfig.default with messageSizeMax := messageSizeMax }
  currentRelease := 1
  clientReleaseMin := 1
  initialRTT := 300
  primaryRequestQueueMax := 2

def defaultProcess (cfg : Config) : ProcessConfig :=
  { ProcessConfig.default with storageSizeLimit := cfg.cluster.blockBase.getD 0 }

theorem limits_preserved_default :
    (defaultConfig 1048576).Preserved (defaultProcess (defaultConfig 1048576)) :=
  (limits_preserved_iff _ _ (by decide +kernel)).mpr (by decide +kernel)

/-- Messages of 4 GiB are accepted, and narrow to messages of no size. -/
theorem message_limit_lost :
    (defaultConfig (2 ^ 32)).validate (defaultProcess (defaultConfig (2 ^ 32))) = .ok () ∧
      (defaultConfig (2 ^ 32)).frameLimit = 0 ∧
      ¬ (defaultConfig (2 ^ 32)).Preserved (defaultProcess (defaultConfig (2 ^ 32))) := by
  refine ⟨by decide +kernel, by decide +kernel, fun hpreserved => ?_⟩
  have hframes : (defaultConfig (2 ^ 32)).frameLimit = (defaultConfig (2 ^ 32)).cluster.messageSizeMax :=
    (hpreserved.frames 0).1
  exact absurd hframes (by decide +kernel)

end Supervsr
