import Supervsr.Wal

/-
# Supervsr.WalRecovery — rebuilding the journal from its two zones

`WAL.Recover` reads both zones, classifies every slot on its own, rewrites the header ring where a
slot was repaired or truncated, and then walks the hash chain from the checkpoint as far as the slots
it kept carry it.  That head is what a restarted replica votes with.
-/

namespace Supervsr

structure WALRecoveryReport (χ : Type) where
  headOp : Nat
  headHeader : Header χ
  faultySlots : Nat
  untrustedMax : Nat
deriving DecidableEq, Repr

section Recovery

variable {χ : Type}

def maxCandidateOp (current : Nat) (candidate : WALCandidate χ) : Nat :=
  match candidate with
  | .ordinary header => max current header.op
  | _ => current

/-- The largest op any cell claims, at least the checkpoint's. -/
def WALZones.untrustedMax (zones : WALZones χ) (cluster : ClusterConfig) (checkpoint : Nat) : Nat :=
  (List.range cluster.journalSlots).foldl (fun current slot =>
    maxCandidateOp (maxCandidateOp current ((zones.headers.get slot).candidate slot))
      ((zones.prepares.get slot).candidate slot)) checkpoint

/-- The journal while its slots are being classified. -/
structure WALRecoveryState (χ : Type) where
  wal : WAL χ
  repairHeaders : Bool
  faulty : Nat
deriving DecidableEq, Repr

variable [DecidableEq χ] [Checksums χ]

/-- The decision for one slot. -/
def WALZones.decision (zones : WALZones χ) (cluster : ClusterConfig) (checkpoint prepareMax : Nat)
    (installed : WALRecoveryView) (slot : Nat) : WALRecoveryDecision :=
  classifyWALSlot ((zones.headers.get slot).candidate slot) ((zones.prepares.get slot).candidate slot)
    { physicalSlot := slot
      journalSlots := cluster.journalSlots
      retainedMin := checkpoint
      prepareMax := prepareMax
      untrustedMax := zones.untrustedMax cluster checkpoint
      installed := installed }

/-- One round of the classification loop of `Recover`. -/
def recoverSlot (zones : WALZones χ) (cluster : ClusterConfig) (checkpoint prepareMax : Nat)
    (installed : WALRecoveryView) (state : WALRecoveryState χ) (slot : Nat) :
    Except WALError (WALRecoveryState χ) :=
  match zones.decision cluster checkpoint prepareMax installed slot with
  | .clean =>
    match zones.prepares.get slot with
    | .frame header => .ok { state with wal := state.wal.installRecoveredSlot slot header }
    | _ => .error .recovery
  | .cleanEmpty => .ok { state with wal := state.wal.installReservedSlot slot }
  | .localRepair =>
    match zones.prepares.get slot with
    | .frame header =>
      let wal := state.wal.installRecoveredSlot slot header
      .ok { state with
        wal := { wal with headerRing := wal.headerRing.set slot (.frame header) }
        repairHeaders := true }
    | _ => .error .recovery
  | .truncate =>
    let wal := state.wal.installReservedSlot slot
    .ok { state with
      wal := { wal with headerRing := wal.headerRing.set slot .reserved }
      repairHeaders := true }
  | .remoteRepair =>
    let reserved : WALSlot χ := .reserved slot
    .ok { state with
      wal := { state.wal with
        slots := state.wal.slots.set slot { reserved with dirty := true, faulty := true } }
      faulty := state.faulty + 1 }
  | .fail => .error .recovery

/-- The chain walk of `Recover`: as long as the slot of the next op holds a prepare that names the
current head as its parent. -/
def WAL.chainHead (wal : WAL χ) (cluster : ClusterConfig) : Nat → Nat → Header χ → Nat × Header χ
  | 0, headOp, head => (headOp, head)
  | rounds + 1, headOp, head =>
    let recovered := wal.slot cluster (headOp + 1)
    if ¬ recovered.inhabited ∨ recovered.op ≠ headOp + 1 then (headOp, head)
    else
      match recovered.authoritative with
      | none => (headOp, head)
      | some candidate =>
        if candidate.parent ≠ head.checksum then (headOp, head)
        else wal.chainHead cluster rounds (headOp + 1) candidate

/-- The classification loop of `Recover`, on a new journal. -/
def WALZones.recoverSlots (zones : WALZones χ) (cluster : ClusterConfig) (checkpoint : Nat)
    (installed : WALRecoveryView) : Except WALError (WALRecoveryState χ) :=
  match prepareMaximum cluster checkpoint with
  | none => .error .recovery
  | some prepareMax =>
    (List.range cluster.journalSlots).foldlM
      (recoverSlot zones cluster checkpoint prepareMax installed)
      { wal := { WAL.new with headerRing := zones.headers }, repairHeaders := false, faulty := 0 }

/-- The zones `Recover` leaves, whether or not it then reports a head: the header ring is rewritten as
soon as every slot is classified. -/
def WALZones.afterRecovery (zones : WALZones χ) (cluster : ClusterConfig) (memberCount checkpoint : Nat)
    (installed : WALRecoveryView) : WALZones χ :=
  match zones.recoverSlots cluster checkpoint installed with
  | .error _ => zones
  | .ok state =>
    if state.faulty ≠ 0 ∧ memberCount = 1 then zones
    else if state.repairHeaders then { zones with headers := state.wal.headerRing }
    else zones

/-- `WAL.Recover`: the slots and the report. -/
def WALZones.recover (zones : WALZones χ) (cluster : ClusterConfig) (memberCount : Nat)
    (checkpoint : CheckpointState χ) (commitMax : Nat) (installed : WALRecoveryView) :
    Except WALError (WAL χ × WALRecoveryReport χ) := do
  let state ← zones.recoverSlots cluster checkpoint.prepareOp installed
  if state.faulty ≠ 0 ∧ memberCount = 1 then .error .uncertainSolo
  else
    let untrustedMax := zones.untrustedMax cluster checkpoint.prepareOp
    let head := state.wal.chainHead cluster (untrustedMax - checkpoint.prepareOp)
      checkpoint.prepareOp checkpoint.header
    if head.1 < commitMax ∧ state.faulty = 0 then .error .recovery
    else
      .ok (state.wal,
        { headOp := head.1, headHeader := head.2, faultySlots := state.faulty,
          untrustedMax := untrustedMax })

end Recovery

end Supervsr
