import Supervsr.Cluster
import Supervsr.Digest

/-
# Supervsr.SmallCluster — clusters small enough to evaluate

Where a theorem needs a run to be exhibited, the run is taken in a cluster of this shape: the shortest
compaction, a journal and a pipeline given by the run, and surroundings that answer at once.  The run is
written down as directions, so that frames and requests need not be spelled out.
-/

namespace Supervsr

/-- Limits with a compaction at every op. -/
def ClusterConfig.small (pipelineMax journalSlots : Nat) : ClusterConfig :=
  { ClusterConfig.default with
    pipelineMax := pipelineMax
    viewChangeHeadersSuffixMax := pipelineMax + 1
    compactionOps := 1
    journalSlots := journalSlots }

/-- The configuration of the first of `activeCount` members. -/
def Config.small (activeCount pipelineMax journalSlots : Nat) : Config where
  group := 1
  membership := {
    members := (List.range 12).map fun index => if index < activeCount then index + 1 else 0
    activeCount := activeCount
    standbyCount := 0
    localMember := 1 }
  cluster := .small pipelineMax journalSlots
  currentRelease := 1
  clientReleaseMin := 1
  initialRTT := 1
  primaryRequestQueueMax := 1

/-- Three members with the shortest pipeline and journal. -/
def threeMembers : Config := .small 3 1 32

theorem threeMembers_validated : threeMembers.cluster.Validated threeMembers.activeCount :=
  ClusterConfig.validated_of_validate (by decide : threeMembers.cluster.validate 3 0 = .ok ())

/-- Surroundings that answer at once, at a given time. -/
def Inputs.prompt (cfg : Config) (time : Nat) : Inputs Digest where
  sample := ⟨time, time, true⟩
  nonce := 7
  repairPeer := none
  headersPeer := none
  ioAvailable := true
  readsDrained := true
  admitted := fun _ => true
  replyLength := fun _ => 1
  prefetchReady := fun _ => true
  compactReady := fun _ => true
  checkpointReady := fun _ => true
  resetReady := true
  openReady := true
  checkpointBlocks := fun _ => .formatted 1 (cfg.cluster.blockBase.getD 0)
  blockRepairActive := false
  repliesRepaired := true
  replyRepairActive := false
  replyRepairBlocksCommit := false
  failureRed := false
  pulseNeeded := true

/-- A step of a run, in terms of what members have sent and asked for so far. -/
inductive Direction where
  | act (index : Nat) (action : NodeAction Digest)
  /-- an event, and the end of its round -/
  | round (index time : Nat) (event : Replica.Event Digest)
  /-- a member receives what another has sent, counted from the latest -/
  | hand (sender receiver position time : Nat)
  /-- the same, and the end of its round -/
  | deliver (sender receiver position time : Nat)
  /-- every request of a member is carried out and taken, in order -/
  | settle (index time : Nat)

/-- What a member has handed to the message bus, counted from the latest. -/
def Cluster.sent? (cluster : Cluster Digest) (sender position : Nat) : Option (Message Digest) :=
  ((cluster.nodes[sender]?).bind fun node => node.durable.sent[position]?).map Packet.message

/-- The actions a direction stands for. -/
def Cluster.directed (cfg : Config) (cluster : Cluster Digest) : Direction → List (Nat × NodeAction Digest)
  | .act index action => [(index, action)]
  | .round index time event =>
    [(index, .event (.prompt cfg time) event), (index, .endRound (.prompt cfg time))]
  | .hand sender receiver position time =>
    (cluster.sent? sender position).toList.map fun message =>
      (receiver, .event (.prompt cfg time) (.receive message))
  | .deliver sender receiver position time =>
    (cluster.sent? sender position).toList.flatMap fun message =>
      [(receiver, .event (.prompt cfg time) (.receive message)), (receiver, .endRound (.prompt cfg time))]
  | .settle index time =>
    match (cluster.nodes[index]?).bind Node.replica? with
    | none => []
    | some replica => replica.io.flatMap fun pending =>
      [(index, .event (.prompt cfg time) (.perform pending.handle)),
        (index, .event (.prompt cfg time) (.complete pending.handle)),
        (index, .endRound (.prompt cfg time))]

/-- The cluster at the end of a directed run of which every step passes the check. -/
def Cluster.follow (cfg : Config) (check : Cluster Digest → Nat × NodeAction Digest → Bool)
    (directions : List Direction) : Option (Cluster Digest) :=
  Transition.follow (Cluster.step cfg) check (Cluster.directed cfg) (.initial cfg) directions

/-- What a directed run shows: a state of that kind can be reached. -/
theorem Cluster.reaches_of_follow {cfg : Config} {check : Cluster Digest → Nat × NodeAction Digest → Bool}
    (allowed : Cluster Digest → Nat × NodeAction Digest → Prop)
    (sound : ∀ cluster action, check cluster action = true → allowed cluster action)
    {directions : List Direction} {found : Cluster Digest → Bool}
    (finds : (Cluster.follow cfg check directions).any found = true) :
    ∃ cluster, Transition.Reaches (Cluster.step cfg) allowed (Cluster.initial cfg) cluster ∧
      found cluster = true := by
  obtain ⟨cluster, hfollowed, hfound⟩ := (Option.any_eq_true _ _).mp finds
  exact ⟨cluster, Transition.reaches_of_follow sound hfollowed, hfound⟩

/-- The replica a member of the cluster is running. -/
def Cluster.running? (cluster : Cluster Digest) (index : Nat) : Option (Replica Digest) :=
  match cluster.nodes[index]? with
  | some (.running replica) => some replica
  | _ => none

theorem Cluster.running?_eq_some {cluster : Cluster Digest} {index : Nat} {replica : Replica Digest}
    (running : cluster.running? index = some replica) : cluster.nodes[index]? = some (.running replica) := by
  unfold Cluster.running? at running
  split at running
  · rename_i hnode
    rw [hnode, Option.some.inj running]
  · cases running

theorem Cluster.running_of_follow {cfg : Config} {check : Cluster Digest → Nat × NodeAction Digest → Bool}
    (allowed : Cluster Digest → Nat × NodeAction Digest → Prop)
    (sound : ∀ cluster action, check cluster action = true → allowed cluster action)
    {directions : List Direction} {index : Nat} {found : Replica Digest → Bool}
    (finds : (Cluster.follow cfg check directions).any
      (fun cluster => (cluster.running? index).any found) = true) :
    ∃ cluster replica, Transition.Reaches (Cluster.step cfg) allowed (Cluster.initial cfg) cluster ∧
      cluster.nodes[index]? = some (.running replica) ∧ found replica = true := by
  obtain ⟨cluster, hreached, hfound⟩ := reaches_of_follow allowed sound finds
  obtain ⟨replica, hrunning, hshows⟩ := (Option.any_eq_true _ _).mp hfound
  exact ⟨cluster, replica, hreached, running?_eq_some hrunning, hshows⟩

/-- The storage of a member that is down. -/
def Cluster.down? (cluster : Cluster Digest) (index : Nat) : Option (Durable Digest) :=
  match cluster.nodes[index]? with
  | some (.down durable) => some durable
  | _ => none

theorem Cluster.down?_eq_some {cluster : Cluster Digest} {index : Nat} {durable : Durable Digest}
    (down : cluster.down? index = some durable) : cluster.nodes[index]? = some (.down durable) := by
  unfold Cluster.down? at down
  split at down
  · rename_i hnode
    rw [hnode, Option.some.inj down]
  · cases down

/-- The members open, and the second becomes the primary of view 1. -/
def toPrimary : List Direction :=
  [.act 0 .open, .act 1 .open, .act 2 .open, .round 0 1 (.timer .join), .deliver 0 1 0 1, .settle 1 1,
    .deliver 0 1 0 1, .settle 1 1]

/-- The other two install that view as well. -/
def toNormal : List Direction :=
  toPrimary ++ [.deliver 1 0 0 2, .settle 0 2, .settle 0 2, .deliver 1 2 0 2, .settle 2 2, .settle 2 2]

/-- The primary of view 1 prepares a pulse, the third member acknowledges it, and both execute it. -/
def onePulse (time : Nat) : List Direction :=
  [.round 1 time (.timer .pulse), .settle 1 time, .deliver 1 2 0 time, .settle 2 time, .deliver 2 1 0 time,
    .settle 1 time, .round 1 time (.timer .commit), .deliver 1 2 0 time, .settle 2 time]

/-- The request of a client to be registered. -/
def Request.registration (client : Nat) : Request Digest where
  client := client
  request := 0
  operation := .register
  view := 0
  release := 1
  checksum := Checksums.zero
  bodyChecksum := checksumBytes []

/-- The record a member of the cluster starts from, before anything has happened. -/
def Replica.fresh (cfg : Config) : Replica Digest :=
  .initial cfg (deriveInterruptedStateSync (cfg.superblock 0 0)) (.formatted cfg) ⟨.empty, .empty⟩ 0

/-- A prepare without a client's request, linked to `parent`. -/
def Header.linkedTo (parent : Digest) (op view : Nat) : Header Digest :=
  { (Header.root : Header Digest) with
    parent := parent
    op := op
    view := view
    timestamp := op
    operation := .pulse
    release := 1 }

end Supervsr
