import Supervsr.Lib.Transition
import Supervsr.Open

/-
# Supervsr.Cluster — members that run, stop, crash and restart, and the network between them

A member is down, running, or stopped by an error of its own.  The network is what its members have
ever handed to the message bus: any of it can reach an addressee any number of times, in any order, or
not at all.  Clients may send any request to any member.
-/

namespace Supervsr

variable {χ : Type}

/-- One member. -/
inductive Node (χ : Type) where
  | down (durable : Durable χ)
  | running (replica : Replica χ)
  | stopped (replica : Replica χ)

/-- What the member would keep if it crashed now, apart from writes under way. -/
def Node.durable : Node χ → Durable χ
  | .down durable => durable
  | .running replica => replica.durable
  | .stopped replica => replica.durable

/-- The replica, while there is one. -/
def Node.replica? : Node χ → Option (Replica χ)
  | .down _ => none
  | .running replica => some replica
  | .stopped replica => some replica

/-- What can happen to one member. -/
inductive NodeAction (χ : Type) where
  /-- the event loop or a worker takes a step -/
  | event (inputs : Inputs χ) (event : Replica.Event χ)
  /-- a round of the event loop ends -/
  | endRound (inputs : Inputs χ)
  /-- a crash; the append with this handle may have got as far as its prepare -/
  | crash (torn : Option Nat)
  /-- `Open` -/
  | «open»
  /-- a crash in the middle of the replay of `Open` -/
  | interruptOpen (count : Nat)
  /-- one cell of the journal decays while the member is down -/
  | damage (slot : Nat) (prepare : Bool)

/-- What a crash leaves: the completed writes, and the prepare of one append under way. -/
def Replica.crash (replica : Replica χ) (cfg : Config) (torn : Option Nat) : Durable χ :=
  let durable := replica.durable
  match torn.bind fun handle => replica.io.find? (fun pending =>
      pending.handle = handle ∧ pending.result.isNone) with
  | none => durable
  | some pending =>
    match pending.operation with
    | .walAppend header reusableThrough =>
      if replica.wal.appendable cfg.cluster header reusableThrough then
        let index := header.op % cfg.cluster.journalSlots
        { durable with zones := durable.zones.writePrepare index header }
      else durable
    | _ => durable

/-- Damage to one cell of one of the two zones. -/
def WALZones.damage (zones : WALZones χ) (slot : Nat) (prepare : Bool) : WALZones χ :=
  if prepare then { zones with prepares := zones.prepares.set slot .damaged }
  else { zones with headers := zones.headers.set slot .damaged }

section Step

variable [DecidableEq χ] [Checksums χ]

/-- The state of a freshly formatted member. -/
def Durable.formatted (cfg : Config) : Durable χ where
  superblock := cfg.superblock 0 0
  zones := .formatted
  sent := []
  executed := []

/-- One step of a member; `none` where the action does not apply. -/
def Node.step (cfg : Config) : Node χ → NodeAction χ → Option (Node χ)
  | .running replica, .event inputs event => some (.running (replica.handle cfg inputs event))
  | .running replica, .endRound inputs =>
    let replica := replica.endRound cfg inputs
    some (if replica.continues cfg then .running replica else .stopped replica)
  | .stopped replica, .event _ (.perform handle) => some (.stopped (replica.perform cfg handle))
  | .running replica, .crash torn => some (.down (replica.crash cfg torn))
  | .stopped replica, .crash torn => some (.down (replica.crash cfg torn))
  | .down durable, .open =>
    match durable.open cfg with
    | (_, .ok replica) => some (.running replica)
    | (durable, .error _) => some (.down durable)
  | .down durable, .interruptOpen count => some (.down (durable.openInterrupted cfg count))
  | .down durable, .damage slot prepare =>
    some (.down { durable with zones := durable.zones.damage slot prepare })
  | _, _ => none

/-! ## The cluster -/

/-- The configuration of one member: the shared one under its own identity. -/
def Config.member (cfg : Config) (index : Nat) : Config :=
  { cfg with membership := { cfg.membership with
      localMember := cfg.membership.members.getD index 0 } }

structure Cluster (χ : Type) where
  nodes : List (Node χ)

namespace Cluster

/-- Every member formatted and not yet opened. -/
def initial (cfg : Config) : Cluster χ where
  nodes := (List.range cfg.memberCount).map fun index => .down (.formatted (cfg.member index))

/-- Whether the network can hand this frame to a member: a request, or a frame another member sent. -/
def delivers (cluster : Cluster χ) (destination : Nat) (message : Message χ) : Bool :=
  match message with
  | .request _ => true
  | _ =>
    cluster.nodes.zipIdx.any fun sender =>
      sender.2 ≠ destination ∧ sender.1.durable.sent.any fun packet =>
        packet.message = message ∧
          (packet.destination = none ∨ packet.destination = some destination)

/-- What the network has to offer before an action can be taken. -/
def admits (cluster : Cluster χ) (index : Nat) : NodeAction χ → Bool
  | .event _ (.receive message) => cluster.delivers index message
  | _ => true

/-- One member takes a step. -/
def step (cfg : Config) (cluster : Cluster χ) (action : Nat × NodeAction χ) : Option (Cluster χ) :=
  if ¬ cluster.admits action.1 action.2 then none
  else
    match cluster.nodes[action.1]? with
    | none => none
    | some node =>
      (node.step (cfg.member action.1) action.2).map fun node =>
        ⟨cluster.nodes.set action.1 node⟩

end Cluster

end Step

end Supervsr
