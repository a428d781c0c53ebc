import Supervsr.Cluster
import Supervsr.Opened
import Supervsr.ReplicaPhase

/-
# Supervsr.MemberRun — from the moves of one replica to the runs of a cluster

An invariant of a member says something about its storage while it is down and about its whole state while
it is up.  `Lasting` lists what has to be shown of such a pair: `Open` establishes it, every move keeps it,
a crash leaves it.  `Cluster.invariant` then gives every run, and lets the step of one member use what is
known of the others, which is how a property of received frames is drawn from the state of their senders.
-/

namespace Supervsr

open Transition

variable {χ : Type} [DecidableEq χ] [Checksums χ] {cfg : Config} {given : Surroundings χ}
  {up : Replica χ → Prop} {down : Durable χ → Prop}

variable {next : Replica χ} {node : Node χ} {action : NodeAction χ} {cluster : Cluster χ} {index : Nat}

/-! ## What a move leaves -/

namespace Replica

/-- What a move leaves of the journal, the zones and the superblock. -/
inductive Stores (cfg : Config) (replica : Replica χ) : WAL χ → WALZones χ → Superblock χ → Prop where
  | same : Stores cfg replica replica.wal replica.durable.zones replica.durable.superblock
  | executed {pending : PendingIo χ} {wal : WAL χ} {zones : WALZones χ} {superblock : Superblock χ}
      {result : Except ReplicaError Unit} (asked : pending ∈ replica.io) (due : pending.result = none)
      (executes : Executes cfg replica pending.operation wal zones superblock result) :
      Stores cfg replica wal zones superblock
  | discarded : Stores cfg replica (replica.wal.discardAfter cfg.cluster replica.viewHead)
      replica.durable.zones replica.durable.superblock
  | restarted {superblock : Superblock χ}
      (restarted : RestartedSuperblock cfg replica.wal replica.durable.superblock superblock) :
      Stores cfg replica replica.wal replica.durable.zones superblock

/-- The journal, what of storage a restart reads, and the frames handed to the message bus. -/
def storage (replica : Replica χ) : WAL χ × WALZones χ × Superblock χ × List (Packet χ) :=
  (replica.wal, replica.durable.zones, replica.durable.superblock, replica.durable.sent)

/-- A move stores one thing at most and hands at most one frame to the message bus, and a replica that has stopped
does not go on. -/
structure Effects (cfg : Config) (replica next : Replica χ) : Prop where
  stores : Stores cfg replica next.wal next.durable.zones next.durable.superblock
  sent : next.durable.sent = replica.durable.sent ∨
    ∃ packet, next.durable.sent = packet :: replica.durable.sent ∧
      (replica.Says cfg packet.message ∨
        ∃ nonce, packet.message = .view (replica.buildView cfg nonce).2 ∧ replica.isPrimary cfg = true)
  sound : next.fatalErr = none → replica.fatalErr = none

theorem Effects.still {replica : Replica χ} (same : next.storage = replica.storage)
    (sound : next.fatalErr = none → replica.fatalErr = none) : Effects cfg replica next := by
  simp only [storage, Prod.mk.injEq] at same
  obtain ⟨hwal, hzones, hsuperblock, hsent⟩ := same
  refine ⟨?_, .inl hsent, sound⟩
  rw [hwal, hzones, hsuperblock]
  exact .same

theorem Effects.pop {replica : Replica χ} (effects : Effects cfg replica next) : Effects cfg replica next.popPipeline :=
  ⟨effects.stores, effects.sent, effects.sound⟩

theorem Move.effects {replica : Replica χ} (move : Move cfg given replica next) : Effects cfg replica next := by
  have hfail : ∀ {other : Replica χ} {err : ReplicaError} {P : Prop}, (other.fail err).fatalErr = none → P :=
    fun h => absurd h (fail_fatalErr _ _)
  have hbegun : ∀ {other : Replica χ} (inputs : Inputs χ) (target : Nat), other.storage = replica.storage →
      other.fatalErr = replica.fatalErr → Effects cfg replica (other.beginViewChangeNow cfg inputs target) := by
    intro other inputs target hsame hfatal
    obtain ⟨err, h⟩ | ⟨-, h⟩ := other.beginViewChangeNow_cases cfg inputs target
    · rw [h]
      exact .still hsame hfail
    · rw [h]
      exact .still hsame fun hsound => hfatal ▸ hsound
  cases move with
  | send destination spoken => exact ⟨.same, .inr ⟨_, rfl, .inl spoken⟩, id⟩
  | announce destination nonce normal primary =>
    obtain ⟨headers, h⟩ := replica.buildView_cases cfg nonce
    refine ⟨?_, .inr ⟨⟨destination, .view (replica.buildView cfg nonce).2⟩, ?_, .inr ⟨nonce, rfl, primary⟩⟩, ?_⟩
    · rw [h]
      exact .same
    · rw [h]
      rfl
    · rw [h]
      exact id
  | fail | publishLast | viewFailed | openStuck => exact .still rfl hfail
  | accept normal durable current source accepted =>
    obtain ⟨-, -, -, -, -, rfl⟩ := acceptPrepare_eq_some accepted
    exact .still rfl id
  | beginViewChange | resume | viewPersistedOnward => exact hbegun _ _ rfl rfl
  | yield | yieldPublished => exact .pop (hbegun _ _ rfl rfl)
  | submitReply first waits ready submitted | submitCheckpoint first data built undrained submitted
  | submitSync free kind submitted =>
    obtain ⟨rfl, rfl⟩ := submit_eq_ok submitted
    exact .still rfl id
  | windowHeaders =>
    obtain ⟨_, _, _, _, h⟩ := replica.handleRepairWindowHeaders_frame cfg _ _
    rw [h]
    exact .still rfl id
  | repairAppend heard repaired =>
    obtain ⟨-, -, -, -, -, -, rfl⟩ := handleRepairPrepare_eq_some repaired
    exact .still rfl id
  | rebuild installing named unbuilt written idle quiet rebuilt =>
    obtain rfl | ⟨entries, _, _, _, _, -, rfl | rfl⟩ := rebuilt_cases rebuilt
    · exact .still rfl id
    · exact .still rfl hfail
    · exact .still rfl id
  | persistInstall installing rebuilt committed quiet persisted =>
    obtain ⟨-, -, -, rfl⟩ := persistView_eq_ok persisted
    exact .still rfl id
  | perform handle =>
    obtain h | ⟨pending, hpending, -, hdue, wal, zones, superblock, result, hexecutes, h⟩ :=
      replica.perform_cases cfg handle
    · rw [h]
      exact .still rfl id
    · rw [h]
      exact ⟨.executed hpending hdue hexecutes, .inl rfl, id⟩
  | viewInstalled =>
    exact ⟨.discarded, .inl rfl, id⟩
  | startReset inputs =>
    unfold startStateSyncReset
    split <;> exact .still rfl id
  | replay =>
    obtain ⟨_, _, _, _, _, _, _, _, _, _, _, _, _, _, _, _, hframe, ⟨hzones, hsent⟩, hrestarted, -⟩ :=
      replica.replayInterrupted_frame cfg
    refine ⟨?_, .inl (by rw [hframe]; exact hsent), fun hsound => ?_⟩
    · rw [hframe]
      show Stores cfg replica replica.wal _ _
      rw [hzones]
      exact .restarted hrestarted
    · obtain h | h | ⟨durable, -, recovery, -, status, superblock, committed, loaded, -, -, -, -, hloaded,
        hadopted⟩ := replica.replayInterrupted_adopts cfg
      · exact h ▸ hsound
      · exact absurd hsound h
      · obtain ⟨_, _, _, _, -, rfl⟩ := loadOpenSuffix_eq_ok hloaded
        rw [hadopted] at hsound
        exact hsound
  | _ => exact .still rfl id

theorem Move.sound {replica : Replica χ} (move : Move cfg given replica next) (sound : next.fatalErr = none) :
    replica.fatalErr = none :=
  move.effects.sound sound

end Replica

/-! ## One member -/

/-- What holds of a member, by what holds of its storage while it is down and of it while it is up. -/
def Node.Holds (down : Durable χ → Prop) (up : Replica χ → Prop) : Node χ → Prop
  | .down durable => down durable
  | .running replica => up replica
  | .stopped replica => up replica

section

omit [DecidableEq χ] [Checksums χ]

theorem Node.Holds.replica {replica : Replica χ} (holds : node.Holds down up)
    (running : node.replica? = some replica) : up replica := by
  cases node with
  | down => cases running
  | running => cases running; exact holds
  | stopped => cases running; exact holds

/-- What both halves say about storage. -/
theorem Node.Holds.durable {kept : Durable χ → Prop} (holds : node.Holds down up)
    (stored : ∀ durable, down durable → kept durable) (running : ∀ replica, up replica → kept replica.durable) :
    kept node.durable := by
  cases node with
  | down durable => exact stored durable holds
  | running replica => exact running replica holds
  | stopped replica => exact running replica holds

end

/-- What has to be shown of an invariant of a member; `decays` is whether its storage may, `opens` the
storage it is opened from. -/
structure Lasting (cfg : Config) (given : Surroundings χ) (decays : Prop) (opens : Durable χ → Prop)
    (down : Durable χ → Prop) (up : Replica χ → Prop) : Prop where
  attributed : ∀ {replica}, up replica → Replica.Attributed given replica
  move : ∀ {replica next}, up replica → Replica.Move cfg given replica next → up next
  crash : ∀ {replica : Replica χ} (torn : Option Nat), up replica → down (replica.crash cfg torn)
  opened : ∀ {durable replica}, down durable → opens durable → cfg.toFormatConfig.valid = true →
    durable.superblock.validate cfg.validation = .ok () → Opened cfg durable replica → up replica
  reopened : ∀ {durable left}, down durable → Durable.Reopened cfg durable left → down left
  damaged : decays → ∀ {durable} (slot : Nat) (prepare : Bool), down durable →
    down { durable with zones := durable.zones.damage slot prepare }

namespace Lasting

variable {decays : Prop} {opens : Durable χ → Prop}

theorem moves (lasting : Lasting cfg given decays opens down up) {replica : Replica χ} (holds : up replica)
    (moves : Replica.Moves cfg given replica next) : up next := by
  induction moves with
  | refl => exact holds
  | tail _ last ih => exact lasting.move ih last

/-- A step of a member keeps it. -/
theorem step (lasting : Lasting cfg given decays opens down up) {next : Node χ} (holds : node.Holds down up)
    (hears : ∀ {replica inputs message}, node = .running replica → action = .event inputs (.receive message) →
      validateSemantics cfg message = true → Replica.Hears given cfg replica message)
    (decay : ∀ {slot prepare}, action = .damage slot prepare → decays)
    (opening : ∀ {durable}, node = .down durable → action = .open → opens durable)
    (timely : given.punctual → ∀ {replica}, node = .running replica → (∀ torn, action ≠ .crash torn) →
      Replica.Timely cfg replica)
    (stepped : node.step cfg action = some next) : next.Holds down up := by
  cases node with
  | down durable =>
    cases action with
    | «open» =>
      simp only [Node.step] at stepped
      split at stepped
      · rename_i left replica hopened
        cases stepped
        obtain ⟨hvalid, hvalidated, hreplica⟩ := Durable.open_eq_ok hopened
        exact lasting.opened holds (opening rfl rfl) hvalid hvalidated hreplica
      · rename_i left err hrefused
        cases stepped
        have hleft : Durable.Reopened cfg durable _ := durable.open_left
        rw [hrefused] at hleft
        exact lasting.reopened holds hleft
    | interruptOpen count =>
      cases stepped
      exact lasting.reopened holds (durable.openInterrupted_left count)
    | damage slot prepare =>
      cases stepped
      exact lasting.damaged (decay rfl) slot prepare holds
    | event | endRound | crash => cases stepped
  | running replica =>
    cases action with
    | event inputs event =>
      cases stepped
      refine lasting.moves holds (Replica.handle_moves event ?_ (lasting.attributed holds)
        fun h => timely h rfl (by rintro _ ⟨⟩))
      rintro message rfl
      exact hears rfl rfl
    | endRound inputs =>
      have hended : up (replica.endRound cfg inputs) :=
        lasting.moves holds (Replica.endRound_moves fun h => timely h rfl (by rintro _ ⟨⟩))
      simp only [Node.step] at stepped
      cases stepped
      split
      · exact hended
      · exact hended
    | crash torn =>
      cases stepped
      exact lasting.crash torn holds
    | «open» | interruptOpen | damage => cases stepped
  | stopped replica =>
    cases action with
    | event inputs event =>
      cases event with
      | perform handle =>
        cases stepped
        exact lasting.move holds (.perform handle)
      | _ => cases stepped
    | crash torn =>
      cases stepped
      exact lasting.crash torn holds
    | «open» | interruptOpen | damage | endRound => cases stepped

end Lasting

/-! ## The cluster -/

namespace Cluster

omit [Checksums χ] in
/-- A frame other than a request comes from another member. -/
theorem sender_of_delivers {destination : Nat} {message : Message χ}
    (delivered : cluster.delivers destination message = true) (replicated : ∀ request, message ≠ .request request) :
    ∃ sender node packet, sender ≠ destination ∧ cluster.nodes[sender]? = some node ∧
      packet ∈ node.durable.sent ∧ packet.message = message := by
  have hany : cluster.nodes.zipIdx.any (fun sender =>
      sender.2 ≠ destination ∧ sender.1.durable.sent.any fun packet =>
        packet.message = message ∧
          (packet.destination = none ∨ packet.destination = some destination)) = true := by
    unfold delivers at delivered
    split at delivered
    · exact absurd rfl (replicated _)
    · exact delivered
  obtain ⟨⟨node, sender⟩, hmem, hsends⟩ := List.any_eq_true.mp hany
  obtain ⟨hother, hsent⟩ := of_decide_eq_true hsends
  obtain ⟨packet, hpacket, hmessage⟩ := List.any_eq_true.mp hsent
  exact ⟨sender, node, packet, hother, List.mem_zipIdx_iff_getElem?.mp hmem, hpacket,
    (of_decide_eq_true hmessage).1⟩

theorem step_eq_some {next : Cluster χ} (stepped : cluster.step cfg (index, action) = some next) :
    cluster.admits index action = true ∧ ∃ node moved, cluster.nodes[index]? = some node ∧
      node.step (cfg.member index) action = some moved ∧ next = ⟨cluster.nodes.set index moved⟩ := by
  unfold step at stepped
  split at stepped
  · cases stepped
  rename_i hadmits
  split at stepped
  · cases stepped
  rename_i node hnode
  obtain ⟨moved, hmoved, rfl⟩ := Option.map_eq_some_iff.mp stepped
  exact ⟨not_not.mp hadmits, node, moved, hnode, hmoved, rfl⟩

/-- What holds of every formatted member and is kept by the steps of each, given that it holds of all. -/
theorem invariant {allowed : Cluster χ → Nat × NodeAction χ → Prop} (holds : Nat → Node χ → Prop)
    (init : ∀ index, holds index (.down (.formatted (cfg.member index))))
    (kept : ∀ {cluster : Cluster χ} {index : Nat} {node next : Node χ} {action : NodeAction χ},
      cluster.nodes.length = cfg.memberCount →
      (∀ {other member}, cluster.nodes[other]? = some member → holds other member) →
      cluster.nodes[index]? = some node → allowed cluster (index, action) →
      cluster.admits index action = true → node.step (cfg.member index) action = some next → holds index next)
    (reached : Reaches (Cluster.step cfg) allowed (.initial cfg) cluster) :
    ∀ {index node}, cluster.nodes[index]? = some node → holds index node := by
  suffices hall : cluster.nodes.length = cfg.memberCount ∧
      ∀ index node, cluster.nodes[index]? = some node → holds index node from @hall.2
  induction reached with
  | refl =>
    refine ⟨by simp [initial], ?_⟩
    intro index node hnode
    simp only [initial, List.getElem?_map] at hnode
    obtain ⟨place, hplace, rfl⟩ := Option.map_eq_some_iff.mp hnode
    obtain ⟨hlt, hplace⟩ := List.getElem?_eq_some_iff.mp hplace
    rw [List.getElem_range] at hplace
    exact hplace ▸ init index
  | @step cluster next action _ permitted taken ih =>
    obtain ⟨hlength, hholds⟩ := ih
    obtain ⟨index, action⟩ := action
    obtain ⟨hadmits, node, moved, hnode, hmoved, rfl⟩ := step_eq_some taken
    refine ⟨by rw [List.length_set, hlength], ?_⟩
    intro place member hmember
    by_cases hplace : place = index
    · subst hplace
      rw [List.getElem?_set_self (List.getElem?_eq_some_iff.mp hnode).1] at hmember
      cases hmember
      exact kept hlength (hholds _ _) hnode permitted hadmits hmoved
    · rw [List.getElem?_set_ne (Ne.symm hplace)] at hmember
      exact hholds place member hmember

end Cluster

/-! ## What every member keeps -/

omit [DecidableEq χ] [Checksums χ] in
/-- The members of an accepted configuration are told apart by their index. -/
theorem Config.member_localIndex {other : Nat} (valid : (cfg.member other).toFormatConfig.valid = true)
    (inside : index < cfg.memberCount) : (cfg.member index).localIndex = index := by
  simp only [FormatConfig.valid, decide_eq_true_eq] at valid
  have hmembership := valid.2.2.1
  simp only [Membership.valid, decide_eq_true_eq] at hmembership
  obtain ⟨-, -, -, htotal, hlength, -, hdistinct, -⟩ := hmembership
  change cfg.memberCount ≤ membersMax at htotal
  change cfg.membership.members.length = membersMax at hlength
  change (cfg.membership.members.take cfg.memberCount).Nodup at hdistinct
  have hlt : index < (cfg.membership.members.take cfg.memberCount).length := by
    rw [List.length_take]
    omega
  show (cfg.membership.members.take cfg.memberCount).idxOf (cfg.membership.members.getD index 0) = index
  have hmember : cfg.membership.members.getD index 0 = (cfg.membership.members.take cfg.memberCount)[index] := by
    rw [List.getElem_take, List.getD_eq_getElem?_getD, List.getElem?_eq_getElem, Option.getD_some]
  rw [hmember]
  exact hdistinct.idxOf_getElem index hlt

/-- Every `View` among these frames names this member as its author. -/
def Authored (cfg : Config) (sent : List (Packet χ)) : Prop :=
  ∀ packet ∈ sent, ∀ view, packet.message = .view view → view.author = cfg.localIndex

/-- What is known of the storage of a member. -/
structure Durable.Sound (cfg : Config) (durable : Durable χ) : Prop where
  authored : Authored cfg durable.sent
  solo : cfg.activeCount = 1 → cfg.localIndex = 0 → durable.superblock.state.syncMin = 0

namespace Replica

/-- What is known of a member that is up. -/
structure Sound (cfg : Config) (replica : Replica χ) : Prop where
  valid : cfg.toFormatConfig.valid = true
  authored : Authored cfg replica.durable.sent
  owned : replica.Owned
  phase : replica.Phase cfg

theorem Sound.move {replica : Replica χ} (sound : replica.Sound cfg)
    (foreign : ∀ message, given.heard (.view message) → message.author ≠ cfg.localIndex)
    (move : Move cfg given replica next) : next.Sound cfg := by
  refine ⟨sound.valid, ?_, sound.owned.move move,
    sound.phase.move (FormatConfig.validated_of_valid sound.valid) foreign move⟩
  obtain h | ⟨packet, h, hsays⟩ := move.effects.sent
  · rw [h]
    exact sound.authored
  rw [h]
  intro other hother view hview
  obtain rfl | hother := List.mem_cons.mp hother
  · obtain hsays | ⟨nonce, hnonce, -⟩ := hsays
    · rw [hview] at hsays
      exact hsays.elim
    · rw [hview] at hnonce
      cases hnonce
      rfl
  · exact sound.authored other hother view hview

section

omit [DecidableEq χ] [Checksums χ]

/-- A crash leaves everything but the journal as it was last on storage. -/
theorem crash_keeps (replica : Replica χ) (torn : Option Nat) :
    (replica.crash cfg torn).sent = replica.durable.sent ∧
      (replica.crash cfg torn).superblock = replica.durable.superblock ∧
      (replica.crash cfg torn).executed = replica.durable.executed := by
  unfold Replica.crash
  simp only
  split
  · exact ⟨rfl, rfl, rfl⟩
  · split
    · split <;> exact ⟨rfl, rfl, rfl⟩
    · exact ⟨rfl, rfl, rfl⟩

theorem Sound.crash {replica : Replica χ} (sound : replica.Sound cfg) (torn : Option Nat) :
    (replica.crash cfg torn).Sound cfg := by
  obtain ⟨hsent, hsuperblock, -⟩ := replica.crash_keeps torn
  refine ⟨?_, ?_⟩
  · rw [hsent]
    exact sound.authored
  · rw [hsuperblock]
    exact fun hvoter hfirst => (sound.phase.solo hvoter hfirst).1

end

end Replica

omit [DecidableEq χ] in
theorem Durable.Sound.formatted : (Durable.formatted cfg : Durable χ).Sound cfg :=
  ⟨fun _ h => absurd h List.not_mem_nil, fun _ _ => rfl⟩

theorem Durable.Sound.reopened {durable left : Durable χ} (sound : durable.Sound cfg)
    (reopened : Durable.Reopened cfg durable left) : left.Sound cfg := by
  obtain ⟨wal, hrestarted⟩ := reopened.superblock
  refine ⟨?_, ?_⟩
  · rw [reopened.sent]
    exact sound.authored
  · rw [hrestarted.keeps.1]
    exact sound.solo

/-- The superblock under which `Open` goes on differs from the one on storage in its commit bound only. -/
theorem Opened.superblock {durable : Durable χ} {recovery : WALRecoveryReport χ} {commitMin : Nat}
    {wal : WAL χ} {initial : InitialState χ} {superblock : Superblock χ}
    (derived : deriveInitialState cfg durable.superblock (durable.openSuperblock cfg recovery) recovery
      commitMin wal = .ok (initial, superblock)) :
    Replica.RestartedSuperblock cfg wal durable.superblock superblock := by
  obtain ⟨status, hstatus, -⟩ := deriveInitialState_eq_ok derived
  exact (Replica.deriveRecoveredStatus_eq_ok hstatus).1

omit [DecidableEq χ] [Checksums χ] in
/-- A replica that has asked for nothing. -/
theorem Replica.Owned.blank {replica : Replica χ} (io : replica.io = [])
    (idle : ∀ entry ∈ replica.pipeline, entry.io = none ∧ entry.stage = .idle) : replica.Owned := by
  constructor
  · rw [io]
    exact fun _ h => absurd h List.not_mem_nil
  · rw [io]
    exact List.nodup_nil
  · intro entry hentry handle hhandle
    rw [(idle entry hentry).1] at hhandle
    cases hhandle
  · rw [io]
    exact fun _ _ _ h => absurd h List.not_mem_nil
  · exact fun entry hentry => (idle entry (List.mem_of_mem_tail hentry)).2

section

variable {durable : Durable χ} {replica : Replica χ} (opened : Opened cfg durable replica)

include opened

theorem Opened.owned : replica.Owned := by
  cases opened with
  | resumed recovered resumes checked resumed =>
    obtain rfl := eq_of_ite_error resumed
    exact .blank rfl fun _ h => absurd h List.not_mem_nil
  | restarted generation recovered fresh replays complete derived checked loads =>
    exact .blank rfl fun entry hentry => ⟨(loads.idle entry hentry).1, (loads.idle entry hentry).2.1⟩

theorem Opened.phase (sound : durable.Sound cfg) : replica.Phase cfg := by
  cases opened with
  | @resumed wal recovery _ recovered resumes checked resumed =>
    obtain rfl := eq_of_ite_error resumed
    obtain ⟨prepareMax, hbound, hrecovered, -⟩ := recovered_of_recover recovered
    simp only [Replica.validSnapshot, decide_eq_true_eq] at checked
    exact {
      asleep := fun _ => ⟨nofun, fun h => absurd rfl h, nofun, rfl,
        fun hvoter hfirst => of_decide_eq_true resumes (sound.solo hvoter hfirst)⟩
      answered := nofun
      replaying := nofun
      resizing := fun _ => rfl
      canceling := nofun
      vacated := fun _ => rfl
      level := fun _ => rfl
      solo := fun hvoter hfirst => ⟨sound.solo hvoter hfirst, fun _ h => absurd h List.not_mem_nil⟩
      installing := nofun
      persisting := fun h => absurd rfl h
      settled := fun _ => .inr rfl
      resuming := fun _ _ => by
        refine ⟨durable.superblock, rfl, recovery, rfl, rfl, rfl, ?_, fun _ h => absurd h List.not_mem_nil⟩
        refine ⟨⟨prepareMax, hbound⟩, checked.2.2.2.2.2.1, fun op habove hle => ?_⟩
        show WAL.Keeps _ (durable.afterRecovery cfg).zones _ _
        rw [WAL.Keeps, Durable.afterRecovery, WALZones.afterRecovery_prepares]
        exact hrecovered.keeps (slots_of_prepareMaximum hbound) habove hle }
  | restarted generation recovered fresh replays complete derived checked loads =>
    refine .of_idle rfl nofun (fun hvoter hfirst => ⟨?_, fun _ h => absurd h List.not_mem_nil⟩) nofun
      fun h => absurd rfl h
    exact (Opened.superblock derived).keeps.1.trans (sound.solo hvoter hfirst)

theorem Opened.sent : replica.durable.sent = durable.sent := by
  cases opened with
  | resumed recovered resumes checked resumed =>
    obtain rfl := eq_of_ite_error resumed
    rfl
  | restarted => rfl

theorem Opened.sound (sound : durable.Sound cfg)
    (valid : cfg.toFormatConfig.valid = true) : replica.Sound cfg := by
  refine ⟨valid, ?_, opened.owned, opened.phase sound⟩
  rw [opened.sent]
  exact sound.authored

end

omit [Checksums χ] in
/-- No member receives a `View` of its own. -/
theorem Cluster.foreign {message : ViewMessage χ} (length : cluster.nodes.length = cfg.memberCount)
    (authored : ∀ {other member}, cluster.nodes[other]? = some member → Authored (cfg.member other)
      member.durable.sent) (valid : (cfg.member index).toFormatConfig.valid = true)
    (inside : index < cfg.memberCount) (delivered : cluster.delivers index (.view message) = true) :
    message.author ≠ (cfg.member index).localIndex := by
  obtain ⟨sender, node, packet, hother, hnode, hpacket, hmessage⟩ :=
    cluster.sender_of_delivers delivered (fun _ h => by cases h)
  have hsender : sender < cfg.memberCount := by
    rw [← length]
    exact (List.getElem?_eq_some_iff.mp hnode).1
  rw [authored hnode packet hpacket message hmessage, Config.member_localIndex valid hsender,
    Config.member_localIndex valid inside]
  exact hother

end Supervsr
