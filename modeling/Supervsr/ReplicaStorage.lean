import Supervsr.MemberRun
import Supervsr.RecoveredJournal

/-
# Supervsr.ReplicaStorage — what a member does to its journal and its superblock

Four things change the journal in memory, the zones on storage or the superblock: a worker carries out a
request, a view that has been installed discards what lies behind its head, and a restart starts a view.
Crashes, damage and recovery add to this what happens to storage while no replica is up.  Through all of it
every frame stays in the slot of its op and the superblock stays one that `Open` accepts.
-/

namespace Supervsr

variable {χ : Type} [DecidableEq χ] [Checksums χ] {cfg : Config} {given : Surroundings χ}

variable {reusableThrough prepareMax : Nat} {installed : WALRecoveryView} {durable : Durable χ}

variable {zones : WALZones χ} {wal : WAL χ} {replica : Replica χ} {header : Header χ}

/-! ## Frames stay in the slots of their ops -/

section Placement

variable {cluster : ClusterConfig}

/-- Every frame of the buffer that header sectors are written from lies in the slot of its op. -/
def WAL.Placed (wal : WAL χ) (cluster : ClusterConfig) : Prop :=
  ∀ slot < cluster.journalSlots, ∀ header : Header χ, wal.headerRing.get slot = .frame header →
    header.op % cluster.journalSlots = slot

section

omit [DecidableEq χ] [Checksums χ]

theorem WAL.Placed.set (placed : wal.Placed cluster) (slots : Table (WALSlot χ)) (header : Header χ) :
    WAL.Placed ⟨slots, wal.headerRing.set (header.op % cluster.journalSlots) (.frame header)⟩ cluster := by
  intro slot hslot other hother
  simp only [Table.get_set] at hother
  split at hother
  · rename_i hplace
    cases hother
    exact hplace.symm
  · exact placed slot hslot other hother

theorem WALZones.Placed.writePrepare (placed : zones.Placed cluster) (header : Header χ) :
    (zones.writePrepare (header.op % cluster.journalSlots) header).Placed cluster := by
  intro slot hslot other hother
  obtain hother | hother := hother
  · exact placed slot hslot other (.inl hother)
  simp only [WALZones.writePrepare, Table.get_set] at hother
  split at hother
  · rename_i hplace
    cases hother
    exact hplace.symm
  · exact placed slot hslot other (.inr hother)

theorem WALZones.Placed.writeHeaderSector (placed : zones.Placed cluster) (ring : wal.Placed cluster)
    (index : Nat) : (zones.writeHeaderSector wal.headerRing index).Placed cluster := by
  intro slot hslot header hheader
  obtain hheader | hheader := hheader
  · simp only [WALZones.writeHeaderSector, Table.get_copyRange] at hheader
    -- a cell of the sector comes from the buffer, any other one is as before
    split at hheader
    · exact ring slot hslot header hheader
    · exact placed slot hslot header (.inl hheader)
  · exact placed slot hslot header (.inr hheader)

theorem WAL.Placed.append {wal next : WAL χ} {zones left : WALZones χ} (ring : wal.Placed cluster)
    (placed : zones.Placed cluster) (appended : wal.append zones cluster header reusableThrough = .ok (next, left)) :
    next.Placed cluster ∧ left.Placed cluster := by
  obtain ⟨-, rfl, rfl⟩ := WAL.append_eq_ok appended
  have hring := ring.set (wal.slots.set (header.op % cluster.journalSlots) (.holding header)) header
  exact ⟨hring, (placed.writePrepare header).writeHeaderSector hring _⟩

theorem WAL.Placed.discardAfter (placed : wal.Placed cluster) (head : Nat) :
    (wal.discardAfter cluster head).Placed cluster := by
  unfold WAL.discardAfter
  generalize List.range cluster.journalSlots = indices
  induction indices generalizing wal with
  | nil => exact placed
  | cons index rest ih =>
    rw [List.foldl_cons]
    refine ih ?_
    simp only
    split
    · exact placed
    intro slot hslot header hheader
    simp only [WAL.installReservedSlot, Table.get_set] at hheader
    split at hheader
    · cases hheader
    · exact placed slot hslot header hheader

theorem WALZones.Placed.damage (placed : zones.Placed cluster) (damaged : Nat) (prepare : Bool) :
    (zones.damage damaged prepare).Placed cluster := by
  intro slot hslot header hheader
  refine placed slot hslot header ?_
  unfold WALZones.damage at hheader
  split at hheader
  · refine hheader.imp id fun h => ?_
    rw [Table.get_set] at h
    split at h
    · cases h
    · exact h
  · refine hheader.imp (fun h => ?_) id
    rw [Table.get_set] at h
    split at h
    · cases h
    · exact h

end

omit [DecidableEq χ] in
theorem WALZones.Placed.formatted : (WALZones.formatted : WALZones χ).Placed cluster := by
  intro slot _ header hheader
  have hroot : ∀ {cell : WALCell χ}, cell = (Table.empty.set 0 (.frame Header.root)).get slot →
      cell = .frame header → header.op % cluster.journalSlots = slot := by
    rintro cell rfl hcell
    rw [Table.get_set] at hcell
    split at hcell
    · rename_i hslot
      cases hcell
      rw [hslot]
      exact Nat.zero_mod _
    · cases hcell
  obtain hheader | hheader := hheader
  · exact hroot rfl hheader
  · exact hroot rfl hheader

/-- Recovery rewrites a header from the prepare of the same slot. -/
theorem WALZones.Placed.recoveredCell (placed : zones.Placed cluster) {checkpoint slot : Nat}
    (inside : slot < cluster.journalSlots)
    (cell : zones.recoveredCell cluster checkpoint prepareMax installed slot = .frame header) :
    header.op % cluster.journalSlots = slot := by
  unfold WALZones.recoveredCell at cell
  split at cell
  · exact placed slot inside header (.inr cell)
  · cases cell
  · exact placed slot inside header (.inl cell)

theorem Recovered.placed {checkpoint : CheckpointState χ} {report : WALRecoveryReport χ}
    (recovered : Recovered zones cluster checkpoint prepareMax installed wal report) (placed : zones.Placed cluster) :
    wal.Placed cluster := by
  intro slot hslot header hheader
  rw [recovered.ring slot hslot] at hheader
  exact placed.recoveredCell hslot hheader

theorem WALZones.Placed.afterRecovery (placed : zones.Placed cluster) (memberCount checkpoint : Nat)
    (installed : WALRecoveryView) :
    (zones.afterRecovery cluster memberCount checkpoint installed).Placed cluster := by
  unfold WALZones.afterRecovery
  split
  · exact placed
  rename_i state hrecovers
  split
  · exact placed
  split
  · unfold WALZones.recoverSlots at hrecovers
    split at hrecovers
    · cases hrecovers
    rename_i prepareMax hbound
    obtain ⟨last, hlast, -, hring, -⟩ := foldlM_recoverSlot
      { wal := { WAL.new with headerRing := zones.headers }, repairHeaders := false, faulty := 0 }
      cluster.journalSlots fun slot hslot => decision_ne_fail placed hslot
    obtain rfl : last = state := Except.ok.inj (hlast.symm.trans hrecovers)
    intro slot hslot header hheader
    obtain hheader | hheader := hheader
    · rw [show ({ zones with headers := last.wal.headerRing } : WALZones χ).headers.get slot = _ from hring slot]
        at hheader
      split at hheader
      · exact placed.recoveredCell hslot hheader
      · exact placed slot hslot header (.inl hheader)
    · exact placed slot hslot header (.inr hheader)
  · exact placed

end Placement

/-! ## Storage that `Open` can work with -/

structure Durable.Stored (cfg : Config) (durable : Durable χ) : Prop where
  placed : durable.zones.Placed cfg.cluster
  accepted : cfg.toFormatConfig.valid = true → durable.superblock.validate cfg.validation = .ok ()

structure Replica.Stored (cfg : Config) (replica : Replica χ) : Prop where
  ring : replica.wal.Placed cfg.cluster
  durable : replica.durable.Stored cfg

theorem Durable.Stored.formatted : (Durable.formatted cfg : Durable χ).Stored cfg :=
  ⟨.formatted, fun valid => FormatConfig.validate_superblock valid⟩

theorem Durable.Stored.reopened {left : Durable χ} (stored : durable.Stored cfg)
    (reopened : Durable.Reopened cfg durable left) : left.Stored cfg := by
  constructor
  · obtain h | h := reopened.zones
    · rw [h]
      exact stored.placed
    · rw [h]
      exact stored.placed.afterRecovery _ _ _
  · obtain ⟨wal, hrestarted⟩ := reopened.superblock
    exact fun valid => hrestarted.keeps.2 (stored.accepted valid)

theorem Opened.stored (opened : Opened cfg durable replica) (stored : durable.Stored cfg)
    (valid : cfg.toFormatConfig.valid = true) : replica.Stored cfg := by
  have hslots : cfg.cluster.journalSlots ≠ 0 := by
    have := (FormatConfig.validated_of_valid valid).journal_ge
    omega
  have hplaced := stored.placed.afterRecovery cfg.memberCount durable.superblock.state.checkpoint.prepareOp
    durable.installedView
  cases opened with
  | resumed recovered resumes checked resumed =>
    obtain ⟨prepareMax, -, hrecovered, -⟩ := recovered_of_recover recovered
    obtain rfl := eq_of_ite_error resumed
    exact ⟨hrecovered.placed stored.placed, hplaced, stored.accepted⟩
  | restarted generation recovered fresh replays complete derived checked loads =>
    obtain ⟨prepareMax, -, hrecovered, -⟩ := recovered_of_recover recovered
    exact ⟨hrecovered.placed stored.placed, hplaced,
      fun valid => (Opened.superblock derived).keeps.2 (stored.accepted valid)⟩

namespace Replica

theorem Stored.move {replica next : Replica χ} (stored : replica.Stored cfg)
    (move : Move cfg given replica next) : next.Stored cfg := by
  have hstores := move.effects.stores
  generalize hwal : next.wal = wal at hstores
  generalize hzones : next.durable.zones = zones at hstores
  generalize hsuperblock : next.durable.superblock = superblock at hstores
  suffices h : wal.Placed cfg.cluster ∧ zones.Placed cfg.cluster ∧
      (cfg.toFormatConfig.valid = true → superblock.validate cfg.validation = .ok ()) by
    subst hwal hzones hsuperblock
    exact ⟨h.1, h.2.1, h.2.2⟩
  have hkept := And.intro stored.ring (And.intro stored.durable.placed stored.durable.accepted)
  cases hstores with
  | same => exact hkept
  | @executed pending _ _ _ _ asked due executes =>
    generalize pending.operation = operation at executes
    cases executes with
    | refused | plain => exact hkept
    | append appended =>
      obtain ⟨hring, hplaced⟩ := stored.ring.append stored.durable.placed appended
      exact ⟨hring, hplaced, stored.durable.accepted⟩
    | persist follows validates => exact ⟨stored.ring, stored.durable.placed, fun _ => validates⟩
  | discarded => exact ⟨stored.ring.discardAfter _, stored.durable.placed, stored.durable.accepted⟩
  | restarted restarted =>
    exact ⟨stored.ring, stored.durable.placed, fun valid => restarted.keeps.2 (stored.durable.accepted valid)⟩

theorem Stored.crash (stored : replica.Stored cfg) (torn : Option Nat) :
    (replica.crash cfg torn).Stored cfg := by
  unfold Replica.crash
  simp only
  split
  · exact stored.durable
  split
  · split
    · exact ⟨stored.durable.placed.writePrepare _, stored.durable.accepted⟩
    · exact stored.durable
  · exact stored.durable

end Replica

/-! ## Every run -/

namespace Cluster

open Transition

/-- What is known of a step in any run: a `View` comes from another member. -/
def anyRun (cfg : Config) : Surroundings χ where
  heard message := ∀ view, message = .view view → view.author ≠ cfg.localIndex
  calm := False
  unreplying := False
  punctual := False

theorem stored_lasting (cfg : Config) : Lasting cfg (anyRun cfg) True (fun _ => True)
    (fun durable : Durable χ => durable.Sound cfg ∧ durable.Stored cfg)
    (fun replica => replica.Sound cfg ∧ replica.Stored cfg) where
  attributed := fun ⟨sound, _⟩ => {
    reply := sound.owned.reply_first
    checkpoint := sound.owned.checkpoint_first
    drained := fun h => h.elim
    unsynced := fun h => h.elim
    persisting := fun h => h.elim }
  move := by
    rintro replica next ⟨sound, stored⟩ move
    refine ⟨sound.move ?_ move, stored.move move⟩
    exact fun message hheard => hheard message rfl
  crash := fun torn ⟨sound, stored⟩ => ⟨sound.crash torn, stored.crash torn⟩
  opened := fun ⟨sound, stored⟩ _ valid _ opened => ⟨opened.sound sound valid, opened.stored stored valid⟩
  reopened := fun ⟨sound, stored⟩ reopened => ⟨sound.reopened reopened, stored.reopened reopened⟩
  damaged := fun _ _ slot prepare ⟨sound, stored⟩ =>
    ⟨⟨sound.authored, sound.solo⟩, stored.placed.damage slot prepare, stored.accepted⟩

/-- Whatever happens to a member, its frames lie in the slots of their ops and its superblock is accepted. -/
theorem stored {allowed : Cluster χ → Nat × NodeAction χ → Prop} {cluster : Cluster χ} {index : Nat}
    {node : Node χ} (reached : Reaches (Cluster.step cfg) allowed (.initial cfg) cluster)
    (found : cluster.nodes[index]? = some node) :
    node.Holds (fun durable : Durable χ => durable.Sound (cfg.member index) ∧
        durable.Stored (cfg.member index))
      (fun replica => replica.Sound (cfg.member index) ∧ replica.Stored (cfg.member index)) := by
  refine Cluster.invariant (fun index node => node.Holds
      (fun durable : Durable χ => durable.Sound (cfg.member index) ∧ durable.Stored (cfg.member index))
      fun replica => replica.Sound (cfg.member index) ∧ replica.Stored (cfg.member index))
    (fun _ => ⟨.formatted, .formatted⟩) ?_ reached found
  intro cluster index node next action hlength hall hnode _ hadmits hstepped
  refine (stored_lasting (cfg.member index)).step (hall hnode) ?_ (fun _ => trivial) (fun _ _ => trivial)
    (fun h => h.elim) hstepped
  rintro replica inputs message rfl rfl -
  have hheard : ∀ view, message = .view view → view.author ≠ (cfg.member index).localIndex := by
    rintro view rfl
    refine Cluster.foreign hlength (fun hmember => ?_) (hall hnode).1.valid ?_ hadmits
    · exact (hall hmember).durable (fun _ h => h.1.authored) fun _ h => h.1.authored
    · rw [← hlength]
      exact (List.getElem?_eq_some_iff.mp hnode).1
  refine ⟨hheard, fun h => h.elim, ?_⟩
  rintro view rfl
  exact ⟨hheard, fun h => h.elim, fun h => h.elim, fun h => h.elim⟩

end Cluster

end Supervsr
