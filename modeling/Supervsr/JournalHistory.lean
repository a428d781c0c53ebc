import Supervsr.JournalAppends
import Supervsr.Lib.Transition

/-
# Supervsr.JournalHistory — the journal over views, checkpoints and restarts

Between two appends the journal of a replica changes in memory only: `DiscardAfter` empties the slots behind a
newly installed head and their entries in the buffer of headers, and the next append into the same sector
writes these entries to storage.  The prepares stay where they are.  A slot with an empty header and a prepare
behind it is harmless as long as the prepare lies above the checkpoint.  Checkpoints a replica takes itself
pass only over prepares it has journaled; a checkpoint it adopts from a peer need not.
-/

namespace Supervsr

variable {χ : Type} [DecidableEq χ] [Checksums χ] {cluster : ClusterConfig} {zones : WALZones χ}

variable {reusableThrough target : Nat} {header : Header χ} {view : WALRecoveryView}

/-- The journal between appends, with the durable checkpoint and the durable view `Recover` is called with. -/
structure Journal (χ : Type) where
  wal : WAL χ
  zones : WALZones χ
  checkpoint : Nat
  installed : WALRecoveryView
deriving DecidableEq, Repr

/-- What happens to a journal: a completed append, an installed view and its `DiscardAfter`, the record of the
local head when a view is left, a durable checkpoint, a completed state sync, a restart. -/
inductive JournalEvent (χ : Type) where
  | append (header : Header χ) (reusableThrough : Nat)
  | install (view : WALRecoveryView)
  | leave (head : Nat)
  | checkpoint (target : Nat)
  | sync (target : Nat) (view : WALRecoveryView)
  | restart (memberCount : Nat)
deriving DecidableEq, Repr

/-- A prepare behind the head of the installed view, from an earlier view. -/
def Header.obsolete (header : Header χ) (installed : WALRecoveryView) : Bool :=
  installed.headOp < header.op ∧ header.view < installed.logView

namespace Journal

/-- The journal `Format` leaves, as read from storage. -/
def formatted (view : Nat) : Journal χ where
  wal := { WAL.new with headerRing := WALZones.formatted.headers }
  zones := WALZones.formatted
  checkpoint := 0
  installed := ⟨view, 0⟩

def step (cluster : ClusterConfig) (journal : Journal χ) : JournalEvent χ → Option (Journal χ)
  | .append header reusableThrough =>
    match journal.wal.append journal.zones cluster header reusableThrough with
    | .ok (wal, zones) => some { journal with wal := wal, zones := zones }
    | .error _ => none
  | .install view => some { journal with wal := journal.wal.discardAfter cluster view.headOp, installed := view }
  | .leave head => some { journal with installed := ⟨journal.installed.logView, head⟩ }
  | .checkpoint target => some { journal with checkpoint := target }
  | .sync target view => some { journal with checkpoint := target, installed := view }
  | .restart memberCount =>
    match journal.zones.recoverSlots cluster journal.checkpoint journal.installed with
    | .ok state => some { journal with
        wal := state.wal
        zones := journal.zones.afterRecovery cluster memberCount journal.checkpoint journal.installed }
    | .error _ => none

/-- What a replica makes sure of: heads are at or above the checkpoint, checkpoints only grow, a checkpoint of
its own covers prepares that are in the journal and belong to the installed log, and nothing obsolete is
appended below the checkpoint. -/
def permits (cluster : ClusterConfig) (journal : Journal χ) : JournalEvent χ → Bool
  | .append header _ => journal.checkpoint < header.op ∨ ¬ header.obsolete journal.installed
  | .install view => journal.checkpoint ≤ view.headOp
  | .leave head => journal.checkpoint ≤ head
  | .checkpoint target => journal.checkpoint ≤ target ∧
      (List.range' (journal.checkpoint + 1) (target - journal.checkpoint)).all fun op =>
        let slot := journal.wal.slot cluster op
        slot.inhabited ∧ slot.op = op ∧ slot.authoritative.all fun header => ! header.obsolete journal.installed
  | .sync target view => journal.checkpoint < target ∧ target ≤ view.headOp
  | .restart _ => true

/-- A slot whose buffered header is empty and whose prepare is at or below `target`. -/
def strands (cluster : ClusterConfig) (journal : Journal χ) (target : Nat) : Bool :=
  (List.range cluster.journalSlots).any fun slot =>
    match journal.wal.headerRing.get slot, journal.zones.prepares.get slot with
    | .reserved, .frame header => header.op ≤ target
    | _, _ => false

/-- An append of an ordinary prepare, and a state sync that leaves no discarded prepare behind it. -/
def gentle (cluster : ClusterConfig) (journal : Journal χ) : JournalEvent χ → Bool
  | .append header _ => header.operation ≠ .reserved
  | .sync target _ => ! journal.strands cluster target
  | _ => true

end Journal

/-! ## `DiscardAfter`, slot by slot -/

/-- A slot `DiscardAfter` empties. -/
def WALSlot.behind (slot : WALSlot χ) (head : Nat) : Bool := slot.inhabited ∧ head < slot.op

/-- One round of `DiscardAfter`. -/
def WAL.discardSlot (head : Nat) (wal : WAL χ) (index : Nat) : WAL χ :=
  if ¬ (wal.slots.get index).inhabited ∨ (wal.slots.get index).op ≤ head then wal
  else
    ⟨wal.slots.set index (.reserved index), wal.headerRing.set index .reserved⟩

section

omit [DecidableEq χ] [Checksums χ]

theorem WAL.discardSlot_eq (head : Nat) (wal : WAL χ) (index : Nat) :
    wal.discardSlot head index = if (wal.slots.get index).behind head then
      ⟨wal.slots.set index (.reserved index), wal.headerRing.set index .reserved⟩ else wal := by
  unfold discardSlot
  by_cases hbehind : (wal.slots.get index).behind head = true
  · rw [if_pos hbehind, if_neg (by simpa [WALSlot.behind] using hbehind)]
  · rw [if_neg hbehind, if_pos (by simpa [WALSlot.behind, Decidable.imp_iff_not_or] using hbehind)]

/-- The loop has emptied the slots it came to, and no other. -/
theorem WAL.foldl_discardSlot (wal : WAL χ) (head count slot : Nat) :
    ((List.range count).foldl (WAL.discardSlot head) wal).slots.get slot =
        (if slot < count ∧ (wal.slots.get slot).behind head then .reserved slot else wal.slots.get slot) ∧
      ((List.range count).foldl (WAL.discardSlot head) wal).headerRing.get slot =
        (if slot < count ∧ (wal.slots.get slot).behind head then .reserved else wal.headerRing.get slot) := by
  induction count generalizing slot with
  | zero => simp
  | succ count ih =>
    have hcount := (ih count).1
    rw [if_neg (fun h => absurd h.1 (Nat.lt_irrefl _))] at hcount
    rw [List.range_succ, List.foldl_append, List.foldl_cons, List.foldl_nil, WAL.discardSlot_eq, hcount]
    by_cases hslot : slot = count
    · subst hslot
      by_cases hbehind : (wal.slots.get slot).behind head = true
      · simp [hbehind]
      · simpa [hbehind] using ih slot
    · have hlater : slot < count + 1 ↔ slot < count := by omega
      simp only [hlater]
      by_cases hbehind : (wal.slots.get count).behind head = true
      · simp [hbehind, Table.get_set_of_ne _ hslot, ih slot]
      · simpa [hbehind] using ih slot

theorem WAL.discardAfter_get (wal : WAL χ) (head : Nat) {slot : Nat} (inside : slot < cluster.journalSlots) :
    (wal.discardAfter cluster head).slots.get slot =
        (if (wal.slots.get slot).behind head then .reserved slot else wal.slots.get slot) ∧
      (wal.discardAfter cluster head).headerRing.get slot =
        (if (wal.slots.get slot).behind head then .reserved else wal.headerRing.get slot) := by
  have hloop := wal.foldl_discardSlot head cluster.journalSlots slot
  simp only [inside, true_and] at hloop
  exact hloop

end

/-! ## What is kept between appends -/

/-- A header beside a prepare: the same, or empty beside a prepare above the checkpoint. -/
def Settled (checkpoint : Nat) (header prepare : WALCell χ) : Prop :=
  header = prepare ∨ (header = .reserved ∧ ∃ held, prepare = .frame held ∧ checkpoint < held.op)

/-- A prepare that belongs to its slot, and that is above the checkpoint if the installed view excludes it. -/
structure Header.Stored (held : Header χ) (cluster : ClusterConfig) (checkpoint : Nat) (installed : WALRecoveryView)
    (slot : Nat) : Prop where
  ordinary : held.operation ≠ .reserved
  place : held.op % cluster.journalSlots = slot
  above : held.obsolete installed = true → checkpoint < held.op

/-- A journal in which every pair of header and prepare is harmless. -/
structure Journal.Quiet (cluster : ClusterConfig) (journal : Journal χ) : Prop where
  headers : ∀ slot < cluster.journalSlots, journal.zones.headers.get slot = journal.zones.prepares.get slot ∨
    journal.zones.headers.get slot = journal.wal.headerRing.get slot
  ring : ∀ slot < cluster.journalSlots,
    Settled journal.checkpoint (journal.wal.headerRing.get slot) (journal.zones.prepares.get slot)
  stored : ∀ slot < cluster.journalSlots, journal.zones.prepares.get slot = .reserved ∨
    ∃ held, journal.zones.prepares.get slot = .frame held ∧
      held.Stored cluster journal.checkpoint journal.installed slot
  slots : ∀ slot < cluster.journalSlots, (journal.wal.slots.get slot).inhabited = true →
    ∃ held, journal.wal.slots.get slot = .holding held ∧ journal.wal.headerRing.get slot = .frame held ∧
      journal.zones.prepares.get slot = .frame held

namespace Journal

variable {journal next : Journal χ}

omit [DecidableEq χ] [Checksums χ] in
theorem Quiet.settled (quiet : journal.Quiet cluster) {slot : Nat} (inside : slot < cluster.journalSlots) :
    Settled journal.checkpoint (journal.zones.headers.get slot) (journal.zones.prepares.get slot) := by
  obtain hsame | hring := quiet.headers slot inside
  · exact .inl hsame
  · rw [hring]
    exact quiet.ring slot inside

omit [DecidableEq χ] in
theorem quiet_formatted (view : Nat) : (Journal.formatted view : Journal χ).Quiet cluster := by
  have hsame : ∀ slot, (Journal.formatted view : Journal χ).zones.headers.get slot =
      (Journal.formatted view : Journal χ).zones.prepares.get slot :=
    fun slot => (formatted_get slot).1.trans (formatted_get slot).2.symm
  refine ⟨fun slot _ => .inl (hsame slot), fun slot _ => .inl (hsame slot), fun slot _ => ?_, fun slot _ h => ?_⟩
  · show (WALZones.formatted : WALZones χ).prepares.get slot = .reserved ∨ _
    rw [(formatted_get slot).2, WALCell.formatted]
    split_ifs with hslot
    · refine .inr ⟨Header.root, (formatted_get slot).2.trans (if_pos hslot), by simp [Header.root], ?_, fun h => ?_⟩
      · rw [hslot]
        exact Nat.zero_mod _
      · simp [Header.obsolete, Header.root, Journal.formatted] at h
    · exact .inl rfl
  · cases h

section

omit [DecidableEq χ] [Checksums χ]

/-- An append leaves its prepare in the slot, in its header and in the buffer.  Of every other slot at most the
header changes, to the one in the buffer. -/
theorem append_cells {wal left : WAL χ} {after : WALZones χ}
    (appended : wal.append zones cluster header reusableThrough = .ok (left, after)) (slot : Nat) :
    (slot = header.op % cluster.journalSlots → left.slots.get slot = .holding header ∧
      left.headerRing.get slot = .frame header ∧ after.prepares.get slot = .frame header ∧
      after.headers.get slot = .frame header) ∧ (slot ≠ header.op % cluster.journalSlots →
      left.slots.get slot = wal.slots.get slot ∧ left.headerRing.get slot = wal.headerRing.get slot ∧
      after.prepares.get slot = zones.prepares.get slot ∧
      (after.headers.get slot = zones.headers.get slot ∨
      after.headers.get slot = wal.headerRing.get slot)) := by
  obtain ⟨-, rfl, rfl⟩ := WAL.append_eq_ok appended
  constructor
  · rintro rfl
    have hmod := Nat.mod_lt (header.op % cluster.journalSlots) (show 0 < headersPerSector by decide)
    have hle := Nat.mod_le (header.op % cluster.journalSlots) headersPerSector
    simp only [WALZones.writeHeaderSector, WALZones.writePrepare, Table.get_copyRange, Table.get_set_self]
    exact ⟨trivial, trivial, trivial, if_pos (by omega)⟩
  · intro haway
    simp only [WALZones.writeHeaderSector, WALZones.writePrepare, Table.get_copyRange,
      Table.get_set_of_ne _ haway]
    refine ⟨trivial, trivial, trivial, ?_⟩
    split_ifs
    · exact .inr rfl
    · exact .inl rfl

section

variable (quiet : journal.Quiet cluster)

include quiet

theorem Quiet.append {wal : WAL χ} (ordinary : header.operation ≠ .reserved)
    (above : header.obsolete journal.installed = true → journal.checkpoint < header.op)
    (appended : journal.wal.append journal.zones cluster header reusableThrough = .ok (wal, zones)) :
    { journal with wal := wal, zones := zones }.Quiet cluster := by
  refine ⟨fun slot hslot => ?_, fun slot hslot => ?_, fun slot hslot => ?_, fun slot hslot hinhabited => ?_⟩
  all_goals
    obtain ⟨hown, hother⟩ := append_cells appended slot
    by_cases hplace : slot = header.op % cluster.journalSlots
  · obtain ⟨-, hring, -, hheader⟩ := hown hplace
    exact .inr (hheader.trans hring.symm)
  · obtain ⟨-, hring, hprepare, hheader⟩ := hother hplace
    simp only [hring, hprepare]
    obtain h | h := hheader
    · rw [h]
      exact quiet.headers slot hslot
    · exact .inr h
  · obtain ⟨-, hring, hprepare, -⟩ := hown hplace
    exact .inl (hring.trans hprepare.symm)
  · obtain ⟨-, hring, hprepare, -⟩ := hother hplace
    simp only [hring, hprepare]
    exact quiet.ring slot hslot
  · exact .inr ⟨header, (hown hplace).2.2.1, ordinary, hplace.symm, above⟩
  · simp only [(hother hplace).2.2.1]
    exact quiet.stored slot hslot
  · obtain ⟨hwal, hring, hprepare, -⟩ := hown hplace
    exact ⟨header, hwal, hring, hprepare⟩
  · obtain ⟨hwal, hring, hprepare, -⟩ := hother hplace
    simp only [hwal, hring, hprepare] at hinhabited ⊢
    exact quiet.slots slot hslot hinhabited

/-- A new durable view whose head is at or above the checkpoint excludes nothing below it. -/
theorem Quiet.record (above : journal.checkpoint ≤ view.headOp) :
    { journal with installed := view }.Quiet cluster := by
  refine ⟨quiet.headers, quiet.ring, fun slot hslot => ?_, quiet.slots⟩
  obtain h | ⟨held, h, hordinary, hplace, -⟩ := quiet.stored slot hslot
  · exact .inl h
  · refine .inr ⟨held, h, hordinary, hplace, fun hobsolete => ?_⟩
    have hbehind : view.headOp < held.op ∧ held.view < view.logView := by simpa [Header.obsolete] using hobsolete
    exact Nat.lt_of_le_of_lt above hbehind.1

theorem Quiet.discard {head : Nat} (above : journal.checkpoint ≤ head) :
    { journal with wal := journal.wal.discardAfter cluster head }.Quiet cluster := by
  -- an emptied slot held the prepare that stays behind its header
  have hdiscarded : ∀ slot < cluster.journalSlots, (journal.wal.slots.get slot).behind head = true →
      ∃ held, journal.zones.headers.get slot = journal.zones.prepares.get slot ∧
        journal.zones.prepares.get slot = .frame held ∧ journal.checkpoint < held.op := by
    intro slot hslot hbehind
    have hslot' : (journal.wal.slots.get slot).inhabited = true ∧ head < (journal.wal.slots.get slot).op := by
      simpa [WALSlot.behind] using hbehind
    obtain ⟨held, hwal, hring, hprepare⟩ := quiet.slots slot hslot hslot'.1
    have hop : head < held.op := by
      have hlater := hslot'.2
      rw [hwal] at hlater
      exact hlater
    refine ⟨held, ?_, hprepare, Nat.lt_of_le_of_lt above hop⟩
    obtain h | h := quiet.headers slot hslot
    · exact h
    · rw [h, hring, hprepare]
  refine ⟨fun slot hslot => ?_, fun slot hslot => ?_, quiet.stored, fun slot hslot hinhabited => ?_⟩
  all_goals
    obtain ⟨hslots, hring⟩ := journal.wal.discardAfter_get head hslot
    simp only at *
    by_cases hbehind : (journal.wal.slots.get slot).behind head = true
  · obtain ⟨held, hsame, -⟩ := hdiscarded slot hslot hbehind
    exact .inl hsame
  · rw [hring, if_neg hbehind]
    exact quiet.headers slot hslot
  · obtain ⟨held, -, hprepare, hop⟩ := hdiscarded slot hslot hbehind
    rw [hring, if_pos hbehind]
    exact .inr ⟨rfl, held, hprepare, hop⟩
  · rw [hring, if_neg hbehind]
    exact quiet.ring slot hslot
  · rw [hslots, if_pos hbehind] at hinhabited
    cases hinhabited
  · rw [hslots, if_neg hbehind] at hinhabited ⊢
    rw [hring, if_neg hbehind]
    exact quiet.slots slot hslot hinhabited

/-- The checkpoint moves up to `target` without passing a prepare that is obsolete or that has lost its header. -/
theorem Quiet.advance
    (buffered : ∀ slot < cluster.journalSlots, ∀ held, journal.wal.headerRing.get slot = .reserved →
      journal.zones.prepares.get slot = .frame held → journal.checkpoint < held.op → target < held.op)
    (current : ∀ slot < cluster.journalSlots, ∀ held, journal.zones.prepares.get slot = .frame held →
      held.obsolete journal.installed = true → held.op % cluster.journalSlots = slot →
      journal.checkpoint < held.op → target < held.op) :
    { journal with checkpoint := target }.Quiet cluster := by
  refine ⟨quiet.headers, fun slot hslot => ?_, fun slot hslot => ?_, quiet.slots⟩
  · obtain h | ⟨hring, held, hprepare, hop⟩ := quiet.ring slot hslot
    · exact .inl h
    · exact .inr ⟨hring, held, hprepare, buffered slot hslot held hring hprepare hop⟩
  obtain h | ⟨held, h, hstored⟩ := quiet.stored slot hslot
  · exact .inl h
  · exact .inr ⟨held, h, hstored.ordinary, hstored.place, fun hobsolete =>
      current slot hslot held h hobsolete hstored.place (hstored.above hobsolete)⟩

/-- A checkpoint of the replica's own covers prepares that the journal holds. -/
theorem Quiet.checkpoint (slots : cluster.journalSlots ≠ 0)
    (permitted : journal.permits cluster (.checkpoint target) = true) :
    { journal with checkpoint := target }.Quiet cluster := by
  have hheld : ∀ op, journal.checkpoint < op → op ≤ target → ∃ held,
      journal.wal.headerRing.get (op % cluster.journalSlots) = .frame held ∧
      journal.zones.prepares.get (op % cluster.journalSlots) = .frame held ∧
      held.obsolete journal.installed = false := by
    intro op hlow hhigh
    simp only [permits, decide_eq_true_eq, List.all_eq_true, List.mem_range'_1] at permitted
    obtain ⟨hinhabited, -, hcurrent⟩ := permitted.2 op (by omega)
    obtain ⟨held, hslot, hring, hprepare⟩ :=
      quiet.slots _ (Nat.mod_lt op (Nat.pos_of_ne_zero slots)) hinhabited
    refine ⟨held, hring, hprepare, ?_⟩
    rw [WAL.slot, hslot] at hcurrent
    simpa [WALSlot.holding] using hcurrent
  refine quiet.advance (fun slot hslot held hring hprepare hop => ?_) fun slot hslot held hprepare hobsolete hplace hop => ?_
  all_goals
    by_contra hbelow
  · have hplace : held.op % cluster.journalSlots = slot := by
      obtain h | ⟨stored, h, hstored⟩ := quiet.stored slot hslot
      · rw [hprepare] at h
        cases h
      · rw [hprepare] at h
        cases h
        exact hstored.place
    obtain ⟨other, hother, -⟩ := hheld held.op hop (Nat.not_lt.1 hbelow)
    rw [hplace, hring] at hother
    cases hother
  · obtain ⟨other, -, hother, hcurrent⟩ := hheld held.op hop (Nat.not_lt.1 hbelow)
    rw [hplace, hprepare] at hother
    cases hother
    rw [hobsolete] at hcurrent
    cases hcurrent

theorem Quiet.sync (permitted : journal.permits cluster (.sync target view) = true)
    (gently : journal.gentle cluster (.sync target view) = true) :
    { journal with checkpoint := target, installed := view }.Quiet cluster := by
  have hbounds : journal.checkpoint < target ∧ target ≤ view.headOp := by simpa [permits] using permitted
  have hrecord : { journal with installed := view }.Quiet cluster := quiet.record (by omega)
  refine hrecord.advance (fun slot hslot held hring hprepare _ => ?_) fun slot _ held _ hobsolete _ _ => ?_
  · simp only [gentle, strands, Bool.not_eq_true', List.any_eq_false, List.mem_range] at gently
    have hslot := gently slot hslot
    simp only at hring hprepare
    rw [hring, hprepare] at hslot
    simpa using hslot
  · have hbehind : view.headOp < held.op ∧ held.view < view.logView := by simpa [Header.obsolete] using hobsolete
    omega

end

end

/-! ## Recovery of a quiet journal -/

/-- What recovery decides in a quiet journal, and what it then holds for the slot. -/
theorem Quiet.decision (quiet : journal.Quiet cluster) (slots : cluster.journalSlots ≠ 0) (prepareMax : Nat)
    {slot : Nat} (inside : slot < cluster.journalSlots) :
    let decision := journal.zones.decision cluster journal.checkpoint prepareMax journal.installed slot
    (journal.zones.headers.get slot = .reserved ∧ journal.zones.prepares.get slot = .reserved ∧
        decision = .cleanEmpty) ∨
      ∃ held, journal.zones.prepares.get slot = .frame held ∧
        ((decision = .clean ∧ journal.zones.headers.get slot = .frame held) ∨ decision = .localRepair ∨
          (decision = .truncate ∧ (prepareMax < held.op ∨ journal.checkpoint < held.op))) := by
  intro decision
  obtain hblank | ⟨held, hprepare, hstored⟩ := quiet.stored slot inside
  · obtain hsame | ⟨-, held, hheld, -⟩ := quiet.settled inside
    · rw [hblank] at hsame
      exact .inl ⟨hsame, hblank, decision_of_blank hsame hblank⟩
    · rw [hblank] at hheld
      cases hheld
  · refine .inr ⟨held, hprepare, ?_⟩
    have hsettled := quiet.settled inside
    rw [hprepare] at hsettled
    have hdecision : decision = _ := decision_of_prepare hprepare (hsettled.imp id And.left) hstored.ordinary slots
      hstored.place
    split_ifs at hdecision with hdropped hsame habove
    · refine .inr (.inr ⟨hdecision, hdropped.imp id fun h => hstored.above ?_⟩)
      simpa [Header.obsolete] using h
    · exact .inl ⟨hdecision, hsame⟩
    · exact .inr (.inl hdecision)
    · obtain ⟨-, other, hother, hlt⟩ := hsettled.resolve_left hsame
      cases hother
      exact absurd hlt.le habove

theorem Quiet.decision_harmless (quiet : journal.Quiet cluster) (slots : cluster.journalSlots ≠ 0) (prepareMax : Nat)
    {slot : Nat} (inside : slot < cluster.journalSlots) :
    journal.zones.decision cluster journal.checkpoint prepareMax journal.installed slot ≠ .fail ∧
      journal.zones.decision cluster journal.checkpoint prepareMax journal.installed slot ≠ .remoteRepair := by
  obtain ⟨-, -, h⟩ | ⟨held, -, ⟨h, -⟩ | h | ⟨h, -⟩⟩ := quiet.decision slots prepareMax inside
  all_goals
    rw [h]
    decide

/-- Recovery of a quiet journal finds no faulty slot and leaves the journal quiet. -/
theorem Quiet.recoverSlots (quiet : journal.Quiet cluster) {prepareMax : Nat}
    (bounded : prepareMaximum cluster journal.checkpoint = some prepareMax) :
    ∃ state, journal.zones.recoverSlots cluster journal.checkpoint journal.installed = .ok state ∧
      state.faulty = 0 ∧ ∀ memberCount, { journal with
        wal := state.wal
        zones := journal.zones.afterRecovery cluster memberCount journal.checkpoint journal.installed }.Quiet
          cluster := by
  have hslots := slots_of_prepareMaximum bounded
  have hmax : journal.checkpoint ≤ prepareMax := by
    obtain ⟨interval, -, hmax⟩ := prepareMaximum_eq_some bounded
    split_ifs at hmax <;> omega
  have hpossible := fun slot => @Quiet.decision_harmless _ _ _ _ _ quiet hslots prepareMax slot
  obtain ⟨state, hstate, hwal, hring, hrepair, hfaulty⟩ := foldlM_recoverSlot
    { wal := { WAL.new with headerRing := journal.zones.headers }, repairHeaders := false, faulty := 0 }
    cluster.journalSlots (fun slot hslot => (hpossible slot hslot).1)
  have hrecovered : journal.zones.recoverSlots cluster journal.checkpoint journal.installed = .ok state := by
    rw [WALZones.recoverSlots, bounded]
    exact hstate
  have hclean : state.faulty = 0 := hfaulty.2 ⟨rfl, fun slot hslot => (hpossible slot hslot).2⟩
  refine ⟨state, hrecovered, hclean, fun memberCount => ?_⟩
  have hzones : ∀ slot < cluster.journalSlots, (journal.zones.afterRecovery cluster memberCount journal.checkpoint
      journal.installed).headers.get slot = state.wal.headerRing.get slot := by
    intro slot hslot
    rw [WALZones.afterRecovery, hrecovered]
    simp only [hclean, ne_eq, not_true_eq_false, false_and, if_false]
    by_cases hrewritten : state.repairHeaders = true
    · rw [if_pos hrewritten]
    · rw [if_neg hrewritten, hring, if_neg]
      rintro ⟨-, hrewrites⟩
      exact hrewritten (hrepair.2 (.inr ⟨slot, hslot, hrewrites⟩))
  have hslot : ∀ slot < cluster.journalSlots,
      Settled journal.checkpoint (state.wal.headerRing.get slot) (journal.zones.prepares.get slot) ∧
        ((state.wal.slots.get slot).inhabited = true → ∃ held, state.wal.slots.get slot = .holding held ∧
          state.wal.headerRing.get slot = .frame held ∧ journal.zones.prepares.get slot = .frame held) := by
    intro slot hslot
    rw [hwal, if_pos hslot, hring]
    simp only [hslot, true_and, WALZones.recoveredSlot, WALZones.recoveredCell]
    obtain ⟨hheader, hprepare, h⟩ | ⟨held, hprepare, ⟨h, hheader⟩ | h | ⟨h, habove⟩⟩ :=
      quiet.decision hslots prepareMax hslot
    · rw [h, hprepare, hheader]
      exact ⟨.inl rfl, fun hinhabited => by cases hinhabited⟩
    · rw [h, hprepare, hheader]
      exact ⟨.inl rfl, fun _ => ⟨held, rfl, rfl, rfl⟩⟩
    · rw [h, hprepare]
      exact ⟨.inl rfl, fun _ => ⟨held, rfl, rfl, rfl⟩⟩
    · rw [h, hprepare]
      exact ⟨.inr ⟨rfl, held, rfl, by omega⟩, fun hinhabited => by cases hinhabited⟩
  have hprepares : (journal.zones.afterRecovery cluster memberCount journal.checkpoint journal.installed).prepares =
      journal.zones.prepares := journal.zones.afterRecovery_prepares memberCount
  refine ⟨fun slot hslot => .inr (hzones slot hslot), ?_, ?_, ?_⟩
  all_goals simp only [hprepares]
  · exact fun slot hslot' => (hslot slot hslot').1
  · exact quiet.stored
  · exact fun slot hslot' => (hslot slot hslot').2

/-! ## Whole histories -/

omit [DecidableEq χ] [Checksums χ] in
/-- Without slots there is nothing to be quiet about. -/
theorem quiet_of_no_slots (none : cluster.journalSlots = 0) : journal.Quiet cluster := by
  refine ⟨?_, ?_, ?_, ?_⟩
  all_goals
    intro slot hslot
    omega

theorem Quiet.step {event : JournalEvent χ} (quiet : journal.Quiet cluster)
    (permitted : journal.permits cluster event = true) (gently : journal.gentle cluster event = true)
    (taken : journal.step cluster event = some next) : next.Quiet cluster := by
  by_cases hslots : cluster.journalSlots = 0
  · exact quiet_of_no_slots hslots
  cases event with
  | append header reusableThrough =>
    simp only [Journal.step] at taken
    split at taken
    · rename_i happended
      cases taken
      refine quiet.append (by simpa [gentle] using gently) (fun hobsolete => ?_) happended
      simpa [permits, hobsolete] using permitted
    · cases taken
  | install view =>
    cases taken
    have habove : journal.checkpoint ≤ view.headOp := by simpa [permits] using permitted
    exact (quiet.discard habove).record habove
  | leave head =>
    cases taken
    have habove : journal.checkpoint ≤ head := by simpa [permits] using permitted
    exact quiet.record habove
  | checkpoint target =>
    cases taken
    exact quiet.checkpoint hslots permitted
  | sync target view =>
    cases taken
    exact quiet.sync permitted gently
  | restart memberCount =>
    simp only [Journal.step] at taken
    cases hbounded : prepareMaximum cluster journal.checkpoint with
    | none =>
      rw [WALZones.recoverSlots, hbounded] at taken
      cases taken
    | some prepareMax =>
      obtain ⟨state, hstate, -, hquiet⟩ := quiet.recoverSlots hbounded
      rw [hstate] at taken
      cases taken
      exact hquiet memberCount

/-- Every event of the history is one the replica permits, and gentle. -/
def Gently (cluster : ClusterConfig) (journal : Journal χ) (event : JournalEvent χ) : Prop :=
  journal.permits cluster event = true ∧ journal.gentle cluster event = true

/-- `Recover` reports no faulty slot, whatever appends, views, checkpoints, state syncs and restarts came before,
as long as no state sync passed over a discarded prepare.  It refuses only where the chain of prepares ends
before the commit it is asked to reach. -/
theorem recover_faultless {view prepareMax : Nat} {checkpoint : CheckpointState χ}
    (reached : Transition.Reaches (Journal.step cluster) (Gently cluster) (Journal.formatted view) journal)
    (durable : checkpoint.prepareOp = journal.checkpoint)
    (bounded : prepareMaximum cluster journal.checkpoint = some prepareMax) (memberCount commitMax : Nat) :
    ∃ wal report, Recovered journal.zones cluster checkpoint prepareMax journal.installed wal report ∧
      report.faultySlots = 0 ∧
      journal.zones.recover cluster memberCount checkpoint commitMax journal.installed =
        if report.headOp < commitMax then .error .recovery else .ok (wal, report) := by
  have hquiet : journal.Quiet cluster := Transition.Reaches.invariant (quiet_formatted view)
    (fun quiet allowed taken => quiet.step allowed.1 allowed.2 taken) reached
  have hslots := slots_of_prepareMaximum bounded
  have hdecision : ∀ slot < cluster.journalSlots,
      journal.zones.decision cluster checkpoint.prepareOp prepareMax journal.installed slot ≠ .fail ∧
        journal.zones.decision cluster checkpoint.prepareOp prepareMax journal.installed slot ≠ .remoteRepair := by
    rw [durable]
    exact fun slot hslot => hquiet.decision_harmless hslots prepareMax hslot
  rw [← durable] at bounded
  obtain ⟨wal, report, hrecovered, hrecover⟩ :=
    recover_eq memberCount commitMax hslots (fun slot hslot => (hdecision slot hslot).1) bounded
  have hclean : report.faultySlots = 0 := hrecovered.faulty.2 fun slot hslot => (hdecision slot hslot).2
  refine ⟨wal, report, hrecovered, hclean, ?_⟩
  rw [hrecover]
  simp [hclean]

/-- Prepares of view 0, each linked to the one before it. -/
def chained : Nat → Header Digest
  | 0 => Header.root
  | op + 1 => .linkedTo (chained op).checksum (op + 1) 0

/-- Six prepares of view 0, of which view 1 keeps four, and the first of view 1. -/
def fork : List (JournalEvent Digest) :=
  .restart 3 :: (List.range 6).map (fun op => .append (chained (op + 1)) 0) ++
    [.install ⟨1, 4⟩, .append (.linkedTo (chained 4).checksum 5 1) 0]

/-- Three members with two prepares under way. -/
def twoUnderWay : ClusterConfig := .small 2 32

/-- The journal behind events. -/
def behind (events : List (JournalEvent Digest)) : Journal Digest :=
  (Transition.exec (Journal.step twoUnderWay) (Journal.formatted 0) events).getD (Journal.formatted 0)

theorem reaches_behind {check : Journal Digest → JournalEvent Digest → Bool} {events : List (JournalEvent Digest)}
    (passed : Transition.passes (Journal.step twoUnderWay) check (Journal.formatted 0) events = true)
    (ran : (Transition.exec (Journal.step twoUnderWay) (Journal.formatted 0) events).isSome = true) :
    Transition.Reaches (Journal.step twoUnderWay) (fun journal event => check journal event = true)
      (Journal.formatted 0) (behind events) := by
  refine Transition.reaches_of_exec (fun _ _ h => h) passed ?_
  obtain ⟨last, hlast⟩ := Option.isSome_iff_exists.1 ran
  rw [behind, hlast]
  rfl

/-- The discarded sixth prepare is dropped. -/
theorem recover_faultless_fork : ∃ wal report,
    (behind fork).zones.recover twoUnderWay 3 (.formatted 1 0) 0 (behind fork).installed = .ok (wal, report) ∧
      report.faultySlots = 0 := by
  have hpassed : Transition.passes (Journal.step twoUnderWay) (fun journal event =>
      journal.permits twoUnderWay event && journal.gentle twoUnderWay event) (Journal.formatted 0) fork = true := by
    decide +kernel
  have hreached := (reaches_behind hpassed (by decide +kernel)).mono fun journal event h =>
    (show Gently twoUnderWay journal event from Bool.and_eq_true_iff.1 h)
  have hbounded : prepareMaximum twoUnderWay (behind fork).checkpoint = some 31 := by decide +kernel
  obtain ⟨wal, report, hrecovered, hclean, hrecover⟩ := recover_faultless hreached
    (show (CheckpointState.formatted 1 0).prepareOp = (behind fork).checkpoint by decide +kernel) hbounded 3 0
  exact ⟨wal, report, by rw [hrecover, if_neg (Nat.not_lt_zero _)], hclean⟩

/-- The same journal, when the replica then adopts the checkpoint at op 26 from its peers: the sixth prepare is
below it, its header is empty, and the slot counts as faulty. -/
theorem sync_strands_prepare : ∃ journal : Journal Digest,
    Transition.Reaches (Journal.step twoUnderWay) (fun journal event => journal.permits twoUnderWay event = true)
      (Journal.formatted 0) journal ∧
    (journal.zones.recover twoUnderWay 3 { CheckpointState.formatted 1 0 with header := chained 26 }
      journal.checkpoint journal.installed).map (fun recovered => recovered.2.faultySlots) = .ok 1 :=
  ⟨behind (fork ++ [.sync 26 ⟨1, 28⟩]), reaches_behind (by decide +kernel) (by decide +kernel), by decide +kernel⟩

end Journal

end Supervsr
