import Supervsr.RecoveredJournal
import Supervsr.RecoveryBounds
import Supervsr.ReplicaStorage

/-
# Supervsr.JournalAppends — what recovery finds after appends, the last of them interrupted

A journal that was formatted and opened takes one prepare after the other.  Each append rewrites a whole
sector of the header ring from the buffer in memory, so the headers of the neighbouring slots are written
again and again; they stay what they were because the buffer holds the last header of every slot.  A crash
leaves the slot of the append under way with its old prepare, with the new one or with a torn one, and with
the old or the new header.  Every other slot holds the same prepare twice.
-/

namespace Supervsr

variable {χ : Type} [DecidableEq χ] [Checksums χ] {cluster : ClusterConfig} {history : List (Header χ)}

variable {wal : WAL χ} {context : WALRecoveryContext} {kept header : Header χ} {zones : WALZones χ} {slot : Nat}

/-- The cell a slot holds while nothing has been appended to it. -/
def WALCell.formatted (slot : Nat) : WALCell χ := if slot = 0 then .frame Header.root else .reserved

/-- The last prepare of a history, the latest first, that went into a slot. -/
def latestPrepare (cluster : ClusterConfig) (history : List (Header χ)) (slot : Nat) : Option (Header χ) :=
  history.find? fun header => header.op % cluster.journalSlots = slot

/-- What both zones hold in a slot after a history of completed appends. -/
def latestCell (cluster : ClusterConfig) (history : List (Header χ)) (slot : Nat) : WALCell χ :=
  ((latestPrepare cluster history slot).map .frame).getD (.formatted slot)

/-- Completed calls of `Append`, the latest first, on a journal that was formatted and recovered. -/
inductive Appends (cluster : ClusterConfig) : List (Header χ) → WAL χ → WALZones χ → Prop where
  | opened {memberCount commitMax : Nat} {checkpoint : CheckpointState χ} {installed : WALRecoveryView}
      {wal : WAL χ} {report : WALRecoveryReport χ} (formatted : checkpoint.prepareOp = 0)
      (recovered : WALZones.formatted.recover cluster memberCount checkpoint commitMax installed =
        .ok (wal, report)) : Appends cluster [] wal WALZones.formatted
  | append {history : List (Header χ)} {wal next : WAL χ} {zones left : WALZones χ} {header : Header χ}
      {reusableThrough : Nat} (before : Appends cluster history wal zones)
      (appended : wal.append zones cluster header reusableThrough = .ok (next, left)) :
      Appends cluster (header :: history) next left

/-- What a crash can leave of an append: the prepare is written in several sectors, and its header in one
sector behind them. -/
inductive Interrupted (cluster : ClusterConfig) (wal : WAL χ) (zones : WALZones χ) (header : Header χ) :
    WALZones χ → Prop where
  | prepare {cell : WALCell χ} (torn : cell = zones.prepares.get (header.op % cluster.journalSlots) ∨
        cell = .frame header ∨ cell = .damaged) :
      Interrupted cluster wal zones header
        { zones with prepares := zones.prepares.set (header.op % cluster.journalSlots) cell }
  | header : Interrupted cluster wal zones header
      ((zones.writePrepare (header.op % cluster.journalSlots) header).writeHeaderSector
        (wal.headerRing.set (header.op % cluster.journalSlots) (.frame header))
        (header.op % cluster.journalSlots))

section

omit [DecidableEq χ]

theorem latestCell_cons (history : List (Header χ)) (header : Header χ) (slot : Nat) :
    latestCell cluster (header :: history) slot =
      if slot = header.op % cluster.journalSlots then .frame header else latestCell cluster history slot := by
  unfold latestCell latestPrepare
  by_cases hslot : slot = header.op % cluster.journalSlots
  · rw [List.find?_cons_of_pos (by simp [hslot]), if_pos hslot]
    rfl
  · rw [List.find?_cons_of_neg (by simpa using Ne.symm hslot), if_neg hslot]

theorem formatted_get (slot : Nat) :
    (WALZones.formatted : WALZones χ).headers.get slot = .formatted slot ∧
      (WALZones.formatted : WALZones χ).prepares.get slot = .formatted slot := by
  simp only [WALZones.formatted, Table.get_set, WALCell.formatted]
  exact ⟨rfl, rfl⟩

end

/-! ## What recovery decides -/

section Decision

variable {checkpoint prepareMax : Nat} {installed : WALRecoveryView}

/-- A prepare is dropped with its slot beyond the ring and behind the installed view.  Otherwise it is kept
beside its own header, and one the checkpoint does not cover is taken over beside an empty header. -/
theorem decision_of_prepare (hprepare : zones.prepares.get slot = .frame header)
    (hheader : zones.headers.get slot = .frame header ∨ zones.headers.get slot = .reserved)
    (ordinary : header.operation ≠ .reserved) (slots : cluster.journalSlots ≠ 0)
    (place : header.op % cluster.journalSlots = slot) :
    zones.decision cluster checkpoint prepareMax installed slot =
      if prepareMax < header.op ∨ (installed.headOp < header.op ∧ header.view < installed.logView) then .truncate
      else if zones.headers.get slot = .frame header then .clean
      else if checkpoint ≤ header.op then .localRepair else .remoteRepair := by
  have hcandidate : (WALCell.frame header).candidate slot = .ordinary header := if_neg ordinary
  have hblank : (WALCell.reserved : WALCell χ).candidate slot = .reserved slot := rfl
  unfold WALZones.decision classifyWALSlot
  rw [hprepare]
  obtain h | h := hheader <;> rw [h] <;> simp only [hcandidate, hblank, impossibleWALCandidate, futureWALCandidate]
  all_goals
    by_cases hfuture : prepareMax < header.op
    · simp [slots, place, hfuture]
    by_cases hobsolete : installed.headOp < header.op ∧ header.view < installed.logView
    · simp [slots, place, hfuture, hobsolete, obsoleteWALCandidate, classifyObsolete, WALCandidate.isInvalid,
        WALCandidate.isOrdinary]
    · simp [slots, place, hfuture, hobsolete, obsoleteWALCandidate, classifyCurrent, candidatesEqual,
        retainedOrdinary, Nat.le_of_not_lt hfuture]

theorem decision_of_blank (hheader : zones.headers.get slot = .reserved)
    (hprepare : zones.prepares.get slot = .reserved) :
    zones.decision cluster checkpoint prepareMax installed slot = .cleanEmpty := by
  unfold WALZones.decision
  rw [hheader, hprepare]
  rfl

end Decision

/-- Recovery finds nothing to repair in a formatted journal. -/
theorem recoveredCell_formatted {checkpoint prepareMax : Nat} {installed : WALRecoveryView}
    (slots : cluster.journalSlots ≠ 0) :
    (WALZones.formatted : WALZones χ).recoveredCell cluster checkpoint prepareMax installed slot =
      .formatted slot := by
  obtain ⟨hheader, hprepare⟩ := formatted_get (χ := χ) slot
  unfold WALZones.recoveredCell
  by_cases hslot : slot = 0
  · rw [WALCell.formatted, if_pos hslot] at hheader hprepare ⊢
    rw [decision_of_prepare hprepare (.inl hheader) (by simp [Header.root]) slots (by rw [hslot]; exact Nat.zero_mod _)]
    simp [hheader]
  · rw [WALCell.formatted, if_neg hslot] at hheader hprepare ⊢
    rw [decision_of_blank hheader hprepare]
    exact hheader

/-! ## The slots after completed appends -/

/-- Both zones and the buffer of headers hold the last prepare of every slot. -/
structure Appends.Current (cluster : ClusterConfig) (history : List (Header χ)) (wal : WAL χ)
    (zones : WALZones χ) : Prop where
  headers : ∀ slot < cluster.journalSlots, zones.headers.get slot = latestCell cluster history slot
  prepares : ∀ slot < cluster.journalSlots, zones.prepares.get slot = latestCell cluster history slot
  ring : ∀ slot < cluster.journalSlots, wal.headerRing.get slot = latestCell cluster history slot

omit [DecidableEq χ] in
/-- A sector of the buffer written back leaves the headers of the other slots as they are. -/
theorem Appends.Current.writeHeaderSector (current : Appends.Current cluster history wal zones)
    (header : Header χ) (index slot : Nat) (inside : slot < cluster.journalSlots) :
    ((zones.writePrepare (header.op % cluster.journalSlots) header).writeHeaderSector (wal.headerRing.set
      (header.op % cluster.journalSlots) (.frame header)) index).headers.get slot =
      latestCell cluster history slot ∨ slot = header.op % cluster.journalSlots := by
  by_cases hslot : slot = header.op % cluster.journalSlots
  · exact .inr hslot
  refine .inl ?_
  simp only [WALZones.writeHeaderSector, WALZones.writePrepare, Table.get_copyRange,
    Table.get_set_of_ne _ hslot]
  split_ifs
  · exact current.ring slot inside
  · exact current.headers slot inside

theorem Appends.current (appends : Appends cluster history wal zones) (slots : cluster.journalSlots ≠ 0) :
    Appends.Current cluster history wal zones := by
  induction appends with
  | opened formatted recovered =>
    obtain ⟨prepareMax, -, hrecovered, -⟩ := recovered_of_recover recovered
    refine ⟨fun slot _ => (formatted_get slot).1, fun slot _ => (formatted_get slot).2, ?_⟩
    intro slot hslot
    rw [hrecovered.ring slot hslot, recoveredCell_formatted slots]
    rfl
  | @append history wal next zones left header reusableThrough before appended ih =>
    obtain ⟨-, rfl, rfl⟩ := WAL.append_eq_ok appended
    refine ⟨fun slot hslot => ?_, fun slot hslot => ?_, fun slot hslot => ?_⟩
    · rw [latestCell_cons]
      split_ifs with hplace
      · -- the sector that is written covers the slot
        simp only [WALZones.writeHeaderSector, Table.get_copyRange, hplace, Table.get_set_self]
        have hmod := Nat.mod_lt (header.op % cluster.journalSlots) (show 0 < headersPerSector by decide)
        have hle := Nat.mod_le (header.op % cluster.journalSlots) headersPerSector
        rw [if_pos (by omega)]
      · exact (ih.writeHeaderSector header _ slot hslot).resolve_right hplace
    · simp only [WALZones.writeHeaderSector, WALZones.writePrepare, Table.get_set, latestCell_cons]
      split_ifs
      · rfl
      · exact ih.prepares slot hslot
    · simp only [Table.get_set, latestCell_cons]
      split_ifs
      · rfl
      · exact ih.ring slot hslot

/-! ## The interrupted append -/

/-- A prepare that belongs to the ring behind a checkpoint and that the installed view does not exclude. -/
def Header.Retained (header : Header χ) (checkpoint prepareMax : Nat) (installed : WALRecoveryView) : Prop :=
  checkpoint < header.op ∧ header.op ≤ prepareMax ∧
    ¬ (installed.headOp < header.op ∧ header.view < installed.logView)

/-- What is left of the slots: all but the one of the interrupted append are as they were, and that one
holds old or new cells, or a torn prepare. -/
structure Interrupted.Leaves (cluster : ClusterConfig) (history : List (Header χ)) (header : Header χ)
    (left : WALZones χ) : Prop where
  headers : ∀ slot < cluster.journalSlots, slot ≠ header.op % cluster.journalSlots →
    left.headers.get slot = latestCell cluster history slot
  prepares : ∀ slot < cluster.journalSlots, slot ≠ header.op % cluster.journalSlots →
    left.prepares.get slot = latestCell cluster history slot
  ownHeader : left.headers.get (header.op % cluster.journalSlots) ∈
    [latestCell cluster history (header.op % cluster.journalSlots), .frame header]
  ownPrepare : left.prepares.get (header.op % cluster.journalSlots) ∈
    [latestCell cluster history (header.op % cluster.journalSlots), .frame header, .damaged]

omit [DecidableEq χ] in
theorem Interrupted.leaves {left : WALZones χ} (current : Appends.Current cluster history wal zones)
    (slots : cluster.journalSlots ≠ 0) (interrupted : Interrupted cluster wal zones header left) :
    Interrupted.Leaves cluster history header left := by
  have hinside : header.op % cluster.journalSlots < cluster.journalSlots :=
    Nat.mod_lt _ (Nat.pos_of_ne_zero slots)
  cases interrupted with
  | @prepare cell torn =>
    refine ⟨fun slot hslot _ => current.headers slot hslot, fun slot hslot hne => ?_, ?_, ?_⟩
    · show (zones.prepares.set _ cell).get slot = _
      rw [Table.get_set_of_ne _ hne]
      exact current.prepares slot hslot
    · simp [current.headers _ hinside]
    · rw [Table.get_set_self]
      rw [current.prepares _ hinside] at torn
      simpa using torn
  | header =>
    refine ⟨fun slot hslot hne => ?_, fun slot hslot hne => ?_, ?_, ?_⟩
    · exact (current.writeHeaderSector header _ slot hslot).resolve_right hne
    · show (zones.prepares.set _ _).get slot = _
      rw [Table.get_set_of_ne _ hne]
      exact current.prepares slot hslot
    · simp only [WALZones.writeHeaderSector, WALZones.writePrepare, Table.get_copyRange, Table.get_set_self]
      split_ifs
      · simp
      · simp [current.headers _ hinside]
    · simp [WALZones.writeHeaderSector, WALZones.writePrepare]

/-- A slot is emptied for the sake of a prepare that lies beyond the ring or behind the installed view. -/
theorem classifyWALSlot_truncates {header prepare : WALCandidate χ}
    (truncates : classifyWALSlot header prepare context = .truncate) :
    ∃ dropped, (header = .ordinary dropped ∨ prepare = .ordinary dropped) ∧
      (context.prepareMax < dropped.op ∨
        (context.installed.headOp < dropped.op ∧ dropped.view < context.installed.logView)) := by
  have hfuture : ∀ {candidate : WALCandidate χ}, futureWALCandidate candidate context = true →
      ∃ dropped, candidate = .ordinary dropped ∧ context.prepareMax < dropped.op := by
    intro candidate hcandidate
    cases candidate with
    | ordinary dropped => exact ⟨dropped, rfl, by simpa [futureWALCandidate] using hcandidate⟩
    | invalid | reserved op => cases hcandidate
  have hobsolete : ∀ {candidate : WALCandidate χ}, obsoleteWALCandidate candidate context.installed = true →
      ∃ dropped, candidate = .ordinary dropped ∧ context.installed.headOp < dropped.op ∧
        dropped.view < context.installed.logView := by
    intro candidate hcandidate
    cases candidate with
    | ordinary dropped => exact ⟨dropped, rfl, by simpa [obsoleteWALCandidate] using hcandidate⟩
    | invalid | reserved op => cases hcandidate
  unfold classifyWALSlot at truncates
  split_ifs at truncates with himpossible hpast hview
  · obtain h | h := hpast
    · obtain ⟨dropped, rfl, hop⟩ := hfuture h
      exact ⟨dropped, .inl rfl, .inl hop⟩
    · obtain ⟨dropped, rfl, hop⟩ := hfuture h
      exact ⟨dropped, .inr rfl, .inl hop⟩
  · obtain h | h := hview
    · obtain ⟨dropped, rfl, hop⟩ := hobsolete h
      exact ⟨dropped, .inl rfl, .inr hop⟩
    · obtain ⟨dropped, rfl, hop⟩ := hobsolete h
      exact ⟨dropped, .inr rfl, .inr hop⟩
  · unfold classifyCurrent at truncates
    split at truncates
    · split_ifs at truncates
    · cases truncates
    · split_ifs at truncates
    · split_ifs at truncates
    · cases truncates

/-- A slot is taken for empty where neither cell holds anything. -/
theorem classifyWALSlot_cleanEmpty {header prepare : WALCandidate χ}
    (empty : classifyWALSlot header prepare context = .cleanEmpty) : ∃ op, prepare = .reserved op := by
  unfold classifyWALSlot at empty
  split_ifs at empty
  · unfold classifyObsolete at empty
    dsimp only at empty
    split_ifs at empty
  unfold classifyCurrent at empty
  split at empty
  · split_ifs at empty
  · exact ⟨_, rfl⟩
  · split_ifs at empty
  · split_ifs at empty
  · cases empty

section Recovered

variable {left : WALZones χ} {checkpoint prepareMax : Nat}
  {installed : WALRecoveryView}

section

omit [DecidableEq χ]

theorem latestCell_of_latestPrepare (latest : latestPrepare cluster history slot = some kept) :
    latestCell cluster history slot = .frame kept := by
  rw [latestCell, latest]
  rfl

/-- A cell of the history is a prepare of the slot it lies in, or blank. -/
theorem latestCell_cases (cluster : ClusterConfig)
    (ordinary : ∀ appended ∈ history, appended.operation ≠ .reserved) (slot : Nat) :
    (∃ kept, latestCell cluster history slot = .frame kept ∧ kept.operation ≠ .reserved ∧
        (kept.op % cluster.journalSlots = slot)) ∨
      (latestPrepare cluster history slot = none ∧ latestCell cluster history slot = .reserved) := by
  cases hlatest : latestPrepare cluster history slot with
  | some kept =>
    refine .inl ⟨kept, latestCell_of_latestPrepare hlatest, ordinary kept (List.mem_of_find?_eq_some hlatest), ?_⟩
    simpa using List.find?_some hlatest
  | none =>
    have hcell : latestCell cluster history slot = .formatted slot := by rw [latestCell, hlatest]; rfl
    rw [hcell, WALCell.formatted]
    by_cases hslot : slot = 0
    · rw [if_pos hslot]
      refine .inl ⟨Header.root, rfl, by simp [Header.root], ?_⟩
      rw [hslot]
      exact Nat.zero_mod _
    · rw [if_neg hslot]
      exact .inr ⟨rfl, rfl⟩

end

section

variable (leaves : Interrupted.Leaves cluster history header left)

include leaves

/-- Away from the interrupted append every slot is kept as it was or emptied, and a retained prepare is
kept. -/
theorem Interrupted.Leaves.decision (checkpoint prepareMax : Nat) (installed : WALRecoveryView)
    (ordinary : ∀ appended ∈ history, appended.operation ≠ .reserved) (slots : cluster.journalSlots ≠ 0)
    (inside : slot < cluster.journalSlots) (away : slot ≠ header.op % cluster.journalSlots) :
    left.decision cluster checkpoint prepareMax installed slot ∈ [WALRecoveryDecision.clean, .cleanEmpty,
      .truncate] ∧ ∀ kept, latestPrepare cluster history slot = some kept →
      kept.Retained checkpoint prepareMax installed →
      left.decision cluster checkpoint prepareMax installed slot = .clean := by
  have hheader := leaves.headers slot inside away
  have hprepare := leaves.prepares slot inside away
  obtain ⟨held, hcell, hordinary, hplace⟩ | ⟨hnone, hblank⟩ := latestCell_cases cluster ordinary slot
  · rw [hcell] at hheader hprepare
    rw [decision_of_prepare hprepare (.inl hheader) hordinary slots hplace]
    constructor
    · split_ifs <;> simp
    rintro kept hlatest ⟨-, hmax, hview⟩
    rw [latestCell_of_latestPrepare hlatest] at hcell
    cases hcell
    rw [if_neg (not_or.mpr ⟨Nat.not_lt.mpr hmax, hview⟩), if_pos hheader]
  · rw [hblank] at hheader hprepare
    rw [decision_of_blank hheader hprepare]
    refine ⟨by simp, fun kept hlatest _ => ?_⟩
    rw [hnone] at hlatest
    cases hlatest

omit [DecidableEq χ] in
/-- The prepares of the interrupted slot: the old one, the new one or neither. -/
theorem Interrupted.Leaves.ownFrame {other : Header χ}
    (stored : left.headers.get (header.op % cluster.journalSlots) = .frame other ∨
      left.prepares.get (header.op % cluster.journalSlots) = .frame other) :
    other = header ∨ latestCell cluster history (header.op % cluster.journalSlots) = .frame other := by
  obtain hstored | hstored := stored
  · have hown := leaves.ownHeader
    rw [hstored] at hown
    simp only [List.mem_cons, List.not_mem_nil, or_false, WALCell.frame.injEq] at hown
    exact hown.symm.imp id Eq.symm
  · have hown := leaves.ownPrepare
    rw [hstored] at hown
    simp only [List.mem_cons, List.not_mem_nil, or_false, WALCell.frame.injEq, reduceCtorEq] at hown
    exact hown.symm.imp id Eq.symm

/-- What recovery can make of the interrupted slot. -/
theorem Interrupted.Leaves.ownSlot (ordinary : ∀ appended ∈ header :: history, appended.operation ≠ .reserved)
    (possible : left.decision cluster checkpoint prepareMax installed (header.op % cluster.journalSlots) ≠ .fail) :
    let slot := header.op % cluster.journalSlots
    let recovered := left.recoveredSlot cluster checkpoint prepareMax installed slot
    recovered.faulty = true ∨
      (∃ kept, (kept = header ∨ latestCell cluster history slot = .frame kept) ∧
        recovered = .holding kept ∧ left.prepares.get slot = .frame kept) ∨
      (recovered = .reserved slot ∧ (latestCell cluster history slot = .reserved ∨
        ∃ dropped, (dropped = header ∨ latestCell cluster history slot = .frame dropped) ∧
          ¬ (dropped.op ≤ prepareMax ∧
            ¬ (installed.headOp < dropped.op ∧ dropped.view < installed.logView)))) := by
  intro slot recovered
  cases hdecision : left.decision cluster checkpoint prepareMax installed slot with
  | fail => exact absurd hdecision possible
  | remoteRepair =>
    refine .inl ?_
    show (left.recoveredSlot cluster checkpoint prepareMax installed slot).faulty = true
    unfold WALZones.recoveredSlot
    rw [hdecision]
  | clean | localRepair =>
    obtain ⟨kept, hframe, -⟩ := decision_keeps (show (left.decision cluster checkpoint prepareMax installed
      slot).keeps = true by rw [hdecision]; rfl)
    refine .inr (.inl ⟨kept, leaves.ownFrame (.inr hframe), ?_, hframe⟩)
    show left.recoveredSlot cluster checkpoint prepareMax installed slot = _
    unfold WALZones.recoveredSlot
    rw [hdecision, hframe]
  | cleanEmpty =>
    refine .inr (.inr ⟨?_, .inl ?_⟩)
    · show left.recoveredSlot cluster checkpoint prepareMax installed slot = _
      unfold WALZones.recoveredSlot
      rw [hdecision]
    obtain ⟨op, hreserved⟩ := classifyWALSlot_cleanEmpty hdecision
    have hown := leaves.ownPrepare
    simp only [List.mem_cons, List.not_mem_nil, or_false] at hown
    obtain hown | hown | hown := hown
    · obtain ⟨held, hcell, hordinary, -⟩ | ⟨-, hblank⟩ :=
        latestCell_cases cluster (fun h hmem => ordinary h (List.mem_cons_of_mem _ hmem)) slot
      · rw [hown, hcell, WALCell.candidate, if_neg hordinary] at hreserved
        cases hreserved
      · exact hblank
    · rw [hown, WALCell.candidate, if_neg (ordinary header List.mem_cons_self)] at hreserved
      cases hreserved
    · rw [hown] at hreserved
      cases hreserved
  | truncate =>
    refine .inr (.inr ⟨?_, .inr ?_⟩)
    · show left.recoveredSlot cluster checkpoint prepareMax installed slot = _
      unfold WALZones.recoveredSlot
      rw [hdecision]
    obtain ⟨dropped, hdropped, hexcluded⟩ := classifyWALSlot_truncates hdecision
    refine ⟨dropped, leaves.ownFrame ?_, ?_⟩
    · exact hdropped.imp (fun h => (WALCell.eq_frame_of_candidate h).1)
        fun h => (WALCell.eq_frame_of_candidate h).1
    rintro ⟨hmax, hview⟩
    obtain h | h := hexcluded
    · exact absurd hmax (Nat.not_le.mpr h)
    · exact hview h

omit [DecidableEq χ] in
theorem Interrupted.Leaves.placed (ordinary : ∀ appended ∈ history, appended.operation ≠ .reserved) : left.Placed cluster := by
  intro slot hslot other hother
  have hlatest : latestCell cluster history slot = .frame other → other.op % cluster.journalSlots = slot := by
    intro hcell
    obtain ⟨held, hheld, -, hplace⟩ | ⟨-, hblank⟩ := latestCell_cases cluster ordinary slot
    · rw [hcell] at hheld
      cases hheld
      exact hplace
    · rw [hcell] at hblank
      cases hblank
  by_cases hown : slot = header.op % cluster.journalSlots
  · subst hown
    obtain rfl | h := leaves.ownFrame hother
    · rfl
    · exact hlatest h
  · rw [leaves.headers slot hslot hown, leaves.prepares slot hslot hown] at hother
    exact hlatest (or_self_iff.mp hother)

end

/-- A journal with ordinary prepares, of which the last append was interrupted, is recovered slot by slot:
the retained prepares of all other slots are there, and nothing but the slot of the interrupted append is
reported faulty.  What is recovered is read back as it was written. -/
theorem Interrupted.recovers {wal : WAL χ} {zones : WALZones χ}
    (installed : WALRecoveryView) (memberCount : Nat) (appends : Appends cluster history wal zones)
    (ordinary : ∀ appended ∈ header :: history, appended.operation ≠ .reserved)
    (interrupted : Interrupted cluster wal zones header left)
    (bounded : prepareMaximum cluster checkpoint = some prepareMax) :
    ∃ state, left.recoverSlots cluster checkpoint installed = .ok state ∧
      (∀ slot < cluster.journalSlots, slot ≠ header.op % cluster.journalSlots →
        (state.wal.slots.get slot).faulty = false ∧
          ∀ kept, latestPrepare cluster history slot = some kept →
            kept.Retained checkpoint prepareMax installed →
              left.decision cluster checkpoint prepareMax installed slot ∈
                  [WALRecoveryDecision.clean, .localRepair] ∧
                state.wal.slots.get slot = .holding kept) ∧
      (let slot := header.op % cluster.journalSlots
        let recovered := state.wal.slots.get slot
        recovered.faulty = true ∨
          (∃ kept, (kept = header ∨ latestCell cluster history slot = .frame kept) ∧
            recovered = .holding kept) ∨
          (recovered = .reserved slot ∧ (latestCell cluster history slot = .reserved ∨
            ∃ dropped, (dropped = header ∨ latestCell cluster history slot = .frame dropped) ∧
              ¬ (dropped.op ≤ prepareMax ∧
                ¬ (installed.headOp < dropped.op ∧ dropped.view < installed.logView))))) ∧
      ∀ slot < cluster.journalSlots, ∀ kept, state.wal.slots.get slot = .holding kept →
        WAL.readPrepare (left.afterRecovery cluster memberCount checkpoint installed) cluster kept.op =
          .ok kept := by
  have hslots := slots_of_prepareMaximum bounded
  have hhistory : ∀ appended ∈ history, appended.operation ≠ .reserved :=
    fun appended h => ordinary appended (List.mem_cons_of_mem _ h)
  have hinside : header.op % cluster.journalSlots < cluster.journalSlots :=
    Nat.mod_lt _ (Nat.pos_of_ne_zero hslots)
  have hleaves := interrupted.leaves (appends.current hslots) hslots
  have hpossible : ∀ slot < cluster.journalSlots,
      left.decision cluster checkpoint prepareMax installed slot ≠ .fail :=
    fun slot hslot => decision_ne_fail (hleaves.placed hhistory) hslot
  obtain ⟨state, hstate, hget, -⟩ := foldlM_recoverSlot
    { wal := { WAL.new with headerRing := left.headers }, repairHeaders := false, faulty := 0 }
    cluster.journalSlots hpossible
  have hrecovered : ∀ slot < cluster.journalSlots, state.wal.slots.get slot =
      left.recoveredSlot cluster checkpoint prepareMax installed slot :=
    fun slot hslot => (hget slot).trans (if_pos hslot)
  refine ⟨state, ?_, fun slot hslot haway => ⟨?_, fun kept hlatest hretained => ?_⟩, ?_, ?_⟩
  · rw [WALZones.recoverSlots, bounded]
    exact hstate
  · have hdecision := (hleaves.decision checkpoint prepareMax installed hhistory hslots hslot haway).1
    rw [hrecovered slot hslot, WALZones.recoveredSlot]
    simp only [List.mem_cons, List.not_mem_nil, or_false] at hdecision
    split
    · rfl
    · rfl
    · rename_i h
      rw [h] at hdecision
      simp at hdecision
    · rfl
  · have hclean := (hleaves.decision checkpoint prepareMax installed hhistory hslots hslot haway).2 kept
      hlatest hretained
    refine ⟨by simp [hclean], ?_⟩
    rw [hrecovered slot hslot, WALZones.recoveredSlot, hclean, hleaves.prepares slot hslot haway,
      latestCell_of_latestPrepare hlatest]
  · intro slot recovered
    show (state.wal.slots.get slot).faulty = true ∨ _
    simp only [recovered, slot]
    rw [hrecovered _ hinside]
    obtain h | ⟨kept, hkept, hholding, -⟩ | h := hleaves.ownSlot ordinary (hpossible _ hinside)
    · exact .inl h
    · exact .inr (.inl ⟨kept, hkept, hholding⟩)
    · exact .inr (.inr h)
  · intro slot hslot kept hkept
    rw [hrecovered slot hslot] at hkept
    have hinhabited : (left.recoveredSlot cluster checkpoint prepareMax installed slot).inhabited = true := by
      rw [hkept]
      rfl
    obtain ⟨stored, hkeeps, hstored, hholding⟩ := keeps_of_recoveredSlot hinhabited
    obtain ⟨_, hframe, -, hplace, -⟩ := decision_keeps hkeeps
    rw [hholding] at hkept
    obtain rfl : stored = kept := Option.some.inj (congrArg WALSlot.authoritative hkept)
    rw [hstored] at hframe
    cases hframe
    apply readPrepare_of_frame
    rw [WALZones.afterRecovery_prepares, hplace, hstored]

end Recovered

/-! ## An append of three members -/

/-- The journal of a member that was formatted and opened. -/
def WAL.opened (cfg : Config) : WAL Digest :=
  match WALZones.formatted.recover cfg.cluster cfg.memberCount (.formatted 1 0) 0 ⟨0, 0⟩ with
  | .ok (wal, _) => wal
  | .error _ => .new

/-- The storage of that member behind a completed append and one that a crash has torn. -/
def WALZones.torn (cfg : Config) (appended header : Header Digest) : WALZones Digest :=
  match (WAL.opened cfg).append .formatted cfg.cluster appended 0 with
  | .ok (_, zones) => { zones with
      prepares := zones.prepares.set (header.op % cfg.cluster.journalSlots) .damaged }
  | .error _ => .formatted

omit [DecidableEq χ] [Checksums χ] in
theorem WAL.append_of_appendable {reusableThrough : Nat}
    (appendable : wal.appendable cluster header reusableThrough = true) :
    ∃ next left, wal.append zones cluster header reusableThrough = .ok (next, left) :=
  ⟨_, _, if_neg (not_not_intro appendable)⟩

/-- A completed append of three members, with a torn one behind it. -/
theorem Appends.torn (appended header : Header Digest)
    (appendable : (WAL.opened threeMembers).appendable threeMembers.cluster appended 0 = true) :
    ∃ wal zones, Appends threeMembers.cluster [appended] wal zones ∧
      Interrupted threeMembers.cluster wal zones header (.torn threeMembers appended header) := by
  have hrecovered : WALZones.formatted.recover threeMembers.cluster threeMembers.memberCount
      (.formatted 1 0) 0 ⟨0, 0⟩ = .ok (WAL.opened threeMembers, ⟨0, Header.root, 0, 0⟩) := by
    decide +kernel
  obtain ⟨next, left, happended⟩ := WAL.append_of_appendable appendable
  refine ⟨next, left, (Appends.opened (by decide +kernel) hrecovered).append happended, ?_⟩
  rw [WALZones.torn, happended]
  exact .prepare (.inr (.inr rfl))

/-- The first prepare survives a tear in the second. -/
theorem Interrupted.recovers_first :
    ∃ state, (WALZones.torn threeMembers (.linkedTo Header.root.checksum 1 0)
        (.linkedTo Checksums.zero 2 0)).recoverSlots threeMembers.cluster 0 ⟨0, 0⟩ = .ok state ∧
      state.wal.slots.get 1 = .holding (.linkedTo Header.root.checksum 1 0) := by
  obtain ⟨wal, zones, happends, hinterrupted⟩ := Appends.torn (.linkedTo Header.root.checksum 1 0)
    (.linkedTo Checksums.zero 2 0) (by decide +kernel)
  have hbounded : prepareMaximum threeMembers.cluster 0 = some 31 := by decide +kernel
  obtain ⟨state, hstate, hslots, -⟩ := hinterrupted.recovers ⟨0, 0⟩ 3 happends (by decide) hbounded
  obtain ⟨-, hkept⟩ := hslots 1 (by decide) (by decide)
  exact ⟨state, hstate, (hkept _ rfl (by unfold Header.Retained; decide)).2⟩

/-- A frame with the operation that marks empty slots is appended like any other, and recovered as an
empty slot. -/
theorem reserved_append_lost : ∃ wal zones,
    Appends threeMembers.cluster [{ Header.linkedTo Header.root.checksum 1 0 with operation := .reserved }]
      wal zones ∧
    Interrupted threeMembers.cluster wal zones (.linkedTo Checksums.zero 2 0)
      (.torn threeMembers { Header.linkedTo Header.root.checksum 1 0 with operation := .reserved }
        (.linkedTo Checksums.zero 2 0)) ∧
    prepareMaximum threeMembers.cluster 0 = some 31 ∧
    (WALZones.torn threeMembers { Header.linkedTo Header.root.checksum 1 0 with operation := .reserved }
      (.linkedTo Checksums.zero 2 0)).decision threeMembers.cluster 0 31 ⟨0, 0⟩ 1 = .cleanEmpty := by
  obtain ⟨wal, zones, happends, hinterrupted⟩ := Appends.torn
    { Header.linkedTo Header.root.checksum 1 0 with operation := .reserved } (.linkedTo Checksums.zero 2 0)
    (by decide +kernel)
  exact ⟨wal, zones, happends, hinterrupted, by decide +kernel, by decide +kernel⟩

end Supervsr
