import Supervsr.WalRecovery

/-
# Supervsr.RecoveredJournal — what recovery makes of the two zones

`Recover` fails only on a prepare in a slot it cannot belong to.  Otherwise each slot of the recovered
journal is a function of the two cells of that slot, and the reported head is the end of the hash chain
that leads from the checkpoint through the slots that were kept.
-/

namespace Supervsr

section Decision

variable {χ : Type} [DecidableEq χ] [Checksums χ] {cluster : ClusterConfig}

variable {context : WALRecoveryContext} {first memberCount commitMax : Nat}

variable {header : Header χ} {op : Nat}
  {checkpoint prepareMax : Nat} {installed : WALRecoveryView} {zones : WALZones χ} {slot : Nat}

/-- A slot that recovery keeps: its prepare is taken over. -/
def WALRecoveryDecision.keeps : WALRecoveryDecision → Bool
  | .clean | .localRepair => true
  | _ => false

/-- Every frame of a zone lies in the slot of its op. -/
def WALZones.Placed (zones : WALZones χ) (cluster : ClusterConfig) : Prop :=
  ∀ slot < cluster.journalSlots, ∀ header : Header χ,
    zones.headers.get slot = .frame header ∨ zones.prepares.get slot = .frame header →
      header.op % cluster.journalSlots = slot

omit [DecidableEq χ] [Checksums χ] in
theorem WALCell.eq_frame_of_candidate {cell : WALCell χ} {physical : Nat}
    (ordinary : cell.candidate physical = .ordinary header) :
    cell = .frame header ∧ header.operation ≠ .reserved := by
  unfold WALCell.candidate at ordinary
  split at ordinary
  · cases ordinary
  · cases ordinary
  · split_ifs at ordinary with hreserved hplace
    cases ordinary
    exact ⟨rfl, hreserved⟩

/-- A slot is kept for the sake of an ordinary prepare that belongs there. -/
theorem classifyWALSlot_keeps {header prepare : WALCandidate χ}
    (keeps : (classifyWALSlot header prepare context).keeps = true) :
    ∃ kept, prepare = .ordinary kept ∧ impossibleWALCandidate prepare context = false ∧
      futureWALCandidate prepare context = false := by
  unfold classifyWALSlot at keeps
  split_ifs at keeps with himpossible hfuture hobsolete
  · cases keeps
  · cases keeps
  all_goals
    rw [not_or, Bool.not_eq_true, Bool.not_eq_true] at himpossible hfuture
    suffices h : ∃ kept, prepare = .ordinary kept by
      obtain ⟨kept, hkept⟩ := h
      exact ⟨kept, hkept, himpossible.2, hfuture.2⟩
  · unfold classifyObsolete at keeps
    simp only at keeps
    split_ifs at keeps with hinvalid hnone hrepair
    · cases keeps
    · cases keeps
    · cases prepare with
      | ordinary kept => exact ⟨kept, rfl⟩
      | invalid | reserved op => exact absurd hrepair.2 (by simp [retainedOrdinary])
    · cases keeps
  · cases prepare with
    | ordinary kept => exact ⟨kept, rfl⟩
    | invalid | reserved op => cases header <;> simp [classifyCurrent, WALRecoveryDecision.keeps] at keeps

/-- Recovery gives up only on a frame that cannot belong to its slot. -/
theorem classifyWALSlot_ne_fail {header prepare : WALCandidate χ}
    (hheader : impossibleWALCandidate header context = false)
    (hprepare : impossibleWALCandidate prepare context = false) :
    classifyWALSlot header prepare context ≠ .fail := by
  unfold classifyWALSlot
  rw [if_neg (by simp [hheader, hprepare])]
  split_ifs
  · decide
  · unfold classifyObsolete
    simp only
    split_ifs <;> decide
  unfold classifyCurrent
  split
  · split_ifs <;> decide
  · decide
  · split_ifs <;> decide
  · split_ifs <;> decide
  · decide

theorem decision_keeps
    (keeps : (zones.decision cluster checkpoint prepareMax installed slot).keeps = true) :
    ∃ kept, zones.prepares.get slot = .frame kept ∧ kept.operation ≠ .reserved ∧
      kept.op % cluster.journalSlots = slot ∧ kept.op ≤ prepareMax := by
  obtain ⟨kept, hkept, hplace, hfuture⟩ := classifyWALSlot_keeps keeps
  obtain ⟨hframe, hordinary⟩ := WALCell.eq_frame_of_candidate hkept
  rw [hkept] at hplace hfuture
  simp only [impossibleWALCandidate, futureWALCandidate, decide_eq_false_iff_not, not_or,
    not_not, ne_eq, Nat.not_lt] at hplace hfuture
  exact ⟨kept, hframe, hordinary, hplace.2, hfuture⟩

theorem decision_ne_fail (placed : zones.Placed cluster) (inside : slot < cluster.journalSlots) :
    zones.decision cluster checkpoint prepareMax installed slot ≠ .fail := by
  have possible : ∀ cell : WALCell χ, (zones.headers.get slot = cell ∨ zones.prepares.get slot = cell) →
      impossibleWALCandidate (cell.candidate slot)
        { physicalSlot := slot, journalSlots := cluster.journalSlots, retainedMin := checkpoint,
          prepareMax := prepareMax, untrustedMax := zones.untrustedMax cluster checkpoint,
          installed := installed } = false := by
    intro cell hcell
    cases hcandidate : cell.candidate slot with
    | invalid => rfl
    | reserved op => rfl
    | ordinary header =>
      obtain ⟨rfl, -⟩ := WALCell.eq_frame_of_candidate hcandidate
      have := placed slot inside header hcell
      simp only [impossibleWALCandidate, decide_eq_false_iff_not, not_or]
      omega
  exact classifyWALSlot_ne_fail (possible _ (.inl rfl)) (possible _ (.inr rfl))

/-! ## The recovered slots -/

/-- The slot of the recovered journal. -/
def WALZones.recoveredSlot (zones : WALZones χ) (cluster : ClusterConfig) (checkpoint prepareMax : Nat)
    (installed : WALRecoveryView) (slot : Nat) : WALSlot χ :=
  match zones.decision cluster checkpoint prepareMax installed slot, zones.prepares.get slot with
  | .clean, .frame header => .holding header
  | .localRepair, .frame header => .holding header
  | .remoteRepair, _ =>
    let reserved : WALSlot χ := .reserved slot
    { reserved with dirty := true, faulty := true }
  | _, _ => .reserved slot

/-- The cell of the header ring behind recovery. -/
def WALZones.recoveredCell (zones : WALZones χ) (cluster : ClusterConfig) (checkpoint prepareMax : Nat)
    (installed : WALRecoveryView) (slot : Nat) : WALCell χ :=
  match zones.decision cluster checkpoint prepareMax installed slot with
  | .localRepair => zones.prepares.get slot
  | .truncate => .reserved
  | _ => zones.headers.get slot

/-- Whether recovery rewrites the header of a slot. -/
def WALRecoveryDecision.rewrites : WALRecoveryDecision → Bool
  | .localRepair | .truncate => true
  | _ => false

theorem recoveredCell_of_not_rewrites
    (keeps : ¬ (zones.decision cluster checkpoint prepareMax installed slot).rewrites = true) :
    zones.recoveredCell cluster checkpoint prepareMax installed slot = zones.headers.get slot := by
  unfold WALZones.recoveredCell
  revert keeps
  cases zones.decision cluster checkpoint prepareMax installed slot <;>
    simp [WALRecoveryDecision.rewrites]

/-- One round of the classification loop, on a slot it does not give up on. -/
theorem recoverSlot_eq (state : WALRecoveryState χ)
    (possible : zones.decision cluster checkpoint prepareMax installed slot ≠ .fail) :
    ∃ next, recoverSlot zones cluster checkpoint prepareMax installed state slot = .ok next ∧
      next.wal.slots = state.wal.slots.set slot
        (zones.recoveredSlot cluster checkpoint prepareMax installed slot) ∧
      (next.wal.headerRing = if (zones.decision cluster checkpoint prepareMax installed slot).rewrites then
        state.wal.headerRing.set slot (zones.recoveredCell cluster checkpoint prepareMax installed slot)
        else state.wal.headerRing) ∧
      next.repairHeaders = (state.repairHeaders ||
        (zones.decision cluster checkpoint prepareMax installed slot).rewrites) ∧
      next.faulty = state.faulty +
        if zones.decision cluster checkpoint prepareMax installed slot = .remoteRepair then 1 else 0 := by
  have kept : (zones.decision cluster checkpoint prepareMax installed slot).keeps = true →
      ∃ header, zones.prepares.get slot = .frame header := by
    intro keeps
    obtain ⟨header, hframe, -⟩ := decision_keeps keeps
    exact ⟨header, hframe⟩
  unfold recoverSlot WALZones.recoveredSlot WALZones.recoveredCell
  cases hdecision : zones.decision cluster checkpoint prepareMax installed slot with
  | clean =>
    obtain ⟨header, hframe⟩ := kept (by rw [hdecision]; rfl)
    simp only [hframe]
    exact ⟨_, rfl, rfl, rfl, (Bool.or_false _).symm, rfl⟩
  | localRepair =>
    obtain ⟨header, hframe⟩ := kept (by rw [hdecision]; rfl)
    simp only [hframe]
    exact ⟨_, rfl, rfl, rfl, (Bool.or_true _).symm, rfl⟩
  | cleanEmpty | remoteRepair => exact ⟨_, rfl, rfl, rfl, (Bool.or_false _).symm, rfl⟩
  | truncate => exact ⟨_, rfl, rfl, rfl, (Bool.or_true _).symm, rfl⟩
  | fail => exact absurd hdecision possible

/-- The classification loop over the first `count` slots. -/
theorem foldlM_recoverSlot (state : WALRecoveryState χ) (count : Nat)
    (possible : ∀ slot < count, zones.decision cluster checkpoint prepareMax installed slot ≠ .fail) :
    ∃ last, (List.range count).foldlM (recoverSlot zones cluster checkpoint prepareMax installed) state =
        .ok last ∧
      (∀ slot, last.wal.slots.get slot = if slot < count then
        zones.recoveredSlot cluster checkpoint prepareMax installed slot else state.wal.slots.get slot) ∧
      (∀ slot, last.wal.headerRing.get slot = if slot < count ∧
          (zones.decision cluster checkpoint prepareMax installed slot).rewrites then
        zones.recoveredCell cluster checkpoint prepareMax installed slot
        else state.wal.headerRing.get slot) ∧
      (last.repairHeaders = true ↔ state.repairHeaders = true ∨ ∃ slot < count,
        (zones.decision cluster checkpoint prepareMax installed slot).rewrites = true) ∧
      (last.faulty = 0 ↔ state.faulty = 0 ∧ ∀ slot < count,
        zones.decision cluster checkpoint prepareMax installed slot ≠ .remoteRepair) := by
  induction count with
  | zero => exact ⟨state, rfl, by simp, by simp, by simp, by simp⟩
  | succ count ih =>
    obtain ⟨middle, hmiddle, hslots, hring, hrepair, hfaulty⟩ :=
      ih fun slot hslot => possible slot (by omega)
    obtain ⟨last, hlast, hslots', hring', hrepair', hfaulty'⟩ :=
      recoverSlot_eq middle (possible count (by omega))
    refine ⟨last, ?_, ?_, ?_, ?_, ?_⟩
    · rw [List.range_succ, List.foldlM_append, hmiddle]
      show List.foldlM (recoverSlot zones cluster checkpoint prepareMax installed) middle [count] = _
      rw [List.foldlM_cons, hlast]
      rfl
    · intro slot
      rw [hslots', Table.get_set, hslots]
      by_cases hslot : slot = count
      · rw [if_pos hslot, if_pos (by omega), hslot]
      rw [if_neg hslot]
      by_cases hlt : slot < count
      · rw [if_pos hlt, if_pos (by omega)]
      · rw [if_neg hlt, if_neg (by omega)]
    · intro slot
      rw [hring']
      by_cases hslot : slot = count
      · subst hslot
        by_cases hrewrites : (zones.decision cluster checkpoint prepareMax installed slot).rewrites = true
        · rw [if_pos hrewrites, Table.get_set_self, if_pos ⟨by omega, hrewrites⟩]
        · rw [if_neg hrewrites, hring, if_neg (fun h => hrewrites h.2), if_neg (fun h => hrewrites h.2)]
      · have hget : ∀ table : Table (WALCell χ), (if (zones.decision cluster checkpoint prepareMax
            installed count).rewrites = true then table.set count (zones.recoveredCell cluster checkpoint
              prepareMax installed count) else table).get slot = table.get slot := by
          intro table
          split_ifs
          · exact Table.get_set_of_ne _ hslot _
          · rfl
        rw [hget, hring]
        have : slot < count + 1 ↔ slot < count := by omega
        simp only [this]
    · rw [hrepair', Bool.or_eq_true, hrepair]
      constructor
      · rintro ((h | ⟨slot, hslot, h⟩) | h)
        · exact .inl h
        · exact .inr ⟨slot, by omega, h⟩
        · exact .inr ⟨count, by omega, h⟩
      · rintro (h | ⟨slot, hslot, h⟩)
        · exact .inl (.inl h)
        · by_cases hlast : slot = count
          · exact .inr (hlast ▸ h)
          · exact .inl (.inr ⟨slot, by omega, h⟩)
    · rw [hfaulty']
      constructor
      · intro h
        have hzero : middle.faulty = 0 := by omega
        obtain ⟨hstate, hclean⟩ := hfaulty.mp hzero
        refine ⟨hstate, fun slot hslot => ?_⟩
        by_cases hlast : slot = count
        · subst hlast
          intro hremote
          rw [if_pos hremote] at h
          omega
        · exact hclean slot (by omega)
      · rintro ⟨hstate, hclean⟩
        rw [if_neg (hclean count (by omega)), hfaulty.mpr ⟨hstate, fun slot hslot =>
          hclean slot (by omega)⟩]

end Decision

/-! ## The recovered chain -/

section Chain

variable {χ : Type} [DecidableEq χ] [Checksums χ]

/-- The hash chain on storage that recovery can follow: from the checkpoint through kept slots. -/
inductive WALZones.Intact (zones : WALZones χ) (cluster : ClusterConfig) (checkpoint : CheckpointState χ)
    (prepareMax : Nat) (installed : WALRecoveryView) : Nat → Header χ → Prop where
  | checkpoint :
      Intact zones cluster checkpoint prepareMax installed checkpoint.prepareOp checkpoint.header
  | next {op : Nat} {header next : Header χ}
      (reached : Intact zones cluster checkpoint prepareMax installed op header)
      (keeps : (zones.decision cluster checkpoint.prepareOp prepareMax installed
        ((op + 1) % cluster.journalSlots)).keeps = true)
      (stored : zones.prepares.get ((op + 1) % cluster.journalSlots) = .frame next)
      (follows : next.op = op + 1) (linked : next.parent = header.checksum) :
      Intact zones cluster checkpoint prepareMax installed (op + 1) next

variable {cluster : ClusterConfig} {checkpoint : CheckpointState χ} {prepareMax slot : Nat}
  {installed : WALRecoveryView} {zones : WALZones χ}

theorem WALZones.Intact.checkpoint_le (intact : zones.Intact cluster checkpoint prepareMax installed op header) :
    checkpoint.prepareOp ≤ op := by
  induction intact with
  | checkpoint => exact Nat.le_refl _
  | next _ _ _ _ _ ih => omega

theorem WALZones.Intact.unique (intact : zones.Intact cluster checkpoint prepareMax installed op header) :
    ∀ {other : Header χ}, zones.Intact cluster checkpoint prepareMax installed op other → header = other := by
  induction intact with
  | checkpoint =>
    intro other hother
    generalize hop : checkpoint.prepareOp = op at hother
    cases hother with
    | checkpoint => rfl
    | next reached => have := reached.checkpoint_le; omega
  | next reached keeps stored follows linked ih =>
    intro other hother
    generalize hop : _ + 1 = op at hother
    cases hother with
    | checkpoint => have := reached.checkpoint_le; omega
    | next reached' keeps' stored' follows' linked' =>
      obtain rfl : _ = _ := Nat.succ.inj hop
      rw [stored] at stored'
      exact WALCell.frame.inj stored'

section

omit [DecidableEq χ] [Checksums χ]

theorem le_maxCandidateOp (current : Nat) (candidate : WALCandidate χ) :
    current ≤ maxCandidateOp current candidate := by
  cases candidate with
  | ordinary header => exact Nat.le_max_left _ _
  | invalid | reserved op => exact Nat.le_refl _

/-- The largest op on storage bounds every prepare. -/
theorem WALZones.le_untrustedMax (zones : WALZones χ) (cluster : ClusterConfig)
    (inside : slot < cluster.journalSlots)
    (ordinary : (zones.prepares.get slot).candidate slot = .ordinary header) :
    header.op ≤ zones.untrustedMax cluster first := by
  unfold WALZones.untrustedMax
  have hmono : ∀ (slots : List Nat) (current : Nat), current ≤ slots.foldl (fun current slot =>
      maxCandidateOp (maxCandidateOp current ((zones.headers.get slot).candidate slot))
        ((zones.prepares.get slot).candidate slot)) current := by
    intro slots
    induction slots with
    | nil => exact fun current => Nat.le_refl current
    | cons other rest ih =>
      intro current
      exact Nat.le_trans (Nat.le_trans (le_maxCandidateOp _ _) (le_maxCandidateOp _ _)) (ih _)
  obtain ⟨before, behind, hsplit⟩ := List.append_of_mem (List.mem_range.mpr inside)
  rw [hsplit, List.foldl_append, List.foldl_cons]
  refine Nat.le_trans ?_ (hmono behind _)
  rw [ordinary]
  exact Nat.le_max_right _ _

end

theorem WALZones.Intact.le_untrustedMax (slots : cluster.journalSlots ≠ 0)
    (intact : zones.Intact cluster checkpoint prepareMax installed op header)
    (above : checkpoint.prepareOp < op) : op ≤ zones.untrustedMax cluster checkpoint.prepareOp := by
  cases intact with
  | checkpoint => omega
  | @next op _ next _ keeps stored follows _ =>
    obtain ⟨kept, hframe, hordinary, -, -⟩ := decision_keeps keeps
    rw [stored] at hframe
    cases hframe
    rw [← follows]
    refine zones.le_untrustedMax cluster (Nat.mod_lt (op + 1) (Nat.pos_of_ne_zero slots)) ?_
    rw [stored]
    exact if_neg hordinary

theorem WALZones.Intact.earlier {op lower : Nat}
    (intact : zones.Intact cluster checkpoint prepareMax installed op header)
    (above : checkpoint.prepareOp ≤ lower) (le : lower ≤ op) :
    ∃ earlier, zones.Intact cluster checkpoint prepareMax installed lower earlier := by
  induction intact with
  | checkpoint =>
    obtain rfl : lower = checkpoint.prepareOp := by omega
    exact ⟨_, .checkpoint⟩
  | @next op header next reached keeps stored follows linked ih =>
    by_cases hlast : lower = op + 1
    · rw [hlast]
      exact ⟨next, reached.next keeps stored follows linked⟩
    · exact ih (by omega)

theorem recoveredSlot_of_keeps (keeps : (zones.decision cluster first prepareMax installed slot).keeps = true)
    (stored : zones.prepares.get slot = .frame header) :
    zones.recoveredSlot cluster first prepareMax installed slot = .holding header := by
  unfold WALZones.recoveredSlot
  rw [stored]
  revert keeps
  cases zones.decision cluster first prepareMax installed slot <;>
    simp [WALRecoveryDecision.keeps]

theorem keeps_of_recoveredSlot
    (inhabited : (zones.recoveredSlot cluster first prepareMax installed slot).inhabited = true) :
    ∃ header, (zones.decision cluster first prepareMax installed slot).keeps = true ∧
      zones.prepares.get slot = .frame header ∧
      zones.recoveredSlot cluster first prepareMax installed slot = .holding header := by
  unfold WALZones.recoveredSlot at inhabited
  split at inhabited
  · rename_i header hdecision hstored
    have keeps : (zones.decision cluster first prepareMax installed slot).keeps = true := by
      rw [hdecision]; rfl
    exact ⟨header, keeps, hstored, recoveredSlot_of_keeps keeps hstored⟩
  · rename_i header hdecision hstored
    have keeps : (zones.decision cluster first prepareMax installed slot).keeps = true := by
      rw [hdecision]; rfl
    exact ⟨header, keeps, hstored, recoveredSlot_of_keeps keeps hstored⟩
  · cases inhabited
  · cases inhabited

/-- The chain walk stays on the chain, and stops early only where the chain ends. -/
theorem chainHead_intact {wal : WAL χ} (hslots : ∀ op, wal.slot cluster op =
      zones.recoveredSlot cluster checkpoint.prepareOp prepareMax installed (op % cluster.journalSlots)) :
    ∀ (rounds : Nat) {op : Nat} {header : Header χ},
      zones.Intact cluster checkpoint prepareMax installed op header →
      zones.Intact cluster checkpoint prepareMax installed (wal.chainHead cluster rounds op header).1
          (wal.chainHead cluster rounds op header).2 ∧
        ((wal.chainHead cluster rounds op header).1 < op + rounds → ∀ next,
          ¬ zones.Intact cluster checkpoint prepareMax installed
            ((wal.chainHead cluster rounds op header).1 + 1) next) := by
  intro rounds
  induction rounds with
  | zero =>
    intro op header intact
    exact ⟨intact, fun h => absurd h (by show ¬ op < op + 0; omega)⟩
  | succ rounds ih =>
    intro op header intact
    -- where the walk stops although the chain goes on, the next slot would hold the next prepare
    have stops : ∀ next, zones.Intact cluster checkpoint prepareMax installed (op + 1) next →
        wal.slot cluster (op + 1) = .holding next ∧ next.op = op + 1 ∧ next.parent = header.checksum := by
      intro next hnext
      generalize hop : op + 1 = last at hnext
      cases hnext with
      | checkpoint => have := intact.checkpoint_le; omega
      | next reached keeps stored follows linked =>
        obtain rfl : op = _ := Nat.succ.inj hop
        rw [hslots, recoveredSlot_of_keeps keeps stored]
        exact ⟨rfl, follows, (intact.unique reached) ▸ linked⟩
    unfold WAL.chainHead
    simp only
    split_ifs with hempty
    · refine ⟨intact, fun _ next hnext => ?_⟩
      obtain ⟨hslot, hop, -⟩ := stops next hnext
      rw [hslot] at hempty
      simp [WALSlot.holding, hop] at hempty
    · simp only [not_or, not_not, ne_eq] at hempty
      have hinhabited := hempty.1
      rw [hslots] at hinhabited
      obtain ⟨next, keeps, stored, hholds⟩ := keeps_of_recoveredSlot hinhabited
      rw [← hslots] at hholds
      have follows : next.op = op + 1 := by rw [← hempty.2, hholds]; rfl
      rw [hholds]
      simp only [WALSlot.holding]
      split_ifs with hlinked
      · refine ⟨intact, fun _ other hother => ?_⟩
        obtain ⟨hslot, -, hparent⟩ := stops other hother
        rw [hholds] at hslot
        cases hslot
        exact hlinked hparent
      · rw [not_not] at hlinked
        obtain ⟨hreached, hend⟩ := ih (intact.next keeps stored follows hlinked)
        exact ⟨hreached, fun h => hend (by omega)⟩

/-- What a recovered journal and the report about it say. -/
structure Recovered (zones : WALZones χ) (cluster : ClusterConfig) (checkpoint : CheckpointState χ)
    (prepareMax : Nat) (installed : WALRecoveryView) (wal : WAL χ) (report : WALRecoveryReport χ) :
    Prop where
  slots : ∀ slot < cluster.journalSlots, wal.slots.get slot =
    zones.recoveredSlot cluster checkpoint.prepareOp prepareMax installed slot
  ring : ∀ slot < cluster.journalSlots, wal.headerRing.get slot =
    zones.recoveredCell cluster checkpoint.prepareOp prepareMax installed slot
  faulty : report.faultySlots = 0 ↔ ∀ slot < cluster.journalSlots,
    zones.decision cluster checkpoint.prepareOp prepareMax installed slot ≠ .remoteRepair
  head : zones.Intact cluster checkpoint prepareMax installed report.headOp report.headHeader
  last : ∀ {op : Nat} {header : Header χ},
    zones.Intact cluster checkpoint prepareMax installed op header → op ≤ report.headOp

/-- `Recover` on zones in which every frame is where it can be: the journal and the report, and the two
reasons for which it refuses to return them. -/
theorem recover_eq (memberCount commitMax : Nat) (slots : cluster.journalSlots ≠ 0)
    (possible : ∀ slot < cluster.journalSlots, zones.decision cluster checkpoint.prepareOp prepareMax installed
      slot ≠ .fail) (bounded : prepareMaximum cluster checkpoint.prepareOp = some prepareMax) :
    ∃ wal report, Recovered zones cluster checkpoint prepareMax installed wal report ∧
      zones.recover cluster memberCount checkpoint commitMax installed =
        if report.faultySlots ≠ 0 ∧ memberCount = 1 then .error .uncertainSolo
        else if report.headOp < commitMax ∧ report.faultySlots = 0 then .error .recovery
        else .ok (wal, report) := by
  obtain ⟨state, hstate, hslots, hring, -, hfaulty⟩ := foldlM_recoverSlot
    { wal := { WAL.new with headerRing := zones.headers }, repairHeaders := false, faulty := 0 }
    cluster.journalSlots possible
  have hinside : ∀ op, op % cluster.journalSlots < cluster.journalSlots :=
    fun op => Nat.mod_lt _ (Nat.pos_of_ne_zero slots)
  have hslot : ∀ op, state.wal.slot cluster op = zones.recoveredSlot cluster checkpoint.prepareOp prepareMax
      installed (op % cluster.journalSlots) := by
    intro op
    rw [WAL.slot, hslots, if_pos (hinside op)]
  obtain ⟨hhead, hend⟩ := chainHead_intact hslot (zones.untrustedMax cluster checkpoint.prepareOp -
    checkpoint.prepareOp) (.checkpoint : zones.Intact cluster checkpoint prepareMax installed _ _)
  generalize hwalk : state.wal.chainHead cluster (zones.untrustedMax cluster checkpoint.prepareOp -
    checkpoint.prepareOp) checkpoint.prepareOp checkpoint.header = head at hhead hend
  refine ⟨state.wal, ⟨head.1, head.2, state.faulty, zones.untrustedMax cluster checkpoint.prepareOp⟩,
    ⟨?_, ?_, ?_, hhead, ?_⟩, ?_⟩
  · intro slot hlt
    rw [hslots, if_pos hlt]
  · intro slot hlt
    rw [hring]
    by_cases hrewrites : (zones.decision cluster checkpoint.prepareOp prepareMax installed
        slot).rewrites = true
    · rw [if_pos ⟨hlt, hrewrites⟩]
    · rw [if_neg fun h => hrewrites h.2, recoveredCell_of_not_rewrites hrewrites]
  · exact hfaulty.trans (and_iff_right rfl)
  · intro op header intact
    by_contra hbeyond
    replace hbeyond : head.1 < op := Nat.not_le.mp hbeyond
    have hstart := hhead.checkpoint_le
    -- the walk had rounds left, or it reached the largest op on storage
    have hlimit := intact.le_untrustedMax slots (by omega)
    obtain ⟨next, hnext⟩ : ∃ next, zones.Intact cluster checkpoint prepareMax installed (head.1 + 1) next :=
      intact.earlier (by omega) hbeyond
    exact hend (by omega) next hnext
  · unfold WALZones.recover WALZones.recoverSlots
    simp only [bounded, hstate]
    rw [← hwalk]
    rfl

/-- A classification that gets to its end has given up on no slot. -/
theorem ne_fail_of_foldlM_recoverSlot {slots : List Nat} {state last : WALRecoveryState χ}
    (recovers : slots.foldlM (recoverSlot zones cluster first prepareMax installed) state = .ok last) :
    ∀ slot ∈ slots, zones.decision cluster first prepareMax installed slot ≠ .fail := by
  induction slots generalizing state with
  | nil => exact fun _ h => absurd h List.not_mem_nil
  | cons place rest ih =>
    rw [List.foldlM_cons] at recovers
    obtain ⟨middle, hplace, hrest⟩ := bind_eq_ok.mp recovers
    intro slot hslot hfail
    obtain rfl | hslot := List.mem_cons.mp hslot
    · rw [recoverSlot, hfail] at hplace
      cases hplace
    · exact ih hrest slot hslot hfail

omit [DecidableEq χ] [Checksums χ] in
theorem slots_of_prepareMaximum {op : Nat} (bounded : prepareMaximum cluster op = some prepareMax) :
    cluster.journalSlots ≠ 0 := by
  simp only [prepareMaximum, ClusterConfig.checkpointInterval, Option.bind_eq_bind,
    Option.bind_eq_some_iff] at bounded
  obtain ⟨_, ⟨_, -, _, -, _, -, hlarge⟩, -⟩ := bounded
  intro hnone
  rw [if_pos (by omega)] at hlarge
  cases hlarge

/-- A recovery that returned the journal. -/
theorem recovered_of_recover {wal : WAL χ} {report : WALRecoveryReport χ}
    (recovers : zones.recover cluster memberCount checkpoint commitMax installed = .ok (wal, report)) :
    ∃ prepareMax, prepareMaximum cluster checkpoint.prepareOp = some prepareMax ∧
      Recovered zones cluster checkpoint prepareMax installed wal report ∧
      ¬ (report.faultySlots ≠ 0 ∧ memberCount = 1) ∧
      ¬ (report.headOp < commitMax ∧ report.faultySlots = 0) := by
  obtain ⟨state, hstate, -⟩ := bind_eq_ok.mp recovers
  unfold WALZones.recoverSlots at hstate
  split at hstate
  · cases hstate
  rename_i prepareMax hbound
  have hpossible := ne_fail_of_foldlM_recoverSlot hstate
  obtain ⟨wal', report', hrecovered, h⟩ := recover_eq memberCount commitMax
    (slots_of_prepareMaximum hbound) (fun slot hslot => hpossible slot (List.mem_range.mpr hslot)) hbound
  rw [recovers] at h
  split_ifs at h with hsolo hbehind
  cases h
  exact ⟨prepareMax, hbound, hrecovered, hsolo, hbehind⟩

/-! ## Prepares in the journal -/

/-- The prepare of an op is in the journal, in memory and on storage. -/
def WAL.Keeps (wal : WAL χ) (zones : WALZones χ) (cluster : ClusterConfig) (op : Nat) : Prop :=
  ∃ header : Header χ, header.op = op ∧ wal.slot cluster op = .holding header ∧
    zones.prepares.get (op % cluster.journalSlots) = .frame header

omit [DecidableEq χ] [Checksums χ] in
theorem readPrepare_of_frame {kept : Header χ}
    (stored : zones.prepares.get (kept.op % cluster.journalSlots) = .frame kept) :
    WAL.readPrepare zones cluster kept.op = .ok kept := by
  rw [WAL.readPrepare, stored]
  exact if_pos rfl

theorem WALZones.afterRecovery_prepares {op : Nat} (zones : WALZones χ) (memberCount : Nat) :
    (zones.afterRecovery cluster memberCount op installed).prepares = zones.prepares := by
  unfold WALZones.afterRecovery
  split
  · rfl
  · split_ifs <;> rfl

theorem Recovered.keeps {wal : WAL χ} {report : WALRecoveryReport χ}
    (recovered : Recovered zones cluster checkpoint prepareMax installed wal report)
    (slots : cluster.journalSlots ≠ 0) (above : checkpoint.prepareOp < op) (le : op ≤ report.headOp) :
    wal.Keeps zones cluster op := by
  obtain ⟨header, hintact⟩ := recovered.head.earlier above.le le
  cases hintact with
  | checkpoint => exact absurd above (Nat.lt_irrefl _)
  | next reached keeps stored follows linked =>
    refine ⟨_, follows, ?_, stored⟩
    exact (recovered.slots _ (Nat.mod_lt _ (Nat.pos_of_ne_zero slots))).trans
      (recoveredSlot_of_keeps keeps stored)

section

omit [DecidableEq χ] [Checksums χ]

variable {wal next : WAL χ} {left : WALZones χ} {header : Header χ} {reusableThrough : Nat}
  (appended : wal.append zones cluster header reusableThrough = .ok (next, left))

include appended

theorem WAL.append_eq_ok : wal.appendable cluster header reusableThrough = true ∧
    next = ⟨wal.slots.set (header.op % cluster.journalSlots) (.holding header),
      wal.headerRing.set (header.op % cluster.journalSlots) (.frame header)⟩ ∧
    left = (zones.writePrepare (header.op % cluster.journalSlots) header).writeHeaderSector next.headerRing
      (header.op % cluster.journalSlots) := by
  unfold WAL.append at appended
  split at appended
  · cases appended
  · rename_i happendable
    cases appended
    exact ⟨not_not.mp happendable, rfl, rfl⟩

/-- A slot that is not to be reused is given up to a prepare of its own op at most. -/
theorem WAL.Keeps.append (keeps : wal.Keeps zones cluster op) (above : reusableThrough < op) :
    next.Keeps left cluster op := by
  obtain ⟨held, rfl, hslot, hcell⟩ := keeps
  obtain ⟨happendable, rfl, rfl⟩ := WAL.append_eq_ok appended
  by_cases hplace : held.op % cluster.journalSlots = header.op % cluster.journalSlots
  · have hsame : header.op = held.op := by
      rw [WAL.slot, hplace] at hslot
      by_contra hother
      simp [appendable, slot, hslot, WALSlot.holding, Ne.symm hother, Nat.not_le.mpr above] at happendable
    refine ⟨header, hsame, ?_, ?_⟩
    · rw [WAL.slot, hplace]
      exact Table.get_set_self _ _ _
    · rw [hplace]
      exact Table.get_set_self _ _ _
  · exact ⟨held, rfl, (Table.get_set_of_ne _ hplace _).trans hslot,
      (Table.get_set_of_ne _ hplace _).trans hcell⟩

end

end Chain

end Supervsr
