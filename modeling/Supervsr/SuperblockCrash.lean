import Supervsr.Digest
import Supervsr.SuperblockHistory

/-
# Supervsr.SuperblockCrash — opening after an interrupted persist and after losing a copy

Two questions about every history of calls.  What does an open find when a persist was cut short at
one of its storage calls, and what does it find when a single copy has gone bad?  Both are answered by
counting, in the ring of copies, how many hold each generation.
-/

namespace Supervsr

variable {χ : Type} [DecidableEq χ] [Checksums χ] {hist : Nat → Superblock χ} {store : SuperblockStore χ}

variable {n bad openQuorum : Nat} {next : Superblock χ} {validation : SuperblockValidation χ} {cfg : FormatConfig}

variable {zone : SuperblockZone χ} {content : Nat → Option Nat} {index : Nat}

theorem CopyCounts.arithmetic {copies writeCopies : Nat} (h : CopyCounts copies writeCopies openQuorum) :
    copies = 2 * openQuorum ∧ writeCopies = openQuorum + 1 ∧ 2 ≤ openQuorum := by
  rcases h.cases with h | h | h <;> omega

/-! ## Counting an interrupted persist -/

section Counting

variable (copies writeCopies latest opened written torn : Nat)

/-- Copies are counted by the places they are in. -/
theorem copiesOf_eq (p : Nat → Prop) [DecidablePred p] (h : ∀ d < copies, content d = some n ↔ p d) :
    copiesOf copies content n = (List.range copies).countP (fun d => p d) := by
  refine List.countP_congr fun d hd => ?_
  simp only [decide_eq_true_eq, h d (List.mem_range.mp hd)]

theorem copiesOf_next (hle : opened ≤ latest) (hwritten : written < copies) :
    copiesOf copies (interrupted (settled copies writeCopies latest opened) (latest + 1) written torn)
      (latest + 1) = written := by
  rw [copiesOf_eq copies (fun d => 1 ≤ d ∧ d < written + 1) (fun d hd => by
    simp only [interrupted, settled]
    grind), Ring.countP_range_run]
  omega

/-- The copies left of the latest superblock.  The one the store was opened on fills the ring but for
what the persist overwrote; one that was persisted since has its run of places only. -/
def latestCopies (persists : Nat) : Nat :=
  if persists = 0 then copies - (written + torn) else 1 + (writeCopies - (written + torn + 1))

theorem copiesOf_latest (persists : Nat) (hpos : 0 < writeCopies) (hlt : writeCopies < copies)
    (hsum : written + torn < copies) :
    copiesOf copies (interrupted (settled copies writeCopies (opened + persists) opened)
        (opened + persists + 1) written torn) (opened + persists) =
      latestCopies copies writeCopies written torn persists := by
  unfold latestCopies
  by_cases hopened : persists = 0
  · rw [copiesOf_eq copies (fun d => d = 0 ∨ written + torn < d ∧ d < copies) (fun d hd => by
      simp only [interrupted, settled]
      grind), Ring.countP_range_gap (by omega), if_pos hopened]
    omega
  · rw [copiesOf_eq copies (fun d => d = 0 ∨ written + torn < d ∧ d < writeCopies) (fun d hd => by
      simp only [interrupted, settled]
      grind), Ring.countP_range_gap (by omega), if_neg hopened]
    omega

/-- Older superblocks share the places behind the latest run. -/
theorem copiesOf_older (hn : n < latest) :
    copiesOf copies (interrupted (settled copies writeCopies latest opened) (latest + 1) written torn) n ≤
      copies - writeCopies := by
  have hrun : (List.range copies).countP (fun d => writeCopies ≤ d ∧ d < copies) = copies - writeCopies := by
    rw [Ring.countP_range_run, min_self]
  rw [← hrun]
  refine List.countP_mono_left fun d hd hheld => ?_
  have hd := List.mem_range.mp hd
  simp only [interrupted, settled, decide_eq_true_eq] at hheld ⊢
  grind

end Counting

/-! ## A persist cut short -/

/-- When the old or the new superblock can still be opened after a crash that left `written` whole
copies of the new one and `torn` damaged ones: the new one has an open quorum already, or the old one
still has the copies it needs.  It was on every copy if nothing was persisted since the open, and then
is only short when it is the formatted one, which needs all the copies `Format` writes; otherwise it
had one copy to spare. -/
def PersistSurvives (copies sequence persists : Nat) (point : CrashPoint) : Prop :=
  let writeCopies := (superblockWriteCopies copies).getD 0
  let openQuorum := (superblockOpenQuorum copies).getD 0
  let written := point.written writeCopies
  let torn := point.torn writeCopies
  openQuorum ≤ written ∨
    if persists = 0 then sequence = 1 → written + torn ≤ copies - writeCopies else written + torn ≤ 1

instance (copies sequence persists : Nat) (point : CrashPoint) :
    Decidable (PersistSurvives copies sequence persists point) := by
  unfold PersistSurvives
  infer_instance

theorem CrashPoint.written_add_torn_le (point : CrashPoint) (writeCopies : Nat) :
    point.written writeCopies + point.torn writeCopies ≤ writeCopies ∧ point.torn writeCopies ≤ 1 := by
  unfold written torn
  cases point.inFlight <;> simp only [reduceCtorEq, and_true, and_false, if_true, if_false] <;>
    split <;> omega

section Interrupted

variable {writeCopies : Nat} {world : SuperblockWorld χ} {opened : Nat}

section

variable (h : OpenedWorld cfg writeCopies openQuorum world store hist opened)

include h

/-- What opening finds with `written` whole copies of the next superblock and `torn` damaged ones: the
next one if it has an open quorum, else the old one if it has the copies it needs, else an error. -/
theorem OpenedWorld.open_interrupted {hist' : Nat → Superblock χ} {written torn : Nat}
    (hhistory : History cfg.validation hist' opened (opened + world.persists + 1))
    (hlayout : Layout cfg.validation hist' (opened + world.persists)
      (interrupted (settled cfg.cluster.superblockCopies writeCopies (opened + world.persists) opened)
        (opened + world.persists + 1) written torn) zone)
    (hsum : written + torn ≤ writeCopies) :
    if openQuorum ≤ written then
      ∃ store', openSuperblockStore zone cfg.validation = .ok store' ∧
        store'.current.superblock = hist' (opened + world.persists + 1)
    else if neededCopies cfg.cluster.superblockCopies openQuorum (opened + world.persists) ≤
        latestCopies cfg.cluster.superblockCopies writeCopies written torn world.persists then
      ∃ store', openSuperblockStore zone cfg.validation = .ok store' ∧
        store'.current.superblock = hist' (opened + world.persists)
    else ∃ err, openSuperblockStore zone cfg.validation = .error err := by
  obtain ⟨hcopies, hwrite, hquorum⟩ := h.counts.arithmetic
  have hle : opened ≤ opened + world.persists := by omega
  have hwithin := interrupted_within cfg.cluster.superblockCopies writeCopies written torn hle
  have hcontiguous := interrupted_contiguous (show 0 < writeCopies by omega)
    (show writeCopies < cfg.cluster.superblockCopies by omega) hsum hle
  have hnext := copiesOf_next cfg.cluster.superblockCopies writeCopies _ opened written torn hle (by omega)
  have hlatest := copiesOf_latest cfg.cluster.superblockCopies writeCopies opened written torn
    world.persists (by omega) (by omega) (by omega)
  have hneed : neededCopies cfg.cluster.superblockCopies openQuorum (opened + world.persists + 1) =
      openQuorum := if_neg (by have := h.opened_pos; omega)
  split
  · rename_i hnew
    obtain ⟨store', hopen, hopened⟩ := openSuperblockStore_newest hhistory hlayout hwithin hcontiguous
      h.counts.quorum_eq (n := opened + world.persists + 1) ⟨by omega, le_rfl⟩
      (by rw [FormatConfig.validation_cluster, hneed, hnext]; exact hnew) (fun m hlt hle => by omega)
    exact ⟨store', hopen, hopened.current_eq⟩
  · rename_i hnew
    split
    · rename_i hold
      obtain ⟨store', hopen, hopened⟩ := openSuperblockStore_newest hhistory hlayout hwithin hcontiguous
        h.counts.quorum_eq (n := opened + world.persists) ⟨by omega, by omega⟩
        (by rw [FormatConfig.validation_cluster, hlatest]; exact hold)
        (fun m hlt hle => by
          obtain rfl : m = opened + world.persists + 1 := by omega
          rw [FormatConfig.validation_cluster, hneed, hnext]
          omega)
      exact ⟨store', hopen, hopened.current_eq⟩
    · rename_i hold
      refine openSuperblockStore_none hhistory hlayout hwithin hcontiguous h.counts.quorum_eq
        (fun n hlo hhi => ?_)
      rw [FormatConfig.validation_cluster]
      rcases Nat.lt_trichotomy n (opened + world.persists) with hlt | rfl | hlt
      · have hfew := copiesOf_older cfg.cluster.superblockCopies writeCopies _ opened written torn hlt
        have hneeded := neededCopies_le n h.counts
        omega
      · rw [hlatest]
        exact Nat.not_le.mp hold
      · obtain rfl : n = opened + world.persists + 1 := by omega
        rw [hneed, hnext]
        omega

/-- A crash at `point` leaves the ring with the copies the point has written and torn. -/
theorem OpenedWorld.crash_layout (hadmitted : store.Admitted next writeCopies) (point : CrashPoint) :
    ∃ zone, reopenAfterCrash store next point =
        (openSuperblockStore zone cfg.validation).map (fun reopened => reopened.current.superblock) ∧
      Layout cfg.validation (Function.update hist (opened + world.persists + 1) next)
        (opened + world.persists)
        (interrupted (settled cfg.cluster.superblockCopies writeCopies (opened + world.persists) opened)
          (opened + world.persists + 1) (point.written writeCopies) (point.torn writeCopies)) zone := by
  obtain ⟨hnext, -⟩ := h.history_next hadmitted.follows hadmitted.valid
  obtain ⟨zone, hzone, hsize, hcopies⟩ := SuperblockStore.crashedZone_eq hadmitted point
  refine ⟨zone, ?_, h.layout_interrupted hnext zone _ _ (hsize.trans (by rw [h.storage_eq]))
    (fun index hindex => ?_) (point.written_add_torn_le writeCopies).1⟩
  · unfold reopenAfterCrash
    rw [hzone, h.validation_eq]
    show (openSuperblockStore zone cfg.validation >>= _) = _
    cases openSuperblockStore zone cfg.validation <;> rfl
  · rw [hcopies index (h.store_copies ▸ hindex), h.store_copies, h.storage_eq]

/-- Opening after a crash, in terms of how many copies of the new superblock the crash left. -/
theorem OpenedWorld.reopenAfterCrash_iff (hadmitted : store.Admitted next writeCopies) (point : CrashPoint) :
    (reopenAfterCrash store next point = .ok store.current.superblock ∨
        reopenAfterCrash store next point = .ok next) ↔
      PersistSurvives cfg.cluster.superblockCopies store.current.superblock.sequence world.persists
        point := by
  obtain ⟨hcopies, hwrite, hquorum⟩ := h.counts.arithmetic
  obtain ⟨-, hhistory⟩ := h.history_next hadmitted.follows hadmitted.valid
  obtain ⟨hsum, htorn⟩ := point.written_add_torn_le writeCopies
  obtain ⟨zone, hreopen, hlayout⟩ := h.crash_layout hadmitted point
  have hopen := h.open_interrupted hhistory hlayout hsum
  have hpos := h.opened_pos
  rw [hreopen]
  simp only [PersistSurvives, h.counts.write_eq, h.counts.quorum_eq, Option.getD_some, h.current_sequence]
  generalize point.written writeCopies = written at hopen hsum ⊢
  generalize point.torn writeCopies = torn at hopen hsum htorn ⊢
  split at hopen
  · rename_i hnew
    obtain ⟨store', hopen, hcurrent⟩ := hopen
    rw [Function.update_self] at hcurrent
    exact iff_of_true (.inr (by rw [hopen]; exact congrArg Except.ok hcurrent)) (.inl hnew)
  · rename_i hnew
    split at hopen
    · rename_i hold
      obtain ⟨store', hopen, hcurrent⟩ := hopen
      rw [Function.update_of_ne (by omega), ← h.current_eq] at hcurrent
      refine iff_of_true (.inl (by rw [hopen]; exact congrArg Except.ok hcurrent)) (.inr ?_)
      simp only [neededCopies, latestCopies, h.counts.write_eq, Option.getD_some] at hold
      split at hold <;> split at hold <;> split <;> omega
    · rename_i hold
      obtain ⟨err, hopen⟩ := hopen
      refine iff_of_false (by rw [hopen]; rintro (h | h) <;> cases h) ?_
      simp only [neededCopies, latestCopies, h.counts.write_eq, Option.getD_some] at hold
      split at hold <;> split at hold <;> split <;> omega

end

end Interrupted

/-- A persist that `beginPersist` takes up after any history of calls, cut short at any point: what the
next open selects is the superblock before it or the new one exactly when `PersistSurvives`. -/
theorem persist_crash_atomic_iff (cfg : FormatConfig) (calls : List (SuperblockCall χ))
    {store : SuperblockStore χ} (hstore : (SuperblockWorld.run cfg calls).store = some store)
    {next : Superblock χ} (hbegin : (store.beginPersist next).isOk) (point : CrashPoint) :
    (reopenAfterCrash store next point = .ok store.current.superblock ∨
        reopenAfterCrash store next point = .ok next) ↔
      PersistSurvives cfg.cluster.superblockCopies store.current.superblock.sequence
        (SuperblockWorld.run cfg calls).persists point := by
  obtain ⟨writeCopies, openQuorum, hist, opened, hopened⟩ := run_opened hstore
  obtain ⟨writeCopies', hadmitted⟩ := SuperblockStore.admitted_of_beginPersist hbegin
  obtain rfl := hopened.writeCopies_eq hadmitted
  exact hopened.reopenAfterCrash_iff hadmitted point

/-- A small cluster of three members with the default limits. -/
def exampleFormat : FormatConfig where
  group := 1
  membership := ⟨[1, 2, 3, 0, 0, 0, 0, 0, 0, 0, 0, 0], 3, 0, 1⟩
  cluster := ClusterConfig.default
  currentRelease := 1

/-- The superblock that follows when the member leaves its view with op 1 in its log.  The headers are in
the second sector of a copy, so that it differs from the one before in both. -/
def Superblock.nextView (superblock : Superblock χ) : Superblock χ :=
  { superblock with
    sequence := superblock.sequence + 1
    parentChecksum := superblock.checksum
    state := { superblock.state with view := superblock.state.view + 1 }
    viewHeaders := [some { Header.root with
      op := 1
      parent := Header.root.checksum
      view := superblock.state.view
      operation := .pulse }, some Header.root] }

theorem persist_crash_atomic_iff_steady :
    ∃ store : SuperblockStore Digest,
      (SuperblockWorld.run exampleFormat [.format, .openStore]).store = some store ∧
      (store.beginPersist store.current.superblock.nextView).isOk ∧
      ((reopenAfterCrash store store.current.superblock.nextView ⟨1, .torn⟩ =
            .ok store.current.superblock ∨
          reopenAfterCrash store store.current.superblock.nextView ⟨1, .torn⟩ =
            .ok store.current.superblock.nextView) ↔
        PersistSurvives 4 1 0 ⟨1, .torn⟩) := by
  have hopen : (SuperblockWorld.run exampleFormat [.format, .openStore] : SuperblockWorld Digest).store.any
      (fun store => (store.beginPersist store.current.superblock.nextView).isOk ∧
        store.current.superblock.sequence = 1) := by decide +kernel
  have hpersists : (SuperblockWorld.run exampleFormat [.format, .openStore] :
      SuperblockWorld Digest).persists = 0 := by decide +kernel
  obtain ⟨store, hstore, hfacts⟩ := (Option.any_eq_true _ _).mp hopen
  obtain ⟨hbegin, hsequence⟩ := of_decide_eq_true hfacts
  refine ⟨store, hstore, hbegin, ?_⟩
  have h := persist_crash_atomic_iff exampleFormat [.format, .openStore] hstore hbegin ⟨1, .torn⟩
  rwa [hsequence, hpersists] at h

/-- The first persist after formatting, cut short with one copy written and the next one torn: the old
superblock is on two copies where the formatted one needs three, the new one on one where it needs two,
and the zone is reported as unformatted. -/
theorem persist_crash_unopenable :
    (SuperblockWorld.run exampleFormat [.format, .openStore] : SuperblockWorld Digest).store.map
        (fun store => reopenAfterCrash store store.current.superblock.nextView ⟨2, .torn⟩) =
      some (.error (.joined .unformatted .initializationIncomplete)) := by
  decide +kernel

/-! ## A single damaged copy -/

/-- The ring with the copy at distance `bad` gone. -/
def damagedAt (bad : Nat) (content : Nat → Option Nat) (d : Nat) : Option Nat :=
  if d = bad then none else content d

theorem damagedAt_eq_some {d g : Nat} : damagedAt bad content d = some g ↔ d ≠ bad ∧ content d = some g := by
  unfold damagedAt
  split <;> simp_all

omit [DecidableEq χ] [Checksums χ] in
theorem Layout.damaged {start : Nat} (h : Layout validation hist start content zone)
    (hindex : index < validation.cluster.superblockCopies) :
    Layout validation hist start (damagedAt (Ring.offset validation.cluster.superblockCopies start index)
      content) (zone.write index .damaged) := by
  refine ⟨h.size_eq, h.size_pos, fun other hother => ?_⟩
  rw [SuperblockZone.write_copies, damagedAt]
  by_cases hsame : other = index
  · rw [if_pos hsame, if_pos (by rw [hsame])]
    exact .inr rfl
  · rw [if_neg hsame, if_neg fun hoffset =>
      hsame (Ring.offset_injOn (by omega) start hother hindex hoffset)]
    exact h.holds other hother

theorem copiesOf_damagedAt (copies bad : Nat) (content : Nat → Option Nat) (n : Nat) :
    copiesOf copies content n ≤ copiesOf copies (damagedAt bad content) n + 1 := by
  refine Ring.countP_range_le_without bad _ _ fun d hheld hne => ?_
  simp only [decide_eq_true_eq] at hheld ⊢
  exact damagedAt_eq_some.mpr ⟨hne, hheld⟩

/-- The copy `index` is the only one of its generation, and both older and newer generations are on
other copies: it lies `j` places before the latest superblock, with `j` less than the number of
persists since the open and than the number of copies a persist leaves alone. -/
def SoleGeneration (copies sequence persists index : Nat) : Prop :=
  let writeCopies := (superblockWriteCopies copies).getD 0
  let j := copies - Ring.offset copies sequence index
  j < persists ∧ j < copies - writeCopies

instance (copies sequence persists index : Nat) :
    Decidable (SoleGeneration copies sequence persists index) := by
  unfold SoleGeneration
  infer_instance

theorem damagedAt_contiguous {copies writeCopies opened persists : Nat} (hwrite : 1 < writeCopies)
    (hlt : writeCopies < copies) (hbad : bad < copies)
    (hnot : ¬ (copies - bad < persists ∧ copies - bad < copies - writeCopies)) :
    Contiguous copies (damagedAt bad (settled copies writeCopies (opened + persists) opened)) := by
  intro d hd e he g h n hg hh hgn hnh
  obtain ⟨hdbad, hg⟩ := damagedAt_eq_some.mp hg
  obtain ⟨hebad, hh⟩ := damagedAt_eq_some.mp hh
  have hh' := settled_within _ _ (by omega) e he h hh
  simp only [damagedAt_eq_some]
  by_cases hng : n = g
  · exact ⟨d, hd, hdbad, hng ▸ hg⟩
  by_cases hlatest : n = opened + persists
  · -- the run of the latest superblock has a copy besides the damaged one
    refine ⟨if bad = 0 then 1 else 0, by split <;> omega, by split <;> omega, ?_⟩
    simp only [settled, hlatest, Option.some.injEq]
    rw [if_pos (by split <;> omega)]
  · refine ⟨n + copies - (opened + persists), by omega, ?_, ?_⟩ <;>
    · simp only [settled, Option.some.injEq] at hg ⊢
      grind

/-- Opening `zone` selects `superblock` and leaves every copy equal to it. -/
def RepairedTo (validation : SuperblockValidation χ) (zone : SuperblockZone χ)
    (superblock : Superblock χ) : Prop :=
  ∃ store, openSuperblockStore zone validation = .ok store ∧ store.current.superblock = superblock ∧
    ∀ index < validation.cluster.superblockCopies, store.storage.copies index = .image index superblock

theorem OpenedOn.repairedTo {superblock : Superblock χ}
    (hopen : openSuperblockStore zone validation = .ok store) (h : OpenedOn validation zone superblock store) :
    RepairedTo validation zone superblock :=
  ⟨store, hopen, h.current_eq, h.copies_eq⟩

/-- Losing a copy that is not the sole one between two generations. -/
theorem OpenedWorld.damaged_repairedTo {writeCopies : Nat} {world : SuperblockWorld χ} {opened : Nat}
    (h : OpenedWorld cfg writeCopies openQuorum world store hist opened)
    (hindex : index < cfg.cluster.superblockCopies)
    (hnot : ¬ SoleGeneration cfg.cluster.superblockCopies store.current.superblock.sequence world.persists
      index) : RepairedTo cfg.validation (world.zone.write index .damaged) store.current.superblock := by
  obtain ⟨hcopies, hwrite, hquorum⟩ := h.counts.arithmetic
  simp only [SoleGeneration, h.counts.write_eq, Option.getD_some, h.current_sequence] at hnot
  have hbad := Ring.offset_lt (show 0 < cfg.cluster.superblockCopies by omega)
    (opened + world.persists) index
  have hlost := copiesOf_damagedAt cfg.cluster.superblockCopies
    (Ring.offset cfg.cluster.superblockCopies (opened + world.persists) index)
    (settled cfg.cluster.superblockCopies writeCopies (opened + world.persists) opened)
    (opened + world.persists)
  have hreached : neededCopies cfg.cluster.superblockCopies openQuorum (opened + world.persists) ≤
      copiesOf cfg.cluster.superblockCopies
        (damagedAt (Ring.offset cfg.cluster.superblockCopies (opened + world.persists) index)
          (settled cfg.cluster.superblockCopies writeCopies (opened + world.persists) opened))
        (opened + world.persists) := by
    have hpos := h.opened_pos
    by_cases hfirst : opened + world.persists = 1
    · -- only the formatted superblock: it is on every copy
      have hzero : world.persists = 0 := by omega
      have hall := copiesOf_latest cfg.cluster.superblockCopies writeCopies opened 0 0 0 (by omega)
        (by omega) (by omega)
      rw [interrupted_zero, latestCopies, if_pos rfl, Nat.add_zero] at hall
      have hneed := (neededCopies_le (opened + world.persists) h.counts).2
      rw [hzero, Nat.add_zero] at hlost hneed ⊢
      omega
    · have hrun := writeCopies_le_copiesOf (opened + world.persists) opened h.counts
      simp only [neededCopies, if_neg hfirst]
      omega
  obtain ⟨store', hopen, hopened⟩ := openSuperblockStore_newest (n := opened + world.persists) h.history
    (h.layout.damaged hindex)
    (fun d hd g hg => settled_within _ _ (by omega) d hd g (damagedAt_eq_some.mp hg).2)
    (damagedAt_contiguous (by omega) (show writeCopies < cfg.cluster.superblockCopies by omega) hbad hnot)
    h.counts.quorum_eq ⟨by omega, le_rfl⟩ hreached
    (fun m hlt hle => by omega)
  rw [h.current_eq]
  exact hopened.repairedTo hopen

/-- Losing a copy of a zone that was formatted and never opened. -/
theorem formatted_damaged {writeCopies : Nat}
    (counts : CopyCounts cfg.cluster.superblockCopies writeCopies openQuorum)
    (history : History cfg.validation (fun _ => cfg.superblock 0 0 : Nat → Superblock χ) 1 1)
    (layout : Layout cfg.validation (fun _ => cfg.superblock 0 0) 0 (fresh writeCopies) zone)
    (hindex : index < cfg.cluster.superblockCopies) :
    if index < writeCopies then
      openSuperblockStore (zone.write index .damaged) cfg.validation =
        .error (.joined .unformatted .initializationIncomplete)
    else RepairedTo cfg.validation (zone.write index .damaged) (cfg.superblock 0 0) := by
  obtain ⟨hcopies, hwrite, hquorum⟩ := counts.arithmetic
  have hoffset : Ring.offset cfg.cluster.superblockCopies 0 index = index := by
    unfold Ring.offset
    rw [Nat.zero_mod, Nat.sub_zero, Nat.add_mod_right, Nat.mod_eq_of_lt hindex]
  have hlayout := layout.damaged hindex
  simp only [FormatConfig.validation_cluster, hoffset] at hlayout
  have hcontent : ∀ d g, damagedAt index (fresh writeCopies) d = some g ↔
      d ≠ index ∧ d < writeCopies ∧ g = 1 := fun d g => by rw [damagedAt_eq_some, fresh_eq_some]
  have hwithin : Within cfg.cluster.superblockCopies 1 1 (damagedAt index (fresh writeCopies)) :=
    fun d hd g hg => by have := (hcontent d g).mp hg; omega
  have hcontiguous : Contiguous cfg.cluster.superblockCopies (damagedAt index (fresh writeCopies)) := by
    intro d hd e he g h n hg hh hgn hnh
    have hg' := (hcontent d g).mp hg
    have hh' := (hcontent e h).mp hh
    obtain rfl : n = g := by omega
    exact ⟨d, hd, hg⟩
  have hneed : neededCopies cfg.cluster.superblockCopies openQuorum 1 = writeCopies := by
    simp [neededCopies, counts.write_eq]
  split
  · -- one of the copies `Format` wrote: the first superblock is one copy short
    rename_i hlt
    have hcount : copiesOf cfg.cluster.superblockCopies (damagedAt index (fresh writeCopies)) 1 <
        writeCopies := by
      rw [copiesOf_eq _ (fun d => d ≠ index ∧ d < writeCopies) (fun d _ => by simp [hcontent])]
      exact Ring.countP_range_lt_without hlt (by omega)
    refine openSuperblockStore_unformatted history hlayout hwithin hcontiguous counts.quorum_eq
      (fun n hlo hhi => ?_) (d := if index = 0 then 1 else 0)
      (by simp only [FormatConfig.validation_cluster]; split <;> omega)
      ((hcontent _ _).mpr (by split <;> omega))
    obtain rfl : n = 1 := by omega
    simp only [FormatConfig.validation_cluster, hneed]
    exact hcount
  · rename_i hge
    have hsame : damagedAt index (fresh writeCopies) = fresh writeCopies := by
      funext d
      unfold damagedAt
      split
      · rename_i hd
        simp [fresh, hd, hge]
      · rfl
    rw [hsame] at hlayout
    obtain ⟨store, hopen, hopened⟩ := open_formatted counts history hlayout
    exact hopened.repairedTo hopen

/-- Any one copy damaged, after any history of calls.  A zone that was formatted and never opened is
reported as unformatted when one of the copies `Format` wrote is lost and opens otherwise.  A zone that
was opened, whatever was persisted since, opens on the latest superblock and is repaired to it, unless
the lost copy was the only one of a generation between two others. -/
theorem damaged_copy_reopens (cfg : FormatConfig) (calls : List (SuperblockCall χ)) {index : Nat}
    (hindex : index < cfg.cluster.superblockCopies) :
    ((SuperblockWorld.run cfg calls).store = none → (SuperblockWorld.run cfg calls).zone.size ≠ 0 →
      if index < (superblockWriteCopies cfg.cluster.superblockCopies).getD 0 then
        openSuperblockStore ((SuperblockWorld.run cfg calls).zone.write index .damaged) cfg.validation =
          .error (.joined .unformatted .initializationIncomplete)
      else
        RepairedTo cfg.validation ((SuperblockWorld.run cfg calls).zone.write index .damaged)
          (cfg.superblock 0 0)) ∧
    ∀ store, (SuperblockWorld.run cfg calls).store = some store →
      ¬ SoleGeneration cfg.cluster.superblockCopies store.current.superblock.sequence
        (SuperblockWorld.run cfg calls).persists index →
      RepairedTo cfg.validation ((SuperblockWorld.run cfg calls).zone.write index .damaged)
        store.current.superblock := by
  constructor
  · intro hstore hsize
    have hinvariant := run_invariant cfg calls
    generalize SuperblockWorld.run cfg calls = world at hinvariant hstore hsize ⊢
    cases hinvariant with
    | empty persists => exact absurd rfl hsize
    | formatted writeCopies openQuorum zone persists counts history layout =>
      rw [counts.write_eq, Option.getD_some]
      exact formatted_damaged counts history layout hindex
    | opened writeCopies openQuorum _ store hist opened state =>
      rw [state.store_eq] at hstore
      cases hstore
  · intro store hstore hnot
    obtain ⟨writeCopies, openQuorum, hist, opened, hopened⟩ := run_opened hstore
    exact hopened.damaged_repairedTo hindex hnot

/-- Two view changes are persisted: the copies hold the generations 2 and 3. -/
def twicePersisted : List (SuperblockCall Digest) :=
  let first := (exampleFormat.superblock 0 0).nextView
  [.format, .openStore, .persist first, .persist first.nextView]

theorem damaged_persisted_copy_reopens : ∃ store,
    (SuperblockWorld.run exampleFormat twicePersisted).store = some store ∧
      store.current.superblock.sequence = 3 ∧
      RepairedTo exampleFormat.validation
        ((SuperblockWorld.run exampleFormat twicePersisted).zone.write 3 .damaged)
        store.current.superblock := by
  have hopen : (SuperblockWorld.run exampleFormat twicePersisted).store.any
      (fun store => store.current.superblock.sequence = 3) := by decide +kernel
  obtain ⟨store, hstore, hsequence⟩ := (Option.any_eq_true _ _).mp hopen
  have hsequence := of_decide_eq_true hsequence
  refine ⟨store, hstore, hsequence, ?_⟩
  refine (damaged_copy_reopens exampleFormat twicePersisted (show 3 < _ by decide)).2 store hstore ?_
  rw [hsequence, show (SuperblockWorld.run exampleFormat twicePersisted).persists = 2 by decide +kernel]
  decide

/-- Losing one of the copies a completed `Format` wrote makes the zone unopenable. -/
theorem damaged_formatted_copy_unformatted :
    (openSuperblockStore
        ((SuperblockWorld.run exampleFormat [.format] : SuperblockWorld Digest).zone.write 0 .damaged)
        exampleFormat.validation).map (fun store => store.current.superblock) =
      .error (.joined .unformatted .initializationIncomplete) := by
  decide +kernel

end Supervsr
