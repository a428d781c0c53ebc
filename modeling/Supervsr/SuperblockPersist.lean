import Supervsr.SuperblockLayout

/-
# Supervsr.SuperblockPersist — the steps of a persist in closed form

A persist writes its copies from the place its sequence number selects, so the ring of copies holds the
latest superblock in one run of places and ever older ones behind it, down to the one the store was
opened on.  The persist loop is solved here: which copies hold what after any number of storage calls,
and what a crash there leaves.
-/

namespace Supervsr

variable {χ : Type} [DecidableEq χ] [Checksums χ]

/-! ## The ring between persists -/

/-- The copies, read from the place of the latest superblock: the run it was written to, then what
earlier persists left, and nothing older than the superblock the store was opened on. -/
def settled (copies writeCopies latest opened d : Nat) : Option Nat :=
  some (if d < writeCopies then latest else max (latest + d - copies) opened)

/-- The same ring after `written` copies of `next` and `torn` damaged ones behind them. -/
def interrupted (content : Nat → Option Nat) (next written torn d : Nat) : Option Nat :=
  if 1 ≤ d ∧ d ≤ written then some next
  else if 1 ≤ d ∧ d ≤ written + torn then none
  else content d

section Ring

variable (copies writeCopies : Nat) {latest opened : Nat} (written torn : Nat)

theorem settled_within (hle : opened ≤ latest) :
    Within copies opened latest (settled copies writeCopies latest opened) := by
  intro d hd g hg
  simp only [settled, Option.some.injEq] at hg
  split at hg <;> omega

theorem interrupted_within (hle : opened ≤ latest) :
    Within copies opened (latest + 1)
      (interrupted (settled copies writeCopies latest opened) (latest + 1) written torn) := by
  intro d hd g hg
  unfold interrupted at hg
  split at hg
  · cases hg
    omega
  split at hg
  · cases hg
  · have := settled_within copies writeCopies hle d hd g hg
    omega

variable {copies writeCopies written torn}

/-- Overwriting from the second place on never opens a gap: the latest superblock keeps the first
place, and the older ones are overwritten oldest first. -/
theorem interrupted_contiguous (hpos : 0 < writeCopies) (hlt : writeCopies < copies)
    (hwritten : written + torn ≤ writeCopies) (hle : opened ≤ latest) :
    Contiguous copies
      (interrupted (settled copies writeCopies latest opened) (latest + 1) written torn) := by
  intro d hd e he g h n hg hh hgn hnh
  have hh' := interrupted_within copies writeCopies written torn hle e he h hh
  rcases Nat.lt_trichotomy n latest with hn | rfl | hn
  · by_cases hng : n = g
    · exact ⟨d, hd, hng ▸ hg⟩
    -- the copy that holds `n` lies behind the one that holds the older `g`
    refine ⟨n + copies - latest, by omega, ?_⟩
    simp only [interrupted, settled] at hg ⊢
    grind
  · refine ⟨0, by omega, ?_⟩
    simp [interrupted, settled, hpos]
  · obtain rfl : n = h := by omega
    exact ⟨e, he, hh⟩

/-- After all copies of a persist the ring is settled again, read from the next place. -/
theorem interrupted_settled (hpos : 0 < writeCopies) (hlt : writeCopies < copies) (hle : opened ≤ latest)
    (d : Nat) :
    interrupted (settled copies writeCopies latest opened) (latest + 1) writeCopies 0 d =
      settled copies writeCopies (latest + 1) opened (if d = 0 then copies - 1 else d - 1) := by
  simp only [interrupted, settled]
  grind

end Ring

/-! ## The steps of a persist -/

namespace SuperblockStore

variable {store : SuperblockStore χ} {next : Superblock χ} {writeCopies : Nat}

/-- The zone once the first `written` copies of `next` are on it. -/
def writtenZone (store : SuperblockStore χ) (next : Superblock χ) (written : Nat) :
    SuperblockZone χ where
  size := store.storage.size
  copies index :=
    if index < store.copies ∧ Ring.offset store.copies next.sequence index < written then
      .image index next
    else store.storage.copies index

section

omit [DecidableEq χ] [Checksums χ]

theorem writtenZone_zero (store : SuperblockStore χ) (next : Superblock χ) :
    store.writtenZone next 0 = store.storage := by
  simp [writtenZone]

/-- Writing one more copy. -/
theorem writtenZone_succ {written : Nat} (hwritten : written < store.copies) :
    (store.writtenZone next written).write ((next.sequence + written) % store.copies)
        (.image ((next.sequence + written) % store.copies) next) =
      store.writtenZone next (written + 1) := by
  have hpos : 0 < store.copies := by omega
  simp only [SuperblockZone.write, writtenZone, SuperblockZone.mk.injEq, true_and]
  funext index
  rw [Function.update_apply]
  by_cases hindex : index = (next.sequence + written) % store.copies
  · have hlt : index < store.copies := hindex ▸ Nat.mod_lt _ hpos
    have hoffset : Ring.offset store.copies next.sequence index = written :=
      hindex ▸ Ring.offset_add_mod next.sequence written hwritten
    rw [if_pos hindex, if_pos ⟨hlt, by omega⟩, hindex]
  · rw [if_neg hindex]
    refine if_congr (and_congr_right fun hlt => ?_) rfl rfl
    have hne : Ring.offset store.copies next.sequence index ≠ written := fun h =>
      hindex (by rw [← h, Ring.add_offset_mod hpos next.sequence index hlt])
    omega

end

/-- A persist that was admitted: what `beginPersist` checked and the state it returned. -/
structure Admitted (store : SuperblockStore χ) (next : Superblock χ) (writeCopies : Nat) : Prop where
  idle : store.ioActive = false
  follows : successor store.current.superblock next
  valid : next.validate store.validation = .ok ()
  write_eq : superblockWriteCopies store.copies = some writeCopies

/-- The loop state after `advances` storage calls. -/
def afterAdvances (store : SuperblockStore χ) (next : Superblock χ) (writeCopies advances : Nat) :
    SuperblockStore χ × IOSequence :=
  if advances < 2 * writeCopies then
    ({ store with storage := store.writtenZone next ((advances + 1) / 2), ioActive := true },
      { phase := if advances % 2 = 0 then .write else .sync
        index := next.sequence % store.copies
        step := advances / 2
        offset := (next.sequence + advances / 2) % store.copies })
  else
    ({ store with
        storage := store.writtenZone next writeCopies
        current := ⟨next, next.sequence % store.copies, false⟩
        ioActive := true },
      { phase := .completion
        index := next.sequence % store.copies
        step := writeCopies
        offset := (next.sequence + (writeCopies - 1)) % store.copies })

theorem superblockWriteCopies_bounds {copies writeCopies : Nat}
    (h : superblockWriteCopies copies = some writeCopies) : 0 < writeCopies ∧ writeCopies < copies := by
  unfold superblockWriteCopies at h
  split at h <;> cases h <;> omega

theorem beginPersist_eq (hadmitted : Admitted store next writeCopies) :
    store.beginPersist next = .ok (store.afterAdvances next writeCopies 0) := by
  have hbounds := superblockWriteCopies_bounds hadmitted.write_eq
  unfold beginPersist
  rw [if_neg (by simp [hadmitted.idle]), if_neg (not_not.mpr hadmitted.follows)]
  simp only [hadmitted.valid, hadmitted.write_eq, prepareCopy, afterAdvances]
  rw [if_pos (by omega : 0 < 2 * writeCopies)]
  simp [bind, Except.bind, pure, Except.pure, writtenZone_zero]

/-- `beginPersist` succeeds only on an admitted persist. -/
theorem admitted_of_beginPersist (h : (store.beginPersist next).isOk) :
    ∃ writeCopies, Admitted store next writeCopies := by
  unfold beginPersist at h
  split at h
  · cases h
  rename_i hidle
  split at h
  · cases h
  rename_i hfollows
  cases hvalid : next.validate store.validation with
  | error err => simp [hvalid, bind, Except.bind, Except.isOk, Except.toBool] at h
  | ok u =>
    cases hwrite : superblockWriteCopies store.copies with
    | none => simp [hvalid, hwrite, bind, Except.bind, Except.isOk, Except.toBool] at h
    | some writeCopies =>
      exact ⟨writeCopies, by simpa using hidle, not_not.mp hfollows, hvalid, hwrite⟩

/-- One advance of the persist loop. -/
theorem advance_afterAdvances (hadmitted : Admitted store next writeCopies) (advances : Nat) :
    advancePersistTo next 1 (store.afterAdvances next writeCopies advances) =
      .ok (store.afterAdvances next writeCopies (advances + 1)) := by
  have hbounds := superblockWriteCopies_bounds hadmitted.write_eq
  have hcopies : ∀ storage current active,
      SuperblockStore.copies { store with storage := storage, current := current, ioActive := active } =
        store.copies := fun _ _ _ => rfl
  by_cases hdone : advances < 2 * writeCopies
  · rcases Nat.mod_two_eq_zero_or_one advances with hparity | hparity
    · -- a write: the copy under way joins the written ones
      have hhalf : advances / 2 < store.copies := by omega
      have hnext : (advances + 1) / 2 = advances / 2 := by omega
      have hnext' : (advances + 1 + 1) / 2 = advances / 2 + 1 := by omega
      simp only [afterAdvances, if_pos hdone, if_pos (by omega : advances + 1 < 2 * writeCopies),
        advancePersistTo, advancePersist, hparity, hnext, hnext', if_true,
        if_neg (by omega : ¬ (advances + 1) % 2 = 0), writtenZone_succ hhalf]
      simp [bind, Except.bind]
    · -- a sync: the next copy is sealed, or the persist is complete
      have hhalf : (advances + 1) / 2 = advances / 2 + 1 := by omega
      by_cases hlast : advances + 1 < 2 * writeCopies
      · have hstep : advances / 2 + 1 < writeCopies := by omega
        have hnext : (advances + 1 + 1) / 2 = advances / 2 + 1 := by omega
        simp [afterAdvances, hdone, hlast, advancePersistTo, advancePersist, prepareCopy, hparity, hhalf,
          hnext, hstep, hadmitted.valid, hadmitted.write_eq, hcopies, bind, Except.bind, pure,
          Except.pure, show (advances + 1) % 2 = 0 by omega]
      · obtain rfl : writeCopies = advances / 2 + 1 := by omega
        simp [afterAdvances, hdone, hlast, advancePersistTo, advancePersist, hparity, hhalf,
          hadmitted.write_eq, hcopies, bind, Except.bind]
  · simp [afterAdvances, hdone, show ¬ advances + 1 < 2 * writeCopies by omega, advancePersistTo]

theorem advancePersistTo_succ (next : Superblock χ) (advances : Nat)
    (state : SuperblockStore χ × IOSequence) :
    advancePersistTo next (advances + 1) state =
      (advancePersistTo next advances state >>= advancePersistTo next 1) := by
  induction advances generalizing state with
  | zero => simp [advancePersistTo, bind, Except.bind]
  | succ advances ih =>
    obtain ⟨store, sequence⟩ := state
    rw [advancePersistTo]
    conv_rhs => rw [advancePersistTo]
    split
    · rename_i hdone
      simp [bind, Except.bind, advancePersistTo, hdone]
    · cases store.advancePersist sequence next with
      | error err => rfl
      | ok state => exact ih state

variable (hadmitted : Admitted store next writeCopies)

include hadmitted

/-- The persist loop in closed form. -/
theorem advancePersistTo_eq (advances : Nat) :
    advancePersistTo next advances (store.afterAdvances next writeCopies 0) =
      .ok (store.afterAdvances next writeCopies advances) := by
  induction advances with
  | zero => rfl
  | succ advances ih =>
    rw [advancePersistTo_succ, ih]
    exact advance_afterAdvances hadmitted advances

/-- An admitted persist completes: all its copies are written and it becomes current. -/
theorem persist_eq :
    store.persist next = .ok { store with
      storage := store.writtenZone next writeCopies
      current := ⟨next, next.sequence % store.copies, false⟩ } := by
  have hadvances : store.persistAdvances = 2 * writeCopies := by
    simp [persistAdvances, hadmitted.write_eq]
  unfold persist
  rw [beginPersist_eq hadmitted]
  show (advancePersistTo next store.persistAdvances (store.afterAdvances next writeCopies 0) >>= _) = _
  rw [advancePersistTo_eq hadmitted, hadvances]
  simp only [afterAdvances, if_neg (lt_irrefl (2 * writeCopies)), bind, Except.bind, pure, Except.pure,
    hadmitted.idle]

/-- What a crash at `point` leaves in each copy. -/
theorem crashedZone_eq (point : CrashPoint) :
    ∃ zone, crashedZone store next point = .ok zone ∧ zone.size = store.storage.size ∧
      ∀ index < store.copies, zone.copies index =
        if Ring.offset store.copies next.sequence index < point.written writeCopies then
          .image index next
        else if Ring.offset store.copies next.sequence index <
            point.written writeCopies + point.torn writeCopies then .damaged
        else store.storage.copies index := by
  have hbounds := superblockWriteCopies_bounds hadmitted.write_eq
  unfold crashedZone
  rw [beginPersist_eq hadmitted]
  show ∃ zone, (advancePersistTo next point.advances (store.afterAdvances next writeCopies 0) >>= _) = _ ∧ _
  rw [advancePersistTo_eq hadmitted]
  by_cases hdone : point.advances < 2 * writeCopies
  · have hcopy : point.advances / 2 < store.copies := by omega
    have hpos : 0 < store.copies := by omega
    have hphase : (if point.advances % 2 = 0 then IOPhase.write else .sync) ≠ .completion := by
      split <;> simp
    -- the copy under way is the one at distance `advances / 2`, whatever was done to it so far
    have hplace : ∀ index < store.copies,
        index = (next.sequence + point.advances / 2) % store.copies ↔
          Ring.offset store.copies next.sequence index = point.advances / 2 := by
      intro index hindex
      constructor
      · rintro rfl
        exact Ring.offset_add_mod next.sequence _ hcopy
      · intro h
        rw [← h, Ring.add_offset_mod hpos next.sequence index hindex]
    rw [afterAdvances, if_pos hdone]
    simp only [bind, Except.bind, if_neg hphase, CrashPoint.written, CrashPoint.torn, hdone, true_and]
    cases point.inFlight <;>
    · refine ⟨_, rfl, rfl, fun index hindex => ?_⟩
      have hplace := hplace index hindex
      simp only [SuperblockZone.write, writtenZone, Function.update_apply, hindex, true_and]
      by_cases hindex' : index = (next.sequence + point.advances / 2) % store.copies
      · have hoffset := hplace.mp hindex'
        simp [← hindex', hoffset]
      · have hoffset := fun h => hindex' (hplace.mpr h)
        simp only [if_neg hindex', reduceCtorEq, if_false, if_true]
        grind
  · refine ⟨store.writtenZone next writeCopies, ?_, rfl, fun index hindex => ?_⟩
    · simp [afterAdvances, hdone, bind, Except.bind, pure, Except.pure]
    · simp only [writtenZone, CrashPoint.written, CrashPoint.torn, hdone, hindex, true_and, false_and,
        if_false, Nat.add_zero]
      split <;> rfl

end SuperblockStore

end Supervsr
