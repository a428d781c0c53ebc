import Supervsr.Lib.Ring
import Supervsr.SuperblockSelection
import Supervsr.SuperblockStore

/-
# Supervsr.SuperblockLayout — which generation sits in which copy

The copies form a ring.  A layout says, for each distance behind a start copy, which generation of a
history the copy holds, or that it does not decode.  Opening a zone depends on its layout alone.
-/

namespace Supervsr

variable {χ : Type} [DecidableEq χ] [Checksums χ] {validation : SuperblockValidation χ}

variable {index n : Nat} {copy : Copy χ} {hist : Nat → Superblock χ}

/-- The generations `lo` to `hi` of one zone: a lineage of superblocks that each pass validation,
of which the first of all, and only it, has no parent. -/
structure History (validation : SuperblockValidation χ) (hist : Nat → Superblock χ) (lo hi : Nat) :
    Prop where
  lineage : Lineage hist lo hi
  valid : ∀ n, lo ≤ n → n ≤ hi → (hist n).validate validation = .ok ()
  initial_iff : ∀ n, lo ≤ n → n ≤ hi → ((hist n).initial ↔ n = 1)

/-- The copy at `index` holds generation `content`, or does not decode. -/
def Holds (hist : Nat → Superblock χ) (index : Nat) (content : Option Nat) (copy : Copy χ) : Prop :=
  match content with
  | some g => copy = .image index (hist g)
  | none => copy = .blank ∨ copy = .damaged

omit [DecidableEq χ] [Checksums χ] in
/-- Extending a history by a generation the copy does not hold changes nothing for it. -/
theorem Holds.update {content : Option Nat} (h : Holds hist index content copy) (n : Nat)
    (superblock : Superblock χ) (hne : ∀ g, content = some g → g ≠ n) :
    Holds (Function.update hist n superblock) index content copy := by
  cases content with
  | none => exact h
  | some g =>
    have hg : Function.update hist n superblock g = hist g := Function.update_of_ne (hne g rfl) _ _
    exact (show copy = .image index (hist g) from h).trans (by rw [hg])

/-- The copies of a formatted zone, read from the copy `start` on. -/
structure Layout (validation : SuperblockValidation χ) (hist : Nat → Superblock χ) (start : Nat)
    (content : Nat → Option Nat) (zone : SuperblockZone χ) : Prop where
  size_eq : validation.cluster.blockBase = some zone.size
  size_pos : 0 < zone.size
  holds : ∀ index < validation.cluster.superblockCopies, Holds hist index
    (content (Ring.offset validation.cluster.superblockCopies start index)) (zone.copies index)

/-- Every generation of the layout lies between `lo` and `hi`. -/
def Within (copies lo hi : Nat) (content : Nat → Option Nat) : Prop :=
  ∀ d < copies, ∀ g, content d = some g → lo ≤ g ∧ g ≤ hi

/-- No generation between two of the layout is missing. -/
def Contiguous (copies : Nat) (content : Nat → Option Nat) : Prop :=
  ∀ d < copies, ∀ e < copies, ∀ g h n, content d = some g → content e = some h → g ≤ n → n ≤ h →
    ∃ f < copies, content f = some n

/-- The number of copies of generation `n`. -/
def copiesOf (copies : Nat) (content : Nat → Option Nat) (n : Nat) : Nat :=
  (List.range copies).countP (fun d => content d = some n)

/-- The copies a generation needs to be opened. -/
def neededCopies (copies openQuorum n : Nat) : Nat :=
  if n = 1 then (superblockWriteCopies copies).getD 0 else openQuorum

/-! ## Decoding -/

/-- An image that passes validation decodes, at its own index without misdirection. -/
theorem decodeSuperblock_image {superblock : Superblock χ} (hbase : validation.cluster.blockBase.isSome)
    (hvalid : superblock.validate validation = .ok ()) (index : Nat) :
    decodeSuperblock (.image index superblock) index validation = .ok ⟨superblock, index, false⟩ := by
  have haccepted := Superblock.validate_eq_ok.mp hvalid
  have hidentity := haccepted.identity
  simp only [Superblock.validIdentity, SuperblockOf.identifies, decide_eq_true_eq] at hidentity
  obtain ⟨hformat, hrelease, hsequence, hgroup, hconfiguration, hprotocol⟩ := hidentity
  have hpipeline := haccepted.headers_le_pipeline
  have hmax := haccepted.headers_le_max
  simp only [decodeSuperblock]
  rw [if_neg (by simp [hrelease, hsequence]), if_neg (by simp [hformat, hgroup, hconfiguration, hprotocol]),
    if_neg (by simp [Option.isSome_iff_ne_none.mp hbase]), if_neg (not_not.mpr haccepted.checkpoint),
    if_neg (by omega), hvalid]
  simp [bind, Except.bind, pure, Except.pure]

/-- What a copy contributes to the candidates. -/
theorem decode_holds {lo hi : Nat} (hhistory : History validation hist lo hi)
    (hbase : validation.cluster.blockBase.isSome) {content : Option Nat}
    (hholds : Holds hist index content copy) (hwithin : ∀ g, content = some g → lo ≤ g ∧ g ≤ hi) :
    (decodeSuperblock copy index validation).toOption = content.map (fun g => ⟨hist g, index, false⟩) := by
  cases content with
  | none =>
    rcases hholds with rfl | rfl <;> rfl
  | some g =>
    obtain ⟨hlo, hhi⟩ := hwithin g rfl
    rw [show copy = .image index (hist g) from hholds,
      decodeSuperblock_image hbase (hhistory.valid g hlo hhi)]
    rfl

section Zone

variable {lo hi start : Nat}
  {content : Nat → Option Nat} {zone : SuperblockZone χ}

section

variable (hhistory : History validation hist lo hi) (hlayout : Layout validation hist start content zone)
  (hwithin : Within validation.cluster.superblockCopies lo hi content)

include hhistory hlayout hwithin

theorem superblockCandidates_eq :
    superblockCandidates zone validation =
      (List.range validation.cluster.superblockCopies).filterMap (fun index =>
        (content (Ring.offset validation.cluster.superblockCopies start index)).map
          (fun g => ⟨hist g, index, false⟩)) := by
  unfold superblockCandidates
  refine List.filterMap_congr fun index hindex => ?_
  have hindex := List.mem_range.mp hindex
  exact decode_holds hhistory (by rw [hlayout.size_eq]; rfl) (hlayout.holds index hindex)
    (hwithin _ (Ring.offset_lt (by omega) _ _))

/-- A candidate is a copy at some distance from the start. -/
theorem mem_superblockCandidates {c : SuperblockCandidate χ} :
    c ∈ superblockCandidates zone validation ↔
      ∃ index < validation.cluster.superblockCopies, ∃ g,
        content (Ring.offset validation.cluster.superblockCopies start index) = some g ∧
          c = ⟨hist g, index, false⟩ := by
  rw [superblockCandidates_eq hhistory hlayout hwithin]
  simp only [List.mem_filterMap, List.mem_range, Option.map_eq_some_iff, eq_comm (a := c)]

theorem drawnFrom_candidates :
    DrawnFrom hist lo hi (superblockCandidates zone validation) := by
  intro c hc
  obtain ⟨index, hindex, g, hg, rfl⟩ := (mem_superblockCandidates hhistory hlayout hwithin).mp hc
  obtain ⟨hlo, hhi⟩ := hwithin _ (Ring.offset_lt (by omega) _ _) g hg
  rw [hhistory.lineage.sequence_eq g hlo hhi]
  exact ⟨hlo, hhi, rfl⟩

theorem gapFree_candidates (hcontiguous : Contiguous validation.cluster.superblockCopies content) :
    GapFree (superblockCandidates zone validation) := by
  intro a ha b hb n han hnb
  obtain ⟨i, hi', g, hg, rfl⟩ := (mem_superblockCandidates hhistory hlayout hwithin).mp ha
  obtain ⟨j, hj', h, hh, rfl⟩ := (mem_superblockCandidates hhistory hlayout hwithin).mp hb
  have hpos : 0 < validation.cluster.superblockCopies := by omega
  have hgr := hwithin _ (Ring.offset_lt hpos _ _) g hg
  have hhr := hwithin _ (Ring.offset_lt hpos _ _) h hh
  simp only [hhistory.lineage.sequence_eq g hgr.1 hgr.2] at han
  simp only [hhistory.lineage.sequence_eq h hhr.1 hhr.2] at hnb
  obtain ⟨d, hd, hdn⟩ := hcontiguous _ (Ring.offset_lt hpos _ _) _ (Ring.offset_lt hpos _ _) g h n hg hh
    han hnb
  refine ⟨⟨hist n, (start + d) % validation.cluster.superblockCopies, false⟩,
    (mem_superblockCandidates hhistory hlayout hwithin).mpr
      ⟨_, Nat.mod_lt _ hpos, n, by rw [Ring.offset_add_mod start d hd, hdn], rfl⟩, ?_⟩
  exact hhistory.lineage.sequence_eq n (by omega) (by omega)

theorem heldCount_candidates (hpos : 0 < validation.cluster.superblockCopies) (n : Nat) :
    heldCount (superblockCandidates zone validation) n =
      copiesOf validation.cluster.superblockCopies content n := by
  unfold heldCount copiesOf
  rw [superblockCandidates_eq hhistory hlayout hwithin, List.countP_filterMap,
    ← Ring.countP_offset hpos start (fun d => content d = some n)]
  refine List.countP_congr fun index _ => ?_
  have hoffset := Ring.offset_lt hpos start index
  cases hcontent : content (Ring.offset validation.cluster.superblockCopies start index) with
  | none => simp
  | some g =>
    obtain ⟨hlo, hhi⟩ := hwithin _ hoffset g hcontent
    simp [hhistory.lineage.sequence_eq g hlo hhi]

end

theorem requiredQuorum_history (hhistory : History validation hist lo hi) {openQuorum : Nat} (hlo : lo ≤ n)
    (hhi : n ≤ hi) :
    requiredQuorum validation.cluster.superblockCopies openQuorum (hist n) =
      neededCopies validation.cluster.superblockCopies openQuorum n := by
  simp [requiredQuorum, neededCopies, hhistory.initial_iff n hlo hhi]

theorem length_candidates_le :
    (superblockCandidates zone validation).length ≤ validation.cluster.superblockCopies := by
  refine (List.length_filterMap_le _ _).trans ?_
  rw [List.length_range]

/-! ## Opening -/

variable {openQuorum : Nat}

omit [DecidableEq χ] [Checksums χ] in
theorem superblockCopies_pos (hquorum :
    superblockOpenQuorum validation.cluster.superblockCopies = some openQuorum) :
    0 < validation.cluster.superblockCopies := by
  refine Nat.pos_of_ne_zero fun h => ?_
  rw [h] at hquorum
  cases hquorum

/-- One round of repair leaves the copy equal to the selection and touches no other. -/
theorem repairCopy_holds (hhistory : History validation hist lo hi) (hn : lo ≤ n ∧ n ≤ hi)
    (hbase : validation.cluster.blockBase.isSome) {g : Option Nat} (hwithin : ∀ m, g = some m → lo ≤ m ∧ m ≤ hi)
    (hholds : Holds hist index g (zone.copies index)) :
    ∃ zone', repairCopy (hist n) validation zone index = .ok zone' ∧ zone'.size = zone.size ∧
      zone'.copies = Function.update zone.copies index (.image index (hist n)) := by
  have hrewrite : ∃ zone', (do
      (hist n).validate validation
      return zone.write index (.image index (hist n)) : Except SuperblockError _) = .ok zone' ∧
      zone'.size = zone.size ∧
      zone'.copies = Function.update zone.copies index (.image index (hist n)) :=
    ⟨zone.write index (.image index (hist n)), by rw [hhistory.valid n hn.1 hn.2]; rfl, rfl, rfl⟩
  unfold repairCopy
  cases g with
  | none =>
    have hdecode : ∃ err, decodeSuperblock (zone.copies index) index validation = .error err := by
      rcases hholds with h | h <;> rw [h] <;> exact ⟨_, rfl⟩
    obtain ⟨err, hdecode⟩ := hdecode
    simpa only [hdecode, Bool.false_eq_true, if_false] using hrewrite
  | some m =>
    obtain ⟨hlo, hhi⟩ := hwithin m rfl
    have hcopy : zone.copies index = .image index (hist m) := hholds
    have hdecode := decodeSuperblock_image hbase (hhistory.valid m hlo hhi) index
    simp only [hcopy, hdecode]
    split
    · -- a kept copy has the selected checksum, hence is the selection
      rename_i hkeep
      have hsame : hist m = hist n := Superblock.checksum_injective (by simpa using hkeep)
      exact ⟨zone, rfl, rfl, by rw [← hsame, ← hcopy, Function.update_eq_self]⟩
    · exact hrewrite

section

variable (hhistory : History validation hist lo hi) (hlayout : Layout validation hist start content zone)
  (hwithin : Within validation.cluster.superblockCopies lo hi content)

include hhistory hlayout hwithin

/-- After repairing the first `k` copies. -/
theorem repairCopies_prefix (hn : lo ≤ n ∧ n ≤ hi) (k : Nat) (hk : k ≤ validation.cluster.superblockCopies) :
    ∃ zone', (List.range k).foldlM (repairCopy (hist n) validation) zone = .ok zone' ∧
      zone'.size = zone.size ∧
      ∀ index, zone'.copies index = if index < k then .image index (hist n) else zone.copies index := by
  induction k with
  | zero => exact ⟨zone, rfl, rfl, fun index => by simp⟩
  | succ k ih =>
    obtain ⟨zone', hfold, hsize, hcopies⟩ := ih (by omega)
    have hholds : Holds hist k
        (content (Ring.offset validation.cluster.superblockCopies start k)) (zone'.copies k) := by
      rw [hcopies k, if_neg (lt_irrefl k)]
      exact hlayout.holds k hk
    obtain ⟨zone'', hrepair, hsize', hcopies'⟩ := repairCopy_holds hhistory hn
      (by rw [hlayout.size_eq]; rfl) (hwithin _ (Ring.offset_lt (by omega) _ _)) hholds
    refine ⟨zone'', ?_, hsize'.trans hsize, fun index => ?_⟩
    · rw [List.range_succ, List.foldlM_append, hfold]
      simp only [List.foldlM_cons, List.foldlM_nil]
      exact (congrArg (· >>= pure) hrepair).trans rfl
    rw [hcopies', Function.update_apply, hcopies]
    by_cases hindex : index = k
    · simp [hindex]
    · rw [if_neg hindex]
      exact if_congr (by omega) rfl rfl

/-- A zone opened on `superblock`, every copy repaired to it. -/
structure OpenedOn (validation : SuperblockValidation χ) (zone : SuperblockZone χ)
    (superblock : Superblock χ) (store : SuperblockStore χ) : Prop where
  current_eq : store.current.superblock = superblock
  validation_eq : store.validation = validation
  idle : store.ioActive = false
  size_eq : store.storage.size = zone.size
  copies_eq : ∀ index < validation.cluster.superblockCopies,
    store.storage.copies index = .image index superblock

/-- A contiguous layout opens on its newest generation with enough copies. -/
theorem openSuperblockStore_newest (hcontiguous : Contiguous validation.cluster.superblockCopies content)
    (hquorum : superblockOpenQuorum validation.cluster.superblockCopies = some openQuorum) (hn : lo ≤ n ∧ n ≤ hi)
    (hreached : neededCopies validation.cluster.superblockCopies openQuorum n ≤ copiesOf
      validation.cluster.superblockCopies content n)
    (hnewest : ∀ m, n < m → m ≤ hi → copiesOf validation.cluster.superblockCopies content m < neededCopies
      validation.cluster.superblockCopies openQuorum m) :
    ∃ store, openSuperblockStore zone validation = .ok store ∧
      OpenedOn validation zone (hist n) store := by
  have hpos := superblockCopies_pos hquorum
  obtain ⟨c, hc, hselect, hcn⟩ := selectSuperblock_newest hhistory.lineage
    (drawnFrom_candidates hhistory hlayout hwithin)
    (gapFree_candidates hhistory hlayout hwithin hcontiguous) hquorum length_candidates_le (n := n)
    (by rwa [heldCount_candidates hhistory hlayout hwithin hpos,
      requiredQuorum_history hhistory hn.1 hn.2])
    (fun m hnm hm => by
      rw [heldCount_candidates hhistory hlayout hwithin hpos,
        requiredQuorum_history hhistory (by omega) hm]
      exact hnewest m hnm hm)
  obtain ⟨zone', hrepair, hsize, hcopies⟩ := repairCopies_prefix hhistory hlayout hwithin hn
    validation.cluster.superblockCopies le_rfl
  have hrepair' : repairCopies c.superblock validation zone = .ok zone' := by
    rw [hcn]
    exact hrepair
  have hsizes : ¬ (zone.size < zone.size ∨ (zone.size - zone.size) % validation.cluster.blockSize ≠ 0) := by
    simp
  refine ⟨⟨zone', validation, c, false⟩, ?_, hcn, rfl, rfl, hsize, fun index hindex => ?_⟩
  · unfold openSuperblockStore openSuperblockStoreWith
    simp only [hlayout.size_eq]
    rw [if_neg (Nat.pos_iff_ne_zero.mp hlayout.size_pos), if_neg hsizes, if_neg (List.ne_nil_of_mem hc)]
    simp only [hselect, hrepair']
    rfl
  · exact (hcopies index).trans (if_pos hindex)

end

section None

variable (hhistory : History validation hist lo hi)
  (hlayout : Layout validation hist start content zone)
  (hwithin : Within validation.cluster.superblockCopies lo hi content)
  (hcontiguous : Contiguous validation.cluster.superblockCopies content)
  (hquorum : superblockOpenQuorum validation.cluster.superblockCopies = some openQuorum)
  (hshort : ∀ n, lo ≤ n → n ≤ hi → copiesOf validation.cluster.superblockCopies content n <
    neededCopies validation.cluster.superblockCopies openQuorum n)
include hhistory hlayout hwithin hcontiguous hquorum hshort

/-- The selection over a contiguous layout none of whose generations has enough copies. -/
theorem selectSuperblock_short :
    selectSuperblock (superblockCandidates zone validation) validation.cluster.superblockCopies = .error
      (if (superblockCandidates zone validation).any (fun c => c.superblock.initial) then
        .initializationIncomplete else .quorum) :=
  selectSuperblock_none hhistory.lineage (drawnFrom_candidates hhistory hlayout hwithin)
    (gapFree_candidates hhistory hlayout hwithin hcontiguous) hquorum length_candidates_le
    (fun n hlo hhi => by
      rw [heldCount_candidates hhistory hlayout hwithin (superblockCopies_pos hquorum),
        requiredQuorum_history hhistory hlo hhi]
      exact hshort n hlo hhi)

/-- Such a layout does not open. -/
theorem openSuperblockStore_none : ∃ err, openSuperblockStore zone validation = .error err := by
  have hselect := selectSuperblock_short hhistory hlayout hwithin hcontiguous hquorum hshort
  unfold openSuperblockStore openSuperblockStoreWith
  simp only [hlayout.size_eq, hselect]
  split_ifs <;> exact ⟨_, rfl⟩

/-- With a copy of the first superblock left, it is reported as unformatted. -/
theorem openSuperblockStore_unformatted {d : Nat} (hd : d < validation.cluster.superblockCopies)
    (hfirst : content d = some 1) :
    openSuperblockStore zone validation = .error (.joined .unformatted .initializationIncomplete) := by
  have hselect := selectSuperblock_short hhistory hlayout hwithin hcontiguous hquorum hshort
  obtain ⟨hlo, hhi⟩ := hwithin d hd 1 hfirst
  have hmem : (⟨hist 1, (start + d) % validation.cluster.superblockCopies, false⟩ :
      SuperblockCandidate χ) ∈ superblockCandidates zone validation :=
    (mem_superblockCandidates hhistory hlayout hwithin).mpr
      ⟨_, Nat.mod_lt _ (by omega), 1, by rw [Ring.offset_add_mod start d hd, hfirst], rfl⟩
  have hinitial : (superblockCandidates zone validation).any (fun c => c.superblock.initial) :=
    List.any_eq_true.mpr ⟨_, hmem, (hhistory.initial_iff 1 hlo hhi).mpr rfl⟩
  have hsizes : ¬ (zone.size < zone.size ∨ (zone.size - zone.size) % validation.cluster.blockSize ≠ 0) := by
    simp
  rw [if_pos hinitial] at hselect
  unfold openSuperblockStore openSuperblockStoreWith
  simp only [hlayout.size_eq]
  rw [if_neg (Nat.pos_iff_ne_zero.mp hlayout.size_pos), if_neg hsizes, if_neg (List.ne_nil_of_mem hmem)]
  simp only [hselect]
  rfl

end None

end Zone

end Supervsr
