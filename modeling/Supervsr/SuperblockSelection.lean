import Mathlib.Data.List.Induction
import Supervsr.Superblock

/-
# Supervsr.SuperblockSelection — what selection returns, by counting copies

When the candidates are copies of one lineage of superblocks and no generation is missing between the
oldest and the newest of them, `selectSuperblock` is determined by how many copies hold each
generation: it returns the newest one that reaches its quorum and fails when none does.
-/

namespace Supervsr

variable {χ : Type} [DecidableEq χ] [Checksums χ] {cs : List (SuperblockCandidate χ)}

variable {candidate : SuperblockCandidate χ} {values : List (SuperblockLogicalValue χ)}

/-- `hist n` is the superblock of sequence `n`, for the sequences from `lo` to `hi` of one history. -/
structure Lineage (hist : Nat → Superblock χ) (lo hi : Nat) : Prop where
  sequence_eq : ∀ n, lo ≤ n → n ≤ hi → (hist n).sequence = n
  linked : ∀ n, lo ≤ n → n < hi → successor (hist n) (hist (n + 1))

/-- The candidates are copies of generations `lo` to `hi`. -/
def DrawnFrom (hist : Nat → Superblock χ) (lo hi : Nat) (cs : List (SuperblockCandidate χ)) : Prop :=
  ∀ c ∈ cs, lo ≤ c.superblock.sequence ∧ c.superblock.sequence ≤ hi ∧
    c.superblock = hist c.superblock.sequence

/-- The number of candidates of generation `n`. -/
def heldCount (cs : List (SuperblockCandidate χ)) (n : Nat) : Nat :=
  cs.countP (fun c => c.superblock.sequence = n)

/-- No generation between two held ones is missing. -/
def GapFree (cs : List (SuperblockCandidate χ)) : Prop :=
  ∀ a ∈ cs, ∀ b ∈ cs, ∀ n, a.superblock.sequence ≤ n → n ≤ b.superblock.sequence →
    ∃ c ∈ cs, c.superblock.sequence = n

/-! ## Grouping -/

/-- The loop invariant of grouping: one value for each sequence met, with its count. -/
structure Grouped (cs : List (SuperblockCandidate χ)) (values : List (SuperblockLogicalValue χ)) :
    Prop where
  nodup : (values.map SuperblockLogicalValue.sequence).Nodup
  candidate_mem : ∀ v ∈ values, v.candidate ∈ cs
  count_eq : ∀ v ∈ values, v.count = heldCount cs v.sequence
  covered : ∀ c ∈ cs, ∃ v ∈ values, v.sequence = c.superblock.sequence

omit [DecidableEq χ] [Checksums χ] in
theorem grouped_nil : Grouped ([] : List (SuperblockCandidate χ)) [] where
  nodup := List.nodup_nil
  candidate_mem := by simp
  count_eq := by simp
  covered := by simp

theorem groupCandidate_new (hnew : ∀ v ∈ values, v.sequence ≠ candidate.superblock.sequence) :
    groupCandidate candidate values = .ok (values ++ [⟨candidate, 1⟩]) := by
  induction values with
  | nil => rfl
  | cons v values ih =>
    have hv := hnew v List.mem_cons_self
    have ih := ih (fun u hu => hnew u (List.mem_cons_of_mem _ hu))
    simp only [groupCandidate, if_neg hv, ih]
    rfl

/-- Counting `candidate` in the value of its sequence. -/
def bump (candidate : SuperblockCandidate χ) (v : SuperblockLogicalValue χ) : SuperblockLogicalValue χ :=
  if v.sequence = candidate.superblock.sequence then { v with count := v.count + 1 } else v

section

omit [DecidableEq χ] [Checksums χ]

@[simp] theorem bump_candidate (candidate : SuperblockCandidate χ) (v : SuperblockLogicalValue χ) :
    (bump candidate v).candidate = v.candidate := by
  unfold bump
  split <;> rfl

@[simp] theorem bump_sequence (candidate : SuperblockCandidate χ) (v : SuperblockLogicalValue χ) :
    (bump candidate v).sequence = v.sequence :=
  congrArg (·.superblock.sequence) (bump_candidate candidate v)

end

theorem groupCandidate_known (hnodup : (values.map SuperblockLogicalValue.sequence).Nodup)
    (hknown : ∃ v ∈ values, v.sequence = candidate.superblock.sequence)
    (hcoherent : ∀ v ∈ values, v.sequence = candidate.superblock.sequence → v.candidate.superblock =
      candidate.superblock) : groupCandidate candidate values = .ok (values.map (bump candidate)) := by
  induction values with
  | nil => simp at hknown
  | cons v values ih =>
    rw [List.map_cons, List.nodup_cons] at hnodup
    by_cases hv : v.sequence = candidate.superblock.sequence
    · -- the first match is the only one, the values behind it stay as they are
      have hrest : values.map (bump candidate) = values := by
        refine (List.map_congr_left fun u hu => ?_).trans (List.map_id _)
        have hne : u.sequence ≠ candidate.superblock.sequence := fun h =>
          hnodup.1 (List.mem_map.mpr ⟨u, hu, h.trans hv.symm⟩)
        simp [bump, hne]
      have hsame : v.candidate.superblock = candidate.superblock := hcoherent v List.mem_cons_self hv
      simp [groupCandidate, bump, hv, hsame, hrest]
    · obtain ⟨u, hu, heq⟩ := hknown
      have hu : u ∈ values := by
        rcases List.mem_cons.mp hu with rfl | hu
        · exact absurd heq hv
        · exact hu
      have ih := ih hnodup.2 ⟨u, hu, heq⟩ (fun u hu => hcoherent u (List.mem_cons_of_mem _ hu))
      simp only [groupCandidate, if_neg hv, ih, List.map_cons, bump]
      rfl

omit [DecidableEq χ] [Checksums χ] in
theorem heldCount_append (cs : List (SuperblockCandidate χ)) (c : SuperblockCandidate χ) (n : Nat) :
    heldCount (cs ++ [c]) n = heldCount cs n + if c.superblock.sequence = n then 1 else 0 := by
  simp [heldCount, List.countP_append, List.countP_cons]

theorem grouped_step {c : SuperblockCandidate χ} (hgrouped : Grouped cs values)
    (hcoherent : ∀ a ∈ cs, a.superblock.sequence = c.superblock.sequence → a.superblock = c.superblock) :
    ∃ values', groupCandidate c values = .ok values' ∧ Grouped (cs ++ [c]) values' := by
  by_cases hknown : ∃ v ∈ values, v.sequence = c.superblock.sequence
  · refine ⟨_, groupCandidate_known hgrouped.nodup hknown fun v hv =>
      hcoherent v.candidate (hgrouped.candidate_mem v hv), ?_, ?_, ?_, ?_⟩
    · rw [List.map_map]
      exact (List.map_congr_left fun v _ => bump_sequence c v).symm ▸ hgrouped.nodup
    · intro u hu
      obtain ⟨v, hv, rfl⟩ := List.mem_map.mp hu
      rw [bump_candidate]
      exact List.mem_append_left _ (hgrouped.candidate_mem v hv)
    · intro u hu
      obtain ⟨v, hv, rfl⟩ := List.mem_map.mp hu
      rw [bump_sequence, heldCount_append, ← hgrouped.count_eq v hv]
      unfold bump
      split <;> simp_all [eq_comm]
    · intro a ha
      rcases List.mem_append.mp ha with ha | ha
      · obtain ⟨v, hv, hseq⟩ := hgrouped.covered a ha
        exact ⟨bump c v, List.mem_map_of_mem hv, by rw [bump_sequence, hseq]⟩
      · obtain ⟨v, hv, hseq⟩ := hknown
        rw [List.mem_singleton.mp ha]
        exact ⟨bump c v, List.mem_map_of_mem hv, by rw [bump_sequence, hseq]⟩
  · have hnew : ∀ v ∈ values, v.sequence ≠ c.superblock.sequence := fun v hv h => hknown ⟨v, hv, h⟩
    have hzero : heldCount cs c.superblock.sequence = 0 := by
      refine List.countP_eq_zero.mpr fun a ha hseq => ?_
      obtain ⟨v, hv, hv'⟩ := hgrouped.covered a ha
      exact hnew v hv (hv'.trans (of_decide_eq_true hseq))
    refine ⟨_, groupCandidate_new hnew, ?_, ?_, ?_, ?_⟩
    · rw [List.map_append, List.nodup_append]
      refine ⟨hgrouped.nodup, by simp, ?_⟩
      intro a ha b hb
      obtain ⟨v, hv, rfl⟩ := List.mem_map.mp ha
      rw [List.map_singleton, List.mem_singleton] at hb
      rw [hb]
      exact hnew v hv
    · intro v hv
      rcases List.mem_append.mp hv with hv | hv
      · exact List.mem_append_left _ (hgrouped.candidate_mem v hv)
      · rw [List.mem_singleton.mp hv]
        exact List.mem_append_right _ (List.mem_singleton.mpr rfl)
    · intro v hv
      rw [heldCount_append]
      rcases List.mem_append.mp hv with hv | hv
      · rw [hgrouped.count_eq v hv, if_neg (fun h => hnew v hv h.symm)]
        rfl
      · rw [List.mem_singleton.mp hv]
        simp [SuperblockLogicalValue.sequence, hzero]
    · intro a ha
      rcases List.mem_append.mp ha with ha | ha
      · obtain ⟨v, hv, hseq⟩ := hgrouped.covered a ha
        exact ⟨v, List.mem_append_left _ hv, hseq⟩
      · rw [List.mem_singleton.mp ha]
        exact ⟨_, List.mem_append_right _ (List.mem_singleton.mpr rfl), rfl⟩

/-- Candidates that agree whenever their sequences do are grouped without a fork. -/
theorem groupCandidates_grouped
    (hcoherent : ∀ a ∈ cs, ∀ b ∈ cs, a.superblock.sequence = b.superblock.sequence →
      a.superblock = b.superblock) : ∃ values, groupCandidates cs = .ok values ∧ Grouped cs values := by
  -- induction from the right, as the loop appends each candidate to those already grouped
  induction cs using List.reverseRecOn with
  | nil => exact ⟨[], rfl, grouped_nil⟩
  | append_singleton cs c ih =>
    obtain ⟨values, hvalues, hgrouped⟩ := ih fun a ha b hb =>
      hcoherent a (List.mem_append_left _ ha) b (List.mem_append_left _ hb)
    obtain ⟨values', hvalues', hgrouped'⟩ := grouped_step (c := c) hgrouped fun a ha =>
      hcoherent a (List.mem_append_left _ ha) c (List.mem_append_right _ (List.mem_singleton.mpr rfl))
    refine ⟨values', ?_, hgrouped'⟩
    unfold groupCandidates at hvalues ⊢
    rw [List.foldlM_append, hvalues]
    simp only [List.foldlM_cons, List.foldlM_nil]
    exact (congrArg (· >>= pure) hvalues').trans rfl

/-! ## Linking -/

theorem generationsLinked_of_gapFree {hist : Nat → Superblock χ} {lo hi : Nat} (hlineage : Lineage hist lo hi)
    (hsorted : values.Pairwise (fun a b => a.sequence < b.sequence))
    (hdrawn : ∀ v ∈ values, lo ≤ v.sequence ∧ v.sequence ≤ hi ∧ v.candidate.superblock = hist v.sequence)
    (hgap : ∀ a ∈ values, ∀ b ∈ values, ∀ n, a.sequence ≤ n → n ≤ b.sequence → ∃ v ∈ values, v.sequence = n) :
    generationsLinked values := by
  induction values with
  | nil => rfl
  | cons a values ih =>
    obtain ⟨hfirst, hsorted'⟩ := List.pairwise_cons.mp hsorted
    have ih := ih hsorted' (fun v hv => hdrawn v (List.mem_cons_of_mem _ hv)) (by
      intro x hx y hy n hxn hny
      obtain ⟨v, hv, hvn⟩ := hgap x (List.mem_cons_of_mem _ hx) y (List.mem_cons_of_mem _ hy) n hxn hny
      rcases List.mem_cons.mp hv with rfl | hv
      · have := hfirst x hx
        omega
      · exact ⟨v, hv, hvn⟩)
    cases values with
    | nil => rfl
    | cons b rest =>
      -- the next generation is held, and `b` holds the smallest sequence above `a`
      have hlt : a.sequence < b.sequence := hfirst b List.mem_cons_self
      have hnext : b.sequence = a.sequence + 1 := by
        obtain ⟨v, hv, hvn⟩ := hgap a List.mem_cons_self b (List.mem_cons_of_mem _ List.mem_cons_self)
          (a.sequence + 1) (by omega) (by omega)
        rcases List.mem_cons.mp hv with rfl | hv
        · omega
        rcases List.mem_cons.mp hv with rfl | hv
        · exact hvn
        · have := (List.pairwise_cons.mp hsorted').1 v hv
          omega
      obtain ⟨halo, -, ha⟩ := hdrawn a List.mem_cons_self
      obtain ⟨-, hbhi, hb⟩ := hdrawn b (List.mem_cons_of_mem _ List.mem_cons_self)
      have hlink := hlineage.linked a.sequence halo (by omega)
      simp only [generationsLinked, Bool.and_eq_true]
      refine ⟨?_, ih⟩
      rw [ha, hb, hnext]
      exact hlink

/-! ## Choosing -/

/-- The generation reaches the quorum it needs. -/
def Quorate (copies openQuorum : Nat) (v : SuperblockLogicalValue χ) : Prop :=
  requiredQuorum copies openQuorum v.candidate.superblock ≤ v.count

instance (copies openQuorum : Nat) (v : SuperblockLogicalValue χ) :
    Decidable (Quorate copies openQuorum v) :=
  inferInstanceAs (Decidable (_ ≤ _))

/-- What the loop has chosen after meeting `seen`. -/
def Chosen (copies openQuorum : Nat) (seen : List (SuperblockLogicalValue χ)) :
    Option (SuperblockLogicalValue χ) → Prop
  | none => ∀ v ∈ seen, ¬ Quorate copies openQuorum v
  | some best => best ∈ seen ∧ Quorate copies openQuorum best ∧
      ∀ v ∈ seen, Quorate copies openQuorum v → v.sequence ≤ best.sequence

theorem selectGeneration_chosen (copies openQuorum : Nat) (values : List (SuperblockLogicalValue χ)) :
    Chosen copies openQuorum values (selectGeneration copies openQuorum values) := by
  induction values using List.reverseRecOn with
  | nil => simp [selectGeneration, Chosen]
  | append_singleton values v ih =>
    unfold selectGeneration at ih ⊢
    rw [List.foldl_append]
    simp only [List.foldl_cons, List.foldl_nil]
    generalize values.foldl _ none = selected at ih ⊢
    by_cases hquorum : v.count < requiredQuorum copies openQuorum v.candidate.superblock
    · have hnot : ¬ Quorate copies openQuorum v := Nat.not_le.mpr hquorum
      rw [if_pos hquorum]
      cases selected with
      | none =>
        intro u hu
        rcases List.mem_append.mp hu with hu | hu
        · exact ih u hu
        · rwa [List.mem_singleton.mp hu]
      | some best =>
        refine ⟨List.mem_append_left _ ih.1, ih.2.1, fun u hu hq => ?_⟩
        rcases List.mem_append.mp hu with hu | hu
        · exact ih.2.2 u hu hq
        · rw [List.mem_singleton.mp hu] at hq
          exact absurd hq hnot
    · have hquorate : Quorate copies openQuorum v := Nat.not_lt.mp hquorum
      rw [if_neg hquorum]
      cases selected with
      | none =>
        refine ⟨List.mem_append_right _ (List.mem_singleton.mpr rfl), hquorate, fun u hu hq => ?_⟩
        rcases List.mem_append.mp hu with hu | hu
        · exact absurd hq (ih u hu)
        · rw [List.mem_singleton.mp hu]
      | some best =>
        simp only
        split
        · rename_i hbetter
          have hge : best.sequence ≤ v.sequence := by
            unfold betterSuperblock at hbetter
            split at hbetter
            · exact (of_decide_eq_true hbetter).le
            · rename_i heq
              exact (not_not.mp heq).ge
          refine ⟨List.mem_append_right _ (List.mem_singleton.mpr rfl), hquorate, fun u hu hq => ?_⟩
          rcases List.mem_append.mp hu with hu | hu
          · exact (ih.2.2 u hu hq).trans hge
          · rw [List.mem_singleton.mp hu]
        · rename_i hworse
          have hge : v.sequence ≤ best.sequence := by
            unfold betterSuperblock at hworse
            split at hworse
            · exact Nat.not_lt.mp (fun h => hworse (decide_eq_true h))
            · rename_i heq
              exact (not_not.mp heq).le
          refine ⟨List.mem_append_left _ ih.1, ih.2.1, fun u hu hq => ?_⟩
          rcases List.mem_append.mp hu with hu | hu
          · exact ih.2.2 u hu hq
          · rw [List.mem_singleton.mp hu]
            exact hge

/-! ## The whole selection -/

section Specification

variable {hist : Nat → Superblock χ} {lo hi : Nat}
  {copies openQuorum : Nat}

/-- The sorted generations of a gap-free draw, as `selectSuperblock` holds them before choosing. -/
theorem sorted_generations (hlineage : Lineage hist lo hi) (hdrawn : DrawnFrom hist lo hi cs)
    (hgap : GapFree cs) :
    ∃ values, groupCandidates cs = .ok values ∧ Grouped cs
        (ExchangeSort.exchangeSort SuperblockLogicalValue.sequence values.length values) ∧
      generationsLinked
        (ExchangeSort.exchangeSort SuperblockLogicalValue.sequence values.length values) := by
  obtain ⟨values, hvalues, hgrouped⟩ := groupCandidates_grouped fun a ha b hb hseq =>
    (hdrawn a ha).2.2.trans ((congrArg hist hseq).trans (hdrawn b hb).2.2.symm)
  have hperm : (ExchangeSort.exchangeSort SuperblockLogicalValue.sequence values.length values).Perm values :=
    ExchangeSort.exchangeSort_perm values.length values
  have hsorted := ExchangeSort.exchangeSort_strictly_sorted values hgrouped.nodup
  have hgrouped' : Grouped cs
      (ExchangeSort.exchangeSort SuperblockLogicalValue.sequence values.length values) :=
    { nodup := (hperm.map _).nodup_iff.mpr hgrouped.nodup
      candidate_mem := fun v hv => hgrouped.candidate_mem v (hperm.mem_iff.mp hv)
      count_eq := fun v hv => hgrouped.count_eq v (hperm.mem_iff.mp hv)
      covered := fun c hc => by
        obtain ⟨v, hv, hseq⟩ := hgrouped.covered c hc
        exact ⟨v, hperm.mem_iff.mpr hv, hseq⟩ }
  refine ⟨values, hvalues, hgrouped', generationsLinked_of_gapFree hlineage hsorted ?_ ?_⟩
  · intro v hv
    exact hdrawn v.candidate (hgrouped'.candidate_mem v hv)
  intro a ha b hb n han hnb
  obtain ⟨c, hc, hseq⟩ := hgap a.candidate (hgrouped'.candidate_mem a ha) b.candidate
    (hgrouped'.candidate_mem b hb) n han hnb
  obtain ⟨v, hv, hv'⟩ := hgrouped'.covered c hc
  exact ⟨v, hv, hv'.trans hseq⟩

theorem requiredQuorum_pos (hquorum : superblockOpenQuorum copies = some openQuorum)
    (superblock : Superblock χ) : 0 < requiredQuorum copies openQuorum superblock := by
  unfold superblockOpenQuorum at hquorum
  unfold requiredQuorum
  split at hquorum <;> simp_all [superblockWriteCopies] <;> split <;> omega

section

variable (hlineage : Lineage hist lo hi) (hdrawn : DrawnFrom hist lo hi cs) (hgap : GapFree cs)
  (hquorum : superblockOpenQuorum copies = some openQuorum) (hlength : cs.length ≤ copies)

include hlineage hdrawn hgap hquorum hlength

/-- The newest generation that reaches its quorum is selected. -/
theorem selectSuperblock_newest {n : Nat} (hreached : requiredQuorum copies openQuorum (hist n) ≤ heldCount cs n)
    (hnewest : ∀ m, n < m → m ≤ hi → heldCount cs m < requiredQuorum copies openQuorum (hist m)) :
    ∃ c ∈ cs, selectSuperblock cs copies = .ok c ∧ c.superblock = hist n := by
  obtain ⟨values, hvalues, hgrouped, hlinked⟩ := sorted_generations hlineage hdrawn hgap
  generalize hsort :
    ExchangeSort.exchangeSort SuperblockLogicalValue.sequence values.length values = sorted
    at hgrouped hlinked
  have hdrawn' : ∀ v ∈ sorted, v.candidate.superblock = hist v.sequence := fun v hv =>
    (hdrawn v.candidate (hgrouped.candidate_mem v hv)).2.2
  have hpos := requiredQuorum_pos hquorum (hist n)
  obtain ⟨c, hc, hcn⟩ := List.countP_pos_iff.mp (lt_of_lt_of_le hpos hreached)
  obtain ⟨v, hv, hvc⟩ := hgrouped.covered c hc
  have hvn : v.sequence = n := hvc.trans (of_decide_eq_true hcn)
  have hvquorate : Quorate copies openQuorum v := by
    unfold Quorate
    rw [hdrawn' v hv, hgrouped.count_eq v hv, hvn]
    exact hreached
  have hchosen := selectGeneration_chosen copies openQuorum sorted
  cases hselected : selectGeneration copies openQuorum sorted with
  | none =>
    rw [hselected] at hchosen
    exact absurd hvquorate (hchosen v hv)
  | some best =>
    rw [hselected] at hchosen
    obtain ⟨hbest, hquorate, hmax⟩ := hchosen
    -- the best generation is at least `n`, and nothing above `n` reaches its quorum
    have hbestn : best.sequence = n := by
      have hge := hmax v hv hvquorate
      by_contra hne
      have hhi := (hdrawn best.candidate (hgrouped.candidate_mem best hbest)).2.1
      have hlt := hnewest best.sequence (by omega) hhi
      unfold Quorate at hquorate
      rw [hdrawn' best hbest, hgrouped.count_eq best hbest] at hquorate
      omega
    refine ⟨best.candidate, hgrouped.candidate_mem best hbest, ?_, by rw [hdrawn' best hbest, hbestn]⟩
    have hnonempty : ¬ (cs.length = 0 ∨ cs.length > copies) := by
      have : 0 < cs.length := List.length_pos_of_mem hc
      omega
    simp only [selectSuperblock, hquorum, if_neg hnonempty, hvalues]
    show (if ¬ generationsLinked _ = true then _ else _) = _
    rw [hsort, if_neg (not_not.mpr hlinked)]
    simp only [hselected]

/-- Selection fails when no generation reaches its quorum; with a copy of the first superblock among
the candidates it reports that the zone was never completely initialised. -/
theorem selectSuperblock_none
    (hshort : ∀ n, lo ≤ n → n ≤ hi → heldCount cs n < requiredQuorum copies openQuorum (hist n)) :
    selectSuperblock cs copies = .error
      (if cs.any (fun c => c.superblock.initial) then .initializationIncomplete else .quorum) := by
  obtain ⟨values, hvalues, hgrouped, hlinked⟩ := sorted_generations hlineage hdrawn hgap
  generalize hsort :
    ExchangeSort.exchangeSort SuperblockLogicalValue.sequence values.length values = sorted
    at hgrouped hlinked
  have hnone : selectGeneration copies openQuorum sorted = none := by
    have hchosen := selectGeneration_chosen copies openQuorum sorted
    cases hselected : selectGeneration copies openQuorum sorted with
    | none => rfl
    | some best =>
      rw [hselected] at hchosen
      obtain ⟨hbest, hquorate, -⟩ := hchosen
      obtain ⟨hlo, hhi, heq⟩ := hdrawn best.candidate (hgrouped.candidate_mem best hbest)
      have hlt := hshort best.sequence hlo hhi
      unfold Quorate at hquorate
      rw [heq, hgrouped.count_eq best hbest] at hquorate
      exact absurd hquorate (Nat.not_le.mpr hlt)
  have hinitial : sorted.any (fun value => value.candidate.superblock.initial) =
      cs.any (fun c => c.superblock.initial) := by
    rw [Bool.eq_iff_iff, List.any_eq_true, List.any_eq_true]
    constructor
    · rintro ⟨v, hv, hinit⟩
      exact ⟨v.candidate, hgrouped.candidate_mem v hv, hinit⟩
    rintro ⟨c, hc, hinit⟩
    obtain ⟨v, hv, hseq⟩ := hgrouped.covered c hc
    have hsame : v.candidate.superblock = c.superblock := by
      rw [(hdrawn v.candidate (hgrouped.candidate_mem v hv)).2.2, (hdrawn c hc).2.2]
      exact congrArg hist hseq
    exact ⟨v, hv, hsame ▸ hinit⟩
  simp only [selectSuperblock, hquorum]
  split
  · have hnil : cs = [] := List.length_eq_zero_iff.mp (by omega)
    simp [hnil]
  rw [hvalues]
  show (if ¬ generationsLinked _ = true then _ else _) = _
  rw [hsort, if_neg (not_not.mpr hlinked)]
  simp only [hnone, hinitial]
  split <;> rfl

end

end Specification

end Supervsr
