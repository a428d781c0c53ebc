import Supervsr.SuperblockPersist

/-
# Supervsr.SuperblockHistory — the ring of copies over whole histories of calls

Whatever formats, opens and persists a zone has seen, its copies are laid out in one way: the latest
superblock in a run of places, then the generations since the last open, newest last.
-/

namespace Supervsr

variable {χ : Type} [DecidableEq χ] [Checksums χ] {cfg : FormatConfig} {store : SuperblockStore χ}

variable {copies writeCopies openQuorum : Nat} {zone : SuperblockZone χ} {next : Superblock χ}

/-- The copy counts of a configuration that validation accepts. -/
structure CopyCounts (copies writeCopies openQuorum : Nat) : Prop where
  write_eq : superblockWriteCopies copies = some writeCopies
  quorum_eq : superblockOpenQuorum copies = some openQuorum

theorem CopyCounts.cases (h : CopyCounts copies writeCopies openQuorum) :
    (copies = 4 ∧ writeCopies = 3 ∧ openQuorum = 2) ∨ (copies = 6 ∧ writeCopies = 4 ∧ openQuorum = 3) ∨
      (copies = 8 ∧ writeCopies = 5 ∧ openQuorum = 4) := by
  obtain ⟨hwrite, hquorum⟩ := h
  unfold superblockWriteCopies at hwrite
  unfold superblockOpenQuorum at hquorum
  split at hwrite <;> cases hwrite <;> simp_all

theorem FormatConfig.copyCounts (hvalid : cfg.valid) :
    ∃ writeCopies openQuorum, CopyCounts cfg.cluster.superblockCopies writeCopies openQuorum := by
  simp only [FormatConfig.valid, decide_eq_true_eq] at hvalid
  obtain ⟨-, -, -, hcluster⟩ := hvalid
  cases hresult : cfg.cluster.validate cfg.membership.activeCount cfg.membership.standbyCount with
  | error err => rw [hresult] at hcluster; cases hcluster
  | ok u =>
    rcases (ClusterConfig.validated_of_validate hresult).copies with h | h | h <;> rw [h] <;>
      exact ⟨_, _, rfl, rfl⟩

/-- The copies of a zone that was formatted and not opened yet, read from the first. -/
def fresh (writeCopies d : Nat) : Option Nat :=
  if d < writeCopies then some 1 else none

theorem fresh_eq_some {d g : Nat} : fresh writeCopies d = some g ↔ d < writeCopies ∧ g = 1 := by
  unfold fresh
  split <;> simp_all [eq_comm]

/-- A store on a zone whose copies it has kept since it was opened `persists` persists ago. -/
structure OpenedWorld (cfg : FormatConfig) (writeCopies openQuorum : Nat) (world : SuperblockWorld χ)
    (store : SuperblockStore χ) (hist : Nat → Superblock χ) (opened : Nat) : Prop where
  counts : CopyCounts cfg.cluster.superblockCopies writeCopies openQuorum
  opened_pos : 0 < opened
  bounded : opened + world.persists < 2 ^ 64
  history : History cfg.validation hist opened (opened + world.persists)
  layout : Layout cfg.validation hist (opened + world.persists)
    (settled cfg.cluster.superblockCopies writeCopies (opened + world.persists) opened) world.zone
  store_eq : world.store = some store
  storage_eq : store.storage = world.zone
  validation_eq : store.validation = cfg.validation
  current_eq : store.current.superblock = hist (opened + world.persists)
  idle : store.ioActive = false

/-- What every history of calls leaves: an empty zone, a formatted one, or an opened store. -/
inductive WorldInvariant (cfg : FormatConfig) : SuperblockWorld χ → Prop where
  | empty (persists : Nat) : WorldInvariant cfg ⟨.empty, none, persists⟩
  | formatted (writeCopies openQuorum : Nat) (zone : SuperblockZone χ) (persists : Nat)
      (counts : CopyCounts cfg.cluster.superblockCopies writeCopies openQuorum)
      (history : History cfg.validation (fun _ => cfg.superblock 0 0 : Nat → Superblock χ) 1 1)
      (layout : Layout cfg.validation (fun _ => cfg.superblock 0 0) 0
        (fresh writeCopies) zone) :
      WorldInvariant cfg ⟨zone, none, persists⟩
  | opened (writeCopies openQuorum : Nat) (world : SuperblockWorld χ) (store : SuperblockStore χ)
      (hist : Nat → Superblock χ) (opened : Nat)
      (state : OpenedWorld cfg writeCopies openQuorum world store hist opened) :
      WorldInvariant cfg world

/-! ### Formatting -/

omit [DecidableEq χ] [Checksums χ] in
theorem foldl_write_copies (image : Nat → Copy χ) (zone : SuperblockZone χ) (n : Nat) :
    ((List.range n).foldl (fun zone index => zone.write index (image index)) zone).size = zone.size ∧
      ∀ index, ((List.range n).foldl (fun zone index => zone.write index (image index)) zone).copies
        index = if index < n then image index else zone.copies index := by
  induction n with
  | zero => exact ⟨rfl, fun index => by simp⟩
  | succ n ih =>
    rw [List.range_succ, List.foldl_append]
    refine ⟨ih.1, fun index => ?_⟩
    rw [List.foldl_cons, List.foldl_nil, SuperblockZone.write_copies, ih.2]
    by_cases hindex : index = n
    · simp [hindex]
    · rw [if_neg hindex]
      exact if_congr (by omega) rfl rfl

theorem history_formatted (hvalid : (cfg.superblock 0 0 : Superblock χ).validate cfg.validation = .ok ()) :
    History cfg.validation (fun _ => cfg.superblock 0 0 : Nat → Superblock χ) 1 1 where
  lineage := {
    sequence_eq := fun n hlo hhi => by
      obtain rfl : n = 1 := by omega
      rfl
    linked := fun n hlo hhi => by omega }
  valid := fun _ _ _ => hvalid
  initial_iff := fun n hlo hhi => by
    have : n = 1 := by omega
    simp [Superblock.initial, FormatConfig.superblock, this]

theorem format_invariant {persists : Nat} (h : Supervsr.format cfg (.empty : SuperblockZone χ) = .ok zone) :
    WorldInvariant cfg ⟨zone, none, persists⟩ := by
  unfold Supervsr.format at h
  split at h
  · cases h
  rename_i hvalid
  obtain ⟨writeCopies, openQuorum, hcounts⟩ := cfg.copyCounts (not_not.mp hvalid)
  cases hbase : cfg.cluster.blockBase with
  | none => simp [formatAtView, hbase, SuperblockZone.empty] at h
  | some base =>
    cases haccepted : (cfg.superblock 0 0 : Superblock χ).validate cfg.validation with
    | error err => simp [formatAtView, hbase, SuperblockZone.empty, haccepted, bind, Except.bind] at h
    | ok u =>
      simp only [formatAtView, hbase, SuperblockZone.empty, ne_eq, not_true_eq_false, if_false,
        haccepted, bind, Except.bind, pure, Except.pure, hcounts.write_eq, Option.getD_some,
        Except.ok.injEq] at h
      obtain ⟨hsize, hcopies⟩ := foldl_write_copies
        (fun index => Copy.image index (cfg.superblock 0 0 : Superblock χ)) ⟨base, fun _ => .blank⟩
        writeCopies
      rw [h] at hsize hcopies
      have hpos : 0 < base := by
        have := ClusterConfig.superblocks_le_blockBase hbase
        rcases hcounts.cases with ⟨hc, -⟩ | ⟨hc, -⟩ | ⟨hc, -⟩ <;>
          simp only [hc, superblockBytes] at this <;> omega
      refine .formatted writeCopies openQuorum zone persists hcounts (history_formatted haccepted)
        ⟨by rw [hsize]; exact hbase, by rw [hsize]; exact hpos, fun index hindex => ?_⟩
      have hindex : index < cfg.cluster.superblockCopies := hindex
      have hoffset : Ring.offset cfg.cluster.superblockCopies 0 index = index := by
        unfold Ring.offset
        rw [Nat.zero_mod, Nat.sub_zero, Nat.add_mod_right, Nat.mod_eq_of_lt hindex]
      show Holds _ index (fresh writeCopies (Ring.offset cfg.cluster.superblockCopies 0 index)) _
      rw [hoffset, hcopies, fresh]
      split
      · rfl
      · exact .inl rfl

/-! ### Opening -/

/-- A store every copy of which was repaired to `superblock`. -/
theorem openedWorld_of_openedOn {n : Nat} {hist : Nat → Superblock χ} {lo hi start : Nat}
    {content : Nat → Option Nat} (hcounts : CopyCounts cfg.cluster.superblockCopies writeCopies openQuorum)
    (hhistory : History cfg.validation hist lo hi) (hlayout : Layout cfg.validation hist start content zone)
    (hn : lo ≤ n ∧ n ≤ hi) (hpos : 0 < n) (hbound : n < 2 ^ 64)
    (hopened : OpenedOn cfg.validation zone (hist n) store) :
    OpenedWorld cfg writeCopies openQuorum ⟨store.storage, some store, 0⟩ store hist n where
  counts := hcounts
  opened_pos := hpos
  bounded := hbound
  history := {
    lineage := {
      sequence_eq := fun m hlo hhi => hhistory.lineage.sequence_eq m (by omega) (by simp at hhi; omega)
      linked := fun m hlo hhi => by simp at hhi; omega }
    valid := fun m hlo hhi => hhistory.valid m (by omega) (by simp at hhi; omega)
    initial_iff := fun m hlo hhi => hhistory.initial_iff m (by omega) (by simp at hhi; omega) }
  layout := {
    size_eq := hopened.size_eq ▸ hlayout.size_eq
    size_pos := hopened.size_eq ▸ hlayout.size_pos
    holds := fun index hindex => by
      have hoffset : Ring.offset cfg.cluster.superblockCopies n index < cfg.cluster.superblockCopies :=
        Ring.offset_lt (by have : index < cfg.cluster.superblockCopies := hindex; omega) _ _
      have hsettled : settled cfg.cluster.superblockCopies writeCopies n n
          (Ring.offset cfg.cluster.superblockCopies n index) = some n := by
        simp only [settled, Option.some.injEq]
        split <;> omega
      show Holds hist index (settled _ _ n n (Ring.offset cfg.cluster.superblockCopies n index)) _
      rw [hsettled]
      exact hopened.copies_eq index hindex }
  store_eq := rfl
  storage_eq := rfl
  validation_eq := hopened.validation_eq
  current_eq := hopened.current_eq
  idle := hopened.idle

theorem copiesOf_formatted (hcounts : CopyCounts copies writeCopies openQuorum) :
    copiesOf copies (fresh writeCopies) 1 = writeCopies := by
  rcases hcounts.cases with ⟨rfl, rfl, rfl⟩ | ⟨rfl, rfl, rfl⟩ | ⟨rfl, rfl, rfl⟩ <;> decide

/-- A formatted zone opens on the superblock it was formatted with. -/
theorem open_formatted (hcounts : CopyCounts cfg.cluster.superblockCopies writeCopies openQuorum)
    (hhistory : History cfg.validation (fun _ => cfg.superblock 0 0 : Nat → Superblock χ) 1 1)
    (hlayout : Layout cfg.validation (fun _ => cfg.superblock 0 0) 0 (fresh writeCopies) zone) :
    ∃ store, openSuperblockStore zone cfg.validation = .ok store ∧
      OpenedOn cfg.validation zone (cfg.superblock 0 0) store := by
  refine openSuperblockStore_newest (n := 1) hhistory hlayout ?_ ?_ hcounts.quorum_eq ⟨le_rfl, le_rfl⟩ ?_ ?_
  · intro d hd g hg
    have hg := fresh_eq_some.mp hg
    omega
  · intro d hd e he g h n hg hh hgn hnh
    have hg := fresh_eq_some.mp hg
    have hh := fresh_eq_some.mp hh
    exact ⟨d, hd, fresh_eq_some.mpr (by omega)⟩
  · show neededCopies cfg.cluster.superblockCopies openQuorum 1 ≤
      copiesOf cfg.cluster.superblockCopies (fresh writeCopies) 1
    rw [copiesOf_formatted hcounts]
    simp [neededCopies, hcounts.write_eq]
  · intro m hlt hle
    omega

omit [DecidableEq χ] [Checksums χ] in
theorem interrupted_zero (content : Nat → Option Nat) (next : Nat) : interrupted content next 0 0 = content := by
  funext d
  simp only [interrupted]
  rw [if_neg (by omega), if_neg (by omega)]

/-- The latest superblock is in every place of its run. -/
theorem writeCopies_le_copiesOf (latest opened : Nat) (hcounts : CopyCounts copies writeCopies openQuorum) :
    writeCopies ≤ copiesOf copies (settled copies writeCopies latest opened) latest := by
  have hrun : (List.range copies).countP (fun d => d < writeCopies) = writeCopies := by
    rcases hcounts.cases with ⟨rfl, rfl, rfl⟩ | ⟨rfl, rfl, rfl⟩ | ⟨rfl, rfl, rfl⟩ <;> decide
  refine hrun.symm.le.trans (List.countP_mono_left fun d _ hd => ?_)
  simp only [decide_eq_true_eq] at hd
  simp [settled, hd]

theorem neededCopies_le (n : Nat) (hcounts : CopyCounts copies writeCopies openQuorum) :
    openQuorum ≤ neededCopies copies openQuorum n ∧ neededCopies copies openQuorum n ≤ writeCopies := by
  have : openQuorum ≤ writeCopies := by
    rcases hcounts.cases with h | h | h <;> omega
  unfold neededCopies
  rw [hcounts.write_eq, Option.getD_some]
  split <;> omega

section Opened

variable {world : SuperblockWorld χ} {hist : Nat → Superblock χ} {opened : Nat}

section

variable (h : OpenedWorld cfg writeCopies openQuorum world store hist opened)

include h

theorem OpenedWorld.current_sequence :
    store.current.superblock.sequence = opened + world.persists := by
  rw [h.current_eq]
  exact h.history.lineage.sequence_eq _ (by omega) le_rfl

theorem OpenedWorld.store_copies :
    store.copies = cfg.cluster.superblockCopies := by
  rw [SuperblockStore.copies, h.validation_eq, FormatConfig.validation_cluster]

/-- Reopening selects the latest superblock. -/
theorem OpenedWorld.reopen :
    ∃ store', openSuperblockStore world.zone cfg.validation = .ok store' ∧
      OpenedOn cfg.validation world.zone (hist (opened + world.persists)) store' := by
  have hbounds := SuperblockStore.superblockWriteCopies_bounds h.counts.write_eq
  refine openSuperblockStore_newest h.history h.layout (settled_within _ _ (by omega)) ?_ h.counts.quorum_eq
    ⟨by omega, le_rfl⟩ ((neededCopies_le _ h.counts).2.trans (writeCopies_le_copiesOf _ _ h.counts)) ?_
  · rw [← interrupted_zero (settled _ _ _ _) (opened + world.persists + 1)]
    exact interrupted_contiguous hbounds.1 hbounds.2 (by omega) (by omega)
  · intro m hlt hle
    omega

/-! ### Persisting -/

theorem OpenedWorld.writeCopies_eq {writeCopies' : Nat} (hadmitted : store.Admitted next writeCopies') :
    writeCopies = writeCopies' := by
  have hwrite := hadmitted.write_eq
  rw [h.store_copies, h.counts.write_eq] at hwrite
  exact Option.some.inj hwrite

/-- The history with one more superblock. -/
theorem OpenedWorld.history_next (hfollows : successor store.current.superblock next)
    (hvalid : next.validate store.validation = .ok ()) :
    next.sequence = opened + world.persists + 1 ∧
      History cfg.validation (Function.update hist (opened + world.persists + 1) next) opened
        (opened + world.persists + 1) := by
  have hsequence := h.history.lineage.sequence_eq (opened + world.persists) (by omega) le_rfl
  have hlink : successor (hist (opened + world.persists)) next := h.current_eq ▸ hfollows
  have hnonzero := (Superblock.validate_eq_ok.mp hvalid).sequence_ne_zero
  -- the sequence number cannot have wrapped, a superblock with sequence 0 is refused
  have hnext : next.sequence = opened + world.persists + 1 := by
    simp only [successor, decide_eq_true_eq, hsequence] at hlink
    have hbound := h.bounded
    omega
  refine ⟨hnext, ⟨fun n hlo hhi => ?_, fun n hlo hhi => ?_⟩, fun n hlo hhi => ?_, fun n hlo hhi => ?_⟩
  · rcases Nat.lt_or_eq_of_le hhi with hlt | rfl
    · rw [Function.update_of_ne (by omega)]
      exact h.history.lineage.sequence_eq n hlo (by omega)
    · rw [Function.update_self, hnext]
  · rw [Function.update_of_ne (by omega)]
    rcases Nat.lt_or_eq_of_le (Nat.lt_succ_iff.mp hhi) with hlt | rfl
    · rw [Function.update_of_ne (by omega)]
      exact h.history.lineage.linked n hlo hlt
    · rw [Function.update_self]
      exact hlink
  · rcases Nat.lt_or_eq_of_le hhi with hlt | rfl
    · rw [Function.update_of_ne (by omega)]
      exact h.history.valid n hlo (by omega)
    · rw [Function.update_self, ← h.validation_eq]
      exact hvalid
  · rcases Nat.lt_or_eq_of_le hhi with hlt | rfl
    · rw [Function.update_of_ne (by omega)]
      exact h.history.initial_iff n hlo (by omega)
    · have := h.opened_pos
      simp only [Function.update_self, Superblock.initial, decide_eq_true_eq, hnext]
      omega

/-- The copies after a persist was carried to `written` whole and `torn` damaged copies. -/
theorem OpenedWorld.layout_interrupted (hnext : next.sequence = opened + world.persists + 1)
    (zone : SuperblockZone χ) (written torn : Nat) (hsize : zone.size = world.zone.size)
    (hcopies : ∀ index < cfg.cluster.superblockCopies, zone.copies index =
      if Ring.offset cfg.cluster.superblockCopies next.sequence index < written then .image index next
      else if Ring.offset cfg.cluster.superblockCopies next.sequence index < written + torn then .damaged
      else world.zone.copies index)
    (hle : written + torn ≤ writeCopies) :
    Layout cfg.validation (Function.update hist (opened + world.persists + 1) next)
      (opened + world.persists)
      (interrupted (settled cfg.cluster.superblockCopies writeCopies (opened + world.persists) opened)
        (opened + world.persists + 1) written torn) zone := by
  have hbounds := SuperblockStore.superblockWriteCopies_bounds h.counts.write_eq
  refine ⟨hsize ▸ h.layout.size_eq, hsize ▸ h.layout.size_pos, fun index hindex => ?_⟩
  have hindex : index < cfg.cluster.superblockCopies := hindex
  have hpos : 0 < cfg.cluster.superblockCopies := by omega
  have hholds := h.layout.holds index hindex
  have hoffset := Ring.offset_succ hpos (opened + world.persists) index hindex
  have hlt := Ring.offset_lt hpos (opened + world.persists) index
  have hwithin := settled_within cfg.cluster.superblockCopies writeCopies
    (show opened ≤ opened + world.persists by omega) _ hlt
  have hold := hholds.update (opened + world.persists + 1) next
    (fun g hg => by have := hwithin g hg; omega)
  rw [hcopies index hindex, hnext, hoffset]
  simp only [FormatConfig.validation_cluster] at hold ⊢
  generalize Ring.offset cfg.cluster.superblockCopies (opened + world.persists) index = d at hlt hold ⊢
  unfold interrupted
  by_cases hzero : d = 0
  · -- the place of the latest superblock lies behind the whole run of the next one
    rw [if_pos hzero, if_neg (by omega), if_neg (by omega), if_neg (by omega), if_neg (by omega)]
    exact hold
  rw [if_neg hzero]
  by_cases hwritten : d ≤ written
  · rw [if_pos (by omega), if_pos (by omega)]
    show _ = Copy.image index (Function.update hist (opened + world.persists + 1) next _)
    rw [Function.update_self]
  rw [if_neg (show ¬ (1 ≤ d ∧ d ≤ written) by omega), if_neg (show ¬ d - 1 < written by omega)]
  by_cases htorn : d ≤ written + torn
  · rw [if_pos (show 1 ≤ d ∧ d ≤ written + torn by omega),
      if_pos (show d - 1 < written + torn by omega)]
    exact .inr rfl
  · rw [if_neg (show ¬ (1 ≤ d ∧ d ≤ written + torn) by omega),
      if_neg (show ¬ d - 1 < written + torn by omega)]
    exact hold

/-- A completed persist keeps the layout, one generation on. -/
theorem OpenedWorld.persist (hadmitted : store.Admitted next writeCopies) :
    OpenedWorld cfg writeCopies openQuorum
      ⟨store.writtenZone next writeCopies, some { store with
        storage := store.writtenZone next writeCopies
        current := ⟨next, next.sequence % store.copies, false⟩ }, world.persists + 1⟩
      { store with
        storage := store.writtenZone next writeCopies
        current := ⟨next, next.sequence % store.copies, false⟩ }
      (Function.update hist (opened + world.persists + 1) next) opened := by
  have hbounds := SuperblockStore.superblockWriteCopies_bounds h.counts.write_eq
  have hcopies := h.store_copies
  obtain ⟨hnext, hhistory⟩ := h.history_next hadmitted.follows hadmitted.valid
  have hlayout := h.layout_interrupted hnext (store.writtenZone next writeCopies) writeCopies 0
    (by rw [← h.storage_eq]; rfl) (fun index hindex => by
      rw [SuperblockStore.writtenZone, hcopies, ← h.storage_eq]
      simp only [hindex, true_and, Nat.add_zero]
      split <;> rfl) le_rfl
  refine ⟨h.counts, h.opened_pos, ?_, hhistory, ⟨hlayout.size_eq, hlayout.size_pos, ?_⟩, rfl, rfl,
    h.validation_eq, ?_, h.idle⟩
  · have hfollows := hadmitted.follows
    simp only [successor, decide_eq_true_eq] at hfollows
    show opened + (world.persists + 1) < 2 ^ 64
    omega
  · -- the ring is read from the next place now
    intro index hindex
    have hholds := hlayout.holds index hindex
    simp only [FormatConfig.validation_cluster] at hindex hholds ⊢
    rw [interrupted_settled hbounds.1 hbounds.2 (by omega),
      ← Ring.offset_succ (by omega) (opened + world.persists) index hindex] at hholds
    exact hholds
  · show next = Function.update hist (opened + world.persists + 1) next (opened + world.persists + 1)
    rw [Function.update_self]

end

end Opened

/-- Every call preserves the invariant. -/
theorem perform_invariant {world : SuperblockWorld χ} (h : WorldInvariant cfg world) (call : SuperblockCall χ) :
    WorldInvariant cfg (world.perform cfg call) := by
  cases h with
  | empty persists =>
    cases call with
    | format =>
      simp only [SuperblockWorld.perform]
      split
      · exact format_invariant ‹_›
      · exact .empty persists
    | openStore =>
      have herror : ∃ err, openSuperblockStore (.empty : SuperblockZone χ) cfg.validation = .error err := by
        unfold openSuperblockStore openSuperblockStoreWith
        cases (cfg.validation : SuperblockValidation χ).cluster.blockBase with
        | none => exact ⟨_, rfl⟩
        | some base => exact ⟨_, rfl⟩
      obtain ⟨err, herror⟩ := herror
      simp only [SuperblockWorld.perform, herror]
      exact .empty persists
    | persist next => exact .empty persists
  | formatted writeCopies openQuorum zone persists counts history layout =>
    cases call with
    | format =>
      have hrefused : ∃ err, Supervsr.format cfg zone = .error err := by
        unfold Supervsr.format formatAtView
        rw [if_pos (Nat.pos_iff_ne_zero.mp layout.size_pos)]
        split <;> exact ⟨_, rfl⟩
      obtain ⟨err, hrefused⟩ := hrefused
      simp only [SuperblockWorld.perform, hrefused]
      exact .formatted writeCopies openQuorum zone persists counts history layout
    | openStore =>
      obtain ⟨store, hopen, hopened⟩ := open_formatted counts history layout
      simp only [SuperblockWorld.perform, hopen]
      exact .opened writeCopies openQuorum _ store (fun _ => cfg.superblock 0 0) 1 (openedWorld_of_openedOn counts history layout
        ⟨le_rfl, le_rfl⟩ Nat.one_pos (by decide) hopened)
    | persist next => exact .formatted writeCopies openQuorum zone persists counts history layout
  | opened writeCopies openQuorum _ store hist opened state =>
    cases call with
    | format =>
      have hrefused : ∃ err, Supervsr.format cfg world.zone = .error err := by
        unfold Supervsr.format formatAtView
        rw [if_pos (Nat.pos_iff_ne_zero.mp state.layout.size_pos)]
        split <;> exact ⟨_, rfl⟩
      obtain ⟨err, hrefused⟩ := hrefused
      simp only [SuperblockWorld.perform, hrefused]
      exact .opened writeCopies openQuorum world store hist opened state
    | openStore =>
      obtain ⟨store', hopen, hopened⟩ := state.reopen
      simp only [SuperblockWorld.perform, hopen]
      exact .opened writeCopies openQuorum _ store' hist _ (openedWorld_of_openedOn state.counts
        state.history state.layout ⟨by omega, le_rfl⟩ (by have := state.opened_pos; omega) state.bounded
        hopened)
    | persist next =>
      simp only [SuperblockWorld.perform, state.store_eq]
      split
      · rename_i store' hpersist
        have hbegin : (store.beginPersist next).isOk := by
          unfold SuperblockStore.persist at hpersist
          cases hbegin : store.beginPersist next with
          | error err => simp [hbegin, bind, Except.bind] at hpersist
          | ok begun => rfl
        obtain ⟨writeCopies', hadmitted⟩ := SuperblockStore.admitted_of_beginPersist hbegin
        obtain rfl := state.writeCopies_eq hadmitted
        rw [SuperblockStore.persist_eq hadmitted] at hpersist
        cases hpersist
        exact .opened _ openQuorum _ _ _ opened (state.persist hadmitted)
      · exact .opened writeCopies openQuorum world store hist opened state

/-- The invariant holds after every history of calls. -/
theorem run_invariant (cfg : FormatConfig) (calls : List (SuperblockCall χ)) :
    WorldInvariant cfg (SuperblockWorld.run cfg calls) := by
  have hrun : ∀ (calls : List (SuperblockCall χ)) (world : SuperblockWorld χ), WorldInvariant cfg world →
      WorldInvariant cfg (calls.foldl (SuperblockWorld.perform cfg) world) := by
    intro calls
    induction calls with
    | nil => exact fun world h => h
    | cons call calls ih => exact fun world h => ih _ (perform_invariant h call)
  exact hrun calls _ (.empty 0)

/-- A history that ends with an open store. -/
theorem run_opened {calls : List (SuperblockCall χ)}
    (hstore : (SuperblockWorld.run cfg calls).store = some store) :
    ∃ writeCopies openQuorum hist opened,
      OpenedWorld cfg writeCopies openQuorum (SuperblockWorld.run cfg calls) store hist opened := by
  have hinvariant := run_invariant cfg calls
  generalize SuperblockWorld.run cfg calls = world at hinvariant hstore ⊢
  cases hinvariant with
  | empty persists => cases hstore
  | formatted writeCopies openQuorum zone persists counts history layout => cases hstore
  | opened writeCopies openQuorum _ store' hist opened state =>
    obtain rfl : store' = store := Option.some.inj (state.store_eq.symm.trans hstore)
    exact ⟨writeCopies, openQuorum, hist, opened, state⟩

end Supervsr
