import Supervsr.BlockFetch
import Supervsr.Digest
import Supervsr.Lib.Transition

/-
# Supervsr.BlockFetchRun — a state sync fetches what the writer reached

The table of outstanding blocks is a worklist in the sense of `Lib.Worklist`: a block that arrives is done, and what
it names is queued.  As long as the table has room, a fetch ends with the blocks that the writer's walk in
`CheckpointGraph` reached, and with the trailers, in whatever order they arrive.  The room is not a matter of course:
the size of the table has nothing to do with the number of blocks a block may require.
-/

namespace Supervsr

variable {χ : Type} [DecidableEq χ] [Checksums χ] {reference : BlockReference χ} {target : BlockRepairTarget χ}

variable {type : BlockType} {bytes : Nat} {blocks : List (BlockReference χ)} {block : Block χ}

variable {item : GraphItem χ} {manifest : CheckpointManifest χ}

/-! ## What the blocks of a checkpoint are -/

/-- Every item that can be reached can be done. -/
structure Grid.Fetches (grid : Grid χ) (op capacity : Nat) (roots : Set (GraphItem χ)) : Prop where
  block : ∀ {reference}, .block reference ∈ Worklist.reach grid.Names roots → ∃ block required,
    grid.Readable reference block required ∧ required.length ≤ capacity ∧
      ∀ requirement ∈ required, BlockRepairTarget.Sound grid op ⟨requirement, 0, 0⟩
  chain : ∀ {reference remaining}, .chain reference remaining ∈ Worklist.reach grid.Names roots →
    ∃ block, grid.Chained reference remaining block
  trailer : ∀ {type reference bytes}, .trailer type reference bytes ∈ Worklist.reach grid.Names roots →
    ∃ blocks, grid.TrailerChain op type reference bytes blocks

section Continue

variable {grid : Grid χ} {capacity op : Nat} {roots : Set (GraphItem χ)} {targets : List (BlockRepairTarget χ)}
  {completed : BlockRepairTarget χ}

/-- What comes of a completed target: `fresh` is queued, and that is all that was to do. -/
structure BlockTable.Continues (grid : Grid χ) (op : Nat) (roots : Set (GraphItem χ)) (completed : BlockRepairTarget χ)
    (block : Block χ) (fresh targets next : List (BlockRepairTarget χ)) : Prop where
  queued : Queued grid op fresh targets next
  single : ∀ ⦃reference remaining⦄, .chain reference remaining ∈ tableItems fresh →
    completed.chainBlocks ≠ 0 ∧ reference = block.previous
  named : ∀ ⦃item other⦄, item ∈ completed.items → grid.Names item other →
    other ∈ tableItems fresh ∪ completed.items
  reached : tableItems fresh ⊆ Worklist.reach grid.Names roots

section

variable (fetches : grid.Fetches op capacity roots) (table : BlockTable grid op targets)
  (sound : completed.Sound grid op) (reached : completed.items ⊆ Worklist.reach grid.Names roots)

include fetches table sound reached

/-- A block of a trailer. -/
theorem BlockTable.continue_trailer (known : tableItems targets ⊆ Worklist.reach grid.Names roots)
    (read : grid.block completed.reference = some block)
    (room : (targets.map BlockRepairTarget.reference ++ completed.queues grid block).dedup.length ≤ capacity)
    (trailer : completed.requirement.type.isApplication = false) :
    ∃ next fresh, continueStateSyncBlocks grid capacity completed block targets = .ok next ∧
      Continues grid op roots completed block fresh targets next ∧
      fresh.map BlockRepairTarget.reference = completed.queues grid block := by
  have hbytes := sound.trailer.2 trailer
  have hblocks : completed.chainBlocks = 0 := by
    by_contra hblocks
    rw [sound.manifest hblocks] at trailer
    cases trailer
  have hitems := BlockRepairTarget.items_trailer trailer hblocks hbytes
  rw [hitems, Set.singleton_subset_iff] at reached
  obtain ⟨blocks, hchain⟩ := fetches.trailer reached
  obtain ⟨-, block', hread, htype, hsnapshot, hfilled, hle, hlast, hnext⟩ := hchain.head
  rw [read] at hread
  cases hread
  have hrest : ∀ next, continueTrailer capacity completed block targets = .ok next →
      continueStateSyncBlocks grid capacity completed block targets = .ok next := by
    intro next htrailer
    unfold continueStateSyncBlocks
    rw [htrailer]
    show (continueManifests capacity completed block next).bind _ = _
    unfold continueManifests continueRequirements
    rw [if_pos hblocks]
    show (if ¬ completed.requirement.type.isApplication = true then _ else _) = _
    rw [if_pos (by rw [trailer]; decide)]
  have hsized : ¬ (block.bodySize = 0 ∨ completed.chainBytes < block.bodySize) := by omega
  have hqueues : completed.queues grid block =
      if block.bodySize < completed.chainBytes then [block.previous] else [] := by
    simp [BlockRepairTarget.queues, trailer, hbytes, hblocks]
  by_cases hmore : block.bodySize < completed.chainBytes
  · have hleft : completed.chainBytes - block.bodySize ≠ 0 := by omega
    obtain ⟨rest, hprevious⟩ := hnext hmore
    obtain ⟨hnamed, other, hother, htype', hsnapshot', -⟩ := hprevious.head
    obtain ⟨hexact, hop⟩ := sound.exact hbytes
    have hsound : (completed.older block.previous (completed.chainBytes - block.bodySize) 0).Sound grid op :=
      ⟨hnamed, ⟨other, hother, BlockRequirement.metBy_iff.2 ⟨htype', fun _ => hsnapshot'.trans hop.symm,
        fun h => absurd rfl h⟩⟩, sound.stored, sound.inexact, fun h => absurd rfl h, iff_of_true hleft trailer,
        fun _ => ⟨hexact, hop⟩⟩
    have hnames : grid.Names (.trailer completed.requirement.type completed.reference completed.chainBytes)
        (.trailer completed.requirement.type block.previous (completed.chainBytes - block.bodySize)) :=
      .trailer read hmore
    rw [hqueues, if_pos hmore] at room ⊢
    -- another target of the previous block is of the same chain
    have hagree : ∀ other ∈ targets, other.reference = block.previous →
        other.chainBytes = completed.chainBytes - block.bodySize := by
      intro other hother hsame
      have hotherSound := table.sound other hother
      have hotherType := hsound.type_eq hotherSound hsame
      have hotherBytes := hotherSound.trailer.2 (hotherType ▸ trailer)
      obtain ⟨_, hotherChain⟩ := fetches.trailer (known ⟨other, hother, .inr (.inr ⟨hotherBytes, rfl⟩)⟩)
      rw [hsame] at hotherChain
      exact hotherChain.bytes_eq hprevious
    obtain ⟨next, hfollow, hqueued⟩ := table.follow hleft hsound
      (table.length_lt (List.subset_append_left ..) (List.mem_append_right _ (List.mem_singleton_self _)) room)
      (fun h => absurd rfl h) (fun _ => hagree)
    have holder : (completed.older block.previous (completed.chainBytes - block.bodySize) 0).items =
        {.trailer completed.requirement.type block.previous (completed.chainBytes - block.bodySize)} :=
      BlockRepairTarget.items_trailer trailer rfl hleft
    refine ⟨next, _, hrest next ?_, ⟨hqueued, ?_, ?_, ?_⟩, rfl⟩
    · unfold continueTrailer
      rw [if_neg hbytes, if_neg hsized]
      dsimp only
      rw [BlockRepairTarget.note_bytes hleft]
      exact hfollow
    · rw [tableItems_singleton, holder]
      rintro reference remaining h
      cases h
    · rintro item other hitem hother
      rw [hitems, Set.mem_singleton_iff] at hitem
      rw [tableItems_singleton, holder]
      subst hitem
      cases hother with
      | trailer hread hless =>
        rw [read] at hread
        cases hread
        exact .inl rfl
    · rw [tableItems_singleton, holder, Set.singleton_subset_iff]
      exact Worklist.reach_of_next reached hnames
  · have hsame : block.bodySize = completed.chainBytes := by omega
    refine ⟨targets, [], hrest targets ?_, ⟨.refl table, ?_, ?_, ?_⟩, ?_⟩
    · unfold continueTrailer followChain
      rw [if_neg hbytes, if_neg hsized]
      simp [hsame, hlast.1 hsame]
    · rintro _ _ ⟨_, h, -⟩
      exact absurd h List.not_mem_nil
    · rintro item other hitem hnames
      rw [hitems, Set.mem_singleton_iff] at hitem
      subst hitem
      cases hnames with
      | trailer hread hless =>
        rw [read] at hread
        cases hread
        exact absurd hless hmore
    · rintro item ⟨_, h, -⟩
      exact absurd h List.not_mem_nil
    · rw [hqueues, if_neg hmore]
      rfl

section

variable (single : completed.chainBlocks ≠ 0 → ∀ other ∈ targets, other.chainBlocks = 0)
  (read : grid.block completed.reference = some block)

include single read

/-- A manifest of the chain: the previous one is queued, if there is one. -/
theorem BlockTable.continue_manifests
    (room : 1 < completed.chainBlocks → block.previous ∉ targets.map BlockRepairTarget.reference →
      targets.length < capacity) :
    ∃ next fresh, continueManifests capacity completed block targets = .ok next ∧ Queued grid op fresh targets next ∧
      fresh.map BlockRepairTarget.reference = (if 1 < completed.chainBlocks then [block.previous] else []) ∧
      (∀ remaining, completed.chainBlocks = remaining + 2 →
        .chain block.previous (remaining + 1) ∈ tableItems fresh) ∧
      (∀ ⦃reference remaining⦄, .chain reference remaining ∈ tableItems fresh →
        completed.chainBlocks ≠ 0 ∧ reference = block.previous) ∧
      tableItems fresh ⊆ Worklist.reach grid.Names roots := by
  have hnone : ∀ item, item ∉ tableItems ([] : List (BlockRepairTarget χ)) := by
    rintro item ⟨_, h, -⟩
    exact absurd h List.not_mem_nil
  unfold continueManifests
  by_cases hblocks : completed.chainBlocks = 0
  · refine ⟨targets, [], if_pos hblocks, .refl table, ?_, fun remaining h => by omega,
      fun _ _ h => absurd h (hnone _), fun _ h => absurd h (hnone _)⟩
    rw [if_neg (by omega)]
    rfl
  · rw [if_neg hblocks]
    have hitem := reached (.inr (.inl ⟨hblocks, rfl⟩))
    obtain ⟨block', hchained⟩ := fetches.chain hitem
    obtain rfl : block = block' := Option.some.inj (read.symm.trans hchained.read)
    by_cases hlast : completed.chainBlocks = 1
    · refine ⟨targets, [], ?_, .refl table, ?_, fun remaining h => by omega,
      fun _ _ h => absurd h (hnone _), fun _ h => absurd h (hnone _)⟩
      · unfold followChain
        simp [hlast, hchained.last.2 hlast]
      · rw [if_neg (by omega)]
        rfl
    · have hleft : completed.chainBlocks - 1 ≠ 0 := by omega
      obtain ⟨remaining, hremaining⟩ : ∃ remaining, completed.chainBlocks = remaining + 2 :=
        ⟨completed.chainBlocks - 2, by omega⟩
      have hmanifest := sound.manifest hblocks
      have holder : .chain block.previous (remaining + 1) ∈ Worklist.reach grid.Names roots := by
        rw [hremaining] at hitem
        exact Worklist.reach_of_next hitem (.older remaining read)
      obtain ⟨other, hother⟩ := fetches.chain holder
      have hsound : (completed.older block.previous 0 (completed.chainBlocks - 1)).Sound grid op := by
        refine ⟨hother.named, ⟨other, hother.read, BlockRequirement.metBy_iff.2 ⟨hother.manifest.trans hmanifest.symm,
          fun h => ?_, fun h => absurd rfl h⟩⟩, sound.stored, sound.inexact, fun _ => hmanifest, ?_,
          fun h => absurd rfl h⟩
        · have h : completed.requirement.snapshotExact = true := h
          rw [sound.inexact hmanifest] at h
          cases h
        refine iff_of_false (fun h => h rfl) fun h => ?_
        have h : completed.requirement.type.isApplication = false := h
        rw [hmanifest] at h
        cases h
      obtain ⟨next, hfollow, hqueued⟩ := table.follow hleft hsound (room (by omega)) (fun _ => single hblocks)
        (fun h => absurd rfl h)
      refine ⟨next, _, ?_, hqueued, ?_, ?_, ?_, ?_⟩
      · dsimp only
        rw [BlockRepairTarget.note_blocks hleft]
        exact hfollow
      · rw [if_pos (by omega)]
        rfl
      · intro count hcount
        rw [tableItems_singleton]
        exact .inr (.inl ⟨hleft, by rw [show count + 1 = completed.chainBlocks - 1 by omega]; rfl⟩)
      · rw [tableItems_singleton]
        rintro reference count (⟨-, h⟩ | ⟨-, h⟩ | ⟨-, h⟩)
        · cases h
        · cases h
          exact ⟨hblocks, rfl⟩
        · cases h
      · rw [tableItems_singleton]
        have hsame : completed.chainBlocks - 1 = remaining + 1 := by omega
        rintro item (⟨-, rfl⟩ | ⟨-, rfl⟩ | ⟨h, -⟩)
        · exact Worklist.reach_of_next holder (.manifest _ remaining)
        · exact hsame ▸ holder
        · exact absurd rfl h

/-- A manifest, an index block or a value block. -/
theorem BlockTable.continue_application
    (room : (targets.map BlockRepairTarget.reference ++ completed.queues grid block).dedup.length ≤ capacity)
    (application : completed.requirement.type.isApplication = true) :
    ∃ next fresh, continueStateSyncBlocks grid capacity completed block targets = .ok next ∧
      Continues grid op roots completed block fresh targets next ∧
      fresh.map BlockRepairTarget.reference = completed.queues grid block := by
  have hbytes : completed.chainBytes = 0 := by
    by_contra hbytes
    rw [sound.trailer.1 hbytes] at application
    cases application
  obtain ⟨block', required, hreadable, hfew, hsound⟩ := fetches.block (reached (.inl ⟨application, rfl⟩))
  obtain rfl : block = block' := Option.some.inj (read.symm.trans hreadable.read)
  have hqueues : completed.queues grid block =
      (if 1 < completed.chainBlocks then [block.previous] else []) ++ required.map BlockRequirement.reference := by
    simp [BlockRepairTarget.queues, application, hbytes, hreadable.requires]
  have happlication : ∀ requirement ∈ required, requirement.type.isApplication = true := fun requirement h =>
    Bool.of_not_eq_false fun hfalse => absurd ((hsound requirement h).trailer.2 hfalse) (fun h => h rfl)
  obtain ⟨middle, older, hmanifests, hqueued, holder, hchain, hsingle, hreached⟩ :=
    table.continue_manifests fetches sound reached single read (fun hmore habsent =>
      table.length_lt (List.subset_append_left ..) (List.mem_append_right _ (by simp [hqueues, hmore])) room habsent)
  have hknown : middle.map BlockRepairTarget.reference ⊆
      targets.map BlockRepairTarget.reference ++ completed.queues grid block := by
    refine hqueued.subset (List.subset_append_left ..) ?_
    rw [holder, hqueues]
    exact fun _ h => List.mem_append_right _ (List.mem_append_left _ h)
  obtain ⟨next, hnext, hlater⟩ := hqueued.table.queue_requirements hsound hknown
    (fun requirement h => List.mem_append_right _ (by
      rw [hqueues]
      exact List.mem_append_right _ (List.mem_map.2 ⟨requirement, h, rfl⟩))) room
  refine ⟨next, older ++ required.map fun requirement => ⟨requirement, 0, 0⟩, ?_, ⟨hqueued.trans hlater, ?_, ?_, ?_⟩,
    ?_⟩
  · unfold continueStateSyncBlocks continueTrailer continueRequirements
    rw [if_pos hbytes]
    show (continueManifests capacity completed block targets).bind _ = _
    rw [hmanifests]
    show (if ¬ completed.requirement.type.isApplication = true then _ else _) = _
    rw [if_neg (by rw [application]; decide)]
    unfold BlockGraph.validateBlock
    rw [show grid.requirements completed.reference block = some required from hreadable.requires,
      Option.filter_some, if_pos (decide_eq_true hfew)]
    exact hnext
  · rw [tableItems_append]
    rintro reference remaining (hitem | ⟨target, htarget, hitem⟩)
    · exact hsingle hitem
    obtain ⟨requirement, -, rfl⟩ := List.mem_map.1 htarget
    obtain ⟨-, h⟩ | ⟨h, -⟩ | ⟨h, -⟩ := hitem
    · cases h
    · exact absurd rfl h
    · exact absurd rfl h
  · rw [tableItems_append]
    rintro item other (⟨-, rfl⟩ | ⟨-, rfl⟩ | ⟨h, -⟩) hnames
    · cases hnames with
      | @requirement _ _ _ requirement hread hrequires hmem =>
        rw [read] at hread
        cases hread
        obtain rfl := Option.some.inj (hreadable.requires.symm.trans hrequires)
        exact .inl (.inr ⟨_, List.mem_map.2 ⟨requirement, hmem, rfl⟩, .inl ⟨happlication requirement hmem, rfl⟩⟩)
    · generalize hcount : completed.chainBlocks = count at hnames
      cases hnames with
      | manifest => exact .inr (.inl ⟨application, rfl⟩)
      | older remaining hread =>
        rw [read] at hread
        cases hread
        exact .inl (.inl (hchain remaining hcount))
    · exact absurd hbytes h
  · rw [tableItems_append]
    refine Set.union_subset hreached ?_
    rintro item ⟨target, htarget, hitem⟩
    obtain ⟨requirement, hmem, rfl⟩ := List.mem_map.1 htarget
    obtain ⟨-, rfl⟩ | ⟨h, -⟩ | ⟨h, -⟩ := hitem
    · exact Worklist.reach_of_next (reached (.inl ⟨application, rfl⟩)) (.requirement read hreadable.requires hmem)
    · exact absurd rfl h
    · exact absurd rfl h
  · rw [List.map_append, holder, hqueues, List.map_map]
    rfl

end

/-- Whatever block completes a target, the table goes on. -/
theorem BlockTable.continue (known : tableItems targets ⊆ Worklist.reach grid.Names roots)
    (single : completed.chainBlocks ≠ 0 → ∀ other ∈ targets, other.chainBlocks = 0)
    (read : grid.block completed.reference = some block)
    (room : (targets.map BlockRepairTarget.reference ++ completed.queues grid block).dedup.length ≤ capacity) :
    ∃ next fresh, continueStateSyncBlocks grid capacity completed block targets = .ok next ∧
      Continues grid op roots completed block fresh targets next ∧
      fresh.map BlockRepairTarget.reference = completed.queues grid block := by
  cases happlication : completed.requirement.type.isApplication with
  | true => exact table.continue_application fetches sound reached single read room happlication
  | false => exact table.continue_trailer fetches sound reached known read room happlication

end

/-- The block of a target is accepted. -/
theorem BlockRepairTarget.Sound.accepted (sound : completed.Sound grid op) (fetches : grid.Fetches op capacity roots)
    (reached : completed.items ⊆ Worklist.reach grid.Names roots) :
    ∃ block, grid.block completed.reference = some block ∧ validRequestedBlock grid capacity completed block = true := by
  obtain ⟨block, hread, hmet⟩ := sound.met
  refine ⟨block, hread, ?_⟩
  unfold validRequestedBlock
  rw [decide_eq_true_iff]
  refine ⟨hmet, fun happlication => ?_⟩
  obtain ⟨block', required, hreadable, hfew, -⟩ := fetches.block (reached (.inl ⟨happlication, rfl⟩))
  obtain rfl : block = block' := Option.some.inj (hread.symm.trans hreadable.read)
  unfold BlockGraph.validateBlock
  rw [hreadable.requires, Option.filter_some, if_pos (decide_eq_true hfew)]
  rfl

section

variable (fetches : grid.Fetches op capacity roots) (reached : completed.items ⊆ Worklist.reach grid.Names roots)
  (read : grid.block completed.reference = some block)

include fetches reached read

/-- A chain that goes on has a previous block. -/
theorem BlockRepairTarget.previous_ne_zero
    (more : (completed.chainBytes ≠ 0 ∧ block.bodySize < completed.chainBytes) ∨ 1 < completed.chainBlocks) :
    block.previous ≠ .zero := by
  obtain ⟨hbytes, hmore⟩ | hmore := more
  · obtain ⟨_, hchain⟩ := fetches.trailer (reached (.inr (.inr ⟨hbytes, rfl⟩)))
    obtain ⟨-, block', hread, -, -, -, -, hlast, -⟩ := hchain.head
    obtain rfl : block = block' := Option.some.inj (read.symm.trans hread)
    exact fun h => by have := hlast.2 h; omega
  · obtain ⟨block', hchained⟩ := fetches.chain (reached (.inr (.inl ⟨by omega, rfl⟩)))
    obtain rfl : block = block' := Option.some.inj (read.symm.trans hchained.read)
    exact fun h => by have := hchained.last.1 h; omega

/-- What a target queues is of a lower rank, and there is not much of it. -/
theorem BlockRepairTarget.queues_lower :
    (completed.queues grid block).length < capacity + 2 ∧
      ∀ reference ∈ completed.queues grid block, grid.rank reference < grid.rank completed.reference := by
  have hprevious : ∀ previous : List (BlockReference χ),
      previous = (if (completed.chainBytes ≠ 0 ∧ block.bodySize < completed.chainBytes) ∨
        1 < completed.chainBlocks then [block.previous] else []) →
      previous.length ≤ 1 ∧ ∀ reference ∈ previous, grid.rank reference < grid.rank completed.reference := by
    rintro _ rfl
    split
    · rename_i hmore
      refine ⟨Nat.le_refl _, fun reference hreference => ?_⟩
      rw [List.mem_singleton.1 hreference]
      exact grid.previous_lt read (previous_ne_zero fetches reached read hmore)
    · exact ⟨Nat.zero_le _, fun _ h => absurd h List.not_mem_nil⟩
  unfold queues
  generalize hsame : (if (completed.chainBytes ≠ 0 ∧ block.bodySize < completed.chainBytes) ∨
    1 < completed.chainBlocks then [block.previous] else []) = previous
  obtain ⟨hlength, hlower⟩ := hprevious previous hsame.symm
  rw [List.length_append]
  split
  · rename_i happlication
    obtain ⟨block', required, hreadable, hfew, -⟩ := fetches.block (reached (.inl ⟨happlication, rfl⟩))
    obtain rfl : block = block' := Option.some.inj (read.symm.trans hreadable.read)
    have hrequires : grid.requirements completed.reference block = some required := hreadable.requires
    rw [hrequires, Option.getD_some, List.length_map]
    refine ⟨by omega, fun reference hreference => ?_⟩
    obtain hreference | hreference := List.mem_append.1 hreference
    · exact hlower reference hreference
    · obtain ⟨requirement, hrequirement, rfl⟩ := List.mem_map.1 hreference
      exact grid.requirements_lt read hrequires hrequirement
  · refine ⟨by simp only [List.length_nil]; omega, fun reference hreference => ?_⟩
    rw [List.append_nil] at hreference
    exact hlower reference hreference

end

end Continue

/-! ## The run -/

namespace BlockFetch

variable {grid : Grid χ} {capacity op : Nat} {roots : Set (GraphItem χ)} {fetch next : BlockFetch χ}

/-- A fetch on its way. -/
structure Runs (grid : Grid χ) (op : Nat) (roots : Set (GraphItem χ)) (fetch : BlockFetch χ) : Prop where
  running : fetch.failed = none
  table : BlockTable grid op fetch.targets
  single : ∀ ⦃reference remaining other more⦄, .chain reference remaining ∈ tableItems fetch.targets →
    .chain other more ∈ tableItems fetch.targets → reference = other
  explores : ∃ done, Worklist.Explores grid.Names roots (tableItems fetch.targets) done ∧
    ∀ reference, reference ∈ fetch.fetched ↔ ∃ item ∈ done, item.reference = reference

/-- What is left to fetch at most. -/
def weight (grid : Grid χ) (capacity : Nat) (fetch : BlockFetch χ) : Nat :=
  Worklist.weight grid.rank (capacity + 2) (fetch.targets.map BlockRepairTarget.reference)

section

variable (runs : Runs grid op roots fetch)

include runs

theorem Runs.find (outstanding : target ∈ fetch.targets) :
    fetch.find target.reference = some target := by
  cases hfind : fetch.find target.reference with
  | none => exact absurd (decide_eq_true rfl) (List.find?_eq_none.1 hfind target outstanding)
  | some other =>
    have hsame := List.find?_some hfind
    rw [List.inj_on_of_nodup_map runs.table.distinct (List.mem_of_find?_eq_some hfind) outstanding
      (of_decide_eq_true hsame)]

theorem Runs.reached (outstanding : target ∈ fetch.targets) :
    target.items ⊆ Worklist.reach grid.Names roots := by
  obtain ⟨done, hexplores, -⟩ := runs.explores
  exact fun item hitem => hexplores.sound (.inl ⟨target, outstanding, hitem⟩)

/-- Every outstanding block can arrive. -/
theorem Runs.step_isSome (fetches : grid.Fetches op capacity roots)
    (outstanding : target ∈ fetch.targets) : (fetch.step grid capacity target.reference).isSome = true := by
  obtain ⟨block, hread, haccepted⟩ := (runs.table.sound target outstanding).accepted fetches (runs.reached outstanding)
  unfold step
  rw [if_neg (by simp [runs.running]), runs.find outstanding, hread]
  simp only [haccepted, not_true, if_false]
  split <;> rfl

end

/-- What a step takes up. -/
theorem step_eq_some (steps : fetch.step grid capacity reference = some next) :
    ∃ target block, fetch.find reference = some target ∧ grid.block reference = some block ∧
      validRequestedBlock grid capacity target block = true ∧
      next = match continueStateSyncBlocks grid capacity target block (fetch.others reference) with
        | .ok targets => ⟨targets, reference :: fetch.fetched, none⟩
        | .error error => ⟨fetch.others reference, reference :: fetch.fetched, some error⟩ := by
  unfold step at steps
  split at steps
  · cases steps
  split at steps
  · rename_i target block hfind hread
    split at steps
    · cases steps
    rename_i hvalid
    rw [not_not] at hvalid
    refine ⟨target, block, hfind, hread, hvalid, ?_⟩
    cases hcontinue : continueStateSyncBlocks grid capacity target block (fetch.others reference)
    all_goals
      rw [hcontinue] at steps
      exact (Option.some.inj steps).symm
  · cases steps

section Step

omit [Checksums χ] in
theorem mem_others {other : BlockRepairTarget χ} :
    other ∈ fetch.others reference ↔ other ∈ fetch.targets ∧ other.reference ≠ reference := by
  simp [others]

section

variable (runs : Runs grid op roots fetch) (outstanding : target ∈ fetch.targets)

include runs outstanding

theorem Runs.items :
    tableItems fetch.targets = tableItems (fetch.others target.reference) ∪ target.items := by
  ext item
  constructor
  · rintro ⟨other, hother, hitem⟩
    by_cases hsame : other.reference = target.reference
    · rw [List.inj_on_of_nodup_map runs.table.distinct hother outstanding hsame] at hitem
      exact .inr hitem
    · exact .inl ⟨other, mem_others.2 ⟨hother, hsame⟩, hitem⟩
  · rintro (⟨other, hother, hitem⟩ | hitem)
    · exact ⟨other, (mem_others.1 hother).1, hitem⟩
    · exact ⟨target, outstanding, hitem⟩

theorem Runs.single_others (blocks : target.chainBlocks ≠ 0) : ∀ other ∈ fetch.others target.reference, other.chainBlocks = 0 := by
  intro other hother
  by_contra hmore
  obtain ⟨hother, hdiffer⟩ := mem_others.1 hother
  exact hdiffer (runs.single ⟨other, hother, .inr (.inl ⟨hmore, rfl⟩)⟩
    ⟨target, outstanding, .inr (.inl ⟨blocks, rfl⟩)⟩)

theorem Runs.weight_others :
    fetch.weight grid capacity = (capacity + 2) ^ grid.rank target.reference +
      Worklist.weight grid.rank (capacity + 2)
        ((fetch.others target.reference).map BlockRepairTarget.reference) := by
  have hothers : (fetch.others target.reference).map BlockRepairTarget.reference =
      (fetch.targets.map BlockRepairTarget.reference).erase target.reference := by
    rw [runs.table.distinct.erase_eq_filter, List.filter_map]
    congr 1
    refine List.filter_congr fun other _ => ?_
    by_cases hsame : other.reference = target.reference <;> simp [hsame]
  rw [hothers, ← Worklist.weight_cons]
  exact Worklist.weight_perm _ _ (List.perm_cons_erase (List.mem_map.2 ⟨target, outstanding, rfl⟩))

/-- What is left in the table, and what is done, when a target has been completed. -/
theorem Runs.continues {fresh targets : List (BlockRepairTarget χ)}
    (continues : BlockTable.Continues grid op roots target block fresh (fetch.others target.reference) targets) :
    Runs grid op roots ⟨targets, target.reference :: fetch.fetched, none⟩ := by
  obtain ⟨done, hexplores, hdone⟩ := runs.explores
  have hitems := runs.items outstanding
  refine ⟨rfl, continues.queued.table, ?_, done ∪ target.items, ?_, fun reference => ?_⟩
  · -- a new block of the chain takes the place of the completed one
    have hnone : ∀ {reference remaining}, .chain reference remaining ∈ tableItems fresh →
        ∀ {other more}, .chain other more ∉ tableItems (fetch.others target.reference) := by
      rintro reference remaining hfresh other more ⟨source, hsource, hitem⟩
      have hzero := runs.single_others outstanding (continues.single hfresh).1 source hsource
      obtain ⟨-, h⟩ | ⟨h, -⟩ | ⟨-, h⟩ := hitem
      · cases h
      · exact h hzero
      · cases h
    simp only [continues.queued.items]
    rintro reference remaining other more (hitem | hitem) (hother | hother)
    · have hfewer : tableItems (fetch.others target.reference) ⊆ tableItems fetch.targets :=
        hitems ▸ Set.subset_union_left
      exact runs.single (hfewer hitem) (hfewer hother)
    · exact absurd hitem (hnone hother)
    · exact absurd hother (hnone hitem)
    · exact (continues.single hitem).2.trans (continues.single hother).2.symm
  · refine hexplores.proceed ?_ ?_ ?_ ?_
    · rw [hitems]
      exact Set.subset_union_right
    · rw [hitems, continues.queued.items]
      rintro item (hitem | hitem)
      · exact .inl (.inl hitem)
      · exact .inr (.inr hitem)
    · rw [continues.queued.items]
      intro item other hitem hnames
      exact (continues.named hitem hnames).imp .inr .inr
    · rw [continues.queued.items]
      refine Set.union_subset (fun item hitem => hexplores.sound (.inl ?_)) continues.reached
      rw [hitems]
      exact .inl hitem
  · rw [List.mem_cons, hdone]
    constructor
    · rintro (rfl | ⟨item, hitem, rfl⟩)
      · obtain ⟨item, hitem⟩ := (runs.table.sound target outstanding).items_nonempty
        exact ⟨item, .inr hitem, BlockRepairTarget.reference_of_items hitem⟩
      · exact ⟨item, .inl hitem, rfl⟩
    · rintro ⟨item, hitem | hitem, rfl⟩
      · exact .inr ⟨item, hitem, rfl⟩
      · exact .inl (BlockRepairTarget.reference_of_items hitem)

end

end Step

/-- A block that the table has room for leaves less to fetch. -/
theorem Runs.step (runs : Runs grid op roots fetch) (fetches : grid.Fetches op capacity roots)
    (room : fetch.room grid capacity reference = true) (steps : fetch.step grid capacity reference = some next) :
    Runs grid op roots next ∧ next.fetched = reference :: fetch.fetched ∧
      next.weight grid capacity < fetch.weight grid capacity := by
  obtain ⟨target, block, hfind, hread, -, hnext⟩ := step_eq_some steps
  have houtstanding := List.mem_of_find?_eq_some hfind
  have hfound := List.find?_some hfind
  obtain rfl : target.reference = reference := of_decide_eq_true hfound
  unfold BlockFetch.room at room
  rw [hfind, hread] at room
  have hothers : BlockTable grid op (fetch.others target.reference) :=
    ⟨runs.table.distinct.sublist (List.filter_sublist.map _), fun other h => runs.table.sound other (mem_others.1 h).1⟩
  have hknown : tableItems (fetch.others target.reference) ⊆ Worklist.reach grid.Names roots := by
    rintro item ⟨other, hother, hitem⟩
    exact runs.reached (mem_others.1 hother).1 hitem
  obtain ⟨targets, fresh, hcontinue, hcontinues, hfresh⟩ := hothers.continue fetches
    (runs.table.sound target houtstanding) (runs.reached houtstanding) hknown (runs.single_others houtstanding) hread
    (of_decide_eq_true room)
  rw [hcontinue] at hnext
  subst hnext
  refine ⟨runs.continues houtstanding hcontinues, rfl, ?_⟩
  obtain ⟨added, hadded, hsublist⟩ := hcontinues.queued.added
  rw [hfresh] at hsublist
  obtain ⟨hfew, hlower⟩ := BlockRepairTarget.queues_lower fetches (runs.reached houtstanding) hread
  have hless := Worklist.weight_lt hfew hlower
  have hfewer := Worklist.weight_sublist grid.rank (capacity + 2) hsublist
  rw [runs.weight_others houtstanding]
  unfold weight
  rw [hadded, Worklist.weight_append]
  omega

/-- A fetch on its way, with a bound on the blocks that have arrived and those that are still to come. -/
def Bounded (grid : Grid χ) (op capacity : Nat) (roots : Set (GraphItem χ)) (bound : Nat) (fetch : BlockFetch χ) : Prop :=
  Runs grid op roots fetch ∧ fetch.fetched.length + fetch.weight grid capacity ≤ bound

theorem Bounded.step {bound : Nat} (bounded : Bounded grid op capacity roots bound fetch)
    (fetches : grid.Fetches op capacity roots) (room : fetch.room grid capacity reference = true)
    (steps : fetch.step grid capacity reference = some next) : Bounded grid op capacity roots bound next := by
  obtain ⟨hruns, hbound⟩ := bounded
  obtain ⟨hnext, hfetched, hless⟩ := hruns.step fetches room steps
  refine ⟨hnext, ?_⟩
  rw [hfetched, List.length_cons]
  omega

end BlockFetch

/-! ## The start -/

/-- The last block of a trailer, if the trailer has blocks. -/
def trailerItem (type : BlockType) (reference : BlockReference χ) (bytes : Nat) : Set (GraphItem χ) :=
  {item | reference ≠ .zero ∧ item = .trailer type reference bytes}

namespace CheckpointState

def trailerRoots (checkpoint : CheckpointState χ) : Set (GraphItem χ) :=
  trailerItem .freeSet checkpoint.acquiredTrailer checkpoint.acquiredTrailerEncodedSize ∪
    (trailerItem .freeSet checkpoint.releasedTrailer checkpoint.releasedTrailerEncodedSize ∪
      trailerItem .clientSessions checkpoint.sessionTrailer checkpoint.sessionTrailerEncodedSize)

/-- What a replica that is synced to a checkpoint has to fetch. -/
def roots (checkpoint : CheckpointState χ) : Set (GraphItem χ) :=
  checkpoint.manifest.roots ∪ checkpoint.trailerRoots

end CheckpointState

def GraphItem.isTrailer : GraphItem χ → Bool
  | .trailer .. => true
  | _ => false

section Start

variable {grid : Grid χ} {capacity op : Nat} {targets : List (BlockRepairTarget χ)}
  {checkpoint : CheckpointState χ}
  {checkpointRoot : Option (BlockRequirement χ)} {graph : CheckpointGraph χ}
  {acquired released sessions : List (BlockReference χ)}

section

omit [DecidableEq χ]

/-- Trailers and the blocks of the application do not name each other. -/
theorem BlockGraph.Names.isTrailer {item other : GraphItem χ} (names : grid.Names item other) :
    other.isTrailer = item.isTrailer := by
  cases names <;> rfl

theorem isTrailer_of_reach {roots : Set (GraphItem χ)} {flag : Bool}
    (same : ∀ root ∈ roots, root.isTrailer = flag) (reached : item ∈ Worklist.reach grid.Names roots) :
    item.isTrailer = flag := by
  obtain ⟨root, hroot, hpath⟩ := reached
  induction hpath with
  | refl => exact same root hroot
  | tail _ hnames ih => exact hnames.isTrailer.trans ih

theorem CheckpointManifest.isTrailer_of_reach (reached : item ∈ Worklist.reach grid.Names manifest.roots) :
    item.isTrailer = false := by
  refine Supervsr.isTrailer_of_reach ?_ reached
  rintro root (⟨-, rfl⟩ | ⟨-, rfl⟩) <;> rfl

theorem CheckpointState.isTrailer_of_reach (reached : item ∈ Worklist.reach grid.Names checkpoint.trailerRoots) :
    item.isTrailer = true := by
  refine Supervsr.isTrailer_of_reach ?_ reached
  rintro root (⟨-, rfl⟩ | ⟨-, rfl⟩ | ⟨-, rfl⟩) <;> rfl

/-- The block of a manifest of the chain is reached with it. -/
theorem CheckpointManifest.reach_block {remaining : Nat}
    (reached : .chain reference remaining ∈ Worklist.reach grid.Names manifest.roots) :
    .block reference ∈ Worklist.reach grid.Names manifest.roots := by
  have hpositive : remaining ≠ 0 := by
    obtain ⟨root, hroot, hpath⟩ := reached
    cases hpath with
    | refl =>
      obtain ⟨hcount, hsame⟩ | ⟨-, hsame⟩ := hroot
      · cases hsame
        exact hcount
      · cases hsame
    | tail _ hnames =>
      cases hnames
      omega
  obtain ⟨more, rfl⟩ := Nat.exists_eq_succ_of_ne_zero hpositive
  exact Worklist.reach_of_next reached (.manifest reference more)

variable (reached : item ∈ Worklist.reach grid.Names checkpoint.roots)

include reached

/-- What is reached and no part of a trailer is reached from the manifest. -/
theorem CheckpointState.reach_manifest
    (application : item.isTrailer = false) : item ∈ Worklist.reach grid.Names checkpoint.manifest.roots := by
  unfold roots at reached
  rw [Worklist.reach_union] at reached
  refine reached.resolve_right fun htrailer => ?_
  rw [isTrailer_of_reach htrailer] at application
  cases application

theorem CheckpointState.reach_trailers
    (trailer : item.isTrailer = true) : item ∈ Worklist.reach grid.Names checkpoint.trailerRoots := by
  unfold roots at reached
  rw [Worklist.reach_union] at reached
  refine reached.resolve_left fun hmanifest => ?_
  rw [CheckpointManifest.isTrailer_of_reach hmanifest] at trailer
  cases trailer

end

/-- The trailer of an item, which has blocks. -/
theorem Grid.Trailer.chain (trailer : grid.Trailer op type reference bytes blocks) (present : reference ≠ .zero) :
    grid.TrailerChain op type reference bytes blocks :=
  trailer.resolve_left fun h => present h.1

/-- What the trailers reach is the blocks of their chains. -/
theorem CheckpointState.Trailers.chain_of_reach (trailers : checkpoint.Trailers grid acquired released sessions)
    (reached : item ∈ Worklist.reach grid.Names checkpoint.trailerRoots) :
    ∃ type reference bytes rest, item = .trailer type reference bytes ∧
      grid.TrailerChain checkpoint.prepareOp type reference bytes rest ∧
      rest ⊆ acquired ++ (released ++ sessions) := by
  obtain ⟨root, ⟨hpresent, rfl⟩ | ⟨hpresent, rfl⟩ | ⟨hpresent, rfl⟩, hpath⟩ := reached
  · obtain ⟨other, count, rest, rfl, hchain, hsuffix⟩ := (trailers.acquired.chain hpresent).suffix_of_reached hpath
    exact ⟨_, other, count, rest, rfl, hchain, fun _ h => List.mem_append_left _ (hsuffix.subset h)⟩
  · obtain ⟨other, count, rest, rfl, hchain, hsuffix⟩ := (trailers.released.chain hpresent).suffix_of_reached hpath
    exact ⟨_, other, count, rest, rfl, hchain,
      fun _ h => List.mem_append_right _ (List.mem_append_left _ (hsuffix.subset h))⟩
  · obtain ⟨other, count, rest, rfl, hchain, hsuffix⟩ := (trailers.sessions.chain hpresent).suffix_of_reached hpath
    exact ⟨_, other, count, rest, rfl, hchain,
      fun _ h => List.mem_append_right _ (List.mem_append_right _ (hsuffix.subset h))⟩

/-- The blocks of the chains of the trailers are reached. -/
theorem CheckpointState.Trailers.reach_of_mem (trailers : checkpoint.Trailers grid acquired released sessions)
    (mem : reference ∈ acquired ++ (released ++ sessions)) :
    ∃ item ∈ Worklist.reach grid.Names checkpoint.trailerRoots, item.reference = reference := by
  have hreach : ∀ {type root bytes blocks}, grid.Trailer checkpoint.prepareOp type root bytes blocks →
      trailerItem type root bytes ⊆ checkpoint.trailerRoots → reference ∈ blocks →
      ∃ item ∈ Worklist.reach grid.Names checkpoint.trailerRoots, item.reference = reference := by
    rintro type root bytes blocks (⟨-, -, rfl⟩ | hchain) hroot hblocks
    · exact absurd hblocks List.not_mem_nil
    · obtain ⟨count, hpath⟩ := hchain.reached_of_mem hblocks
      exact ⟨_, ⟨_, hroot ⟨BlockReference.ne_zero_of_named hchain.head.1, rfl⟩, hpath⟩, rfl⟩
  rw [List.mem_append, List.mem_append] at mem
  obtain hmem | hmem | hmem := mem
  · exact hreach trailers.acquired (fun _ h => .inl h) hmem
  · exact hreach trailers.released (fun _ h => .inr (.inl h)) hmem
  · exact hreach trailers.sessions (fun _ h => .inr (.inr h)) hmem

/-- A requirement for a block of the application that is there and meets it. -/
theorem BlockRequirement.Kept.sound {requirement : BlockRequirement χ} (kept : requirement.Kept grid)
    (named : requirement.reference.named = true) (read : grid.block requirement.reference = some block)
    (application : block.type.isApplication = true) (typed : block.type = requirement.type) :
    BlockRepairTarget.Sound grid op ⟨requirement, 0, 0⟩ := by
  rw [typed] at application
  refine ⟨named, ⟨block, read, kept.1 block read⟩, ?_, kept.2, fun h => absurd rfl h, ?_, fun h => absurd rfl h⟩
  · revert application
    show requirement.type.isApplication = true → requirement.type.isStored = true
    cases requirement.type <;> simp [BlockType.isApplication, BlockType.isStored]
  refine iff_of_false (fun h => h rfl) fun h => ?_
  have h : requirement.type.isApplication = false := h
  rw [application] at h
  cases h

/-- All that the fetcher meets can be done. -/
theorem CheckpointGraph.Accepted.fetches (accepted : CheckpointGraph.Accepted grid checkpoint.manifest.roots graph)
    (fetchable : checkpoint.manifest.Fetchable grid capacity checkpointRoot)
    (trailers : checkpoint.Trailers grid acquired released sessions) :
    grid.Fetches checkpoint.prepareOp capacity checkpoint.roots := by
  refine ⟨fun hitem => ?_, fun hitem => ?_, fun hitem => ?_⟩
  · have hreached := CheckpointState.reach_manifest hitem rfl
    obtain ⟨block, required, hreadable, htypes⟩ := accepted.readable hreached
    refine ⟨block, required, hreadable, fetchable.few hreached hreadable.read hreadable.requires,
      fun requirement hrequirement => ?_⟩
    have hnamed := Worklist.reach_of_next hreached (.requirement hreadable.read hreadable.requires hrequirement)
    obtain ⟨other, _, hother, -⟩ := accepted.readable hnamed
    obtain ⟨other', hother', htype⟩ := htypes requirement hrequirement
    obtain rfl : other = other' := Option.some.inj (hother.read.symm.trans hother')
    exact (fetchable.kept hreached hreadable.read hreadable.requires requirement hrequirement).sound hother.named
      hother.read hother.application htype
  · exact accepted.chained (CheckpointState.reach_manifest hitem rfl)
  · obtain ⟨_, _, _, rest, hsame, hchain, -⟩ := trailers.chain_of_reach (CheckpointState.reach_trailers hitem rfl)
    cases hsame
    exact ⟨rest, hchain⟩

theorem BlockTable.Queued.length_le {fresh next : List (BlockRepairTarget χ)}
    (queued : Queued grid op fresh targets next) : next.length ≤ targets.length + fresh.length := by
  obtain ⟨added, hadded, hsublist⟩ := queued.added
  have hlength := congrArg List.length hadded
  have hfewer := hsublist.length_le
  rw [List.length_append, List.length_map, List.length_map] at hlength
  rw [List.length_map] at hfewer
  omega

section

variable (table : BlockTable grid op targets)

include table

/-- `queueStateSyncTrailer` on the trailer of a checkpoint. -/
theorem BlockTable.queue_trailer
    (trailer : grid.Trailer op type reference bytes blocks) (stored : type.isStored = true)
    (typed : type.isApplication = false) (room : targets.length < capacity)
    (known : ∀ ⦃type reference bytes⦄, .trailer type reference bytes ∈ tableItems targets →
      ∃ blocks, grid.TrailerChain op type reference bytes blocks) :
    ∃ next fresh, queueStateSyncTrailer capacity targets reference type op bytes = .ok next ∧
      Queued grid op fresh targets next ∧ fresh.length ≤ 1 ∧
      tableItems fresh = trailerItem type reference bytes := by
  unfold queueStateSyncTrailer
  obtain ⟨hzero, hbytes, -⟩ | hchain := trailer
  · refine ⟨targets, [], ?_, .refl table, Nat.zero_le _, ?_⟩
    · rw [if_pos hzero, if_pos hbytes]
    · ext item
      simp [tableItems, trailerItem, hzero]
  · obtain ⟨hnamed, block, hread, htype, hsnapshot, hfilled, hle, -⟩ := hchain.head
    have hpresent := BlockReference.ne_zero_of_named hnamed
    have hbytes : bytes ≠ 0 := by omega
    have hsound : BlockRepairTarget.Sound grid op ⟨⟨reference, type, op, true, 0⟩, bytes, 0⟩ := by
      refine ⟨hnamed, ⟨block, hread, BlockRequirement.metBy_iff.2 ⟨htype, fun _ => hsnapshot, fun h => absurd rfl h⟩⟩,
        stored, fun h => ?_, fun h => absurd rfl h, iff_of_true hbytes typed, fun _ => ⟨rfl, rfl⟩⟩
      have h : type = .manifest := h
      rw [h] at typed
      cases typed
    have hagree : ∀ other ∈ targets, other.reference = reference → other.chainBytes = bytes := by
      intro other hother hsame
      have hotherType : other.requirement.type = type := hsound.type_eq (table.sound other hother) hsame
      have hotherBytes := (table.sound other hother).trailer.2 (hotherType ▸ typed)
      obtain ⟨_, hotherChain⟩ := known ⟨other, hother, .inr (.inr ⟨hotherBytes, rfl⟩)⟩
      rw [hsame] at hotherChain
      exact hotherChain.bytes_eq hchain
    obtain ⟨queued, hqueued, hnext⟩ := table.queue hsound (fun _ => room) (fun h => absurd rfl h) (fun _ => hagree)
    refine ⟨_, _, ?_, hnext, Nat.le_refl _, ?_⟩
    · rw [if_neg hpresent]
      have hqueued : queueBlockRepair capacity targets ⟨reference, type, op, true, 0⟩ = .ok queued := hqueued
      rw [hqueued, BlockRepairTarget.note_bytes hbytes]
      rfl
    · rw [tableItems_singleton, BlockRepairTarget.items_trailer typed rfl hbytes]
      ext item
      simp [trailerItem, hpresent, BlockRepairTarget.reference]

variable (accepted : CheckpointGraph.Accepted grid manifest.roots graph)

include accepted

/-- The newest manifest is queued with the length of its chain. -/
theorem BlockTable.queue_manifests (room : targets.length < capacity)
    (chainless : ∀ other ∈ targets, other.chainBlocks = 0) :
    ∃ next fresh, queueManifests capacity targets manifest = .ok next ∧
      Queued grid op fresh targets next ∧ fresh.length ≤ 1 ∧
      tableItems fresh = CheckpointGraph.chainItem manifest.newest manifest.blockCount ∪
        {item | manifest.blockCount ≠ 0 ∧ item = .block manifest.newest} := by
  unfold queueManifests
  by_cases hcount : manifest.blockCount = 0
  · refine ⟨targets, [], if_pos hcount, .refl table, Nat.zero_le _, ?_⟩
    ext item
    simp [tableItems, CheckpointGraph.chainItem, hcount]
  obtain ⟨block, hchained⟩ := accepted.chained ⟨_, .inl ⟨hcount, rfl⟩, .refl⟩
  have hsound : BlockRepairTarget.Sound grid op ⟨⟨manifest.newest, .manifest, 0, false, 0⟩, 0, manifest.blockCount⟩ := by
    refine ⟨hchained.named, ⟨block, hchained.read, BlockRequirement.metBy_iff.2 ⟨hchained.manifest, fun h => ?_,
      fun h => absurd rfl h⟩⟩, rfl, fun _ => rfl, fun _ => rfl, iff_of_false (fun h => h rfl) (fun h => ?_),
      fun h => absurd rfl h⟩
    · cases h
    · cases h
  obtain ⟨queued, hqueued, hnext⟩ := table.queue hsound (fun _ => room) (fun _ => chainless) (fun h => absurd rfl h)
  refine ⟨_, _, ?_, hnext, Nat.le_refl _, ?_⟩
  · rw [if_neg hcount]
    have hqueued : queueBlockRepair capacity targets ⟨manifest.newest, .manifest, 0, false, 0⟩ = .ok queued := hqueued
    rw [hqueued, BlockRepairTarget.note_blocks hcount]
    rfl
  · rw [tableItems_singleton]
    ext item
    simp [BlockRepairTarget.items, CheckpointGraph.chainItem, hcount, BlockRepairTarget.reference,
      BlockType.isApplication, or_comm]

/-- The root is queued. -/
theorem BlockTable.queue_root
    (rooted : manifest.Rooted grid checkpointRoot) (fetchable : manifest.Fetchable grid capacity checkpointRoot)
    (room : targets.length < capacity) :
    ∃ next fresh, queueRoot capacity targets manifest.root checkpointRoot = .ok next ∧
      Queued grid op fresh targets next ∧
      tableItems fresh = {item | manifest.root ≠ .zero ∧ item = .block manifest.root} := by
  unfold queueRoot
  by_cases hroot : manifest.root = .zero
  · refine ⟨targets, [], if_pos (congrArg BlockReference.address hroot), .refl table, ?_⟩
    ext item
    simp [tableItems, hroot]
  obtain ⟨requirement, block, rfl, hsame, hread, htype⟩ := rooted hroot
  obtain ⟨block', _, hreadable, -⟩ := accepted.readable ⟨_, .inr ⟨hroot, rfl⟩, .refl⟩
  obtain rfl : block = block' := Option.some.inj (hread.symm.trans hreadable.read)
  rw [← hsame] at hread
  have hsound : BlockRepairTarget.Sound grid op ⟨requirement, 0, 0⟩ :=
    (fetchable.root rfl hroot).sound (hsame ▸ hreadable.named) hread hreadable.application htype
  obtain ⟨next, hnext, hqueued⟩ := table.queue_requirement hsound (fun _ => room)
  have haddress : manifest.root.address ≠ 0 := by
    have hnamed := hreadable.named
    unfold BlockReference.named at hnamed
    exact (of_decide_eq_true hnamed).1
  refine ⟨next, _, ?_, hqueued, ?_⟩
  · rw [if_neg haddress]
    simp only [hsame, ne_eq, not_true, if_false]
    exact hnext
  have happlication : requirement.type.isApplication = true := htype ▸ hreadable.application
  rw [tableItems_singleton]
  ext item
  simp [BlockRepairTarget.items, BlockRepairTarget.reference, happlication, hroot, hsame]

end

/-- Among trailers there is no manifest of the chain, and every block is in the chain of its trailer. -/
theorem CheckpointState.Trailers.of_items (trailers : checkpoint.Trailers grid acquired released sessions)
    (items : tableItems targets ⊆ checkpoint.trailerRoots) :
    (∀ other ∈ targets, other.chainBlocks = 0) ∧
      ∀ ⦃type reference bytes⦄, .trailer type reference bytes ∈ tableItems targets →
        ∃ blocks, grid.TrailerChain checkpoint.prepareOp type reference bytes blocks := by
  have hreach : ∀ item ∈ tableItems targets, item ∈ Worklist.reach grid.Names checkpoint.trailerRoots :=
    fun item h => ⟨item, items h, .refl⟩
  refine ⟨fun other hother => ?_, fun type reference bytes hitem => ?_⟩
  · by_contra hblocks
    have := CheckpointState.isTrailer_of_reach (hreach _ ⟨other, hother, .inr (.inl ⟨hblocks, rfl⟩)⟩)
    cases this
  · obtain ⟨_, _, _, rest, hsame, hchain, -⟩ := trailers.chain_of_reach (hreach _ hitem)
    cases hsame
    exact ⟨rest, hchain⟩

section

variable (accepted : CheckpointGraph.Accepted grid checkpoint.manifest.roots graph)
  (rooted : checkpoint.manifest.Rooted grid checkpointRoot)
  (fetchable : checkpoint.manifest.Fetchable grid capacity checkpointRoot)
  (trailers : checkpoint.Trailers grid acquired released sessions) (wide : 5 ≤ capacity)

include accepted rooted fetchable trailers wide

/-- The roots of a checkpoint are queued. -/
theorem queueStateSyncRoots_ok :
    ∃ targets, queueStateSyncRoots capacity checkpoint checkpointRoot = .ok targets ∧
      BlockTable grid checkpoint.prepareOp targets ∧ tableItems targets = checkpoint.roots ∪
        {item | checkpoint.manifest.blockCount ≠ 0 ∧ item = .block checkpoint.manifest.newest} := by
  have hempty : BlockTable grid checkpoint.prepareOp [] := ⟨List.nodup_nil, fun _ h => absurd h List.not_mem_nil⟩
  have hnone : tableItems ([] : List (BlockRepairTarget χ)) = ∅ := by simp [tableItems]
  obtain ⟨first, fresh₁, hfirst, hqueued₁, hone₁, hitems₁⟩ := hempty.queue_trailer trailers.acquired rfl rfl
    (by rw [List.length_nil]; omega : [].length < capacity) (trailers.of_items (by rw [hnone]; exact Set.empty_subset _)).2
  have hfirstItems : tableItems first = trailerItem .freeSet checkpoint.acquiredTrailer
      checkpoint.acquiredTrailerEncodedSize := by
    rw [hqueued₁.items, hnone, hitems₁, Set.empty_union]
  have hlength₁ := hqueued₁.length_le
  rw [List.length_nil] at hlength₁
  obtain ⟨second, fresh₂, hsecond, hqueued₂, hone₂, hitems₂⟩ := hqueued₁.table.queue_trailer trailers.released rfl rfl
    (by omega : first.length < capacity) (trailers.of_items (by rw [hfirstItems]; exact fun _ h => .inl h)).2
  have hsecondItems : tableItems second ⊆ checkpoint.trailerRoots := by
    rw [hqueued₂.items, hfirstItems, hitems₂]
    exact fun _ h => h.imp id .inl
  have hlength₂ := hqueued₂.length_le
  obtain ⟨third, fresh₃, hthird, hqueued₃, hone₃, hitems₃⟩ := hqueued₂.table.queue_trailer trailers.sessions rfl rfl
    (by omega : second.length < capacity) (trailers.of_items hsecondItems).2
  have hthirdItems : tableItems third = checkpoint.trailerRoots := by
    rw [hqueued₃.items, hqueued₂.items, hfirstItems, hitems₂, hitems₃, Set.union_assoc]
    rfl
  have hlength₃ := hqueued₃.length_le
  obtain ⟨fourth, fresh₄, hfourth, hqueued₄, hone₄, hitems₄⟩ := hqueued₃.table.queue_manifests accepted
    (by omega : third.length < capacity) (trailers.of_items hthirdItems.le).1
  have hlength₄ := hqueued₄.length_le
  obtain ⟨last, fresh₅, hlast, hqueued₅, hitems₅⟩ := hqueued₄.table.queue_root accepted rooted fetchable (by omega)
  refine ⟨last, ?_, hqueued₅.table, ?_⟩
  · unfold queueStateSyncRoots
    dsimp only
    rw [hfirst]
    show (queueStateSyncTrailer capacity first _ _ _ _).bind _ = _
    rw [hsecond]
    show (queueStateSyncTrailer capacity second _ _ _ _).bind _ = _
    rw [hthird]
    show (queueManifests capacity third _).bind _ = _
    rw [hfourth]
    exact hlast
  · rw [hqueued₅.items, hqueued₄.items, hthirdItems, hitems₄, hitems₅]
    unfold CheckpointState.roots CheckpointManifest.roots
    ext item
    simp only [Set.mem_union]
    tauto

/-- The roots of a checkpoint are the start of a fetch. -/
theorem BlockFetch.runs_start :
    Runs grid checkpoint.prepareOp checkpoint.roots (start capacity checkpoint checkpointRoot) ∧
      (start capacity checkpoint checkpointRoot).fetched = [] := by
  obtain ⟨targets, hroots, htable, hitems⟩ := queueStateSyncRoots_ok accepted rooted fetchable trailers wide
  have hstart : start capacity checkpoint checkpointRoot = ⟨targets, [], none⟩ := by
    unfold start
    rw [hroots]
  have hchain : ∀ {reference remaining}, .chain reference remaining ∈ tableItems targets →
      reference = checkpoint.manifest.newest := by
    intro reference remaining hitem
    rw [hitems] at hitem
    obtain ((⟨-, h⟩ | ⟨-, h⟩) | ⟨-, h⟩ | ⟨-, h⟩ | ⟨-, h⟩) | ⟨-, h⟩ := hitem <;> cases h
    rfl
  rw [hstart]
  refine ⟨⟨rfl, htable, ?_, ∅, ⟨?_, fun _ _ h => absurd h (Set.notMem_empty _), ?_⟩, fun reference => ?_⟩, rfl⟩
  · exact fun _ _ _ _ hitem hother => (hchain hitem).trans (hchain hother).symm
  · rw [hitems, Set.union_empty]
    exact Set.subset_union_left
  · rw [hitems, Set.union_empty]
    rintro item (hitem | ⟨hcount, rfl⟩)
    · exact ⟨item, hitem, .refl⟩
    obtain ⟨remaining, hremaining⟩ := Nat.exists_eq_succ_of_ne_zero hcount
    refine ⟨.chain checkpoint.manifest.newest checkpoint.manifest.blockCount, .inl (.inl ⟨hcount, rfl⟩), .single ?_⟩
    rw [hremaining]
    exact .manifest _ remaining
  · simp

end

/-- What has been fetched when nothing is outstanding. -/
theorem BlockFetch.Runs.fetched_iff {fetch : BlockFetch χ} (runs : Runs grid op checkpoint.roots fetch)
    (accepted : CheckpointGraph.Accepted grid checkpoint.manifest.roots graph)
    (trailers : checkpoint.Trailers grid acquired released sessions) (finished : fetch.targets = [])
    (reference : BlockReference χ) :
    reference ∈ fetch.fetched ↔ (∃ node ∈ graph.nodes, node.requirement.reference = reference) ∨
      reference ∈ acquired ++ (released ++ sessions) := by
  obtain ⟨done, hexplores, hdone⟩ := runs.explores
  have hnone : tableItems fetch.targets = ∅ := by
    rw [finished]
    simp [tableItems]
  rw [hnone] at hexplores
  rw [hdone, hexplores.finished, accepted.nodes]
  constructor
  · rintro ⟨item, hitem, rfl⟩
    cases htrailer : item.isTrailer with
    | true =>
      obtain ⟨type, other, bytes, rest, rfl, hchain, hsubset⟩ :=
        trailers.chain_of_reach (CheckpointState.reach_trailers hitem htrailer)
      exact .inr (hsubset hchain.mem_blocks)
    | false =>
      have hreached := CheckpointState.reach_manifest hitem htrailer
      cases item with
      | block other => exact .inl hreached
      | chain other remaining => exact .inl (CheckpointManifest.reach_block hreached)
      | trailer => cases htrailer
  · rintro (hitem | hmem)
    · refine ⟨.block reference, ?_, rfl⟩
      unfold CheckpointState.roots
      rw [Worklist.reach_union]
      exact .inl hitem
    · obtain ⟨item, hitem, hsame⟩ := trailers.reach_of_mem hmem
      refine ⟨item, ?_, hsame⟩
      unfold CheckpointState.roots
      rw [Worklist.reach_union]
      exact .inr hitem

/-- A replica that is synced to an accepted checkpoint, as long as the table has room: it does not fail, every
outstanding block can arrive, there is a bound on the blocks that arrive, and once nothing is outstanding it has
fetched the reachable blocks and the trailers.  No block leads back to itself: `writer.grid.rank` falls along
every reference. -/
theorem BlockFetch.fetches_checkpoint {cfg : Config} {process : ProcessConfig} {writer : CheckpointWriter χ}
    {fetch : BlockFetch χ}
    (resolves : resolveCheckpointReachability writer checkpoint.manifest checkpointRoot = some graph)
    (trailers : checkpoint.Trailers writer.grid acquired released sessions)
    (fetchable : checkpoint.manifest.Fetchable writer.grid (cfg.targetCapacity process) checkpointRoot)
    (reached : Transition.Reaches (BlockFetch.step writer.grid (cfg.targetCapacity process))
      (fun fetch reference => fetch.room writer.grid (cfg.targetCapacity process) reference = true)
      (start (cfg.targetCapacity process) checkpoint checkpointRoot) fetch) :
    fetch.failed = none ∧
      (∀ target ∈ fetch.targets,
        (fetch.step writer.grid (cfg.targetCapacity process) target.reference).isSome = true) ∧
      fetch.fetched.length ≤ (start (cfg.targetCapacity process) checkpoint checkpointRoot).weight writer.grid
        (cfg.targetCapacity process) ∧
      (fetch.targets = [] → ∀ reference, reference ∈ fetch.fetched ↔
        (∃ node ∈ graph.nodes, node.requirement.reference = reference) ∨
          reference ∈ acquired ++ (released ++ sessions)) := by
  obtain ⟨haccepted, hrooted⟩ := accepted_of_resolve resolves
  have hfetches := haccepted.fetches fetchable trailers
  have hwide : 5 ≤ cfg.targetCapacity process := Nat.le_add_left ..
  obtain ⟨hstart, hnothing⟩ := runs_start haccepted hrooted fetchable trailers hwide
  have hbounded : Bounded writer.grid checkpoint.prepareOp (cfg.targetCapacity process) checkpoint.roots
      ((start (cfg.targetCapacity process) checkpoint checkpointRoot).weight writer.grid (cfg.targetCapacity process))
      fetch :=
    Transition.Reaches.invariant ⟨hstart, by rw [hnothing, List.length_nil]; omega⟩
      (fun bounded room steps => bounded.step hfetches room steps) reached
  obtain ⟨hruns, hbound⟩ := hbounded
  exact ⟨hruns.running, fun target h => hruns.step_isSome hfetches h, by omega,
    fun hfinished => hruns.fetched_iff haccepted trailers hfinished⟩

end Start

/-! ## A block with many requirements -/

/-- An index block with so many value blocks, and a trailer of one block. -/
def fan (count : Nat) : Grid Digest where
  block reference :=
    if reference.checksum ≠ ⟨reference.address⟩ then none
    else
      match reference.address with
      | 0 => none
      | 1 => some ⟨.index, 0, 1, .zero, count⟩
      | 2 => some ⟨.freeSet, 0, 8, .zero, 0⟩
      | child + 3 => if child < count then some ⟨.value, 0, 1, .zero, 0⟩ else none
  requirements reference _ :=
    some (if reference.address = 1 then
      (List.range count).map fun child => ⟨⟨child + 3, ⟨child + 3⟩⟩, .value, 0, false, 0⟩ else [])
  rank reference := if reference.address = 1 then 1 else 0
  previous_lt := by
    intro reference block read previous
    refine absurd ?_ previous
    split at read
    · cases read
    · split at read
      · cases read
      · cases read
        rfl
      · cases read
        rfl
      · split at read
        · cases read
          rfl
        · cases read
  requirements_lt := by
    intro reference block required requirement _ requires mem
    cases requires
    split at mem
    · rename_i hroot
      obtain ⟨child, -, rfl⟩ := List.mem_map.1 mem
      rw [if_neg (by simp), if_pos hroot]
      exact Nat.zero_lt_one
    · exact absurd mem List.not_mem_nil

def fanRoot : BlockRequirement Digest := ⟨⟨1, ⟨1⟩⟩, .index, 0, false, 0⟩

def fanWriter (count : Nat) : CheckpointWriter Digest where
  grid := fan count
  limit := 64
  indexed _ := true
  held _ := true

/-- A checkpoint with the index block as its root. -/
def fanCheckpoint : CheckpointState Digest :=
  { CheckpointState.formatted 1 0 with
    acquiredTrailerLastAddress := 2
    acquiredTrailerLastChecksum := ⟨2⟩
    acquiredTrailerEncodedSize := 8
    snapshotRootAddress := 1
    snapshotRootChecksum := ⟨1⟩ }

theorem fan_trailers (count : Nat) : fanCheckpoint.Trailers (fan count) [⟨2, ⟨2⟩⟩] [] [] where
  acquired := .inr (@Grid.TrailerChain.first Digest _ _ (fan count) 0 .freeSet ⟨2, ⟨2⟩⟩ ⟨.freeSet, 0, 8, .zero, 0⟩
    (by decide) rfl rfl rfl (by decide) rfl)
  released := .inl ⟨rfl, rfl, rfl⟩
  sessions := .inl ⟨rfl, rfl, rfl⟩

theorem fan_fetchable {count capacity : Nat} (few : count ≤ capacity) :
    fanCheckpoint.manifest.Fetchable (fan count) capacity (some fanRoot) := by
  have hrequires : ∀ {reference block required}, (fan count).requirements reference block = some required →
      ∀ requirement ∈ required, ∃ child < count, requirement = ⟨⟨child + 3, ⟨child + 3⟩⟩, .value, 0, false, 0⟩ := by
    intro reference block required hrequires requirement hmem
    cases hrequires
    split at hmem
    · obtain ⟨child, hchild, rfl⟩ := List.mem_map.1 hmem
      exact ⟨child, List.mem_range.1 hchild, rfl⟩
    · exact absurd hmem List.not_mem_nil
  refine ⟨fun _ _ hrequired => ?_, fun _ _ hrequired requirement hmem => ?_, fun hroot _ => ?_⟩
  · cases hrequired
    split
    · rw [List.length_map, List.length_range]
      exact few
    · exact Nat.zero_le _
  · obtain ⟨child, hchild, rfl⟩ := hrequires hrequired requirement hmem
    refine ⟨fun block hread => ?_, fun h => nomatch h⟩
    have hblock : (fan count).block ⟨child + 3, ⟨child + 3⟩⟩ = some ⟨.value, 0, 1, .zero, 0⟩ := by
      simp [fan, hchild]
    cases hblock.symm.trans hread
    rfl
  · cases hroot
    refine ⟨fun block hread => ?_, fun h => nomatch h⟩
    cases hread
    rfl

/-- The size of the table with the default limits. -/
def defaultCapacity : Nat := (defaultConfig 1048576).targetCapacity (defaultProcess (defaultConfig 1048576))

/-- An index block with two value blocks is fetched, with its trailer. -/
theorem fetches_checkpoint_fan : ∃ graph fetch,
    resolveCheckpointReachability (fanWriter 2) fanCheckpoint.manifest (some fanRoot) = some graph ∧
      Transition.exec (BlockFetch.step (fan 2) defaultCapacity) (.start defaultCapacity fanCheckpoint (some fanRoot))
        [⟨1, ⟨1⟩⟩, ⟨4, ⟨4⟩⟩, ⟨2, ⟨2⟩⟩, ⟨3, ⟨3⟩⟩] = some fetch ∧
      fetch.targets = [] ∧ fetch.failed = none ∧
      ∀ reference, reference ∈ fetch.fetched ↔ (∃ node ∈ graph.nodes, node.requirement.reference = reference) ∨
        reference ∈ [⟨2, ⟨2⟩⟩] ++ ([] ++ []) := by
  have hresolves : (resolveCheckpointReachability (fanWriter 2) fanCheckpoint.manifest (some fanRoot)).isSome = true := by
    decide +kernel
  obtain ⟨graph, hgraph⟩ := Option.isSome_iff_exists.1 hresolves
  have hrun : (Transition.exec (BlockFetch.step (fan 2) defaultCapacity)
      (.start defaultCapacity fanCheckpoint (some fanRoot)) [⟨1, ⟨1⟩⟩, ⟨4, ⟨4⟩⟩, ⟨2, ⟨2⟩⟩, ⟨3, ⟨3⟩⟩]).any
        (fun fetch => fetch.targets = []) = true := by
    decide +kernel
  obtain ⟨fetch, hfetch, hfinished⟩ := (Option.any_eq_true ..).1 hrun
  have hfinished := of_decide_eq_true hfinished
  have hreached := Transition.reaches_of_exec (fun _ _ room => room) (by decide +kernel :
    Transition.passes (BlockFetch.step (fan 2) defaultCapacity) (BlockFetch.room (fan 2) defaultCapacity)
      (.start defaultCapacity fanCheckpoint (some fanRoot)) [⟨1, ⟨1⟩⟩, ⟨4, ⟨4⟩⟩, ⟨2, ⟨2⟩⟩, ⟨3, ⟨3⟩⟩] = true) hfetch
  have hfew : 2 ≤ defaultCapacity := by decide +kernel
  obtain ⟨hrunning, -, -, hfetched⟩ := BlockFetch.fetches_checkpoint hgraph (fan_trailers 2) (fan_fetchable hfew) hreached
  exact ⟨graph, fetch, hgraph, hfetch, hfinished, hrunning, hfetched hfinished⟩

/-- With a trailer outstanding, an index block with 21 value blocks overflows the table of the default limits. -/
theorem wide_block_overflows :
    (defaultConfig 1048576).validate (defaultProcess (defaultConfig 1048576)) = .ok () ∧
    (resolveCheckpointReachability (fanWriter 21) fanCheckpoint.manifest (some fanRoot)).isSome = true ∧
    fanCheckpoint.Trailers (fan 21) [⟨2, ⟨2⟩⟩] [] [] ∧
    (Transition.exec (BlockFetch.step (fan 21) defaultCapacity)
      (.start defaultCapacity fanCheckpoint (some fanRoot)) [⟨1, ⟨1⟩⟩]).map BlockFetch.failed =
        some (some .backpressure) :=
  ⟨by decide +kernel, by decide +kernel, fan_trailers 21, by decide +kernel⟩

end Supervsr
