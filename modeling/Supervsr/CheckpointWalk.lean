import Supervsr.CheckpointGraph
import Supervsr.Digest

/-
# Supervsr.CheckpointWalk — the walk of a checkpoint's blocks

`visitManifestChain` and `visitStack` over any blocks, in circles or not.  They end, they read every block that can be
reached once and no other, and what they require of a block is what was required when it was read.
-/

namespace Supervsr

variable {χ : Type} [DecidableEq χ] [Checksums χ]

open CheckpointGraph

section

variable {writer : GraphWriter χ} {manifest : CheckpointManifest χ} {checkpointRoot : Option (BlockRequirement χ)}
  {rounds : Nat} {second graph : CheckpointGraph χ}

theorem BlockGraph.ManifestChain.length {grid : BlockGraph χ} {oldest newest : BlockReference χ} {count : Nat}
    {chain : List (BlockReference χ)} (chained : grid.ManifestChain oldest count newest chain) : chain.length = count := by
  induction chained with
  | empty => rfl
  | link _ _ _ ih => rw [List.length_cons, ih]

/-- What is read is what is reachable. -/
theorem CheckpointGraph.Visits.mem_reads {first : BlockRequirement χ → Prop} {roots visited : Set (GraphItem χ)}
    {reads : List (BlockReference χ)} (visits : Visits writer first roots ∅ visited reads graph) (done : graph.stack = [])
    (reference : BlockReference χ) :
    reference ∈ reads ↔ .block reference ∈ Worklist.reach writer.grid.Names roots := by
  rw [← visits.read, ← (visits.complete done).2]
  refine ⟨.inl, fun h => h.resolve_right fun hvisited => ?_⟩
  obtain ⟨_, _, _, hchain, -⟩ := visits.chained _ hvisited
  cases hchain

/-- The walk ends, whatever the blocks are.  When it succeeds, its nodes are the blocks that can be reached from the
chain of manifests and the root, each has been read once, and the chain has as many blocks as it is said to have. -/
theorem walk_exact (writer : GraphWriter χ) :
    (WellFounded fun next graph : CheckpointGraph χ => graph.round writer = some next) ∧
    (∀ (graph : CheckpointGraph χ) (rounds : Nat), graph.budget writer ≤ rounds →
      graph.visitStack writer (rounds + 1) = graph.visitStack writer rounds) ∧
    ∀ (manifest : CheckpointManifest χ) (checkpointRoot : Option (BlockRequirement χ)) (rounds : Nat)
      (second graph : CheckpointGraph χ), manifest.Walked writer checkpointRoot rounds second graph →
      let chain := chainReads writer manifest.blockCount manifest.newest ⟨[], []⟩
      let reads := chain ++ second.stackReads writer rounds
      (∀ reference, (∃ node ∈ graph.nodes, node.requirement.reference = reference) ↔
        .block reference ∈ Worklist.reach writer.grid.Names manifest.roots) ∧
      (∀ reference, reference ∈ reads ↔ .block reference ∈ Worklist.reach writer.grid.Names manifest.roots) ∧
      (reads.map BlockReference.address).Nodup ∧
      writer.grid.ManifestChain manifest.oldest manifest.blockCount manifest.newest chain ∧
      chain.length = manifest.blockCount := by
  refine ⟨Subrelation.wf budget_round (measure (CheckpointGraph.budget writer)).wf, fun _ _ => visitStack_enough, ?_⟩
  intro manifest checkpointRoot rounds second graph walked
  obtain ⟨visited, hvisits, hdone, -, -, hchain⟩ := walked.visits
  exact ⟨(hvisits.accepted hdone).nodes, hvisits.mem_reads hdone, hvisits.once, hchain, hchain.length⟩

/-- Every requirement that is stated is one that a node covers. -/
theorem CheckpointManifest.Walked.covered (walked : manifest.Walked writer checkpointRoot rounds second graph)
    {requirement : BlockRequirement χ}
    (stated : writer.grid.States (manifest.Starts writer checkpointRoot) requirement) : graph.Covered requirement := by
  obtain ⟨visited, hvisits, hdone, hcovered, -⟩ := walked.visits
  induction stated with
  | first mem => exact hcovered _ mem
  | listed _ read requires mem ih =>
    obtain ⟨node, hnode, hcovers⟩ := ih
    obtain ⟨block, required, hread, -, hrequires, hlist⟩ := hvisits.demands.closed node hnode
      ((hvisits.complete hdone).1 node hnode)
    rw [hcovers.reference] at hread hrequires
    cases read.symm.trans hread
    cases requires.symm.trans hrequires
    exact hlist _ mem

/-- Every requirement that was stated is met. -/
def CheckpointManifest.Enforced (writer : GraphWriter χ) (manifest : CheckpointManifest χ)
    (checkpointRoot : Option (BlockRequirement χ)) : Prop :=
  ∀ requirement, writer.grid.States (manifest.Starts writer checkpointRoot) requirement →
    ∃ block, writer.grid.block requirement.reference = some block ∧ requirement.metBy block = true

/-- Where one requirement for a block leaves open what another one demands, the block has it. -/
def CheckpointManifest.Settled (writer : GraphWriter χ) (manifest : CheckpointManifest χ)
    (checkpointRoot : Option (BlockRequirement χ)) : Prop :=
  ∀ requirement other block, writer.grid.States (manifest.Starts writer checkpointRoot) requirement →
    writer.grid.States (manifest.Starts writer checkpointRoot) other → requirement.reference = other.reference →
    writer.grid.block requirement.reference = some block →
    (requirement.snapshotExact = true → other.snapshotExact = false → block.snapshot = requirement.snapshot) ∧
      (requirement.bodySize ≠ 0 → other.bodySize = 0 → block.bodySize = requirement.bodySize)

/-- A walk that succeeds enforces what is stated if and only if no requirement leaves open what the block does not have
and another requirement demands. -/
theorem walk_enforces_iff (walked : manifest.Walked writer checkpointRoot rounds second graph) :
    manifest.Enforced writer checkpointRoot ↔ manifest.Settled writer checkpointRoot := by
  constructor
  · intro met requirement other block stated _ _ hread
    obtain ⟨found, hfound, hmet⟩ := met requirement stated
    cases hread.symm.trans hfound
    simp only [BlockRequirement.metBy, decide_eq_true_eq] at hmet
    exact ⟨fun hexact _ => hmet.2.1 hexact, fun hsize _ => hmet.2.2 hsize⟩
  · intro closed requirement stated
    obtain ⟨node, hnode, hcovers⟩ := walked.covered stated
    obtain ⟨visited, hvisits, hdone, -⟩ := walked.visits
    have hprocessed := (hvisits.complete hdone).1 node hnode
    obtain ⟨block, -, hread, htype, -⟩ := hvisits.demands.closed node hnode hprocessed
    -- the requirement the block was read for
    obtain ⟨other, hother, hfirst, hmet⟩ := hvisits.demands.origin node hnode
    have hsame : requirement.reference = other.reference := hcovers.reference.symm.trans hfirst.reference
    rw [hcovers.reference] at hread
    have hopen := closed requirement other block stated hother hsame hread
    have hchecked := hmet hprocessed block (hsame ▸ hread)
    simp only [BlockRequirement.metBy, decide_eq_true_eq] at hchecked
    refine ⟨block, hread, ?_⟩
    simp only [BlockRequirement.metBy, decide_eq_true_eq]
    refine ⟨htype.trans hcovers.type, fun hexact => ?_, fun hsize => ?_⟩
    · cases hstrict : other.snapshotExact with
      | false => exact hopen.1 hexact hstrict
      | true =>
        rw [hchecked.2.1 hstrict, ← (hfirst.snapshot hstrict).2, (hcovers.snapshot hexact).2]
    · by_cases hfree : other.bodySize = 0
      · exact hopen.2 hsize hfree
      · rw [hchecked.2.2 hfree, ← hfirst.bodySize hfree, hcovers.bodySize hsize]

end

/-! ## A block that two others require -/

/-- A manifest that lists blocks 3 and 2, and block 3 lists block 2 in a snapshot it does not have. -/
def shared (last : List (BlockRequirement Digest)) : GraphWriter Digest where
  grid :=
    { block := fun reference =>
        if reference.checksum ≠ ⟨reference.address⟩ then none
        else
          match reference.address with
          | 1 => some ⟨.manifest, 0, 128, .zero, 2⟩
          | 2 => some ⟨.value, 0, 1, .zero, 0⟩
          | 3 => some ⟨.index, 0, 1, .zero, 0⟩
          | _ => none
      requirements := fun reference _ =>
        match reference.address with
        | 1 => some [⟨⟨3, ⟨3⟩⟩, .index, 0, false, 0⟩, ⟨⟨2, ⟨2⟩⟩, .value, 0, false, 0⟩]
        | 2 => some last
        | 3 => some [⟨⟨2, ⟨2⟩⟩, .value, 9, true, 0⟩]
        | _ => none }
  limit := 64
  indexed _ := true
  held _ := true

/-- A chain of one manifest. -/
def sharedManifest : CheckpointManifest Digest := ⟨⟨1, ⟨1⟩⟩, ⟨1, ⟨1⟩⟩, .zero, 1⟩

/-- The walk of `shared`, as far as the stack. -/
def sharedStart (last : List (BlockRequirement Digest)) : Option (CheckpointGraph Digest) :=
  visitManifestChain (shared last) sharedManifest.oldest sharedManifest.blockCount sharedManifest.newest ⟨[], []⟩

theorem shared_walked {last : List (BlockRequirement Digest)}
    (walks : ((sharedStart last).bind (visitStack (shared last) 64)).isSome = true) :
    ∃ second graph, sharedManifest.Walked (shared last) none 64 second graph := by
  obtain ⟨graph, hgraph⟩ := Option.isSome_iff_exists.1 walks
  obtain ⟨first, hfirst, hstack⟩ := Option.bind_eq_some_iff.1 hgraph
  exact ⟨first, graph, ⟨first, hfirst, rfl⟩, hstack⟩

/-- The walk ends also where block 2 lists the manifest again. -/
theorem walk_exact_circle : ∃ second graph,
    sharedManifest.Walked (shared [⟨⟨1, ⟨1⟩⟩, .manifest, 0, false, 0⟩]) none 64 second graph ∧
    ∀ reference, (∃ node ∈ graph.nodes, node.requirement.reference = reference) ↔ .block reference ∈
      Worklist.reach (shared [⟨⟨1, ⟨1⟩⟩, .manifest, 0, false, 0⟩]).grid.Names sharedManifest.roots := by
  obtain ⟨second, graph, walked⟩ := @shared_walked [⟨⟨1, ⟨1⟩⟩, .manifest, 0, false, 0⟩] (by decide)
  exact ⟨second, graph, walked, ((walk_exact _).2.2 _ _ _ _ _ walked).1⟩

/-- Block 3 requires block 2 in snapshot 9 after block 2 has been read. -/
theorem shared_stated : (shared []).grid.States (sharedManifest.Starts (shared []) none) ⟨⟨2, ⟨2⟩⟩, .value, 9, true, 0⟩ := by
  have hmanifest : (shared []).grid.States (sharedManifest.Starts (shared []) none) (manifestRequirement ⟨1, ⟨1⟩⟩) :=
    .first (.inl ⟨_, by decide, rfl⟩)
  have hindex : (shared []).grid.States (sharedManifest.Starts (shared []) none) ⟨⟨3, ⟨3⟩⟩, .index, 0, false, 0⟩ :=
    hmanifest.listed rfl rfl (by decide)
  exact hindex.listed rfl rfl (by decide)

theorem walk_accepts_other_snapshot : ∃ second graph, sharedManifest.Walked (shared []) none 64 second graph ∧
    ¬ sharedManifest.Enforced (shared []) none := by
  obtain ⟨second, graph, walked⟩ := @shared_walked [] (by decide)
  refine ⟨second, graph, walked, fun enforced => ?_⟩
  obtain ⟨block, hread, hmet⟩ := enforced _ shared_stated
  cases hread
  exact absurd hmet (by decide)

theorem walk_enforces_iff_shared : ∃ second graph, sharedManifest.Walked (shared []) none 64 second graph ∧
    (sharedManifest.Enforced (shared []) none ↔ sharedManifest.Settled (shared []) none) := by
  obtain ⟨second, graph, walked⟩ := @shared_walked [] (by decide)
  exact ⟨second, graph, walked, walk_enforces_iff walked⟩

end Supervsr
