import Mathlib.Data.List.Nodup
import Supervsr.Checkpoint
import Supervsr.Lib.Worklist

/-
# Supervsr.CheckpointGraph — the blocks a checkpoint reaches

Before a checkpoint is written, `checkpoint_reachability.go` walks the blocks the state machine wants to keep: the
chain of manifests from the newest to the oldest, the root, and all that the validator names in their bodies.
Each address is visited once.  The walk is a worklist in the sense of `Lib.Worklist`, and what it accepts is what
is reachable.
-/

namespace Supervsr

/-- `protocol.BlockType`. -/
inductive BlockType where
  | reserved
  | freeSet
  | clientSessions
  | manifest
  | index
  | value
  | other (code : Nat)
deriving DecidableEq, Repr

/-- From `BlockManifest` to `BlockValue`. -/
def BlockType.isApplication : BlockType → Bool
  | .manifest | .index | .value => true
  | _ => false

/-- From `BlockFreeSet` to `BlockValue`. -/
def BlockType.isStored : BlockType → Bool
  | .freeSet | .clientSessions => true
  | type => type.isApplication

structure BlockReference (χ : Type) where
  address : Nat
  checksum : χ
deriving DecidableEq, Repr

structure BlockRequirement (χ : Type) where
  reference : BlockReference χ
  type : BlockType
  snapshot : Nat
  snapshotExact : Bool
  bodySize : Nat
deriving DecidableEq, Repr

/-- A block as `BlockStore.Read` returns it: its type, its snapshot, the size of its body, and of its metadata the
reference to the previous block of its chain and the number of entries. -/
structure Block (χ : Type) where
  type : BlockType
  snapshot : Nat
  bodySize : Nat
  previous : BlockReference χ
  entries : Nat
deriving DecidableEq, Repr

structure CheckpointManifest (χ : Type) where
  oldest : BlockReference χ
  newest : BlockReference χ
  root : BlockReference χ
  blockCount : Nat
deriving DecidableEq, Repr

variable {χ : Type} [DecidableEq χ] [Checksums χ] {requirement : BlockRequirement χ} {block : Block χ}
  {required : List (BlockRequirement χ)} {rounds remaining : Nat}

/-- `BlockReference{}`. -/
def BlockReference.zero : BlockReference χ := ⟨0, Checksums.zero⟩

/-- A reference that names a block. -/
def BlockReference.named (reference : BlockReference χ) : Bool :=
  reference.address ≠ 0 ∧ reference.checksum ≠ Checksums.zero

/-- The blocks behind references, and `ValidateBlock`, which lists what a block requires. -/
structure BlockGraph (χ : Type) where
  block : BlockReference χ → Option (Block χ)
  requirements : BlockReference χ → Block χ → Option (List (BlockRequirement χ))

/-- Blocks that have been written.  A reference carries the checksum of a block whose body and metadata hold the
references it makes, so references do not go round in circles. -/
structure Grid (χ : Type) [Checksums χ] extends BlockGraph χ where
  rank : BlockReference χ → Nat
  previous_lt : ∀ {reference : BlockReference χ} {block' : Block χ}, block reference = some block' →
    block'.previous ≠ .zero → rank block'.previous < rank reference
  requirements_lt : ∀ {reference : BlockReference χ} {block' : Block χ} {required : List (BlockRequirement χ)}
    {requirement : BlockRequirement χ}, block reference = some block' → requirements reference block' = some required →
    requirement ∈ required → rank requirement.reference < rank reference

instance : Coe (Grid χ) (BlockGraph χ) := ⟨Grid.toBlockGraph⟩

/-- `ValidateBlock` with a buffer for `size` requirements. -/
def BlockGraph.validateBlock (grid : BlockGraph χ) (size : Nat) (reference : BlockReference χ) (block : Block χ) :
    Option (List (BlockRequirement χ)) :=
  (grid.requirements reference block).filter fun required => required.length ≤ size

/-- What a block must be to meet a requirement. -/
def BlockRequirement.metBy (requirement : BlockRequirement χ) (block : Block χ) : Bool :=
  block.type = requirement.type ∧ (requirement.snapshotExact → block.snapshot = requirement.snapshot) ∧
    (requirement.bodySize ≠ 0 → block.bodySize = requirement.bodySize)

/-! ## The walk -/

/-- `checkpointGraphNode`. -/
structure GraphNode (χ : Type) where
  requirement : BlockRequirement χ
  processed : Bool
deriving DecidableEq, Repr

/-- `checkpointGraph`.  `byAddress` is a search in the nodes, and the stack holds addresses. -/
structure CheckpointGraph (χ : Type) where
  nodes : List (GraphNode χ)
  stack : List Nat
deriving DecidableEq, Repr

/-- The writer's side: its blocks, `CheckpointMax`, and which addresses the allocator knows and holds. -/
structure GraphWriter (χ : Type) where
  grid : BlockGraph χ
  limit : Nat
  indexed : Nat → Bool
  held : Nat → Bool

/-- A writer of blocks that do not go round in circles. -/
structure CheckpointWriter (χ : Type) [Checksums χ] where
  grid : Grid χ
  limit : Nat
  indexed : Nat → Bool
  held : Nat → Bool

/-- The walk of such a writer. -/
def CheckpointWriter.walker (writer : CheckpointWriter χ) : GraphWriter χ :=
  ⟨writer.grid, writer.limit, writer.indexed, writer.held⟩

def checkpointRequirementsConflict (known candidate : BlockRequirement χ) : Bool :=
  if known.reference ≠ candidate.reference ∨ known.type ≠ candidate.type then true
  else if known.snapshotExact ∧ candidate.snapshotExact ∧ known.snapshot ≠ candidate.snapshot then true
  else known.bodySize ≠ 0 ∧ candidate.bodySize ≠ 0 ∧ known.bodySize ≠ candidate.bodySize

/-- A known requirement, made more exact by another one for the same block. -/
def BlockRequirement.refine (known candidate : BlockRequirement χ) : BlockRequirement χ :=
  { known with
    snapshot := if candidate.snapshotExact then candidate.snapshot else known.snapshot
    snapshotExact := known.snapshotExact || candidate.snapshotExact
    bodySize := if candidate.bodySize ≠ 0 then candidate.bodySize else known.bodySize }

namespace CheckpointGraph

/-- `byAddress`. -/
def find (graph : CheckpointGraph χ) (address : Nat) : Option (GraphNode χ) :=
  graph.nodes.find? fun node => node.requirement.reference.address = address

def update (graph : CheckpointGraph χ) (address : Nat) (change : GraphNode χ → GraphNode χ) : CheckpointGraph χ :=
  { graph with nodes := graph.nodes.map fun node =>
      if node.requirement.reference.address = address then change node else node }

def enqueue (writer : GraphWriter χ) (graph : CheckpointGraph χ) (requirement : BlockRequirement χ) :
    Option (CheckpointGraph χ) :=
  let address := requirement.reference.address
  if ¬ requirement.reference.named ∨ ¬ requirement.type.isApplication then none
  else if ¬ writer.indexed address then none
  else
    match graph.find address with
    | some known =>
      if checkpointRequirementsConflict known.requirement requirement then none
      else some (graph.update address fun node => { node with requirement := node.requirement.refine requirement })
    | none =>
      if ¬ writer.held address then none
      else if writer.limit ≤ graph.nodes.length then none
      else some ⟨graph.nodes ++ [⟨requirement, false⟩], address :: graph.stack⟩

/-- `process`, on a node that has not been processed. -/
def process (writer : GraphWriter χ) (graph : CheckpointGraph χ) (address : Nat) :
    Option (Block χ × CheckpointGraph χ) := do
  let node ← graph.find address
  let reference := node.requirement.reference
  let block ← writer.grid.block reference
  if ¬ node.requirement.metBy block then none
  else
    let required ← writer.grid.validateBlock writer.limit reference block
    if node.requirement.type = .manifest ∧ required.length ≠ block.entries then none
    else
      let graph := graph.update address fun node => { node with processed := true }
      let graph ← required.foldlM (CheckpointGraph.enqueue writer) graph
      return (block, graph)

/-- `visitManifestChain`, with `remaining` blocks to come. -/
def visitManifestChain (writer : GraphWriter χ) (oldest : BlockReference χ) :
    Nat → BlockReference χ → CheckpointGraph χ → Option (CheckpointGraph χ)
  | 0, _, graph => some graph
  | remaining + 1, current, graph =>
    if (graph.find current.address).isSome then none
    else do
      let graph ← graph.enqueue writer ⟨current, .manifest, 0, false, 0⟩
      let (block, graph) ← graph.process writer current.address
      if remaining = 0 then
        if current ≠ oldest ∨ block.previous ≠ .zero then none else some graph
      else if block.previous = .zero then none
      else visitManifestChain writer oldest remaining block.previous graph

/-- `visitStack`.  Every node is pushed once, so the rounds are bounded. -/
def visitStack (writer : GraphWriter χ) : Nat → CheckpointGraph χ → Option (CheckpointGraph χ)
  | 0, graph => if graph.stack = [] then some graph else none
  | rounds + 1, graph =>
    match graph.stack with
    | [] => some graph
    | address :: rest =>
      let graph := { graph with stack := rest }
      if (graph.find address).any (·.processed) then visitStack writer rounds graph
      else do
        let (_, graph) ← graph.process writer address
        visitStack writer rounds graph

end CheckpointGraph

def validCheckpointManifestShape (manifest : CheckpointManifest χ) : Bool :=
  if manifest.blockCount = 0 then manifest.oldest = .zero ∧ manifest.newest = .zero
  else if manifest.oldest = .zero ∨ manifest.newest = .zero then false
  else manifest.blockCount ≠ 1 ∨ manifest.oldest = manifest.newest

/-- The root of a checkpoint becomes a node; `checkpointRoot` is what the validator says of it. -/
def CheckpointGraph.enqueueRoot (writer : GraphWriter χ) (graph : CheckpointGraph χ) (root : BlockReference χ)
    (checkpointRoot : Option (BlockRequirement χ)) : Option (CheckpointGraph χ) :=
  if root = .zero then some graph
  else
    match checkpointRoot with
    | none => none
    | some requirement => if requirement.reference ≠ root then none else graph.enqueue writer requirement

def checkpointApplicationReachability (writer : GraphWriter χ) (manifest : CheckpointManifest χ)
    (checkpointRoot : Option (BlockRequirement χ)) : Option (CheckpointGraph χ) :=
  if writer.limit < manifest.blockCount then none
  else do
    let graph ← CheckpointGraph.visitManifestChain writer manifest.oldest manifest.blockCount manifest.newest ⟨[], []⟩
    let graph ← graph.enqueueRoot writer manifest.root checkpointRoot
    graph.visitStack writer writer.limit

/-- `resolveCheckpointReachability`, as far as it walks the application's blocks. -/
def resolveCheckpointReachability (writer : CheckpointWriter χ) (manifest : CheckpointManifest χ)
    (checkpointRoot : Option (BlockRequirement χ)) : Option (CheckpointGraph χ) :=
  if ¬ validCheckpointManifestShape manifest then none
  else if manifest.blockCount = 0 ∧ manifest.root = .zero then some ⟨[], []⟩
  else checkpointApplicationReachability writer.walker manifest checkpointRoot

/-! ## What a round does to the nodes -/

/-- Whatever one requirement demands, another demands as well. -/
structure BlockRequirement.Covers (known requirement : BlockRequirement χ) : Prop where
  reference : known.reference = requirement.reference
  type : known.type = requirement.type
  snapshot : requirement.snapshotExact = true → known.snapshotExact = true ∧ known.snapshot = requirement.snapshot
  bodySize : requirement.bodySize ≠ 0 → known.bodySize = requirement.bodySize

section

omit [DecidableEq χ] [Checksums χ]

variable {known : BlockRequirement χ}

theorem BlockRequirement.Covers.refl (requirement : BlockRequirement χ) : requirement.Covers requirement :=
  ⟨rfl, rfl, fun h => ⟨h, rfl⟩, fun _ => rfl⟩

theorem BlockRequirement.Covers.metBy (covers : known.Covers requirement) (met : known.metBy block = true) :
    requirement.metBy block = true := by
  simp only [BlockRequirement.metBy, decide_eq_true_eq] at met ⊢
  refine ⟨met.1.trans covers.type, fun hexact => ?_, fun hsize => ?_⟩
  · obtain ⟨hknown, hsnapshot⟩ := covers.snapshot hexact
    exact (met.2.1 hknown).trans hsnapshot
  · have hknown := covers.bodySize hsize
    exact (met.2.2 (by rwa [hknown])).trans hknown

end

omit [Checksums χ] in
/-- Without a conflict, what is made more exact demands both what it demanded and what is new. -/
theorem BlockRequirement.covers_refine {known : BlockRequirement χ}
    (agree : checkpointRequirementsConflict known requirement = false) :
    (known.refine requirement).Covers requirement ∧ ∀ other, known.Covers other →
      (known.refine requirement).Covers other := by
  simp only [checkpointRequirementsConflict] at agree
  split at agree
  · cases agree
  rename_i hsame
  split at agree
  · cases agree
  rename_i hsnapshot
  simp only [not_or, not_not] at hsame
  simp only [not_and, not_not, decide_eq_false_iff_not] at hsnapshot agree
  refine ⟨⟨hsame.1, hsame.2, fun hexact => ?_, fun hsize => ?_⟩, fun other covers => ?_⟩
  · simp [BlockRequirement.refine, hexact]
  · simp [BlockRequirement.refine, hsize]
  refine ⟨covers.reference, covers.type, fun hexact => ?_, fun hsize => ?_⟩
  · obtain ⟨hknown, hother⟩ := covers.snapshot hexact
    simp only [BlockRequirement.refine, hknown, Bool.true_or, true_and]
    split
    · rename_i hcandidate
      rw [← hsnapshot hknown hcandidate, hother]
    · exact hother
  · have hother := covers.bodySize hsize
    simp only [BlockRequirement.refine]
    split
    · rename_i hcandidate
      rw [← agree (by rwa [hother]) hcandidate, hother]
    · exact hother

/-- The same node later on: it may demand more, and it may be the one that has been processed. -/
structure GraphNode.Becomes (mark : Bool) (node later : GraphNode χ) : Prop where
  processed : later.processed = (node.processed || mark)
  covers : ∀ {requirement : BlockRequirement χ}, node.requirement.Covers requirement → later.requirement.Covers requirement

/-- A node that is new: it waits on the stack. -/
structure GraphNode.Waits (stated : BlockRequirement χ → Prop) (stack : List Nat) (node : GraphNode χ) : Prop where
  processed : node.processed = false
  stack : node.requirement.reference.address ∈ stack
  covers : ∃ requirement, stated requirement ∧ node.requirement.Covers requirement

section

omit [DecidableEq χ] [Checksums χ]

variable {mark : Bool} {node middle later : GraphNode χ}

theorem GraphNode.Becomes.refl (node : GraphNode χ) : node.Becomes false node := ⟨(Bool.or_false _).symm, id⟩

theorem GraphNode.Becomes.trans (first : node.Becomes mark middle) (second : middle.Becomes false later) :
    node.Becomes mark later :=
  ⟨by rw [second.processed, Bool.or_false, first.processed], fun covers => second.covers (first.covers covers)⟩

theorem GraphNode.Becomes.reference (becomes : node.Becomes mark later) :
    later.requirement.reference = node.requirement.reference := (becomes.covers (.refl _)).reference

theorem GraphNode.Becomes.type (becomes : node.Becomes mark later) :
    later.requirement.type = node.requirement.type := (becomes.covers (.refl _)).type

end

namespace CheckpointGraph

variable {writer : GraphWriter χ} {graph next : CheckpointGraph χ} {address : Nat}
  {node : GraphNode χ}

/-- No two nodes have the same address. -/
def Distinct (graph : CheckpointGraph χ) : Prop := (graph.nodes.map (·.requirement.reference.address)).Nodup

/-- A node demands all that a requirement does. -/
def Covered (graph : CheckpointGraph χ) (requirement : BlockRequirement χ) : Prop :=
  ∃ node ∈ graph.nodes, node.requirement.Covers requirement

/-- How the nodes change: the one at the address `mark` is processed, each may come to demand more, and new ones demand
what is stated. -/
structure Grows (stated : BlockRequirement χ → Prop) (mark : Nat → Bool) (graph next : CheckpointGraph χ) : Prop where
  kept : ∀ node ∈ graph.nodes, ∃ later ∈ next.nodes, node.Becomes (mark node.requirement.reference.address) later
  origin : ∀ later ∈ next.nodes,
    (∃ node ∈ graph.nodes, node.Becomes (mark node.requirement.reference.address) later) ∨ later.Waits stated next.stack
  stack : graph.stack ⊆ next.stack

section

omit [DecidableEq χ] [Checksums χ]

variable {stated : BlockRequirement χ → Prop} {mark : Nat → Bool}

theorem find_eq_some (found : graph.find address = some node) :
    node ∈ graph.nodes ∧ node.requirement.reference.address = address :=
  ⟨List.mem_of_find?_eq_some found, by simpa using List.find?_some found⟩

theorem Distinct.unique (distinct : graph.Distinct) {left right : GraphNode χ} (hleft : left ∈ graph.nodes)
    (hright : right ∈ graph.nodes)
    (same : left.requirement.reference.address = right.requirement.reference.address) : left = right :=
  List.inj_on_of_nodup_map distinct hleft hright same

theorem Distinct.find (distinct : graph.Distinct) (known : node ∈ graph.nodes) :
    graph.find node.requirement.reference.address = some node := by
  cases hfind : graph.find node.requirement.reference.address with
  | none => exact absurd (decide_eq_true rfl) (List.find?_eq_none.1 hfind node known)
  | some other =>
    obtain ⟨hmem, hplace⟩ := find_eq_some hfind
    rw [distinct.unique hmem known hplace]

theorem Grows.refl (graph : CheckpointGraph χ) : Grows stated (fun _ => false) graph graph :=
  ⟨fun node h => ⟨node, h, .refl node⟩, fun node h => .inl ⟨node, h, .refl node⟩, fun _ => id⟩

theorem Grows.trans {middle : CheckpointGraph χ} (first : Grows stated mark graph middle)
    (second : Grows stated (fun _ => false) middle next) : Grows stated mark graph next where
  kept := by
    intro node hnode
    obtain ⟨other, hother, hfirst⟩ := first.kept node hnode
    obtain ⟨later, hlater, hsecond⟩ := second.kept other hother
    exact ⟨later, hlater, hfirst.trans hsecond⟩
  origin := by
    intro later hlater
    obtain ⟨other, hother, hsecond⟩ | hnew := second.origin later hlater
    · obtain ⟨node, hnode, hfirst⟩ | hnew := first.origin other hother
      · exact .inl ⟨node, hnode, hfirst.trans hsecond⟩
      obtain ⟨requirement, hstated, hcovers⟩ := hnew.covers
      refine .inr ⟨?_, ?_, requirement, hstated, hsecond.covers hcovers⟩
      · rw [hsecond.processed, hnew.processed, Bool.or_false]
      · rw [hsecond.reference]
        exact second.stack hnew.stack
    · exact .inr hnew
  stack := fun _ h => second.stack (first.stack h)

theorem Grows.of_map {change : GraphNode χ → GraphNode χ}
    (becomes : ∀ node ∈ graph.nodes, node.Becomes (mark node.requirement.reference.address) (change node)) :
    Grows stated mark graph ⟨graph.nodes.map change, graph.stack⟩ := by
  refine ⟨fun node h => ⟨_, List.mem_map_of_mem h, becomes node h⟩, fun later h => ?_, fun _ => id⟩
  obtain ⟨node, hnode, rfl⟩ := List.mem_map.1 h
  exact .inl ⟨node, hnode, becomes node hnode⟩

theorem Grows.covered (grows : Grows stated mark graph next) (covered : graph.Covered requirement) :
    next.Covered requirement := by
  obtain ⟨node, hnode, hcovers⟩ := covered
  obtain ⟨later, hlater, hbecomes⟩ := grows.kept node hnode
  exact ⟨later, hlater, hbecomes.covers hcovers⟩

theorem Distinct.update (distinct : graph.Distinct) {change : GraphNode χ → GraphNode χ}
    (same : ∀ node, (change node).requirement.reference = node.requirement.reference) :
    (graph.update address change).Distinct := by
  have hsame : ∀ node : GraphNode χ, (if node.requirement.reference.address = address then change node
      else node).requirement.reference.address = node.requirement.reference.address := by
    intro node
    split
    · rw [same]
    · rfl
  unfold Distinct CheckpointGraph.update
  rw [List.map_map]
  exact (List.map_congr_left fun node _ => hsame node) ▸ distinct

end

/-- What `enqueue` leaves: a node for the requirement. -/
structure Enqueued (requirement : BlockRequirement χ) (graph next : CheckpointGraph χ) : Prop where
  named : requirement.reference.named = true
  application : requirement.type.isApplication = true
  distinct : next.Distinct
  covered : next.Covered requirement
  grows : ∀ {stated : BlockRequirement χ → Prop}, stated requirement → Grows stated (fun _ => false) graph next

theorem enqueued_of_enqueue (distinct : graph.Distinct) (enqueues : graph.enqueue writer requirement = some next) :
    Enqueued requirement graph next := by
  unfold enqueue at enqueues
  simp only at enqueues
  split at enqueues
  · cases enqueues
  rename_i hvalid
  rw [not_or, not_not, not_not] at hvalid
  split at enqueues
  · cases enqueues
  split at enqueues
  · rename_i known hknown
    split at enqueues
    · cases enqueues
    rename_i hconflict
    cases enqueues
    obtain ⟨hnode, haddress⟩ := find_eq_some hknown
    obtain ⟨hcovers, hmore⟩ := BlockRequirement.covers_refine (Bool.eq_false_of_not_eq_true hconflict)
    refine ⟨hvalid.1, hvalid.2, distinct.update fun _ => rfl,
      ⟨_, List.mem_map.2 ⟨known, hnode, if_pos haddress⟩, hcovers⟩, fun _ => .of_map fun node hmem => ?_⟩
    split
    · rename_i hplace
      rw [distinct.unique hmem hnode (hplace.trans haddress.symm)]
      exact ⟨(Bool.or_false _).symm, hmore _⟩
    · exact .refl node
  · rename_i hnone
    split at enqueues
    · cases enqueues
    split at enqueues
    · cases enqueues
    cases enqueues
    have hnew : ∀ node ∈ graph.nodes, node.requirement.reference.address ≠ requirement.reference.address := by
      simpa using List.find?_eq_none.1 hnone
    refine ⟨hvalid.1, hvalid.2, ?_, ⟨⟨requirement, false⟩, by simp, .refl requirement⟩, fun hstated =>
      ⟨fun node h => ⟨node, List.mem_append_left _ h, .refl node⟩, fun later h => ?_, fun _ => List.mem_cons_of_mem _⟩⟩
    · unfold Distinct at distinct ⊢
      simpa [List.nodup_append, distinct] using hnew
    obtain h | h := List.mem_append.1 h
    · exact .inl ⟨later, h, .refl later⟩
    · cases List.mem_singleton.1 h
      exact .inr ⟨rfl, List.mem_cons_self .., requirement, hstated, .refl requirement⟩

/-- What the loop over the requirements of a block leaves. -/
structure Extended (required : List (BlockRequirement χ)) (mark : Nat → Bool) (graph next : CheckpointGraph χ) : Prop where
  valid : ∀ requirement ∈ required, requirement.reference.named = true ∧ requirement.type.isApplication = true ∧
    next.Covered requirement
  distinct : next.Distinct
  grows : ∀ {stated : BlockRequirement χ → Prop}, (∀ requirement ∈ required, stated requirement) →
    Grows stated mark graph next

theorem extended_of_foldlM (distinct : graph.Distinct)
    (enqueues : required.foldlM (CheckpointGraph.enqueue writer) graph = some next) :
    Extended required (fun _ => false) graph next := by
  induction required generalizing graph with
  | nil =>
    cases enqueues
    exact ⟨by simp, distinct, fun _ => .refl _⟩
  | cons requirement rest ih =>
    rw [List.foldlM_cons] at enqueues
    obtain ⟨middle, hmiddle, hrest⟩ := Option.bind_eq_some_iff.1 enqueues
    have henqueued := enqueued_of_enqueue distinct hmiddle
    have hextended := ih henqueued.distinct hrest
    refine ⟨?_, hextended.distinct, fun hstated => ?_⟩
    · rw [List.forall_mem_cons]
      exact ⟨⟨henqueued.named, henqueued.application, (hextended.grows fun other h => h).covered henqueued.covered⟩,
        hextended.valid⟩
    · rw [List.forall_mem_cons] at hstated
      exact (henqueued.grows hstated.1).trans (hextended.grows hstated.2)

/-- What `process` leaves: the block it has read is done, and all it requires is among the nodes. -/
structure Processed (writer : GraphWriter χ) (graph next : CheckpointGraph χ) (node : GraphNode χ) (block : Block χ)
    (required : List (BlockRequirement χ)) : Prop where
  find : graph.find node.requirement.reference.address = some node
  met : node.requirement.metBy block = true
  read : writer.grid.block node.requirement.reference = some block
  requires : writer.grid.requirements node.requirement.reference block = some required
  extended : Extended required (fun address => node.requirement.reference.address = address) graph next

theorem processed_of_process (distinct : graph.Distinct)
    (processes : graph.process writer address = some (block, next)) :
    ∃ node required, node.requirement.reference.address = address ∧
      Processed writer graph next node block required := by
  unfold process at processes
  obtain ⟨node, hnode, processes⟩ := Option.bind_eq_some_iff.1 processes
  obtain ⟨read, hread, processes⟩ := Option.bind_eq_some_iff.1 processes
  obtain ⟨-, rfl⟩ := find_eq_some hnode
  split at processes
  · cases processes
  rename_i hmet
  obtain ⟨required, hrequired, processes⟩ := Option.bind_eq_some_iff.1 processes
  split at processes
  · cases processes
  obtain ⟨last, hlast, hresult⟩ := Option.bind_eq_some_iff.1 processes
  cases hresult
  have hmarked : (graph.update node.requirement.reference.address fun node => { node with processed := true }).Distinct :=
    distinct.update fun _ => rfl
  have hextended := extended_of_foldlM hmarked hlast
  rw [not_not] at hmet
  refine ⟨node, required, rfl, hnode, hmet, hread, (Option.filter_eq_some_iff.1 hrequired).1, hextended.valid,
    hextended.distinct, fun hstated => .trans (.of_map fun other _ => ?_) (hextended.grows hstated)⟩
  split
  · rename_i hplace
    exact ⟨by simp [hplace], id⟩
  · rename_i hplace
    exact ⟨by simp [Ne.symm hplace], id⟩

theorem Processed.typed (processed : Processed writer graph next node block required) :
    block.type = node.requirement.type := by
  have hmet := processed.met
  simp only [BlockRequirement.metBy, decide_eq_true_eq] at hmet
  exact hmet.1

end CheckpointGraph

/-! ## The items of the walk -/

/-- A block for what it requires; a block of the chain of manifests with the number of blocks from it on; a block of a
trailer with the number of bytes from it on. -/
inductive GraphItem (χ : Type) where
  | block (reference : BlockReference χ)
  | chain (reference : BlockReference χ) (remaining : Nat)
  | trailer (type : BlockType) (reference : BlockReference χ) (bytes : Nat)

/-- The block of an item. -/
def GraphItem.reference : GraphItem χ → BlockReference χ
  | .block reference | .chain reference _ | .trailer _ reference _ => reference

/-- What an item names. -/
inductive BlockGraph.Names (grid : BlockGraph χ) : GraphItem χ → GraphItem χ → Prop where
  | requirement {reference : BlockReference χ} {block : Block χ} {required : List (BlockRequirement χ)}
      {requirement : BlockRequirement χ} (read : grid.block reference = some block)
      (requires : grid.requirements reference block = some required) (mem : requirement ∈ required) :
      Names grid (.block reference) (.block requirement.reference)
  | manifest (reference : BlockReference χ) (remaining : Nat) :
      Names grid (.chain reference (remaining + 1)) (.block reference)
  | older {reference : BlockReference χ} {block : Block χ} (remaining : Nat) (read : grid.block reference = some block) :
      Names grid (.chain reference (remaining + 2)) (.chain block.previous (remaining + 1))
  | trailer {type : BlockType} {reference : BlockReference χ} {block : Block χ} {bytes : Nat}
      (read : grid.block reference = some block) (more : block.bodySize < bytes) :
      Names grid (.trailer type reference bytes) (.trailer type block.previous (bytes - block.bodySize))

/-- A block that can be taken up: it is there, and its requirements name blocks of the types they say. -/
structure BlockGraph.Readable (grid : BlockGraph χ) (reference : BlockReference χ) (block : Block χ)
    (required : List (BlockRequirement χ)) : Prop where
  named : reference.named = true
  read : grid.block reference = some block
  application : block.type.isApplication = true
  requires : grid.requirements reference block = some required

/-- The requirements a walk meets: those it starts from, and what is listed for the blocks they require. -/
inductive BlockGraph.States (grid : BlockGraph χ) (first : BlockRequirement χ → Prop) : BlockRequirement χ → Prop where
  | first {requirement : BlockRequirement χ} (mem : first requirement) : States grid first requirement
  | listed {parent requirement : BlockRequirement χ} {block : Block χ} {required : List (BlockRequirement χ)}
      (stated : States grid first parent) (read : grid.block parent.reference = some block)
      (requires : grid.requirements parent.reference block = some required) (mem : requirement ∈ required) :
      States grid first requirement

/-- A block of the chain of manifests: the last one, and only that one, has no previous block. -/
structure BlockGraph.Chained (grid : BlockGraph χ) (reference : BlockReference χ) (remaining : Nat) (block : Block χ) : Prop where
  named : reference.named = true
  read : grid.block reference = some block
  manifest : block.type = .manifest
  last : block.previous = .zero ↔ remaining = 1

/-- A chain of so many manifests, from the newest to the oldest: each names the one before it, the oldest none. -/
inductive BlockGraph.ManifestChain (grid : BlockGraph χ) (oldest : BlockReference χ) :
    Nat → BlockReference χ → List (BlockReference χ) → Prop where
  | empty {reference : BlockReference χ} : ManifestChain grid oldest 0 reference []
  | link {reference : BlockReference χ} {remaining : Nat} {block : Block χ} {chain : List (BlockReference χ)}
      (chained : grid.Chained reference (remaining + 1) block) (last : remaining = 0 → reference = oldest)
      (rest : ManifestChain grid oldest remaining block.previous chain) :
      ManifestChain grid oldest (remaining + 1) reference (reference :: chain)

namespace CheckpointGraph

variable {writer : GraphWriter χ} {graph next : CheckpointGraph χ} {roots pending visited : Set (GraphItem χ)}
  {first : BlockRequirement χ → Prop} {reads : List (BlockReference χ)} {node : GraphNode χ}

/-- The blocks of the nodes that have been processed, or of those that have not. -/
def items (graph : CheckpointGraph χ) (processed : Bool) : Set (GraphItem χ) :=
  {item | ∃ node ∈ graph.nodes, node.processed = processed ∧ item = .block node.requirement.reference}

/-- What the nodes demand.  Each comes from a requirement that was met, and the block was checked against that one when
it was processed; what the block requires then became nodes. -/
structure Demands (grid : BlockGraph χ) (first : BlockRequirement χ → Prop) (graph : CheckpointGraph χ) : Prop where
  origin : ∀ node ∈ graph.nodes, ∃ requirement, grid.States first requirement ∧ node.requirement.Covers requirement ∧
    (node.processed = true → ∀ block ∈ grid.block requirement.reference, requirement.metBy block = true)
  closed : ∀ node ∈ graph.nodes, node.processed = true → ∃ block required,
    grid.block node.requirement.reference = some block ∧ block.type = node.requirement.type ∧
    grid.requirements node.requirement.reference block = some required ∧
    ∀ requirement ∈ required, graph.Covered requirement

/-- The walk on its way.  `pending` is what is still to come beside the nodes, `visited` the part of the chain of
manifests that has been visited, and `reads` are the blocks that have been read. -/
structure Visits (writer : GraphWriter χ) (first : BlockRequirement χ → Prop) (roots pending visited : Set (GraphItem χ))
    (reads : List (BlockReference χ)) (graph : CheckpointGraph χ) : Prop where
  distinct : graph.Distinct
  named : ∀ node ∈ graph.nodes, node.requirement.reference.named = true ∧ node.requirement.type.isApplication = true
  waiting : ∀ node ∈ graph.nodes, node.processed = false → node.requirement.reference.address ∈ graph.stack
  demands : graph.Demands writer.grid first
  chained : ∀ item ∈ visited, ∃ reference remaining block, item = .chain reference remaining ∧
    writer.grid.Chained reference remaining block
  explores : Worklist.Explores writer.grid.Names roots (graph.items false ∪ pending) (graph.items true ∪ visited)
  read : ∀ reference, .block reference ∈ graph.items true ↔ reference ∈ reads
  once : (reads.map BlockReference.address).Nodup

/-! ### What nodes that grow keep -/

section

omit [DecidableEq χ] [Checksums χ]

variable {stated : BlockRequirement χ → Prop} {mark : Nat → Bool}

theorem Grows.waiting (grows : Grows stated mark graph next)
    (old : ∀ node ∈ graph.nodes, node.processed = false → mark node.requirement.reference.address = false →
      node.requirement.reference.address ∈ graph.stack) :
    ∀ node ∈ next.nodes, node.processed = false → node.requirement.reference.address ∈ next.stack := by
  intro later hlater hflag
  obtain ⟨node, hnode, hbecomes⟩ | hwaits := grows.origin later hlater
  · rw [hbecomes.processed, Bool.or_eq_false_iff] at hflag
    rw [hbecomes.reference]
    exact grows.stack (old node hnode hflag.1 hflag.2)
  · exact hwaits.stack

/-- A node that is marked is one whose block has been checked and whose requirements are nodes. -/
theorem Demands.grows {grid : BlockGraph χ} (demands : graph.Demands grid first)
    (grows : Grows (grid.States first) mark graph next)
    (marked : ∀ node ∈ graph.nodes, mark node.requirement.reference.address = true → ∃ block required,
      grid.block node.requirement.reference = some block ∧ node.requirement.metBy block = true ∧
      grid.requirements node.requirement.reference block = some required ∧
      ∀ requirement ∈ required, next.Covered requirement) : next.Demands grid first := by
  refine ⟨fun later hlater => ?_, fun later hlater hprocessed => ?_⟩
  · obtain ⟨node, hnode, hbecomes⟩ | hwaits := grows.origin later hlater
    · obtain ⟨requirement, hstated, hcovers, hmet⟩ := demands.origin node hnode
      refine ⟨requirement, hstated, hbecomes.covers hcovers, fun hprocessed block hblock => ?_⟩
      rw [hbecomes.processed, Bool.or_eq_true] at hprocessed
      obtain hflag | hmark := hprocessed
      · exact hmet hflag block hblock
      obtain ⟨other, -, hread, hchecked, -⟩ := marked node hnode hmark
      rw [← hcovers.reference, hread] at hblock
      cases hblock
      exact hcovers.metBy hchecked
    · obtain ⟨requirement, hstated, hcovers⟩ := hwaits.covers
      exact ⟨requirement, hstated, hcovers, fun h => absurd (hwaits.processed.symm.trans h) (by decide)⟩
  · obtain ⟨node, hnode, hbecomes⟩ | hwaits := grows.origin later hlater
    · rw [hbecomes.processed, Bool.or_eq_true] at hprocessed
      rw [hbecomes.reference, hbecomes.type]
      obtain hflag | hmark := hprocessed
      · obtain ⟨block, required, hread, htype, hrequires, hlist⟩ := demands.closed node hnode hflag
        exact ⟨block, required, hread, htype, hrequires, fun requirement h => grows.covered (hlist requirement h)⟩
      · obtain ⟨block, required, hread, hchecked, hrequires, hlist⟩ := marked node hnode hmark
        simp only [BlockRequirement.metBy, decide_eq_true_eq] at hchecked
        exact ⟨block, required, hread, hchecked.1, hrequires, hlist⟩
    · exact absurd (hwaits.processed.symm.trans hprocessed) (by decide)

theorem Covered.item (covered : graph.Covered requirement) :
    .block requirement.reference ∈ graph.items false ∪ graph.items true := by
  obtain ⟨node, hnode, hcovers⟩ := covered
  rw [← hcovers.reference]
  cases hflag : node.processed with
  | false => exact .inl ⟨node, hnode, hflag, rfl⟩
  | true => exact .inr ⟨node, hnode, hflag, rfl⟩

variable (grows : Grows stated mark graph next)

include grows

theorem Grows.item_kept {item : GraphItem χ} {flag : Bool}
    (known : item ∈ graph.items flag) : item ∈ next.items false ∪ next.items true := by
  obtain ⟨node, hnode, -, rfl⟩ := known
  exact (grows.covered ⟨node, hnode, .refl _⟩).item

theorem Grows.item_origin {item : GraphItem χ} (todo : item ∈ next.items false) :
    item ∈ graph.items false ∨ ∃ requirement, stated requirement ∧ item = .block requirement.reference := by
  obtain ⟨later, hlater, hflag, rfl⟩ := todo
  obtain ⟨node, hnode, hbecomes⟩ | hwaits := grows.origin later hlater
  · rw [hbecomes.processed, Bool.or_eq_false_iff] at hflag
    exact .inl ⟨node, hnode, hflag.1, congrArg GraphItem.block hbecomes.reference⟩
  · obtain ⟨requirement, hstated, hcovers⟩ := hwaits.covers
    exact .inr ⟨requirement, hstated, congrArg GraphItem.block hcovers.reference⟩

theorem Grows.items_done : next.items true = graph.items true ∪
    {item | ∃ node ∈ graph.nodes, mark node.requirement.reference.address = true ∧
      item = .block node.requirement.reference} := by
  ext item
  constructor
  · rintro ⟨later, hlater, hflag, rfl⟩
    obtain ⟨node, hnode, hbecomes⟩ | hwaits := grows.origin later hlater
    · rw [hbecomes.processed, Bool.or_eq_true] at hflag
      rw [hbecomes.reference]
      exact hflag.imp (fun h => ⟨node, hnode, h, rfl⟩) fun h => ⟨node, hnode, h, rfl⟩
    · exact absurd (hwaits.processed.symm.trans hflag) (by decide)
  · rintro (⟨node, hnode, hflag, rfl⟩ | ⟨node, hnode, hflag, rfl⟩)
    all_goals
      obtain ⟨later, hlater, hbecomes⟩ := grows.kept node hnode
      refine ⟨later, hlater, ?_, congrArg GraphItem.block hbecomes.reference.symm⟩
      rw [hbecomes.processed, hflag]
      simp

end

theorem Grows.named {stated : BlockRequirement χ → Prop} {mark : Nat → Bool} (grows : Grows stated mark graph next)
    (old : ∀ node ∈ graph.nodes, node.requirement.reference.named = true ∧ node.requirement.type.isApplication = true)
    (new : ∀ requirement, stated requirement → requirement.reference.named = true ∧ requirement.type.isApplication = true) :
    ∀ node ∈ next.nodes, node.requirement.reference.named = true ∧ node.requirement.type.isApplication = true := by
  intro later hlater
  obtain ⟨node, hnode, hbecomes⟩ | hwaits := grows.origin later hlater
  · rw [hbecomes.reference, hbecomes.type]
    exact old node hnode
  · obtain ⟨requirement, hstated, hcovers⟩ := hwaits.covers
    rw [hcovers.reference, hcovers.type]
    exact new requirement hstated

/-- Processing a node that waits at the top of the stack. -/
theorem Visits.process (visits : Visits writer first roots pending visited reads
      { graph with stack := node.requirement.reference.address :: graph.stack })
    (unprocessed : node.processed = false) (processed : Processed writer graph next node block required) :
    Visits writer first roots pending visited (reads ++ [node.requirement.reference]) next := by
  obtain ⟨hnode, -⟩ := find_eq_some processed.find
  have hunique : ∀ other ∈ graph.nodes,
      decide (node.requirement.reference.address = other.requirement.reference.address) = true → other = node :=
    fun other hother hsame => (visits.distinct.unique hnode hother (of_decide_eq_true hsame)).symm
  have hgrows := processed.extended.grows fun requirement h => h
  have hdone : next.items true = graph.items true ∪ {.block node.requirement.reference} := by
    rw [hgrows.items_done]
    congr 1
    ext item
    constructor
    · rintro ⟨other, hother, hmark, rfl⟩
      rw [hunique other hother hmark]
      rfl
    · rintro rfl
      exact ⟨node, hnode, decide_eq_true rfl, rfl⟩
  obtain ⟨parent, hparent, hcovers, -⟩ := visits.demands.origin node hnode
  refine ⟨processed.extended.distinct, ?_, ?_, ?_, visits.chained, ?_, fun other => ?_, ?_⟩
  · refine hgrows.named visits.named fun requirement h => ?_
    obtain ⟨hnamed, happlication, -⟩ := processed.extended.valid requirement h
    exact ⟨hnamed, happlication⟩
  · refine hgrows.waiting fun other hother hflag hmark => ?_
    refine (List.mem_cons.1 (visits.waiting other hother hflag)).resolve_left fun hsame => ?_
    rw [hsame, decide_eq_true rfl] at hmark
    cases hmark
  · have hdemands : graph.Demands writer.grid first := ⟨visits.demands.origin, visits.demands.closed⟩
    refine hdemands.grows (processed.extended.grows fun requirement h => ?_) ?_
    · exact .listed hparent (hcovers.reference ▸ processed.read) (hcovers.reference ▸ processed.requires) h
    intro other hother hmark
    rw [hunique other hother hmark]
    exact ⟨block, required, processed.read, processed.met, processed.requires,
      fun requirement h => (processed.extended.valid requirement h).2.2⟩
  · rw [hdone, Set.union_assoc, Set.union_comm {_} visited, ← Set.union_assoc]
    refine visits.explores.advance ?_ ?_ ?_ ?_
    · rintro item rfl
      exact .inl ⟨node, hnode, unprocessed, rfl⟩
    · rintro item (hitem | hitem)
      · obtain h | h := hgrows.item_kept hitem
        · exact .inl (.inl h)
        · exact .inr ((hdone ▸ h).imp .inl id)
      · exact .inl (.inr hitem)
    · rintro item other rfl hnames
      cases hnames with
      | requirement read requires mem =>
        cases processed.read.symm.trans read
        cases processed.requires.symm.trans requires
        obtain h | h := (processed.extended.valid _ mem).2.2.item
        · exact .inl (.inl h)
        · exact .inr ((hdone ▸ h).imp .inl id)
    · rintro other (hitem | hitem)
      · obtain h | ⟨requirement, hmem, rfl⟩ := hgrows.item_origin hitem
        · exact .inl (.inl h)
        · exact .inr ⟨_, rfl, .requirement processed.read processed.requires hmem⟩
      · exact .inl (.inr hitem)
  · rw [hdone, List.mem_append, List.mem_singleton, ← visits.read]
    exact or_congr Iff.rfl ⟨fun h => GraphItem.block.inj h, fun h => congrArg GraphItem.block h⟩
  · rw [List.map_append, List.nodup_append]
    refine ⟨visits.once, List.nodup_singleton _, ?_⟩
    rintro address haddress other hother rfl
    obtain ⟨earlier, hearlier, rfl⟩ := List.mem_map.1 haddress
    obtain ⟨known, hknown, hflag, hsame⟩ := (visits.read earlier).2 hearlier
    cases hsame
    rw [visits.distinct.unique hknown hnode (List.mem_singleton.1 hother), unprocessed] at hflag
    cases hflag

/-- The stack may hold more. -/
theorem Visits.push (visits : Visits writer first roots pending visited reads graph) (address : Nat) :
    Visits writer first roots pending visited reads { graph with stack := address :: graph.stack } :=
  ⟨visits.distinct, visits.named, fun node h hflag => List.mem_cons_of_mem _ (visits.waiting node h hflag),
    ⟨visits.demands.origin, visits.demands.closed⟩, visits.chained, visits.explores, visits.read, visits.once⟩

/-- One round of `visitStack`, while there is one. -/
def round (writer : GraphWriter χ) (graph : CheckpointGraph χ) : Option (CheckpointGraph χ) :=
  match graph.stack with
  | [] => none
  | address :: rest =>
    let graph := { graph with stack := rest }
    if (graph.find address).any (·.processed) then some graph else (graph.process writer address).map Prod.snd

theorem visitStack_succ (rounds : Nat) : graph.visitStack writer (rounds + 1) =
    if graph.stack = [] then some graph else (graph.round writer).bind (visitStack writer rounds) := by
  obtain ⟨nodes, stack⟩ := graph
  cases stack with
  | nil => rfl
  | cons address rest =>
    rw [visitStack, if_neg (List.cons_ne_nil _ _), round]
    dsimp only
    by_cases hdone : ((CheckpointGraph.mk nodes rest).find address).any (·.processed) = true
    · rw [if_pos hdone, if_pos hdone]
      rfl
    · rw [if_neg hdone, if_neg hdone]
      cases CheckpointGraph.process writer ⟨nodes, rest⟩ address <;> rfl

/-- The block a round reads, if it is one that reads. -/
def roundReads (graph : CheckpointGraph χ) : List (BlockReference χ) :=
  match graph.stack with
  | [] => []
  | address :: _ => (((graph.find address).filter (!·.processed)).map (·.requirement.reference)).toList

/-- The blocks `visitStack` reads, in order. -/
def stackReads (writer : GraphWriter χ) : Nat → CheckpointGraph χ → List (BlockReference χ)
  | 0, _ => []
  | rounds + 1, graph =>
    match graph.round writer with
    | none => []
    | some next => graph.roundReads ++ stackReads writer rounds next

theorem Visits.round (visits : Visits writer first roots ∅ visited reads graph) (rounds : graph.round writer = some next) :
    Visits writer first roots ∅ visited (reads ++ graph.roundReads) next ∧
      ∀ requirement, graph.Covered requirement → next.Covered requirement := by
  obtain ⟨nodes, stack⟩ := graph
  cases stack with
  | nil => cases rounds
  | cons address rest =>
    have hreads : ∀ node, (CheckpointGraph.mk nodes rest).find address = some node →
        (CheckpointGraph.mk nodes (address :: rest)).roundReads =
          if node.processed then [] else [node.requirement.reference] := by
      intro node hnode
      show (((CheckpointGraph.mk nodes rest).find address).filter _ |>.map _).toList = _
      rw [hnode, Option.filter_some]
      cases node.processed <;> rfl
    unfold CheckpointGraph.round at rounds
    dsimp only at rounds
    split at rounds
    · rename_i hdone
      cases rounds
      obtain ⟨node, hnode, hprocessed⟩ := (Option.any_eq_true ..).1 hdone
      rw [hreads node hnode, if_pos hprocessed, List.append_nil]
      refine ⟨⟨visits.distinct, visits.named, fun other hother hwaits => ?_,
        ⟨visits.demands.origin, visits.demands.closed⟩, visits.chained, visits.explores, visits.read, visits.once⟩,
        fun _ => id⟩
      -- the node that was popped needs no second visit
      refine (List.mem_cons.1 (visits.waiting other hother hwaits)).resolve_left fun haddress => ?_
      obtain ⟨hmem, hplace⟩ := find_eq_some hnode
      rw [visits.distinct.unique hother hmem (haddress.trans hplace.symm), hprocessed] at hwaits
      cases hwaits
    · rename_i hfresh
      obtain ⟨⟨block, last⟩, hprocess, rfl⟩ := Option.map_eq_some_iff.1 rounds
      have hdistinct : (CheckpointGraph.mk nodes rest).Distinct := visits.distinct
      obtain ⟨node, required, rfl, hprocessed⟩ := processed_of_process hdistinct hprocess
      rw [hprocessed.find, Option.any_some] at hfresh
      rw [hreads node hprocessed.find, if_neg hfresh]
      exact ⟨Visits.process visits (Bool.eq_false_of_not_eq_true hfresh) hprocessed,
        fun _ => (hprocessed.extended.grows fun requirement h => h).covered⟩

theorem Visits.stack (visits : Visits writer first roots ∅ visited reads graph)
    (walks : graph.visitStack writer rounds = some next) :
    Visits writer first roots ∅ visited (reads ++ graph.stackReads writer rounds) next ∧ next.stack = [] ∧
      ∀ requirement, graph.Covered requirement → next.Covered requirement := by
  induction rounds generalizing graph reads with
  | zero =>
    rw [visitStack] at walks
    split at walks
    · rename_i hempty
      cases walks
      exact ⟨by simpa [stackReads] using visits, hempty, fun _ => id⟩
    · cases walks
  | succ rounds ih =>
    rw [visitStack_succ] at walks
    split at walks
    · rename_i hempty
      cases walks
      have hnone : next.round writer = none := by rw [CheckpointGraph.round, hempty]
      rw [stackReads, hnone, List.append_nil]
      exact ⟨visits, hempty, fun _ => id⟩
    · obtain ⟨middle, hmiddle, hrest⟩ := Option.bind_eq_some_iff.1 walks
      obtain ⟨hvisits, hcovered⟩ := visits.round hmiddle
      obtain ⟨hlast, hdone, hlater⟩ := ih hvisits hrest
      rw [stackReads, hmiddle]
      exact ⟨by rwa [← List.append_assoc], hdone, fun _ h => hlater _ (hcovered _ h)⟩

/-- A requirement that is to come becomes a node. -/
theorem Visits.enqueue (stated : first requirement)
    (visits : Visits writer first roots ({.block requirement.reference} ∪ pending) visited reads graph)
    (enqueues : graph.enqueue writer requirement = some next) :
    Visits writer first roots pending visited reads next := by
  have henqueued := enqueued_of_enqueue visits.distinct enqueues
  have hgrows : Grows (fun other => other = requirement) _ graph next := henqueued.grows rfl
  have hdone : next.items true = graph.items true := by
    rw [hgrows.items_done]
    simp
  refine ⟨henqueued.distinct, ?_, ?_, ?_, visits.chained, ?_, hdone ▸ visits.read, visits.once⟩
  · refine hgrows.named visits.named ?_
    rintro _ rfl
    exact ⟨henqueued.named, henqueued.application⟩
  · exact hgrows.waiting fun node h hflag _ => visits.waiting node h hflag
  · exact visits.demands.grows (henqueued.grows (.first stated)) fun _ _ h => absurd h Bool.false_ne_true
  rw [hdone]
  refine visits.explores.shrink ?_ ?_
  · rintro item (hitem | hitem)
    · obtain h | ⟨_, rfl, rfl⟩ := hgrows.item_origin hitem
      · exact .inl h
      · exact .inr (.inl rfl)
    · exact .inr (.inr hitem)
  · have hitem : ∀ item, item ∈ next.items false ∪ next.items true →
        item ∈ next.items false ∪ pending ∪ (graph.items true ∪ visited) :=
      fun item h => h.imp .inl fun h => .inl (hdone ▸ h)
    rintro item (h | rfl | h)
    · exact hitem item (hgrows.item_kept h)
    · exact hitem _ henqueued.covered.item
    · exact .inl (.inr h)

/-- The items of a chain that has `remaining` blocks from `reference` on. -/
def chainItem (reference : BlockReference χ) (remaining : Nat) : Set (GraphItem χ) :=
  {item | remaining ≠ 0 ∧ item = .chain reference remaining}

/-- One block of the chain of manifests gives way to the one before it and to what it requires. -/
theorem Visits.follow {current : BlockReference χ}
    (visits : Visits writer first roots (chainItem current (remaining + 1) ∪ pending) visited reads graph)
    (chained : writer.grid.Chained current (remaining + 1) block) :
    Visits writer first roots ({.block current} ∪ (chainItem block.previous remaining ∪ pending)) (visited ∪
      chainItem current (remaining + 1)) reads graph := by
  have htaken : (GraphItem.chain current (remaining + 1)) ∈ chainItem current (remaining + 1) :=
    ⟨Nat.succ_ne_zero _, rfl⟩
  refine ⟨visits.distinct, visits.named, visits.waiting, visits.demands, ?_, ?_, visits.read, visits.once⟩
  · rintro item (hitem | ⟨-, rfl⟩)
    · exact visits.chained item hitem
    · exact ⟨current, remaining + 1, block, rfl, chained⟩
  rw [← Set.union_assoc (graph.items true)]
  refine visits.explores.advance ?_ ?_ ?_ ?_
  · exact fun item hitem => .inr (.inl hitem)
  · rintro item (hitem | hitem | hitem)
    · exact .inl (.inl hitem)
    · exact .inr (.inr hitem)
    · exact .inl (.inr (.inr (.inr hitem)))
  · rintro item other ⟨-, rfl⟩ hnames
    cases hnames with
    | manifest => exact .inl (.inr (.inl rfl))
    | older below read =>
      cases chained.read.symm.trans read
      exact .inl (.inr (.inr (.inl ⟨Nat.succ_ne_zero _, rfl⟩)))
  · rintro other (hitem | rfl | ⟨hremaining, rfl⟩ | hitem)
    · exact .inl (.inl hitem)
    · exact .inr ⟨_, htaken, .manifest ..⟩
    · obtain ⟨below, rfl⟩ := Nat.exists_eq_succ_of_ne_zero hremaining
      exact .inr ⟨_, htaken, .older below chained.read⟩
    · exact .inl (.inr (.inr hitem))

/-- What a block of the chain of manifests is required to be. -/
def manifestRequirement (reference : BlockReference χ) : BlockRequirement χ := ⟨reference, .manifest, 0, false, 0⟩

/-- The blocks `visitManifestChain` reads, in order. -/
def chainReads (writer : GraphWriter χ) : Nat → BlockReference χ → CheckpointGraph χ → List (BlockReference χ)
  | 0, _, _ => []
  | remaining + 1, current, graph =>
    match (graph.enqueue writer (manifestRequirement current)).bind (process writer · current.address) with
    | none => []
    | some (block, next) => current :: chainReads writer remaining block.previous next

theorem Visits.manifests {oldest current : BlockReference χ}
    (visits : Visits writer first roots (chainItem current remaining ∪ pending) visited reads graph)
    (stated : ∀ reference ∈ chainReads writer remaining current graph, first (manifestRequirement reference))
    (walks : visitManifestChain writer oldest remaining current graph = some next) :
    (∃ chain, Visits writer first roots pending chain (reads ++ chainReads writer remaining current graph)
      next) ∧ (∀ requirement, graph.Covered requirement → next.Covered requirement) ∧
      (∀ reference ∈ chainReads writer remaining current graph, next.Covered (manifestRequirement reference)) ∧
      writer.grid.ManifestChain oldest remaining current (chainReads writer remaining current graph) := by
  induction remaining generalizing current visited reads graph with
  | zero =>
    cases walks
    have hnone : chainItem current 0 = ∅ := Set.eq_empty_of_forall_notMem fun item h => h.1 rfl
    rw [hnone, Set.empty_union] at visits
    exact ⟨⟨visited, by simpa [chainReads] using visits⟩, fun _ => id, by simp [chainReads], .empty⟩
  | succ remaining ih =>
    rw [visitManifestChain] at walks
    split at walks
    · cases walks
    rename_i habsent
    obtain ⟨added, hadds, walks⟩ := Option.bind_eq_some_iff.1 walks
    obtain ⟨⟨block, second⟩, hsecond, walks⟩ := Option.bind_eq_some_iff.1 walks
    dsimp only at walks
    have hreads : chainReads writer (remaining + 1) current graph =
        current :: chainReads writer remaining block.previous second := by
      have hboth : (graph.enqueue writer (manifestRequirement current)).bind
          (CheckpointGraph.process writer · current.address) = some (block, second) :=
        Option.bind_eq_some_iff.2 ⟨added, hadds, hsecond⟩
      rw [chainReads, hboth]
    rw [hreads, List.forall_mem_cons] at stated
    -- the node that was just added is the one that is processed
    have henqueued := enqueued_of_enqueue visits.distinct hadds
    have hgrows := henqueued.grows stated.1
    obtain ⟨node, required, haddress, hprocessed⟩ := processed_of_process henqueued.distinct hsecond
    obtain ⟨known, hknown, hcovers⟩ := henqueued.covered
    have hnode := (find_eq_some hprocessed.find).1
    obtain rfl := henqueued.distinct.unique hknown hnode (by rw [haddress, hcovers.reference])
    obtain rfl : known.requirement.reference = current := hcovers.reference
    have hmanifest : known.requirement.type = .manifest := hcovers.type
    have hfresh : known.processed = false := by
      obtain ⟨old, hold, hbecomes⟩ | hwaits := hgrows.origin known hnode
      · rw [hbecomes.reference, visits.distinct.find hold] at habsent
        exact absurd rfl habsent
      · exact hwaits.processed
    have hrest : (block.previous = .zero ↔ remaining + 1 = 1) ∧ (remaining = 0 → known.requirement.reference = oldest) ∧
        visitManifestChain writer oldest remaining block.previous second = some next := by
      split at walks
      · rename_i hlast
        split at walks
        · cases walks
        rename_i hend
        cases walks
        rw [not_or, not_not, not_not] at hend
        exact ⟨by simp [hend.2, hlast], fun _ => hend.1, by rw [hlast, visitManifestChain]⟩
      · rename_i hmore
        split at walks
        · cases walks
        · rename_i hprevious
          exact ⟨by simp [hprevious, hmore], fun h => absurd h hmore, walks⟩
    have hchained : writer.grid.Chained known.requirement.reference (remaining + 1) block :=
      ⟨henqueued.named, hprocessed.read, hprocessed.typed.trans hmanifest, hrest.1⟩
    have hvisits := (visits.follow hchained).enqueue stated.1 hadds
    have hprocess := (hvisits.push known.requirement.reference.address).process hfresh hprocessed
    have hcovered : ∀ requirement, added.Covered requirement → second.Covered requirement :=
      fun _ => (hprocessed.extended.grows fun requirement h => h).covered
    obtain ⟨hchain, hlater, hcovers, hblocks⟩ := ih hprocess stated.2 hrest.2.2
    rw [hreads, List.forall_mem_cons]
    exact ⟨by rwa [List.append_assoc] at hchain, fun requirement h => hlater _ (hcovered _ (hgrows.covered h)),
      ⟨hlater _ (hcovered _ henqueued.covered), hcovers⟩, .link hchained hrest.2.1 hblocks⟩

/-- At the end every node has been processed. -/
theorem Visits.complete (visits : Visits writer first roots ∅ visited reads graph) (done : graph.stack = []) :
    (∀ node ∈ graph.nodes, node.processed = true) ∧
      graph.items true ∪ visited = Worklist.reach writer.grid.Names roots := by
  have hprocessed : ∀ node ∈ graph.nodes, node.processed = true := by
    intro node hnode
    by_contra hflag
    have hwaits := visits.waiting node hnode (Bool.eq_false_of_not_eq_true hflag)
    rw [done] at hwaits
    exact List.not_mem_nil hwaits
  refine ⟨hprocessed, Worklist.Explores.finished ?_⟩
  have hnone : graph.items false = ∅ := by
    refine Set.eq_empty_of_forall_notMem ?_
    rintro item ⟨node, hnode, hflag, -⟩
    rw [hprocessed node hnode] at hflag
    cases hflag
  have hexplores := visits.explores
  rwa [hnone, Set.empty_union] at hexplores

/-! ### The rounds suffice -/

/-- How many rounds the walk can still take. -/
def budget (writer : GraphWriter χ) (graph : CheckpointGraph χ) : Nat :=
  graph.stack.length + (writer.limit - graph.nodes.length)

theorem budget_enqueue (enqueues : graph.enqueue writer requirement = some next) :
    next.budget writer = graph.budget writer := by
  unfold enqueue at enqueues
  simp only at enqueues
  split at enqueues
  · cases enqueues
  split at enqueues
  · cases enqueues
  split at enqueues
  · split at enqueues
    · cases enqueues
    · cases enqueues
      simp [budget, update]
  · split at enqueues
    · cases enqueues
    split at enqueues
    · cases enqueues
    rename_i hroom
    cases enqueues
    simp only [budget, List.length_cons, List.length_append, List.length_nil]
    omega

theorem budget_process {address : Nat} (processes : graph.process writer address = some (block, next)) :
    next.budget writer = graph.budget writer := by
  have hfold : ∀ (required : List (BlockRequirement χ)) {start last : CheckpointGraph χ},
      required.foldlM (CheckpointGraph.enqueue writer) start = some last → last.budget writer = start.budget writer := by
    intro required
    induction required with
    | nil =>
      intro start last hlast
      cases hlast
      rfl
    | cons requirement rest ih =>
      intro start last hlast
      rw [List.foldlM_cons] at hlast
      obtain ⟨middle, hmiddle, hrest⟩ := Option.bind_eq_some_iff.1 hlast
      rw [ih hrest, budget_enqueue hmiddle]
  unfold process at processes
  obtain ⟨node, -, processes⟩ := Option.bind_eq_some_iff.1 processes
  obtain ⟨read, -, processes⟩ := Option.bind_eq_some_iff.1 processes
  split at processes
  · cases processes
  obtain ⟨required, -, processes⟩ := Option.bind_eq_some_iff.1 processes
  split at processes
  · cases processes
  obtain ⟨last, hlast, hresult⟩ := Option.bind_eq_some_iff.1 processes
  cases hresult
  rw [hfold required hlast]
  simp [budget, update]

theorem budget_round (rounds : graph.round writer = some next) : next.budget writer < graph.budget writer := by
  obtain ⟨nodes, stack⟩ := graph
  cases stack with
  | nil => cases rounds
  | cons address rest =>
    have hpop : CheckpointGraph.budget writer ⟨nodes, rest⟩ < CheckpointGraph.budget writer ⟨nodes, address :: rest⟩ := by
      simp only [budget, List.length_cons]
      omega
    unfold round at rounds
    dsimp only at rounds
    split at rounds
    · cases rounds
      exact hpop
    · obtain ⟨⟨block, last⟩, hprocess, rfl⟩ := Option.map_eq_some_iff.1 rounds
      rw [budget_process hprocess]
      exact hpop

/-- The bound on the rounds of `visitStack` is never reached: more rounds change nothing. -/
theorem visitStack_enough (enough : graph.budget writer ≤ rounds) :
    graph.visitStack writer (rounds + 1) = graph.visitStack writer rounds := by
  induction rounds generalizing graph with
  | zero =>
    have hempty : graph.stack = [] := List.length_eq_zero_iff.1 (by unfold budget at enough; omega)
    rw [visitStack, visitStack, hempty, if_pos rfl]
  | succ rounds ih =>
    rw [visitStack_succ, visitStack_succ]
    split
    · rfl
    · refine Option.bind_congr fun next hnext => ih ?_
      have hless := budget_round hnext
      omega

end CheckpointGraph

/-! ## What is accepted -/

/-- The roots of the walk: the newest manifest of a chain, and the root block. -/
def CheckpointManifest.roots (manifest : CheckpointManifest χ) : Set (GraphItem χ) :=
  CheckpointGraph.chainItem manifest.newest manifest.blockCount ∪
    {item | manifest.root ≠ .zero ∧ item = .block manifest.root}

/-- The nodes are the reachable blocks.  Each is there, with requirements of the right types, and the chain of manifests
ends where its count ends. -/
structure CheckpointGraph.Accepted (grid : BlockGraph χ) (roots : Set (GraphItem χ)) (graph : CheckpointGraph χ) : Prop where
  nodes : ∀ reference, (∃ node ∈ graph.nodes, node.requirement.reference = reference) ↔
    .block reference ∈ Worklist.reach grid.Names roots
  readable : ∀ {reference}, .block reference ∈ Worklist.reach grid.Names roots → ∃ block required,
    grid.Readable reference block required ∧ ∀ requirement ∈ required, ∃ other,
      grid.block requirement.reference = some other ∧ other.type = requirement.type
  chained : ∀ {reference remaining}, .chain reference remaining ∈ Worklist.reach grid.Names roots →
    ∃ block, grid.Chained reference remaining block

theorem CheckpointGraph.Visits.accepted {writer : GraphWriter χ} {first : BlockRequirement χ → Prop}
    {roots visited : Set (GraphItem χ)} {reads : List (BlockReference χ)} {graph : CheckpointGraph χ}
    (visits : Visits writer first roots ∅ visited reads graph) (done : graph.stack = []) :
    Accepted writer.grid roots graph := by
  obtain ⟨hprocessed, hreach⟩ := visits.complete done
  have hblock : ∀ reference, (∃ node ∈ graph.nodes, node.requirement.reference = reference) ↔
      .block reference ∈ Worklist.reach writer.grid.Names roots := by
    intro reference
    rw [← hreach]
    constructor
    · rintro ⟨node, hnode, rfl⟩
      exact .inl ⟨node, hnode, hprocessed node hnode, rfl⟩
    rintro (⟨node, hnode, -, hsame⟩ | hitem)
    · exact ⟨node, hnode, (GraphItem.block.inj hsame).symm⟩
    · obtain ⟨_, _, _, hchain, -⟩ := visits.chained _ hitem
      cases hchain
  have hclosed := fun node (hnode : node ∈ graph.nodes) => visits.demands.closed node hnode (hprocessed node hnode)
  refine ⟨hblock, fun {reference} hitem => ?_, fun {reference remaining} hitem => ?_⟩
  · obtain ⟨node, hnode, rfl⟩ := (hblock reference).2 hitem
    obtain ⟨block, required, hread, htype, hrequires, hlist⟩ := hclosed node hnode
    obtain ⟨hnamed, happlication⟩ := visits.named node hnode
    refine ⟨block, required, ⟨hnamed, hread, htype ▸ happlication, hrequires⟩, fun requirement hrequirement => ?_⟩
    obtain ⟨known, hknown, hcovers⟩ := hlist requirement hrequirement
    obtain ⟨other, -, hother, hsame, -⟩ := hclosed known hknown
    exact ⟨other, hcovers.reference ▸ hother, hsame.trans hcovers.type⟩
  · rw [← hreach] at hitem
    obtain ⟨_, -, -, hsame⟩ | hvisited := hitem
    · cases hsame
    · obtain ⟨_, _, block, hsame, hchained⟩ := visits.chained _ hvisited
      cases hsame
      exact ⟨block, hchained⟩

theorem CheckpointGraph.visits_start (writer : GraphWriter χ) (first : BlockRequirement χ → Prop)
    (roots : Set (GraphItem χ)) : Visits writer first roots roots ∅ [] ⟨[], []⟩ := by
  have hnone : ∀ processed, (⟨[], []⟩ : CheckpointGraph χ).items processed = ∅ := by
    refine fun processed => Set.eq_empty_of_forall_notMem ?_
    rintro item ⟨node, hnode, -⟩
    exact List.not_mem_nil hnode
  refine ⟨List.nodup_nil, fun _ h => absurd h List.not_mem_nil, fun _ h => absurd h List.not_mem_nil,
    ⟨fun _ h => absurd h List.not_mem_nil, fun _ h => absurd h List.not_mem_nil⟩,
    fun _ h => absurd h (Set.notMem_empty _), ?_, fun reference => ?_, List.nodup_nil⟩
  · rw [hnone, hnone, Set.empty_union, Set.empty_union]
    exact Worklist.explores_start ..
  · simp [hnone]

/-- The validator says of the root what it is. -/
def CheckpointManifest.Rooted (grid : BlockGraph χ) (manifest : CheckpointManifest χ)
    (checkpointRoot : Option (BlockRequirement χ)) : Prop :=
  manifest.root ≠ .zero → ∃ requirement block, checkpointRoot = some requirement ∧
    requirement.reference = manifest.root ∧ grid.block manifest.root = some block ∧ block.type = requirement.type

/-- The requirements the walk starts from: those of the manifests of the chain, and that of the root. -/
def CheckpointManifest.Starts (writer : GraphWriter χ) (manifest : CheckpointManifest χ)
    (checkpointRoot : Option (BlockRequirement χ)) (requirement : BlockRequirement χ) : Prop :=
  (∃ reference ∈ CheckpointGraph.chainReads writer manifest.blockCount manifest.newest ⟨[], []⟩,
    requirement = CheckpointGraph.manifestRequirement reference) ∨
  manifest.root ≠ .zero ∧ checkpointRoot = some requirement

/-- The chain of manifests, the root and then what is on the stack. -/
structure CheckpointManifest.Walked (writer : GraphWriter χ) (manifest : CheckpointManifest χ)
    (checkpointRoot : Option (BlockRequirement χ)) (rounds : Nat) (second graph : CheckpointGraph χ) : Prop where
  chain : ∃ first, CheckpointGraph.visitManifestChain writer manifest.oldest manifest.blockCount manifest.newest ⟨[], []⟩ =
    some first ∧ first.enqueueRoot writer manifest.root checkpointRoot = some second
  stack : second.visitStack writer rounds = some graph

section

variable {writer : GraphWriter χ} {manifest : CheckpointManifest χ}
  {checkpointRoot : Option (BlockRequirement χ)} {second graph : CheckpointGraph χ}

/-- What has been visited, read and required at the end of a walk. -/
theorem CheckpointManifest.Walked.visits (walked : manifest.Walked writer checkpointRoot rounds second graph) :
    ∃ visited, CheckpointGraph.Visits writer (manifest.Starts writer checkpointRoot) manifest.roots ∅ visited
        (CheckpointGraph.chainReads writer manifest.blockCount manifest.newest ⟨[], []⟩ ++ second.stackReads writer rounds)
        graph ∧
      graph.stack = [] ∧ (∀ requirement, manifest.Starts writer checkpointRoot requirement → graph.Covered requirement) ∧
      (manifest.root ≠ .zero → ∃ requirement, checkpointRoot = some requirement ∧ requirement.reference = manifest.root) ∧
      writer.grid.ManifestChain manifest.oldest manifest.blockCount manifest.newest
        (CheckpointGraph.chainReads writer manifest.blockCount manifest.newest ⟨[], []⟩) := by
  obtain ⟨⟨first, hfirst, hsecond⟩, hwalk⟩ := walked
  have hstart := CheckpointGraph.visits_start writer (manifest.Starts writer checkpointRoot) manifest.roots
  obtain ⟨⟨chain, hchain⟩, -, hcovers, hblocks⟩ :=
    hstart.manifests (fun reference h => .inl ⟨reference, h, rfl⟩) hfirst
  unfold CheckpointGraph.enqueueRoot at hsecond
  split at hsecond
  · rename_i hroot
    cases hsecond
    have hnone : {item | manifest.root ≠ .zero ∧ item = GraphItem.block manifest.root} = ∅ :=
      Set.eq_empty_of_forall_notMem fun item h => h.1 hroot
    rw [hnone] at hchain
    obtain ⟨hlast, hdone, hlater⟩ := hchain.stack hwalk
    refine ⟨chain, hlast, hdone, ?_, fun h => absurd hroot h, hblocks⟩
    rintro requirement (⟨reference, hread, rfl⟩ | ⟨hother, -⟩)
    · exact hlater _ (hcovers reference hread)
    · exact absurd hroot hother
  · rename_i hroot
    cases checkpointRoot with
    | none => cases hsecond
    | some root =>
      dsimp only at hsecond
      split at hsecond
      · cases hsecond
      rename_i hsame
      rw [not_not] at hsame
      have hpending : {item | manifest.root ≠ .zero ∧ item = GraphItem.block manifest.root} =
          {.block root.reference} ∪ ∅ := by
        ext item
        simp [hroot, hsame]
      rw [hpending] at hchain
      have hstated : manifest.Starts writer (some root) root := .inr ⟨hroot, rfl⟩
      have henqueued := CheckpointGraph.enqueued_of_enqueue hchain.distinct hsecond
      obtain ⟨hlast, hdone, hlater⟩ := (hchain.enqueue hstated hsecond).stack hwalk
      refine ⟨chain, hlast, hdone, ?_, fun _ => ⟨root, rfl, hsame⟩, hblocks⟩
      rintro requirement (⟨reference, hread, rfl⟩ | ⟨-, hrequirement⟩)
      · exact hlater _ ((henqueued.grows hstated).covered (hcovers reference hread))
      · cases hrequirement
        exact hlater _ henqueued.covered

end

/-- What `resolveCheckpointReachability` accepts. -/
theorem accepted_of_resolve {writer : CheckpointWriter χ} {manifest : CheckpointManifest χ}
    {checkpointRoot : Option (BlockRequirement χ)} {graph : CheckpointGraph χ}
    (resolves : resolveCheckpointReachability writer manifest checkpointRoot = some graph) :
    CheckpointGraph.Accepted writer.grid manifest.roots graph ∧ manifest.Rooted writer.grid checkpointRoot := by
  unfold resolveCheckpointReachability at resolves
  split at resolves
  · cases resolves
  split at resolves
  · rename_i hempty
    cases resolves
    have hstart := CheckpointGraph.visits_start writer.walker (fun _ => False) manifest.roots
    have hnone : manifest.roots = ∅ := by
      refine Set.eq_empty_of_forall_notMem ?_
      rintro item (⟨hcount, -⟩ | ⟨hroot, -⟩)
      · exact hcount hempty.1
      · exact hroot hempty.2
    rw [hnone] at hstart ⊢
    exact ⟨hstart.accepted rfl, fun hroot => absurd hempty.2 hroot⟩
  unfold checkpointApplicationReachability at resolves
  split at resolves
  · cases resolves
  obtain ⟨first, hfirst, resolves⟩ := Option.bind_eq_some_iff.1 resolves
  obtain ⟨second, hsecond, hwalk⟩ := Option.bind_eq_some_iff.1 resolves
  have hwalked : manifest.Walked writer.walker checkpointRoot _ second graph := ⟨⟨first, hfirst, hsecond⟩, hwalk⟩
  obtain ⟨visited, hvisits, hdone, hcovered, hroot, -⟩ := hwalked.visits
  refine ⟨hvisits.accepted hdone, fun hnamed => ?_⟩
  obtain ⟨requirement, rfl, hsame⟩ := hroot hnamed
  obtain ⟨node, hnode, hcovers⟩ := hcovered requirement (.inr ⟨hnamed, rfl⟩)
  obtain ⟨block, -, hread, htype, -⟩ := hvisits.demands.closed node hnode ((hvisits.complete hdone).1 node hnode)
  rw [hcovers.reference, hsame] at hread
  exact ⟨requirement, block, rfl, hsame, hread, htype.trans hcovers.type⟩

end Supervsr
