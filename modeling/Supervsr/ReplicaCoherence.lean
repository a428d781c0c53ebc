import Supervsr.ReplicaLog

/-
# Supervsr.ReplicaCoherence — what keeps the pipeline of a replica in line with its log, move by move

The ops of the pipeline follow the executed prefix without a gap; a view under installation names every op
above the one the log shares with it; the headers a state sync came with name every op above its checkpoint.
Each of the three rests on the others: a view is recorded against the log, a synced checkpoint is followed by
its headers, and both end in a rebuilt pipeline.  `Coherent` states them together, for a replica that has not
stopped.
-/

namespace Supervsr

open Transition

variable {χ : Type} [DecidableEq χ] [Checksums χ] {cfg : Config} {given : Surroundings χ} {replica : Replica χ}

variable {advanced : PipelineEntry χ} {rest : List (PipelineEntry χ)} {target : Nat}
  {pending : Option (CheckpointState χ)}

/-- What `Coherent` looks at besides the pipeline. -/
structure Ledger (χ : Type) where
  headOp : Nat
  commitMin : Nat
  checkpointOp : Nat
  target : Nat
  pending : Option (CheckpointState χ)
  canonical : List (Option (Header χ))
  frames : Nat
  valid : Bool
  rebuilt : Bool
  window : Bool
  ancestor : Nat
  head : Nat
  count : Nat
  stage : SyncStage
  syncing : Bool
  synced : Bool
  syncHeaders : List (Option (Header χ))
  syncOp : Nat
  syncCommit : Nat
  syncHead : Nat
  resumes : Bool

def Replica.ledger (replica : Replica χ) : Ledger χ where
  headOp := replica.headOp
  commitMin := replica.commitMin
  checkpointOp := replica.checkpointOp
  target := replica.checkpointTarget
  pending := replica.pendingCheckpoint
  canonical := replica.canonicalHeaders
  frames := replica.repairFrames.length
  valid := replica.repairViewValid
  rebuilt := replica.repairViewRebuilt
  window := replica.repairViewWindow
  ancestor := replica.repairViewAncestor
  head := replica.repairViewHead
  count := replica.repairViewCount
  stage := replica.stateSync.stage
  syncing := replica.syncing
  synced := replica.synced
  syncHeaders := replica.stateSync.headers
  syncOp := replica.stateSync.checkpoint.prepareOp
  syncCommit := replica.stateSync.commit
  syncHead := replica.stateSync.head
  resumes := replica.stateSync.resumeRecovery

/-- The part of an entry its place in the log depends on. -/
def PipelineEntry.outline (entry : PipelineEntry χ) : Nat × CommitStage := (entry.header.op, entry.stage)

/-- A checkpoint that is being written, as the stage of the first entry tells, is of what is executed. -/
def Ledger.Targets (ledger : Ledger χ) (stage : CommitStage) : Prop :=
  (stage = .checkpointData → ledger.target ≤ ledger.commitMin) ∧ (stage = .checkpointSuperblock →
    ∀ checkpoint ∈ ledger.pending, checkpoint.prepareOp ≤ ledger.commitMin)

/-- The pipeline, the view under installation and the state sync fit the log. -/
structure Ledger.Coherent (cfg : Config) (ledger : Ledger χ) (pipeline : List (PipelineEntry χ)) : Prop where
  sized : ledger.canonical.length = cfg.pipelineMax + 1
  framed : ledger.frames = cfg.pipelineMax + 1
  room : pipeline.length ≤ cfg.pipelineMax
  /-- between the frames it releases and the checkpoint it installs, a state sync has no pipeline -/
  log : Gapless ledger.commitMin ledger.headOp pipeline ∨
    (ledger.stage = .updatingCheckpoint ∧ pipeline = [] ∧ ledger.commitMin ≤ ledger.headOp ∧
      ledger.headOp ≤ ledger.commitMin + cfg.pipelineMax)
  checkpointed : ledger.checkpointOp ≤ ledger.commitMin
  targets : ∀ entry ∈ pipeline.head?, ledger.Targets entry.stage
  window : ledger.window = true →
    ledger.valid = true ∧ ledger.rebuilt = false ∧ ledger.ancestor ≤ ledger.commitMin
  suffix : ledger.valid = true → ledger.rebuilt = false → ledger.window = false →
    ledger.commitMin ≤ ledger.ancestor → ledger.ancestor ≤ ledger.headOp ∧ ledger.ancestor ≤ ledger.head ∧
      Replica.NamesSuffix (ledger.canonical.take ledger.count) ledger.ancestor ledger.head
  sync : ledger.syncing = true → ledger.resumes = false →
    ledger.syncHeaders.length ≤ cfg.pipelineMax + 1 ∧
      (ledger.syncCommit ≤ ledger.syncOp ∨ ledger.syncHead - ledger.syncOp ≤ cfg.pipelineMax →
        Replica.NamesSuffix ledger.syncHeaders ledger.syncOp ledger.syncHead)
  level : ledger.synced = true → ledger.resumes = false → ledger.checkpointOp = ledger.syncOp

/-! ## Ways to keep it -/

omit [DecidableEq χ] [Checksums χ] in
theorem targets_of_idle {ledger : Ledger χ} {pipeline : List (PipelineEntry χ)}
    (idle : ∀ entry ∈ pipeline, entry.stage = .idle) :
    ∀ entry ∈ pipeline.head?, ledger.Targets entry.stage := by
  intro entry hentry
  rw [idle entry (List.mem_of_mem_head? hentry)]
  exact ⟨nofun, nofun⟩

namespace Ledger.Coherent

variable {ledger : Ledger χ} {pipeline next : List (PipelineEntry χ)}

section

omit [DecidableEq χ] [Checksums χ]

section

variable (coherent : ledger.Coherent cfg pipeline)

include coherent

theorem congr (outline : next.map PipelineEntry.outline = pipeline.map PipelineEntry.outline) :
    ledger.Coherent cfg next := by
  have hops : next.map (fun entry => entry.header.op) = pipeline.map fun entry => entry.header.op := by
    have h := congrArg (List.map Prod.fst) outline
    rwa [List.map_map, List.map_map] at h
  have hlength : next.length = pipeline.length := by
    have h := congrArg List.length hops
    rwa [List.length_map, List.length_map] at h
  have hhead : next.head?.map PipelineEntry.outline = pipeline.head?.map PipelineEntry.outline := by
    rw [← List.head?_map, outline, List.head?_map]
  have hfirst : ∀ entry ∈ next.head?, ∃ old ∈ pipeline.head?, old.stage = entry.stage := by
    intro entry hentry
    rw [show next.head? = some entry from hentry, Option.map_some] at hhead
    obtain ⟨old, hold, hsame⟩ := Option.map_eq_some_iff.mp hhead.symm
    exact ⟨old, hold, congrArg Prod.snd hsame⟩
  refine { coherent with room := ?_, log := ?_, targets := ?_ }
  · rw [hlength]
    exact coherent.room
  · obtain hgapless | ⟨hstage, rfl, hbounds⟩ := coherent.log
    · refine .inl (hgapless.keep hops ?_)
      have hany : ∀ first : Option (PipelineEntry χ), first.any (fun entry => entry.stage.maintains) =
          (first.map PipelineEntry.outline).any fun outline => outline.2.maintains := by
        intro first
        cases first <;> rfl
      rw [hany, hany, hhead]
    · exact .inr ⟨hstage, List.map_eq_nil_iff.mp outline, hbounds⟩
  · intro entry hentry
    obtain ⟨old, hold, hsame⟩ := hfirst entry hentry
    exact hsame ▸ coherent.targets old hold

theorem committed : ledger.commitMin ≤ ledger.headOp := by
  obtain hgapless | ⟨-, -, hcommitted, -⟩ := coherent.log
  · exact hgapless.committed
  · exact hcommitted

/-- The log reaches no more than a pipeline behind what is executed. -/
theorem bounded :
    ledger.headOp ≤ ledger.commitMin + cfg.pipelineMax := by
  obtain hgapless | ⟨-, -, -, hbounded⟩ := coherent.log
  · have hlength := congrArg List.length hgapless.ops
    rw [List.length_map, List.length_range'] at hlength
    have hroom := coherent.room
    have hfirst : firstOp ledger.commitMin pipeline ≤ ledger.commitMin + 1 := by
      unfold firstOp
      split <;> omega
    omega
  · exact hbounded

theorem gapless (settled : pipeline ≠ [] ∨ ledger.stage ≠ .updatingCheckpoint) :
    Gapless ledger.commitMin ledger.headOp pipeline := by
  obtain hgapless | ⟨hstage, hempty, -⟩ := coherent.log
  · exact hgapless
  · obtain h | h := settled
    · exact absurd hempty h
    · exact absurd hstage h

/-- The array of canonical headers is free for other use while no view is being installed. -/
theorem overwrite {canonical : List (Option (Header χ))} (sized : canonical.length = cfg.pipelineMax + 1)
    (uninstalled : ledger.valid = false) :
    Coherent cfg { ledger with canonical := canonical } pipeline := by
  refine { coherent with sized := sized, suffix := ?_ }
  intro hvalid
  exact absurd (hvalid.symm.trans uninstalled) (by decide)

/-- A prepare is accepted behind the head. -/
theorem push {entry : PipelineEntry χ} (gapless : Gapless ledger.commitMin ledger.headOp pipeline)
    (free : pipeline.length ≠ cfg.pipelineMax) (op : entry.header.op = ledger.headOp + 1)
    (idle : entry.stage = .idle) (uninstalled : ledger.valid = false) :
    Coherent cfg { ledger with headOp := entry.header.op } (pipeline ++ [entry]) := by
  refine { coherent with
    room := ?_
    log := .inl (gapless.push op idle)
    targets := ?_
    suffix := fun h => absurd (h.symm.trans uninstalled) (by decide) }
  · have hroom := coherent.room
    rw [List.length_append, List.length_singleton]
    omega
  · cases pipeline with
    | nil => exact targets_of_idle fun other hother => by rw [List.mem_singleton.mp hother, idle]
    | cons => exact coherent.targets

end

/-- The first entry goes on to another stage. -/
theorem first {entry : PipelineEntry χ} (coherent : ledger.Coherent cfg (entry :: rest))
    (header : advanced.header = entry.header) (maintains : advanced.stage.maintains = entry.stage.maintains)
    (targeted : Targets { ledger with target := target, pending := pending } advanced.stage) :
    Coherent cfg { ledger with target := target, pending := pending } (advanced :: rest) := by
  refine { coherent with room := coherent.room, log := .inl ?_, targets := ?_ }
  · refine (coherent.gapless (.inl (List.cons_ne_nil _ _))).keep ?_ ?_
    · rw [List.map_cons, List.map_cons, header]
    · rw [List.head?_cons, List.head?_cons, Option.any_some, Option.any_some, maintains]
  · rintro _ ⟨⟩
    exact targeted

/-- The first entry has been executed. -/
theorem commit {entry : PipelineEntry χ} (coherent : ledger.Coherent cfg (entry :: rest))
    (waits : entry.stage.maintains = false) (same : advanced.header = entry.header)
    (maintains : advanced.stage = .checkpointDurable ∨ advanced.stage = .compact) :
    Coherent cfg { ledger with commitMin := entry.header.op } (advanced :: rest) := by
  have hgapless := coherent.gapless (.inl (List.cons_ne_nil _ _))
  have hnext := hgapless.first_next waits
  have hmaintains : advanced.stage.maintains = true := by
    obtain h | h := maintains <;> rw [h] <;> rfl
  have hlater : ledger.commitMin ≤ entry.header.op := by omega
  refine { coherent with
    room := coherent.room
    log := .inl (hgapless.commit waits same hmaintains)
    checkpointed := Nat.le_trans coherent.checkpointed hlater
    targets := ?_
    window := fun h => ⟨(coherent.window h).1, (coherent.window h).2.1,
      Nat.le_trans (coherent.window h).2.2 hlater⟩
    suffix := fun hvalid hrebuilt hwindow h =>
      coherent.suffix hvalid hrebuilt hwindow (Nat.le_trans hlater h) }
  rintro _ ⟨⟩
  obtain h | h := maintains <;> rw [h] <;> exact ⟨nofun, nofun⟩

/-- The first entry has been completed. -/
theorem pop {entry : PipelineEntry χ} (coherent : ledger.Coherent cfg (entry :: rest))
    (maintains : entry.stage.maintains = true) (idle : ∀ other ∈ rest, other.stage = .idle) :
    Coherent cfg { ledger with target := target, pending := pending } rest := by
  refine { coherent with
    room := ?_
    log := .inl ((coherent.gapless (.inl (List.cons_ne_nil _ _))).pop maintains idle)
    targets := targets_of_idle idle }
  have hroom := coherent.room
  rw [List.length_cons] at hroom
  omega

end

end Ledger.Coherent

namespace Replica

def Coherent (cfg : Config) (replica : Replica χ) : Prop := replica.ledger.Coherent cfg replica.pipeline

section

omit [DecidableEq χ] [Checksums χ]

section

variable {next : Replica χ} (coherent : replica.Coherent cfg)

include coherent

theorem Coherent.frame (same : next.ledger = replica.ledger)
    (pipeline : next.pipeline.map PipelineEntry.outline = replica.pipeline.map PipelineEntry.outline) :
    next.Coherent cfg := by
  unfold Coherent
  rw [same]
  exact Ledger.Coherent.congr coherent pipeline

theorem Coherent.of_stage {stage : SyncStage} (at_stage : replica.stateSync.stage = stage)
    (settled : stage ≠ .updatingCheckpoint) :
    Gapless replica.commitMin replica.headOp replica.pipeline := by
  refine Ledger.Coherent.gapless coherent (.inr ?_)
  show replica.stateSync.stage ≠ _
  rwa [at_stage]

theorem Coherent.unsynced (unsynced : replica.syncing = false) :
    Gapless replica.commitMin replica.headOp replica.pipeline :=
  coherent.of_stage (syncing_eq_false.mp unsynced).1 (by decide)

theorem Coherent.advance {entry : PipelineEntry χ} (first : replica.pipeline = entry :: rest)
    (pipeline : next.pipeline = advanced :: rest)
    (ledger : next.ledger = { replica.ledger with target := target, pending := pending })
    (header : advanced.header = entry.header) (maintains : advanced.stage.maintains = entry.stage.maintains)
    (targeted : Ledger.Targets { replica.ledger with target := target, pending := pending } advanced.stage) :
    next.Coherent cfg := by
  unfold Coherent at coherent ⊢
  rw [first] at coherent
  rw [ledger, pipeline]
  exact coherent.first header maintains targeted

theorem Coherent.execute {entry : PipelineEntry χ} (first : replica.pipeline = entry :: rest)
    (pipeline : next.pipeline = advanced :: rest)
    (ledger : next.ledger = { replica.ledger with commitMin := entry.header.op })
    (waits : entry.stage.maintains = false) (same : advanced.header = entry.header)
    (maintains : advanced.stage = .checkpointDurable ∨ advanced.stage = .compact) : next.Coherent cfg := by
  unfold Coherent at coherent ⊢
  rw [first] at coherent
  rw [ledger, pipeline]
  exact coherent.commit waits same maintains

end

theorem outline_of_unacknowledged {pipeline next : List (PipelineEntry χ)}
    (same : next.map PipelineEntry.unacknowledged = pipeline.map PipelineEntry.unacknowledged) :
    next.map PipelineEntry.outline = pipeline.map PipelineEntry.outline := by
  have h := congrArg (List.map PipelineEntry.outline) same
  rwa [List.map_map, List.map_map] at h

theorem outline_modify {pipeline : List (PipelineEntry χ)} {f : PipelineEntry χ → PipelineEntry χ}
    (kept : ∀ entry, (f entry).outline = entry.outline) (offset : Nat) :
    (pipeline.modify offset f).map PipelineEntry.outline = pipeline.map PipelineEntry.outline := by
  induction pipeline generalizing offset with
  | nil => cases offset <;> rfl
  | cons entry rest ih =>
    cases offset with
    | zero => exact congrArg (· :: rest.map PipelineEntry.outline) (kept entry)
    | succ offset => exact congrArg (entry.outline :: ·) (ih offset)

end

omit [DecidableEq χ] in
/-- A view change leaves the log alone and writes its suffix over the canonical headers. -/
theorem beginViewChangeNow_ledger (replica : Replica χ) (inputs : Inputs χ) (target : Nat)
    (sized : replica.canonicalHeaders.length = cfg.pipelineMax + 1) :
    ∃ canonical, canonical.length = cfg.pipelineMax + 1 ∧
      (replica.beginViewChangeNow cfg inputs target).ledger =
        { replica.ledger with canonical := canonical } ∧
      (replica.beginViewChangeNow cfg inputs target).pipeline.map PipelineEntry.outline =
        replica.pipeline.map PipelineEntry.outline := by
  have hlength : ((replica.enterViewChange target).overwriteCanonicalHeaders
      ((replica.enterViewChange target).collectLocalSuffix cfg)).canonicalHeaders.length =
      cfg.pipelineMax + 1 := by
    have hshort := (replica.enterViewChange target).localSuffix_length cfg (cfg.pipelineMax + 1)
      (replica.enterViewChange target).headOp
    exact (overwriteCanonicalHeaders_length (Nat.le_trans hshort (Nat.le_of_eq sized.symm))).trans sized
  refine ⟨_, hlength, ?_, ?_⟩
  · obtain ⟨err, h⟩ | ⟨-, h⟩ := replica.beginViewChangeNow_cases cfg inputs target <;> rw [h] <;> rfl
  · rw [beginViewChangeNow_pipeline, List.map_map]
    rfl

omit [DecidableEq χ] [Checksums χ] in
theorem buildView_ledger (replica : Replica χ) (nonce : Nat)
    (sized : replica.canonicalHeaders.length = cfg.pipelineMax + 1) :
    ∃ canonical, canonical.length = cfg.pipelineMax + 1 ∧
      (replica.buildView cfg nonce).1.ledger = { replica.ledger with canonical := canonical } := by
  have hlength : (replica.overwriteCanonicalHeaders
      (replica.collectLocalSuffix cfg)).canonicalHeaders.length = cfg.pipelineMax + 1 := by
    have hshort := replica.localSuffix_length cfg (cfg.pipelineMax + 1) replica.headOp
    exact (overwriteCanonicalHeaders_length (Nat.le_trans hshort (Nat.le_of_eq sized.symm))).trans sized
  unfold buildView collectViewSuffix
  simp only
  split
  · exact ⟨_, hlength, rfl⟩
  · exact ⟨_, by rw [List.length_set, hlength], rfl⟩

/-! ## Installing a view -/

omit [DecidableEq χ] [Checksums χ] in
theorem Coherent.openWindow (coherent : replica.Coherent cfg) (view commit windowHead : Nat) :
    (replica.openWindow cfg view commit windowHead).Coherent cfg :=
  { coherent with
    sized := List.length_replicate
    framed := List.length_replicate
    window := fun _ => ⟨rfl, rfl, Nat.le_refl _⟩
    suffix := fun _ _ h => by cases h }

theorem Coherent.recordView (coherent : replica.Coherent cfg) (status : Status)
    (requestQueue : List (Request χ × TimeSample)) {view commit head count : Nat}
    (counted : count ≤ cfg.pipelineMax + 1)
    (recorded : replica.validRecoveringView cfg view commit head count = true) :
    ({ replica with status := status, requestQueue := requestQueue }.recordRecoveringView cfg view commit head
      count).Coherent cfg := by
  obtain ⟨-, ancestor, hancestor, hcommitted, hhead⟩ := ancestor_of_validRecoveringView recorded
  have hsame : Replica.repairViewAncestor ({ replica with status := status, requestQueue := requestQueue
      }.recordRecoveringView cfg view commit head count) = ancestor := by
    show (Replica.recoveringCommonAncestor { replica with status := status, requestQueue := requestQueue } cfg
      (replica.proofCount count)).getD 0 = ancestor
    rw [recoveringCommonAncestor_status, hancestor, Option.getD_some]
  refine { coherent with
    framed := List.length_replicate
    window := fun h => by cases h
    suffix := ?_ }
  intro _ _ _ _
  show Replica.repairViewAncestor _ ≤ replica.headOp ∧ Replica.repairViewAncestor _ ≤ head ∧
    NamesSuffix (replica.canonicalHeaders.take count) (Replica.repairViewAncestor _) head
  rw [hsame]
  refine ⟨recoveringCommonAncestor_le hancestor, hhead, ?_⟩
  exact names_of_validRecoveringView recorded (Nat.le_trans counted (Nat.le_of_eq coherent.sized.symm))
    coherent.checkpointed hancestor

theorem Coherent.windowHeaders (coherent : replica.Coherent cfg) (author : Nat) (headers : List (Header χ))
    (window : replica.repairViewWindow = true) :
    (replica.handleRepairWindowHeaders cfg author headers).Coherent cfg := by
  obtain ⟨hvalid, hrebuilt, hancestor⟩ := coherent.window window
  obtain h | ⟨committed, -, hsome, hshort, h | ⟨hlinked, hhead, h⟩⟩ :=
    replica.handleRepairWindowHeaders_cases cfg author headers
  · rw [h]
    exact coherent
  · rw [h]
    refine { coherent with sized := ?_, suffix := ?_ }
    · exact (linkWindow_length _).trans coherent.sized
    · exact fun _ _ hclosed => absurd (window.symm.trans hclosed) (by decide)
  · rw [h]
    have hroom : headers.length ≤ replica.canonicalHeaders.length :=
      Nat.le_trans hshort (Nat.le_of_eq coherent.sized.symm)
    refine { coherent with sized := ?_, window := fun h => (by cases h), suffix := ?_ }
    · exact (linkWindow_length _).trans coherent.sized
    intro _ _ _ hcommitted
    have hcommitted : replica.commitMin ≤ replica.repairViewAncestor := hcommitted
    have hancestor : replica.repairViewAncestor ≤ replica.commitMin := hancestor
    refine ⟨?_, ?_, ?_⟩
    · exact Nat.le_trans hancestor coherent.committed
    · show replica.repairViewAncestor ≤ replica.repairViewHead
      omega
    show NamesSuffix (List.take headers.length (linkWindow replica.repairView (replica.commitMin + 1)
      committed.checksum headers replica.canonicalHeaders).1) replica.repairViewAncestor replica.repairViewHead
    have htake : List.take headers.length (linkWindow replica.repairView (replica.commitMin + 1)
        committed.checksum headers replica.canonicalHeaders).1 = headers.reverse.map some := by
      rw [linkWindow_eq hroom hlinked]
      exact List.take_left' (by rw [List.length_map, List.length_reverse])
    -- the ops of the reply follow what is executed, up to the head of the window
    refine .of_ops (?_ : _ = opsDown (replica.commitMin + 1) _) (by omega)
    rw [htake, List.map_map, ← hhead, opsDown, show replica.commitMin + headers.length + 1 -
      (replica.commitMin + 1) = headers.length by omega, ← ops_of_linkWindow hlinked, ← List.map_reverse]
    rfl

omit [DecidableEq χ] [Checksums χ] in
theorem idle_of_quiet (quiet : ∀ entry ∈ replica.pipeline, entry.io = none ∧ entry.stage = .idle) :
    ∀ entry ∈ replica.pipeline, entry.stage = .idle := fun entry hentry => (quiet entry hentry).2

omit [DecidableEq χ] in
/-- The pipeline of a view is the log up to the common ancestor and the canonical suffix behind. -/
theorem Coherent.rebuild {next : Replica χ} (coherent : replica.Coherent cfg)
    (installing : replica.repairViewValid = true) (named : replica.repairViewWindow = false)
    (unbuilt : replica.repairViewRebuilt = false) (unsynced : replica.syncing = false)
    (quiet : ∀ entry ∈ replica.pipeline, entry.io = none ∧ entry.stage = .idle)
    (rebuilt : replica.rebuildPipeline cfg = .ok next) : next.Coherent cfg := by
  have hidle := idle_of_quiet quiet
  obtain h | ⟨ancestor, entries, generation, headOp, headChecksum, hcommitted, -, hentries, hroom, h |
    ⟨hpushed, h⟩⟩ := replica.rebuildPipeline_cases cfg <;> rw [h] at rebuilt
  · cases rebuilt
  · cases rebuilt
  cases rebuilt
  obtain ⟨hinside, hhead, hnames⟩ := coherent.suffix installing unbuilt named hcommitted
  have hgapless := coherent.unsynced unsynced
  have hops := NamesSuffix.entries hnames
    (Nat.le_of_eq (coherent.sized.trans coherent.framed.symm)) hpushed
  have hthrough := hgapless.through hidle hcommitted hinside
  have hkept : ∀ entry ∈ replica.pipelineThrough replica.repairViewAncestor, entry.stage = .idle :=
    fun entry hentry => hidle entry ((replica.pipelineThrough_initial _).subset hentry)
  have hwhole := hthrough.append hkept (fun entry hentry => (hentries entry hentry).2.1) hhead hops
  -- the acknowledgements are taken back
  have hbare : ∀ entry ∈ (replica.pipelineThrough replica.repairViewAncestor ++ entries).map
      (fun entry => { entry with acks := [], quorum := false }), entry.stage = .idle := by
    intro entry hentry
    obtain ⟨old, hold, rfl⟩ := List.mem_map.mp hentry
    obtain hold | hold := List.mem_append.mp hold
    · exact hkept old hold
    · exact (hentries old hold).2.1
  refine { coherent with
    framed := ?_, room := ?_, log := .inl ?_, targets := targets_of_idle hbare
    window := fun h => absurd (h.symm.trans named) (by decide)
    suffix := fun _ h => by cases h }
  · show (framesBelowAncestor _).length = _
    rw [framesBelowAncestor, List.length_mapIdx]
    exact coherent.framed
  · show (List.map _ _).length ≤ _
    rw [List.length_map]
    exact hroom coherent.room
  · refine hwhole.of_unacknowledged ?_
    show List.map _ (List.map _ _) = _
    rw [List.map_map]
    rfl

/-! ## State sync -/

theorem Coherent.enterStateSync (coherent : replica.Coherent cfg) {message : ViewMessage χ}
    (idle : replica.stateSync.stage = .idle) (unreplayed : replica.stateSync.replayRunning = false)
    (accepted : replica.acceptsView cfg message = true)
    (tail : headerOp (replica.viewTail message.checkpoint message.headers.length) ≤ message.commit + 1)
    (proved : replica.validStateSyncView message.checkpoint message.head message.commit message.headers.length =
      true)
    (complete : message.Complete cfg.pipelineMax) :
    (replica.enterStateSync message.checkpoint message.view message.commit message.head
      message.headers).Coherent cfg := by
  refine { coherent with log := .inl (coherent.of_stage idle (by decide)), sync := ?_, level := ?_ }
  · intro _ _
    refine ⟨?_, names_of_validStateSyncView accepted tail proved complete⟩
    simp only [acceptsView, decide_eq_true_eq] at accepted
    exact accepted.2.2.1
  · intro hsynced
    have hunsynced : (replica.enterStateSync message.checkpoint message.view message.commit message.head
        message.headers).synced = false := by simp [synced, Replica.enterStateSync, unreplayed]
    exact absurd (hsynced.symm.trans hunsynced) (by decide)

section

omit [DecidableEq χ] [Checksums χ]

/-- A state sync comes to its end and the log is taken up as it stands. -/
theorem Coherent.wake {next : Replica χ} (coherent : replica.Coherent cfg)
    (settled : replica.stateSync.stage = .idle) (ended : next.syncing = false)
    (same : next.ledger = { replica.ledger with
      stage := next.stateSync.stage, syncing := next.syncing, synced := next.synced
      resumes := next.stateSync.resumeRecovery })
    (pipeline : next.pipeline = replica.pipeline) : next.Coherent cfg := by
  unfold Coherent
  rw [same, pipeline]
  refine { coherent with log := .inl (coherent.of_stage settled (by decide)), sync := ?_, level := ?_ }
  · exact fun h => absurd (h.symm.trans ended) (by decide)
  · exact fun h => absurd ((syncing_of_synced h).symm.trans ended) (by decide)

/-- The headers that came with a checkpoint become the view to install. -/
theorem Coherent.openHeaders (coherent : replica.Coherent cfg) (phase : Phase cfg replica)
    (answered : replica.stateSync.completion = some .openState)
    (fresh : replica.stateSync.resumeRecovery = false) (ahead : replica.checkpointOp < replica.stateSync.head)
    (fits : ¬ (replica.commitMin < replica.stateSync.commit ∧
      cfg.pipelineMax < replica.stateSync.head - replica.commitMin)) :
    (replica.openedSync.resumeFromHeaders cfg).Coherent cfg := by
  have hsynced := (phase.opens answered).1
  have hsyncing := syncing_of_synced hsynced
  have hover := phase.opened_idle answered
  obtain ⟨hshort, hnames⟩ := coherent.sync hsyncing fresh
  have hlevel : replica.checkpointOp = replica.stateSync.checkpoint.prepareOp := coherent.level hsynced fresh
  have hclosed : replica.repairViewWindow = false := by
    rw [← Bool.not_eq_true]
    intro h
    have hvalid : replica.repairViewValid = true := (coherent.window h).1
    exact absurd (hvalid.symm.trans (phase.uninstalled hsyncing)) (by decide)
  have hgapless := coherent.of_stage (phase.opens answered).2.1 (by decide)
  refine { coherent with
    sized := ?_, log := .inl hgapless
    window := fun h => absurd (h.symm.trans hclosed) (by decide)
    suffix := ?_
    sync := fun h => absurd (h.symm.trans hover) (by decide)
    level := fun h => absurd ((syncing_of_synced h).symm.trans hover) (by decide) }
  · show (replica.stateSync.headers ++ List.replicate (cfg.pipelineMax + 1 -
      replica.stateSync.headers.length) none).length = _
    have hshort : replica.stateSync.headers.length ≤ cfg.pipelineMax + 1 := hshort
    rw [List.length_append, List.length_replicate]
    omega
  · intro _ _ _ _
    have hcommitted : replica.commitMin = replica.checkpointOp := phase.level hsynced
    refine ⟨?_, Nat.le_of_lt ahead, ?_⟩
    · exact Nat.le_trans (Nat.le_of_eq hcommitted.symm) hgapless.committed
    show NamesSuffix (List.take replica.stateSync.headers.length (replica.stateSync.headers ++ _))
      replica.checkpointOp replica.stateSync.head
    rw [List.take_left, hlevel]
    apply hnames
    show replica.stateSync.commit ≤ replica.stateSync.checkpoint.prepareOp ∨
      replica.stateSync.head - replica.stateSync.checkpoint.prepareOp ≤ _
    rw [← hlevel, ← hcommitted]
    omega

end

theorem Coherent.replay (coherent : replica.Coherent cfg) (phase : Phase cfg replica)
    (sound : (replica.replayInterrupted cfg).1.fatalErr = none) :
    (replica.replayInterrupted cfg).1.Coherent cfg := by
  obtain h | h | ⟨durable, -, recovery, hrecovery, status, superblock, committed, loaded, hrunning, -, hderived, -,
    hloaded, hadopted⟩ := replica.replayInterrupted_adopts cfg
  · rw [h]
    exact coherent
  · exact absurd sound h
  have hsyncing : replica.syncing = true := by simp [syncing, hrunning]
  have hempty : replica.pipeline = [] := phase.vacated (vacant_of_synced (by simp [synced, hrunning]))
  have hclean : recovery.faultySlots = 0 := ((phase.replaying hrunning).2.2 recovery hrecovery).1
  obtain ⟨⟨hidle, hwaits⟩, -⟩ := phase.replaying hrunning
  -- the log is loaded op by op behind what was replayed
  have hhead : (replica.replayed durable superblock recovery status committed
      (replica.interruptedReplay cfg durable)).headOp = (replica.interruptedReplay cfg durable).commitMin :=
    if_neg ((deriveRecoveredStatus_eq_ok hderived).2.2.1 hclean)
  rw [loadOpenSuffix, if_neg (by rw [hclean]; decide)] at hloaded
  obtain ⟨entries, generation, headOp, headChecksum, hreads, hentries, hroom, rfl, hlast, -⟩ :=
    foldlM_loadRecovered_eq_ok hloaded
  rw [hhead] at hlast
  have hgapless := Gapless.of_reads (fun entry hentry => (hentries entry hentry).2.1) hreads hlast
  rw [hadopted]
  have hpipeline : (replica.replayed durable superblock recovery status committed
      (replica.interruptedReplay cfg durable)).pipeline ++ entries = entries := by
    show replica.pipeline ++ entries = entries
    rw [hempty, List.nil_append]
  have hidle' : ∀ entry ∈ (replica.replayed durable superblock recovery status committed
      (replica.interruptedReplay cfg durable)).pipeline ++ entries, entry.stage = .idle := by
    rw [hpipeline]
    exact fun entry hentry => (hentries entry hentry).2.1
  have huninstalled : replica.repairViewValid = false := phase.uninstalled hsyncing
  refine { coherent with
    room := ?_, log := .inl ?_, checkpointed := ?_
    targets := targets_of_idle hidle'
    window := fun h => absurd ((coherent.window h).1.symm.trans huninstalled) (by decide)
    suffix := fun h => absurd (h.symm.trans huninstalled) (by decide)
    sync := fun h => not_syncing h hidle hwaits rfl
    level := fun h => not_syncing (syncing_of_synced h) hidle hwaits rfl }
  · refine hroom ?_
    show replica.pipeline.length ≤ _
    rw [hempty]
    exact Nat.zero_le _
  · show Gapless _ _ (_ ++ entries)
    rw [hpipeline]
    exact hgapless
  · exact (replayCommitted_commitMin _ _ _ _).1

/-! ## Every move keeps it -/

omit [DecidableEq χ] [Checksums χ] in
/-- No view is being installed by a replica that trusts its head. -/
theorem Calm.uninstalled (calm : replica.Calm) (sound : replica.fatalErr = none)
    (trusted : replica.status ≠ .recoveringHead) : replica.repairViewValid = false := by
  rw [← Bool.not_eq_true]
  exact fun h => trusted (calm.installing sound h).1

section

omit [DecidableEq χ]

theorem Coherent.beginViewChangeNow (coherent : replica.Coherent cfg)
    (uninstalled : replica.repairViewValid = false) (inputs : Inputs χ) (target : Nat) :
    (replica.beginViewChangeNow cfg inputs target).Coherent cfg := by
  obtain ⟨canonical, hsized, hledger, houtline⟩ :=
    replica.beginViewChangeNow_ledger inputs target coherent.sized
  unfold Coherent
  rw [hledger]
  exact (Ledger.Coherent.overwrite coherent hsized uninstalled).congr houtline

/-- The checkpoint entry gives way to a view change. -/
theorem Coherent.yield {yielded : Replica χ} (coherent : replica.Coherent cfg) {entry : PipelineEntry χ}
    (first : replica.pipeline = entry :: rest) (maintains : entry.stage.maintains = true)
    (idle : ∀ other ∈ rest, other.stage = .idle) (uninstalled : replica.repairViewValid = false) (inputs : Inputs χ)
    (view : Nat) (ledger : yielded.ledger = { replica.ledger with target := target, pending := pending })
    (tail : yielded.pipeline.tail = rest) :
    (yielded.beginViewChangeNow cfg inputs view).popPipeline.Coherent cfg := by
  have hsized : yielded.canonicalHeaders.length = cfg.pipelineMax + 1 :=
    (congrArg (fun ledger => ledger.canonical.length) ledger).trans coherent.sized
  obtain ⟨canonical, hcanonical, hledger, houtline⟩ := yielded.beginViewChangeNow_ledger inputs view hsized
  unfold Coherent at coherent
  rw [first] at coherent
  have hpopped : Ledger.Coherent cfg { replica.ledger with target := target, pending := pending } rest :=
    coherent.pop maintains idle
  show Ledger.Coherent cfg (yielded.beginViewChangeNow cfg inputs view).ledger
    (yielded.beginViewChangeNow cfg inputs view).pipeline.tail
  rw [hledger, ledger]
  refine (hpopped.overwrite hcanonical uninstalled).congr ?_
  rw [List.map_tail, houtline, ← List.map_tail, tail]

end

/-- The checkpoint that is built is the one of its target. -/
theorem prepareOp_of_buildCheckpointState {inputs : Inputs χ} {checkpoint : CheckpointState χ}
    (labelled : replica.wal.Labelled cfg.cluster) (slots : cfg.cluster.journalSlots ≠ 0)
    (built : replica.buildCheckpointState cfg inputs = .ok checkpoint) :
    checkpoint.prepareOp = replica.checkpointTarget := by
  unfold buildCheckpointState at built
  split at built
  · cases built
  rename_i header hheader
  simp only at built
  split at built
  · cases built
    exact labelled.recoveredHeader slots hheader
  · cases built

/-- Every move of a calm run keeps the pipeline in line with the log. -/
theorem Coherent.move {next : Replica χ} (coherent : replica.Coherent cfg) (calm : replica.Calm)
    (owned : replica.Owned) (phase : Phase cfg replica) (labelled : replica.wal.Labelled cfg.cluster)
    (slots : cfg.cluster.journalSlots ≠ 0) (quietly : given.calm)
    (complete : ∀ message, given.heard (.view message) → message.Complete cfg.pipelineMax)
    (sound : next.fatalErr = none) (move : Move cfg given replica next) : next.Coherent cfg := by
  have hsound := move.sound sound
  cases move with
  | quiet | send | learnCommit | distrustHead | pend | settle | join | session | drain |
      wantHeader | drop | clearSync | clearView | clearRepair | syncPersisted | viewPersisted | cancelSync |
      resizePhase | resetDone | opening => exact coherent.frame rfl rfl
  | fail err | publishLast _ _ _ _ err | viewFailed _ _ err | openStuck _ _ err =>
    exact absurd sound (fail_fatalErr _ err)
  | announce destination nonce normal primary durable =>
    obtain ⟨canonical, hsized, hledger⟩ := replica.buildView_ledger nonce coherent.sized
    obtain ⟨headers, h⟩ := replica.buildView_cases cfg nonce
    have hpipeline : (replica.buildView cfg nonce).1.pipeline = replica.pipeline := by rw [h]
    show Ledger.Coherent cfg (replica.buildView cfg nonce).1.ledger (replica.buildView cfg nonce).1.pipeline
    rw [hledger, hpipeline]
    exact Ledger.Coherent.overwrite coherent hsized (calm.uninstalled hsound (by rw [normal]; decide))
  | acks same => exact coherent.frame rfl (outline_of_unacknowledged same)
  | @accept _ inputs header normal durable current source accepted =>
    obtain ⟨hroom, hop, -, -, -, rfl⟩ := acceptPrepare_eq_some accepted
    have hgapless := coherent.unsynced (phase.idle_of_normal normal)
    have huninstalled := calm.uninstalled hsound (by rw [normal]; decide)
    exact @Ledger.Coherent.push χ cfg replica.ledger replica.pipeline coherent
      ⟨replica.generation, header, header, [], false, false, some replica.nextHandle, .idle⟩ hgapless
      hroom hop rfl huninstalled
  | beginViewChange inputs higher trusted =>
    exact coherent.beginViewChangeNow (calm.uninstalled hsound trusted) inputs _
  | resume inputs higher =>
    have hcleared : Coherent cfg { replica with pendingView := 0 } := coherent.frame rfl rfl
    exact hcleared.beginViewChangeNow (calm.uninstalled_of_higher higher hsound) inputs _
  | @progress entry rest stage first waits ready ahead =>
    have hahead : stage.maintains = false ∧ stage ≠ .checkpointData ∧ stage ≠ .checkpointSuperblock := by
      obtain rfl | rfl | rfl := ahead <;> decide
    refine coherent.advance first (setStage_pipeline first stage) rfl rfl ?_
      ⟨fun h => absurd h hahead.2.1, fun h => absurd h hahead.2.2⟩
    rw [hahead.1]
    obtain h | h | h | h | h | h := waits <;> rw [h] <;> rfl
  | @submitReply _ inputs _ entry rest first waits ready submitted =>
    obtain ⟨rfl, rfl⟩ := submit_eq_ok submitted
    have hpipeline := executing_pipeline first replica.nextHandle
    refine coherent.advance first hpipeline rfl rfl ?_ ⟨nofun, nofun⟩
    obtain h | h := waits <;> rw [h] <;> rfl
  | @commit entry rest stage first waits ready maintains =>
    have hpipeline := executed_pipeline first stage
    refine coherent.execute first hpipeline rfl ?_ rfl maintains
    obtain h | h := waits <;> rw [h] <;> rfl
  | @checkpointData entry rest target first maintains next trigger =>
    have hpipeline := checkpointData_pipeline first target
    have hmaintains : entry.stage.maintains = true := by
      obtain h | h := maintains <;> rw [h] <;> rfl
    refine coherent.advance first hpipeline rfl rfl hmaintains.symm ⟨fun _ => ?_, nofun⟩
    -- the entry is the last executed op, and the target lies below its trigger
    have hgapless := Ledger.Coherent.gapless coherent (.inl (by rw [first]; exact List.cons_ne_nil _ _))
    rw [first] at hgapless
    have hop : entry.header.op = replica.commitMin := hgapless.first_last hmaintains
    show target ≤ replica.commitMin
    rw [← hop, checkedAdd_eq_some trigger]
    exact Nat.le_add_right _ _
  | @submitCheckpoint _ _ _ checkpoint entry rest first data built undrained submitted =>
    obtain ⟨rfl, rfl⟩ := submit_eq_ok submitted
    have hpipeline := checkpointing_pipeline first replica.nextHandle
    have htarget := (coherent.targets entry (by rw [first]; rfl)).1 data
    refine coherent.advance first hpipeline rfl rfl (by rw [data]; rfl) ⟨nofun, ?_⟩
    rintro _ _ ⟨⟩
    rw [prepareOp_of_buildCheckpointState labelled slots built]
    exact htarget
  | @yield inputs entry rest first maintains unsubmitted higher =>
    have hidle := owned.rest
    rw [first] at hidle
    refine coherent.yield first maintains hidle (calm.uninstalled_of_higher higher hsound) inputs _ rfl ?_
    simp [Replica.setStage, modifyEntry, first]
  | @yieldPublished inputs entry rest first persisted free published higher =>
    have hidle := owned.rest
    rw [first] at hidle
    refine coherent.yield first (by rw [persisted]; rfl) hidle (calm.uninstalled_of_higher higher hsound) inputs _
      rfl ?_
    show replica.pipeline.tail = rest
    rw [first]
    rfl
  | publish sessionOp first persisted free pending =>
    have hlevel := (coherent.targets _ (by rw [first]; rfl)).2 persisted _ pending
    refine { coherent with checkpointed := hlevel, targets := ?_, level := ?_ }
    · exact fun _ _ => ⟨fun _ => Nat.zero_le _, fun _ _ h => by cases h⟩
    · intro hsynced
      exact absurd ((syncing_of_synced hsynced).symm.trans (free quietly).1) (by decide)
  | @pop entry rest first maintains low done =>
    have hpop : replica.popPipeline.pipeline = rest := by
      show replica.pipeline.tail = rest
      rw [first]
      rfl
    have hidle := owned.rest
    unfold Coherent at coherent ⊢
    rw [hpop]
    rw [first] at coherent hidle
    exact Ledger.Coherent.pop coherent maintains hidle
  | openWindow => exact coherent.openWindow _ _ _
  | overwriteHeaders short free =>
    have huninstalled : replica.repairViewValid = false :=
      free.elim id fun h => calm.uninstalled hsound h
    have hlength := overwriteCanonicalHeaders_length (Nat.le_trans short (Nat.le_of_eq coherent.sized.symm))
    exact Ledger.Coherent.overwrite coherent (hlength.trans coherent.sized) huninstalled
  | recordView requestQueue counted recorded free source => exact coherent.recordView _ requestQueue counted recorded
  | windowHeaders window => exact coherent.windowHeaders _ _ window
  | repairAppend heard repaired =>
    obtain ⟨-, -, -, -, -, -, rfl⟩ := handleRepairPrepare_eq_some repaired
    exact coherent.frame rfl rfl
  | rebuild installing named unbuilt written idle quiet rebuilt =>
    obtain hrebuilt | hstuck := rebuilt
    · exact coherent.rebuild installing named unbuilt (phase.idle_of_installing installing) quiet hrebuilt
    obtain h | ⟨_, entries, _, _, _, -, -, -, -, h | ⟨-, h⟩⟩ := replica.rebuildPipeline_cases cfg <;>
      rw [h] at hstuck <;> cases hstuck
    · exact coherent
    · exact absurd sound (fail_fatalErr _ _)
  | persistInstall installing rebuilt committed quiet persisted =>
    obtain ⟨-, -, -, rfl⟩ := persistView_eq_ok persisted
    refine { coherent with window := ?_, suffix := fun h => by cases h }
    exact fun h => absurd ((coherent.window h).2.1.symm.trans rebuilt) (by decide)
  | perform handle =>
    obtain h | ⟨_, -, -, -, _, _, _, _, -, h⟩ := replica.perform_cases cfg handle
    · rw [h]
      exact coherent
    · rw [h]
      exact coherent.frame rfl rfl
  | @viewPersistedOnward inputs handle operation done owner change higher =>
    have hcleared : Coherent cfg { replica.releaseIo handle with
      viewIo := none, durableView := replica.view, pendingView := 0 } := coherent.frame rfl rfl
    exact hcleared.beginViewChangeNow (calm.uninstalled_of_higher higher hsound) inputs _
  | viewInstalled =>
    exact coherent.frame rfl rfl
  | @repairWritten handle operation write done owner same =>
    have hframes : ((replica.releaseIo handle).finishRepairWrite write (.ok ())).repairFrames.length =
        replica.repairFrames.length := by
      unfold finishRepairWrite
      simp only
      split
      · split
        · exact List.length_set
        · rfl
      · rfl
    exact { coherent with framed := hframes.trans coherent.framed }
  | clearEntry =>
    exact coherent.frame rfl (outline_modify (f := fun entry => { entry with io := none }) (fun _ => rfl) _)
  | appended =>
    exact coherent.frame rfl
      ((outline_modify (f := fun entry => { entry with durable := true }) (fun _ => rfl) _).trans
        (outline_modify (f := fun entry => { entry with io := none }) (fun _ => rfl) _))
  | @replyWritten handle entry rest stage done first owner executing maintains =>
    have hpipeline := replied_pipeline first handle stage
    exact coherent.execute first hpipeline rfl (by rw [executing]; rfl) rfl maintains
  | enterStateSync heard idle unopened unreplayed ahead free undisturbed current author accepted tail proved =>
    exact coherent.enterStateSync idle unreplayed accepted tail proved (complete _ heard)
  | submitSync free kind submitted =>
    obtain ⟨rfl, rfl⟩ := submit_eq_ok submitted
    exact coherent.frame rfl rfl
  | startReset inputs =>
    unfold startStateSyncReset
    split
    · exact coherent
    · exact coherent.frame rfl rfl
  | drained stage empty =>
    have hsyncing : replica.syncing = true := by simp [syncing, stage]
    exact { coherent with
      log := .inl (coherent.of_stage stage (by decide))
      sync := fun _ => coherent.sync hsyncing
      level := fun h => coherent.level (by simpa [Replica.ledger, synced, stage] using h) }
  | releaseFrames stage second done free =>
    refine { coherent with
      framed := List.length_replicate
      room := Nat.zero_le _
      log := .inr ⟨stage, rfl, coherent.committed, coherent.bounded⟩
      targets := fun _ h => by cases h }
  | installCheckpoint stage second done free =>
    have hsyncing : replica.syncing = true := by simp [syncing, stage]
    have huninstalled : replica.repairViewValid = false := phase.uninstalled hsyncing
    have hempty : replica.pipeline = [] := phase.vacated (by simp [vacant, stage, second])
    have hlog : Gapless replica.stateSync.checkpoint.prepareOp replica.stateSync.checkpoint.prepareOp
        replica.pipeline := by
      rw [hempty]
      exact .nil _
    exact { coherent with
      log := .inl hlog
      checkpointed := Nat.le_refl _
      targets := targets_of_idle fun _ h => by
        rw [show replica.installStateSyncCheckpoint.pipeline = [] from hempty] at h
        cases h
      window := fun h => absurd ((coherent.window h).1.symm.trans huninstalled) (by decide)
      suffix := fun h => absurd (h.symm.trans huninstalled) (by decide)
      sync := fun _ => coherent.sync hsyncing
      level := fun _ _ => rfl }
  | resized stage | resizedOpening stage =>
    have hsyncing : replica.syncing = true := by simp [syncing, stage]
    have hsynced : replica.synced = true := by simp [synced, stage]
    exact { coherent with
      log := .inl (coherent.of_stage stage (by decide))
      sync := fun _ => coherent.sync hsyncing
      level := fun _ => coherent.level hsynced }
  | openReplay answered resumes whole =>
    exact { coherent with
      log := .inl (coherent.of_stage (phase.opens answered).2.1 (by decide))
      sync := fun _ h => absurd (h.symm.trans resumes) (by decide)
      level := fun _ h => absurd (h.symm.trans resumes) (by decide) }
  | openIncomplete answered | openLevel answered =>
    exact coherent.wake (phase.opens answered).2.1 (phase.opened_idle answered) rfl rfl
  | openHeaders answered fresh ahead fits => exact coherent.openHeaders phase answered fresh ahead fits
  | openBehind answered =>
    have hopened : replica.openedSync.Coherent cfg :=
      coherent.wake (phase.opens answered).2.1 (phase.opened_idle answered) rfl rfl
    exact hopened.openWindow _ _ _
  | repliesRepaired pending idle =>
    obtain ⟨hstage, -, hreplay⟩ := syncing_eq_false.mp idle
    exact coherent.wake hstage (syncing_eq_false.mpr ⟨hstage, rfl, hreplay⟩) rfl rfl
  | replay => exact coherent.replay phase sound

end Replica

end Supervsr
