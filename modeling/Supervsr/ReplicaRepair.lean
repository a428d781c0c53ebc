import Supervsr.ReplicaViewChange

/-
# Supervsr.ReplicaRepair — fetching missing prepares and installing a view

`replica_repair.go`.  Headers and prepares are served from the local log.  A replica asks for what its
own log lacks, writes a prepare only if the log it already trusts commits to it, and, while a view is
being installed, collects the prepares of the canonical suffix until it can rebuild its pipeline.
-/

namespace Supervsr.Replica

variable {χ : Type} [DecidableEq χ] [Checksums χ]

/-! ## Serving -/

/-- The headers one reply can carry. -/
def headersCapacity (cfg : Config) : Nat :=
  min 64 ((cfg.cluster.messageSizeMax - headerBytes) / headerBytes)

def handleGetHeaders (replica : Replica χ) (cfg : Config) (author start «end» : Nat) : Replica χ :=
  let headers := ((List.range' start («end» + 1 - start)).filterMap fun op =>
    (replica.storedHeader cfg op).filter fun header => header.operation ≠ .reserved).take
      (headersCapacity cfg)
  if headers.isEmpty then replica
  else replica.send (some author) (.headers cfg.localIndex headers)

def prepareRequestMatches (view : Nat) (checksum : χ) (candidate : Header χ) : Bool :=
  if view = 0 then checksum ≠ Checksums.zero ∧ candidate.checksum = checksum
  else checksum = Checksums.zero ∧ candidate.view = view

/-- `handleGetPrepare`.  The read of a prepare that is not in the pipeline is answered at once: what it
sends is checked against the same header either way. -/
def handleGetPrepare (replica : Replica χ) (cfg : Config) (author view op : Nat) (checksum : χ) :
    Replica χ :=
  match replica.pipeline.find? (fun entry => entry.header.op = op) with
  | some entry =>
    if entry.durable ∧ prepareRequestMatches view checksum entry.header then
      replica.send (some author) (.prepare entry.prepare)
    else replica
  | none =>
    match replica.storedHeader cfg op with
    | none => replica
    | some header =>
      if prepareRequestMatches view checksum header ∧
          WAL.readPrepare replica.durable.zones cfg.cluster op = .ok header then
        replica.send (some author) (.prepare header)
      else replica

/-! ## Asking -/

def sendGetPrepare (replica : Replica χ) (cfg : Config) (inputs : Inputs χ) : Replica χ :=
  match replica.repairHeader, inputs.repairPeer with
  | some header, some peer =>
    replica.send (some peer) (.getPrepare cfg.localIndex 0 header.op header.checksum)
  | _, _ => replica

/-- The first op the journal still holds when `head` is its last. -/
def retainedMinimum (cfg : Config) (head : Nat) : Nat :=
  if cfg.cluster.journalSlots < head + 1 then head - cfg.cluster.journalSlots + 1 else 0

/-- The loop of `newestMissingHeader`: down from `op`. -/
def missingHeaderFrom (replica : Replica χ) (cfg : Config) (minimum : Nat) : Nat → Nat → Option Nat
  | 0, _ => none
  | rounds + 1, op =>
    if op < minimum then none
    else if (replica.localHeaderEvidence cfg op).1.isNone then some op
    else if op = 0 then none
    else replica.missingHeaderFrom cfg minimum rounds (op - 1)

def newestMissingHeader (replica : Replica χ) (cfg : Config) : Option Nat :=
  if replica.headOp = 0 then none
  else
    replica.missingHeaderFrom cfg (max (replica.checkpointOp + 1) (retainedMinimum cfg replica.headOp))
      (replica.headOp + 1) replica.headOp

def sendGetHeaders (replica : Replica χ) (cfg : Config) (inputs : Inputs χ) (missing : Nat) :
    Replica χ :=
  match inputs.headersPeer with
  | none => replica
  | some peer =>
    replica.send (some peer)
      (.getHeaders cfg.localIndex (max (missing - 63) (replica.checkpointOp + 1)) missing)

/-! ## What may be repaired -/

def canonicalRepairHeader (replica : Replica χ) (cfg : Config) (candidate : Header χ) : Bool :=
  replica.repairViewValid ∧ replica.status = .recoveringHead ∧
    replica.repairViewAncestor < candidate.op ∧ candidate.op ≤ replica.repairViewHead ∧
    candidate.view ≤ replica.repairView ∧
    retainedMinimum cfg replica.repairViewHead ≤ candidate.op ∧ replica.commitMin < candidate.op ∧
    ((replica.canonicalHeaders.take replica.repairViewCount).find? fun header =>
      headerOp header = candidate.op).any (fun header => headerChecksum header = candidate.checksum)

/-- The chain loop of `safeRepairHeader`: every later op up to the head is there and linked. -/
def linkedToHead (replica : Replica χ) (cfg : Config) : Nat → Nat → χ → Bool
  | 0, _, _ => true
  | rounds + 1, next, parent =>
    match (replica.localHeaderEvidence cfg next).1 with
    | none => false
    | some header => header.parent = parent ∧ replica.linkedToHead cfg rounds (next + 1) header.checksum

def safeRepairHeader (replica : Replica χ) (cfg : Config) (candidate : Header χ) : Bool :=
  replica.canonicalRepairHeader cfg candidate ||
    (candidate.op ≠ 0 ∧ candidate.op ≤ replica.headOp ∧ candidate.view ≤ replica.view ∧
      retainedMinimum cfg replica.headOp ≤ candidate.op ∧
      (candidate.op = replica.headOp → candidate.checksum = replica.headChecksum) ∧
      (candidate.op ≤ replica.commitMin → (replica.localHeaderEvidence cfg candidate.op).1.any
        fun existing => existing.checksum = candidate.checksum) ∧
      replica.linkedToHead cfg (replica.headOp - candidate.op) (candidate.op + 1) candidate.checksum)

/-- The header loop of `handleRepairWindowHeaders`: consecutive and linked upwards.  Each header is
stored as it is checked, so a refused message leaves those before the offending one behind; the second
result tells whether every header passed. -/
def linkWindow (view : Nat) : Nat → χ → List (Header χ) → List (Option (Header χ)) →
    List (Option (Header χ)) × Bool
  | _, _, [], canonical => (canonical, true)
  | expected, parent, candidate :: rest, canonical =>
    if candidate.op ≠ expected ∨ view < candidate.view ∨ candidate.parent ≠ parent then
      (canonical, false)
    else
      linkWindow view (expected + 1) candidate.checksum rest (canonical.set rest.length (some candidate))

def handleRepairWindowHeaders (replica : Replica χ) (cfg : Config) (author : Nat)
    (headers : List (Header χ)) : Replica χ :=
  if author ≠ cfg.primary replica.repairView ∨ headers.length = 0 ∨
      cfg.pipelineMax + 1 < headers.length then
    replica
  else
    match replica.storedHeader cfg replica.commitMin with
    | none => replica
    | some committed =>
      let linked := linkWindow replica.repairView (replica.commitMin + 1) committed.checksum headers
        replica.canonicalHeaders
      let replica := { replica with canonicalHeaders := linked.1 }
      if ¬ linked.2 ∨ replica.commitMin + headers.length ≠ replica.repairViewHead then replica
      else
        { replica with
          repairViewCount := headers.length
          repairViewWindow := false
          repairHeadersLast := 0 }

/-- What headers for a repair window can change. -/
theorem handleRepairWindowHeaders_cases (replica : Replica χ) (cfg : Config) (author : Nat)
    (headers : List (Header χ)) :
    replica.handleRepairWindowHeaders cfg author headers = replica ∨
      ∃ committed, replica.storedHeader cfg replica.commitMin = some committed ∧ headers.length ≠ 0 ∧
        headers.length ≤ cfg.pipelineMax + 1 ∧
        let linked := linkWindow replica.repairView (replica.commitMin + 1) committed.checksum headers
          replica.canonicalHeaders
        replica.handleRepairWindowHeaders cfg author headers =
            { replica with canonicalHeaders := linked.1 } ∨
          (linked.2 = true ∧ replica.commitMin + headers.length = replica.repairViewHead ∧
            replica.handleRepairWindowHeaders cfg author headers =
              { replica with
                canonicalHeaders := linked.1
                repairViewCount := headers.length
                repairViewWindow := false
                repairHeadersLast := 0 }) := by
  unfold handleRepairWindowHeaders
  split
  · exact .inl rfl
  rename_i hshape
  simp only [not_or, ne_eq, not_not, Nat.not_lt] at hshape
  split
  · exact .inl rfl
  rename_i committed hcommitted
  refine .inr ⟨committed, hcommitted, hshape.2.1, hshape.2.2, ?_⟩
  simp only
  split
  · exact .inl rfl
  · rename_i hlinked
    simp only [not_or, ne_eq, not_not] at hlinked
    exact .inr ⟨hlinked.1, hlinked.2, rfl⟩

/-- Headers of a window change nothing but the canonical headers and the window. -/
theorem handleRepairWindowHeaders_frame (replica : Replica χ) (cfg : Config) (author : Nat)
    (headers : List (Header χ)) : ∃ canonical count window last,
    replica.handleRepairWindowHeaders cfg author headers = { replica with
      canonicalHeaders := canonical, repairViewCount := count, repairViewWindow := window
      repairHeadersLast := last } := by
  obtain h | ⟨_, -, -, -, h | ⟨-, -, h⟩⟩ := replica.handleRepairWindowHeaders_cases cfg author headers <;>
    exact ⟨_, _, _, _, h⟩

def handleHeaders (replica : Replica χ) (cfg : Config) (inputs : Inputs χ) (author : Nat)
    (headers : List (Header χ)) : Replica χ :=
  if replica.repairWrite.isSome then replica
  else if replica.repairViewWindow then replica.handleRepairWindowHeaders cfg author headers
  else
    match headers.reverse.find? (replica.safeRepairHeader cfg) with
    | none => replica
    | some candidate => { replica with repairHeader := some candidate }.sendGetPrepare cfg inputs

/-- `handleRepairPrepare`; `none` where the prepare is not the one under repair. -/
def handleRepairPrepare (replica : Replica χ) (cfg : Config) (inputs : Inputs χ) (header : Header χ) :
    Option (Replica χ) :=
  match replica.repairHeader with
  | none => none
  | some wanted =>
    if replica.repairWrite.isSome ∨ header.op ≠ wanted.op ∨ header.checksum ≠ wanted.checksum ∨
        ¬ replica.safeRepairHeader cfg header then
      none
    else
      match replica.submit inputs (.walAppend header replica.checkpointOp) with
      | .error _ => none
      | .ok (replica, handle) =>
        some { replica with repairWrite := some { handle := handle, message := header } }

/-- A prepare that is taken for repair is the one asked for, and its append is on its way. -/
theorem handleRepairPrepare_eq_some {replica next : Replica χ} {cfg : Config} {inputs : Inputs χ}
    {header : Header χ} (repaired : replica.handleRepairPrepare cfg inputs header = some next) :
    ∃ wanted, replica.repairHeader = some wanted ∧ replica.repairWrite = none ∧ header.op = wanted.op ∧
      header.checksum = wanted.checksum ∧ replica.safeRepairHeader cfg header = true ∧
      next = { replica with
        io := replica.io ++ [⟨replica.nextHandle, .walAppend header replica.checkpointOp, none⟩]
        nextHandle := replica.nextHandle + 1
        repairWrite := some { handle := replica.nextHandle, message := header } } := by
  unfold handleRepairPrepare at repaired
  split at repaired
  · cases repaired
  rename_i wanted hwanted
  split at repaired
  · cases repaired
  rename_i hfits
  simp only [not_or, ne_eq, not_not, Option.isSome_iff_ne_none] at hfits
  split at repaired
  · cases repaired
  rename_i hsubmitted
  obtain ⟨rfl, rfl⟩ := submit_eq_ok hsubmitted
  cases repaired
  exact ⟨wanted, hwanted, hfits.1, hfits.2.1, hfits.2.2.1, hfits.2.2.2, rfl⟩

/-- `finishRepairWrite`, where the completion is its own. -/
def finishRepairWrite (replica : Replica χ) (write : RepairWrite χ) (result : Except ReplicaError Unit) :
    Replica χ :=
  let replica := { replica with repairWrite := none }
  match result with
  | .error err => replica.fail err
  | .ok () =>
    let index := (replica.canonicalHeaders.take replica.repairViewCount).findIdx? fun header =>
      headerOp header = write.message.op
    let frames :=
      match index with
      | some index =>
        if replica.repairViewValid ∧ replica.repairViewAncestor < write.message.op then
          replica.repairFrames.set index (some write.message)
        else replica.repairFrames
      | none => replica.repairFrames
    { replica with repairFrames := frames, repairHeader := none }

/-! ## Installing a view -/

/-- The pipeline without the entries at its end that lie above an op. -/
def pipelineThrough (replica : Replica χ) (op : Nat) : List (PipelineEntry χ) :=
  (replica.pipeline.reverse.dropWhile fun entry => op < entry.header.op).reverse

omit [DecidableEq χ] [Checksums χ] in
theorem pipelineThrough_initial (replica : Replica χ) (op : Nat) :
    replica.pipelineThrough op <+: replica.pipeline := by
  have hsuffix := List.dropWhile_suffix (fun entry : PipelineEntry χ => decide (op < entry.header.op))
    (l := replica.pipeline.reverse)
  have hprefix := List.reverse_prefix.mpr hsuffix
  rwa [List.reverse_reverse] at hprefix

/-- `truncatePipelineAfter`; `none` is its refusal. -/
def truncatePipelineAfter (replica : Replica χ) (cfg : Config) (ancestor : Nat) : Option (Replica χ) :=
  if ancestor < replica.commitMin then none
  else
    match (replica.localHeaderEvidence cfg ancestor).1 with
    | none => none
    | some header =>
      if replica.pipeline.any (fun entry =>
          ancestor < entry.header.op ∧ (entry.io.isSome ∨ entry.stage ≠ .idle)) then
        none
      else
        some { replica with
          pipeline := replica.pipelineThrough ancestor
          headOp := ancestor
          headChecksum := header.checksum
          lastPrepareTimestamp := header.timestamp }

omit [DecidableEq χ] in
theorem truncatePipelineAfter_eq_some {replica next : Replica χ} {cfg : Config} {ancestor : Nat}
    (truncated : replica.truncatePipelineAfter cfg ancestor = some next) :
    replica.commitMin ≤ ancestor ∧ ∃ header,
      (replica.localHeaderEvidence cfg ancestor).1 = some header ∧
      next = { replica with
        pipeline := replica.pipelineThrough ancestor
        headOp := ancestor
        headChecksum := header.checksum
        lastPrepareTimestamp := header.timestamp } := by
  unfold truncatePipelineAfter at truncated
  split at truncated
  · cases truncated
  rename_i hcommitted
  split at truncated
  · cases truncated
  rename_i header hevidence
  split at truncated
  · cases truncated
  · exact ⟨Nat.not_lt.mp hcommitted, header, hevidence, (Option.some.inj truncated).symm⟩

/-- The canonical headers above the ancestor with the frames fetched for them, oldest first. -/
def repairSuffix (replica : Replica χ) : List (Option (Header χ) × Option (Header χ)) :=
  (((replica.canonicalHeaders.zip replica.repairFrames).take replica.repairViewCount).reverse).filter
    fun pair => replica.repairViewAncestor < headerOp pair.1

/-- The frames that stay behind once those of `repairSuffix` are in the pipeline. -/
def framesBelowAncestor (replica : Replica χ) : List (Option (Header χ)) :=
  replica.repairFrames.mapIdx fun index frame =>
    if index < replica.repairViewCount ∧
        replica.repairViewAncestor < headerOp (replica.canonicalHeaders.getD index none) then none
    else frame

/-- The push loop of `finishRecoveringView`. -/
def pushRepaired (cfg : Config) :
    List (Option (Header χ) × Option (Header χ)) → Replica χ → Except (Replica χ) (Replica χ)
  | [], replica => .ok replica
  | (some header, some frame) :: rest, replica =>
    match replica.pushPipeline cfg frame header none true with
    | none => .error (replica.fail .replicaInvariant)
    | some replica => pushRepaired cfg rest replica
  | _ :: _, replica => .error (replica.fail .replicaInvariant)

/-- An entry of the canonical suffix: nothing is left to be written for it. -/
def Repaired (entry : PipelineEntry χ) : Prop :=
  entry.io = none ∧ entry.stage = .idle ∧ entry.durable = true

omit [DecidableEq χ] in
/-- The loop pushes entries until it runs out of headers, of frames or of room. -/
theorem pushRepaired_cases (cfg : Config) (suffix : List (Option (Header χ) × Option (Header χ)))
    (replica : Replica χ) :
    ∃ entries generation headOp headChecksum,
      let pushed := { replica with
        pipeline := replica.pipeline ++ entries
        generation := generation
        headOp := headOp
        headChecksum := headChecksum }
      (∀ entry ∈ entries, Repaired entry) ∧
        (replica.pipeline.length ≤ cfg.pipelineMax → pushed.pipeline.length ≤ cfg.pipelineMax) ∧
        (pushRepaired cfg suffix replica = .ok pushed ∧
            entries.map (fun entry => (some entry.header, some entry.prepare)) = suffix ∨
          pushRepaired cfg suffix replica = .error (pushed.fail .replicaInvariant)) := by
  induction suffix generalizing replica with
  | nil =>
    refine ⟨[], replica.generation, replica.headOp, replica.headChecksum,
      fun _ h => absurd h List.not_mem_nil, ?_, .inl ⟨?_, rfl⟩⟩
    · rw [List.append_nil]
      exact id
    · rw [List.append_nil]
      rfl
  | cons pair rest ih =>
    by_cases hstop : pushRepaired cfg (pair :: rest) replica = .error (replica.fail .replicaInvariant)
    · -- where the loop stops at once, nothing has been pushed
      refine ⟨[], replica.generation, replica.headOp, replica.headChecksum,
        fun _ h => absurd h List.not_mem_nil, ?_, .inr ?_⟩
      · rw [List.append_nil]
        exact id
      · rw [hstop, List.append_nil]
    rcases pair with ⟨_ | header, _ | frame⟩
    · exact absurd rfl hstop
    · exact absurd rfl hstop
    · exact absurd rfl hstop
    cases hpushed : replica.pushPipeline cfg frame header none true with
    | none => exact absurd (by rw [pushRepaired, hpushed]) hstop
    | some pushed =>
      have hrest : pushRepaired cfg ((some header, some frame) :: rest) replica =
          pushRepaired cfg rest pushed := by
        rw [pushRepaired, hpushed]
      obtain ⟨entries, generation, headOp, headChecksum, hentries, hlength, h⟩ := ih pushed
      obtain ⟨hroom, rfl⟩ := pushPipeline_eq_some hpushed
      rw [hrest]
      refine ⟨⟨replica.generation, frame, header, [], true, false, none, .idle⟩ :: entries, generation,
        headOp, headChecksum, ?_, ?_, ?_⟩
      · intro entry hentry
        obtain rfl | hentry := List.mem_cons.mp hentry
        · exact ⟨rfl, rfl, rfl⟩
        · exact hentries entry hentry
      · intro hfits
        rw [List.append_cons replica.pipeline _ entries]
        apply hlength
        rw [List.length_append, List.length_singleton]
        omega
      · rw [List.append_cons replica.pipeline _ entries]
        obtain ⟨hok, hsuffix⟩ | herror := h
        · exact .inl ⟨hok, congrArg ((some header, some frame) :: ·) hsuffix⟩
        · exact .inr herror

/-- The fields `finishRecoveringView` sets once the pipeline holds the view. -/
def adoptRepaired (replica : Replica χ) : Replica χ :=
  let newest := replica.canonicalHeaders.getD 0 none
  { replica with
    repairFrames := replica.framesBelowAncestor
    pipeline := replica.pipeline.map fun entry => { entry with acks := [], quorum := false }
    headOp := replica.repairViewHead
    headChecksum := headerChecksum newest
    lastPrepareTimestamp := (newest.map Header.timestamp).getD 0
    view := replica.repairView
    commitMax := max replica.commitMax replica.repairViewCommit
    repairViewRebuilt := true }

/-- The part of `finishRecoveringView` that rebuilds the pipeline; an error is an early return. -/
def rebuildPipeline (replica : Replica χ) (cfg : Config) : Except (Replica χ) (Replica χ) :=
  let suffix := replica.repairSuffix
  if suffix.any (fun pair => pair.2.isNone) then .error replica
  else
    match replica.truncatePipelineAfter cfg replica.repairViewAncestor with
    | none => .error replica
    | some truncated =>
      match pushRepaired cfg suffix truncated with
      | .error replica => .error replica
      | .ok replica => .ok replica.adoptRepaired

/-- A replica whose pipeline is kept up to the ancestor, with entries pushed behind it. -/
def repushed (replica : Replica χ) (entries : List (PipelineEntry χ)) (generation headOp : Nat)
    (headChecksum : χ) (ancestor : Header χ) : Replica χ :=
  { replica with
    pipeline := replica.pipelineThrough replica.repairViewAncestor ++ entries
    generation := generation
    headOp := headOp
    headChecksum := headChecksum
    lastPrepareTimestamp := ancestor.timestamp }

section

omit [DecidableEq χ]

/-- Rebuilding keeps the pipeline up to the ancestor and pushes the canonical suffix behind it.  Where it
stops in the middle, the replica fails for good. -/
theorem rebuildPipeline_cases (replica : Replica χ) (cfg : Config) :
    replica.rebuildPipeline cfg = .error replica ∨
      ∃ (ancestor : Header χ) (entries : List (PipelineEntry χ)) (generation headOp : Nat)
          (headChecksum : χ),
        let pushed := replica.repushed entries generation headOp headChecksum ancestor
        replica.commitMin ≤ replica.repairViewAncestor ∧
          (replica.localHeaderEvidence cfg replica.repairViewAncestor).1 = some ancestor ∧
          (∀ entry ∈ entries, Repaired entry) ∧
          (replica.pipeline.length ≤ cfg.pipelineMax → pushed.pipeline.length ≤ cfg.pipelineMax) ∧
          (replica.rebuildPipeline cfg = .error (pushed.fail .replicaInvariant) ∨
            (entries.map (fun entry => (some entry.header, some entry.prepare)) = replica.repairSuffix ∧
              replica.rebuildPipeline cfg = .ok pushed.adoptRepaired)) := by
  unfold rebuildPipeline
  simp only
  split
  · exact .inl rfl
  split
  · exact .inl rfl
  rename_i truncated htruncated
  obtain ⟨hcommitted, ancestor, hevidence, rfl⟩ := truncatePipelineAfter_eq_some htruncated
  obtain ⟨entries, generation, headOp, headChecksum, hentries, hroom, h⟩ :=
    pushRepaired_cases cfg replica.repairSuffix { replica with
      pipeline := replica.pipelineThrough replica.repairViewAncestor
      headOp := replica.repairViewAncestor
      headChecksum := ancestor.checksum
      lastPrepareTimestamp := ancestor.timestamp }
  refine .inr ⟨ancestor, entries, generation, headOp, headChecksum, hcommitted, hevidence, hentries, ?_, ?_⟩
  · exact fun hfits => hroom (Nat.le_trans
      (replica.pipelineThrough_initial replica.repairViewAncestor).length_le hfits)
  obtain ⟨hok, hsuffix⟩ | herror := h
  · rw [hok]
    exact .inr ⟨hsuffix, rfl⟩
  · rw [herror]
    exact .inl rfl

/-- What rebuilding leaves, in whatever way it ends. -/
theorem rebuilt_cases {replica next : Replica χ} {cfg : Config}
    (rebuilt : replica.rebuildPipeline cfg = .ok next ∨ replica.rebuildPipeline cfg = .error next) :
    next = replica ∨ ∃ entries generation headOp headChecksum ancestor, (∀ entry ∈ entries, Repaired entry) ∧
      (next = (replica.repushed entries generation headOp headChecksum ancestor).fail .replicaInvariant ∨
        next = (replica.repushed entries generation headOp headChecksum ancestor).adoptRepaired) := by
  obtain h | ⟨ancestor, entries, generation, headOp, headChecksum, -, -, hentries, -, h | ⟨-, h⟩⟩ :=
    replica.rebuildPipeline_cases cfg <;>
    simp only [h, reduceCtorEq, Except.error.injEq, Except.ok.injEq, false_or, or_false] at rebuilt
  · exact .inl rebuilt.symm
  · exact .inr ⟨_, _, _, _, _, hentries, .inl rebuilt.symm⟩
  · exact .inr ⟨_, _, _, _, _, hentries, .inr rebuilt.symm⟩

end

/-- The part of `finishRecoveringView` behind the rebuilt pipeline: commit up to the view's bound, then
persist it. -/
def installRebuilt (replica : Replica χ) (cfg : Config) (inputs : Inputs χ) : Replica χ :=
  if replica.commitMin < replica.repairViewCommit then
    let pipeline := replica.pipeline.map fun entry =>
      if entry.header.op ≤ replica.repairViewCommit then { entry with quorum := true } else entry
    { replica with pipeline := pipeline }.advanceCommit cfg inputs
  else
    match replica.persistView cfg inputs true replica.repairViewCommit replica.repairViewHead
        (replica.canonicalHeaders.take replica.repairViewCount) with
    | .error err => replica.fail err
    | .ok replica =>
      { replica with repairViewValid := false, repairViewRebuilt := false, repairHeader := none }

def finishRecoveringView (replica : Replica χ) (cfg : Config) (inputs : Inputs χ) : Replica χ :=
  if replica.repairViewRebuilt then replica.installRebuilt cfg inputs
  else
    match replica.rebuildPipeline cfg with
    | .error replica => replica
    | .ok replica => replica.installRebuilt cfg inputs

def continueRecoveringView (replica : Replica χ) (cfg : Config) (inputs : Inputs χ) : Replica χ :=
  if replica.repairWrite.isSome ∨ replica.viewIo.isSome ∨
      replica.pipeline.any (fun entry => entry.io.isSome ∨ entry.stage ≠ .idle) then
    replica
  else if replica.repairViewWindow then replica.requestRepairWindowHeaders cfg inputs
  else if replica.repairViewRebuilt then replica.finishRecoveringView cfg inputs
  else
    match replica.repairSuffix.find? (fun pair => pair.2.isNone) with
    | some (header, _) => { replica with repairHeader := header }.sendGetPrepare cfg inputs
    | none => replica.finishRecoveringView cfg inputs

def handleRepairTimeout (replica : Replica χ) (cfg : Config) (inputs : Inputs χ) : Replica χ :=
  let now := inputs.sample.monotonic
  let replica :=
    if replica.checkpointOp < replica.stateSync.requestedCheckpoint then replica.sendGetView cfg inputs
    else replica
  if inputs.blockRepairActive ∨ replica.stateSyncAwaitingOpen then replica
  else
    let replica := if replica.stateSync.repliesPending then replica.continueReplyRepair inputs else replica
    if replica.stateSync.repliesPending ∧ inputs.replyRepairActive then replica
    else if replica.repairViewValid then replica.continueRecoveringView cfg inputs
    else if replica.headOp < replica.commitMax ∨ replica.status = .recoveringHead then
      replica.sendGetView cfg inputs
    else if replica.repairWrite.isSome then replica
    else if replica.repairHeader.isSome then replica.sendGetPrepare cfg inputs
    else
      match replica.newestMissingHeader cfg with
      | none => replica.continueReplyRepair inputs
      | some missing =>
        if replica.repairHeadersLast ≠ 0 ∧ now - replica.repairHeadersLast < cfg.initialRTT then replica
        else { replica.sendGetHeaders cfg inputs missing with repairHeadersLast := now }

end Supervsr.Replica
