import Supervsr.ReplicaStateSync

/-
# Supervsr.ReplicaViewChange — joining a view, selecting its canonical log and announcing it

`view_change.go`.  A replica whose view change is durable reports its log suffix to the new primary.
The primary takes the log view into account, counts which prepares a quorum can no longer miss and
which ones a quorum vouches to lack, and so selects the suffix every replica then has to hold.  `View`
carries it to the others; `recordRecoveringView` is where both kinds of replica start to install it.
-/

namespace Supervsr.Replica

variable {χ : Type} [DecidableEq χ] [Checksums χ]

/-! ## Views from others -/

/-- `handleHigherViewEvidence` for a `Prepare` or `Commit`: whether the frame is dropped, and the
replica. -/
def prepareEvidence (replica : Replica χ) (cfg : Config) (inputs : Inputs χ) (view : Nat)
    (underRepair : Bool) : Replica χ × Bool :=
  if view < replica.view then (replica, false)
  else if replica.stateSyncAwaitingOpen then (replica.requestView cfg inputs view, true)
  else if underRepair then (replica, false)
  else if replica.view < view ∨ replica.status = .viewChange ∨ replica.status = .recoveringHead then
    (replica.requestView cfg inputs view, true)
  else (replica, false)

/-- `handleHigherViewEvidence` for an `ExitView` or `JoinView`, and, with `probe`, a `Ping` or `Pong`. -/
def viewEvidence (replica : Replica χ) (cfg : Config) (inputs : Inputs χ) (view author : Nat)
    (probe : Bool) : Replica χ × Bool :=
  if view < replica.view ∨ cfg.activeCount ≤ author then (replica, false)
  else if replica.stateSyncAwaitingOpen then
    if probe then
      (if replica.view < view then replica.requestView cfg inputs view else replica, false)
    else (replica.requestView cfg inputs view, true)
  else if replica.status = .recoveringHead then (replica.requestView cfg inputs view, true)
  else if replica.view < view ∧ cfg.localIndex < cfg.activeCount then
    (replica.beginViewChange cfg inputs view, true)
  else (replica, false)

def handleExitView (replica : Replica χ) (cfg : Config) (inputs : Inputs χ) (view author : Nat) :
    Replica χ :=
  if replica.view < view then replica.beginViewChange cfg inputs view
  else if replica.status ≠ .normal ∨ view ≠ replica.view ∨ cfg.activeCount ≤ author ∨
      author ∈ replica.exitViewBits then
    replica
  else
    let replica := { replica with exitViewBits := author :: replica.exitViewBits }
    if replica.exitViewBits.length < cfg.quorums.viewChange then replica
    else if replica.view = maxView then replica.fail .replicaInvariant
    else replica.beginViewChange cfg inputs (replica.view + 1)

/-! ## Installing a view -/

/-- The length of the part of the canonical headers that is checked: all but a trailing checkpoint. -/
def proofCount (replica : Replica χ) (count : Nat) : Nat :=
  if 1 < count ∧ headerOp (replica.canonicalHeaders.getD (count - 1) none) = replica.checkpointOp then
    count - 1
  else count

/-- The loop of `recoveringCommonAncestor`: the first canonical header that is stored locally, `none`
where an executed op conflicts, and `some none` where no header decides. -/
def commonAncestorAmong (replica : Replica χ) (cfg : Config) :
    List (Option (Header χ)) → Option (Option Nat)
  | [] => some none
  | canonical :: rest =>
    let op := headerOp canonical
    if replica.headOp < op then replica.commonAncestorAmong cfg rest
    else if (replica.storedHeader cfg op).any (fun stored => stored.checksum = headerChecksum canonical) then
      some (some op)
    else if op ≤ replica.commitMin ∧ (replica.localHeaderEvidence cfg op).1.isSome then none
    else replica.commonAncestorAmong cfg rest

def recoveringCommonAncestor (replica : Replica χ) (cfg : Config) (count : Nat) : Option Nat :=
  if count = 0 then none
  else
    match replica.commonAncestorAmong cfg (replica.canonicalHeaders.take count) with
    | none => none
    | some (some op) => some op
    | some none =>
      let oldest := replica.canonicalHeaders.getD (count - 1) none
      if 0 < headerOp oldest ∧ headerOp oldest - 1 ≤ replica.headOp ∧
          (replica.storedHeader cfg (headerOp oldest - 1)).any
            (fun parent => headerParent oldest = parent.checksum) then
        some (headerOp oldest - 1)
      else none

/-- The header loop of `validRecoveringView`: consecutive ops down from `expected`, linked to the header
above. -/
def linkedDown (view expected : Nat) (child : Option (Option (Header χ))) :
    List (Option (Header χ)) → Bool
  | [] => true
  | header :: rest =>
    headerOp header = expected ∧ (header.all fun header => header.view ≤ view) ∧
      (child.all fun child => headerParent child = headerChecksum header) ∧
      linkedDown view (expected - 1) (some header) rest

def validRecoveringView (replica : Replica χ) (cfg : Config) (view commit head count : Nat) : Bool :=
  let checked := replica.proofCount count
  ¬ replica.commitInFlight ∧ count ≠ 0 ∧ replica.commitMin ≤ head ∧ replica.repairWrite.isNone ∧
    replica.viewIo.isNone ∧ replica.view ≤ view ∧ replica.commitMax ≤ commit ∧ commit ≤ head ∧
    head - replica.commitMin ≤ cfg.pipelineMax ∧ checked ≤ head + 1 ∧
    linkedDown view head none (replica.canonicalHeaders.take checked) ∧
    (replica.recoveringCommonAncestor cfg checked).any (fun ancestor =>
      replica.commitMin ≤ ancestor ∧
        headerOp (replica.canonicalHeaders.getD (checked - 1) none) ≤ ancestor + 1)

def recordRecoveringView (replica : Replica χ) (cfg : Config) (view commit head count : Nat) :
    Replica χ :=
  { replica.clearRepairFrames cfg with
    repairHeader := none
    repairViewWindow := false
    repairViewValid := true
    repairView := view
    repairViewAncestor :=
      (replica.recoveringCommonAncestor cfg (replica.proofCount count)).getD 0
    repairViewCommit := commit
    repairViewHead := head
    repairViewRebuilt := false
    repairViewCount := count
    commitMax := max replica.commitMax commit }

/-! ## Canonical selection -/

def joinHeaderAt (record : JoinRecord χ) (op : Nat) : Option (Header χ) :=
  if record.head < op then none
  else (record.entries[record.head - op]?).bind JoinEntry.header

def joinCommittedBound (cfg : Config) (record : JoinRecord χ) : Nat :=
  let bound := max (max record.commit record.checkpoint) (record.head - (record.entries.length - 1))
  let bound := if cfg.pipelineMax < record.head then max bound (record.head - cfg.pipelineMax) else bound
  match joinHeaderAt record record.head with
  | none => bound
  | some header => max bound header.commit

/-- The op up to which every valid record lets the log be taken as committed. -/
def committedBound (replica : Replica χ) (cfg : Config) : Nat :=
  replica.joins.foldl (fun bound record =>
    match record with
    | none => bound
    | some record => max bound (joinCommittedBound cfg record))
    (max (max replica.commitMin replica.commitMax) replica.checkpointOp)

def canonicalLogView (replica : Replica χ) : Nat :=
  replica.joins.foldl (fun latest record =>
    match record with
    | none => latest
    | some record => max latest record.logView) 0

/-- The sender loop of `canonicalCandidate`: `none` is a conflict. -/
def candidateAmong (latest bound op : Nat) :
    List (Option (JoinRecord χ)) → Option (Header χ × Nat) → List (Option (JoinRecord χ)) →
      Option (Option (Header χ))
  | _, selected, [] => some (selected.map Prod.fst)
  | earlier, selected, record :: rest =>
    match record.bind (fun record => (joinHeaderAt record op).map fun header => (header, record.logView)) with
    | none => candidateAmong latest bound op (earlier ++ [record]) selected rest
    | some (header, logView) =>
      if logView ≠ latest ∧ bound < op then
        candidateAmong latest bound op (earlier ++ [record]) selected rest
      else if logView = latest ∧ earlier.any (fun other => other.any fun other =>
          other.logView = latest ∧ (joinHeaderAt other op).any fun prior =>
            prior.view = header.view ∧ prior.checksum ≠ header.checksum) then
        none
      else
        match selected with
        | none => candidateAmong latest bound op (earlier ++ [record]) (some (header, logView)) rest
        | some (best, bestLog) =>
          if bestLog < logView ∨ (logView = bestLog ∧ best.view < header.view) then
            candidateAmong latest bound op (earlier ++ [record]) (some (header, logView)) rest
          else if logView = bestLog ∧ header.view = best.view ∧ header.checksum ≠ best.checksum then none
          else candidateAmong latest bound op (earlier ++ [record]) selected rest

/-- `canonicalCandidate`: `none` is a conflict. -/
def canonicalCandidate (replica : Replica χ) (cfg : Config) (op : Nat) : Option (Option (Header χ)) :=
  candidateAmong replica.canonicalLogView (replica.committedBound cfg) op [] none replica.joins

/-- Whether one record counts against the candidate at `op`. -/
def joinNegative (latest op : Nat) (candidate : Option (Header χ)) (record : JoinRecord χ) : Bool :=
  if record.head < op then true
  else
    match record.entries[record.head - op]? with
    | none => true
    | some entry =>
      if entry.nack then true
      else
        match entry.header with
        | none => false
        | some header =>
          if latest ≤ record.logView then false
          else
            match candidate with
            | some candidate => header.checksum ≠ candidate.checksum
            | none => header.view < latest

/-- Whether one record holds the candidate at `op`. -/
def joinCopy (op : Nat) (candidate : Option (Header χ)) (record : JoinRecord χ) : Bool :=
  if record.head < op then false
  else
    match record.entries[record.head - op]? with
    | none => false
    | some entry =>
      entry.present ∧ entry.header.any (fun header =>
        candidate.any fun candidate => header.checksum = candidate.checksum)

/-- `canonicalEvidence`: the votes against the candidate and the copies of it. -/
def canonicalEvidence (replica : Replica χ) (op : Nat) (candidate : Option (Header χ)) : Nat × Nat :=
  (replica.joins.countP (fun record => record.any (joinNegative replica.canonicalLogView op candidate)),
    replica.joins.countP (fun record => record.any (joinCopy op candidate)))

/-- How the op loop of `selectCanonicalSuffix` ends: with a head, undecided, on a conflict, or in the
panic of a write past the canonical headers. -/
inductive Selection where
  | resolved (head : Nat)
  | unresolved
  | conflict
  | outOfRange
deriving DecidableEq, Repr

/-- The op loop of `selectCanonicalSuffix`, with the canonical headers still free and those selected so
far, the last one first. -/
def selectFrom (replica : Replica χ) (cfg : Config) (committed maximum : Nat) :
    Nat → Nat → List (Header χ) → Selection × List (Header χ)
  | room, op, selected =>
    if maximum < op then (.resolved maximum, selected)
    else
      match replica.canonicalCandidate cfg op with
      | none => (.conflict, selected)
      | some candidate =>
        let evidence := replica.canonicalEvidence op candidate
        if cfg.quorums.negative ≤ evidence.1 ∧ committed < op then (.resolved (op - 1), selected)
        else
          match candidate with
          | none => (.unresolved, selected)
          | some header =>
            if evidence.2 = 0 ∨ selected.head?.any (fun previous => header.parent ≠ previous.checksum) then
              (.unresolved, selected)
            else
              match room with
              | 0 => (.outOfRange, selected)
              | room + 1 =>
                -- `op++` on a word: after the largest op comes op 0
                replica.selectFrom cfg committed maximum room ((op + 1) % (maxUint64 + 1)) (header :: selected)

/-- The largest head any record reports. -/
def maximumHead (replica : Replica χ) : Nat :=
  replica.joins.foldl (fun head record =>
    match record with
    | none => head
    | some record => max head record.head) replica.checkpointOp

/-- `selectCanonicalSuffix`: the replica with the headers it wrote, and the committed op, the head and
the count when the suffix is resolved. -/
def selectCanonicalSuffix (replica : Replica χ) (cfg : Config) :
    Replica χ × Option (Nat × Nat × Nat) :=
  let committed := replica.committedBound cfg
  let head := replica.maximumHead
  let malformed := replica.joins.any (fun record => record.any fun record =>
    record.entries.length = 0 ∨ record.head < record.entries.length - 1)
  if malformed ∨ head < committed ∨ cfg.pipelineMax + 1 ≤ head - committed then (replica, none)
  else
    match replica.selectFrom cfg committed head (cfg.pipelineMax + 1) committed [] with
    | (.outOfRange, selected) =>
      ((replica.overwriteCanonicalHeaders (selected.reverse.map some)).fail .indexOutOfRange, none)
    | (.conflict, selected) =>
      ((replica.overwriteCanonicalHeaders (selected.reverse.map some)).fail .unrecoverableConsensusState,
        none)
    | (.unresolved, selected) => (replica.overwriteCanonicalHeaders (selected.reverse.map some), none)
    | (.resolved head, selected) =>
      (replica.overwriteCanonicalHeaders (selected.map some), some (committed, head, selected.length))

def tryInstallCanonicalView (replica : Replica χ) (cfg : Config) : Replica χ :=
  let unresolved (replica : Replica χ) : Replica χ :=
    if replica.joins.countP Option.isSome = cfg.activeCount then
      replica.fail .unrecoverableConsensusState
    else replica
  match replica.selectCanonicalSuffix cfg with
  | (replica, none) => unresolved replica
  | (replica, some (commit, head, count)) =>
    if commit < replica.commitMin then unresolved replica
    else if replica.viewIo.isSome ∨ ¬ replica.validRecoveringView cfg replica.view commit head count then
      replica
    else
      { replica with status := .recoveringHead }.recordRecoveringView cfg replica.view commit head count

/-- The record `recordJoinView` keeps of a frame. -/
def joinRecord (join : JoinView χ) : JoinRecord χ where
  head := join.head
  commit := join.commit
  checkpoint := join.checkpoint
  logView := join.logView
  entries := join.entries

/-- The checks of `recordJoinView`. -/
def recordable (replica : Replica χ) (cfg : Config) (join : JoinView χ) : Bool :=
  let count := join.entries.length
  (replica.joins.getD join.author none).isNone ∧ count ≠ 0 ∧ count ≤ cfg.pipelineMax + 1 ∧
    count - 1 ≤ join.head ∧ join.logView ≤ join.view ∧ join.commit ≤ join.head ∧
    join.checkpoint ≤ join.commit ∧
    join.entries.zipIdx.all fun entry => entry.1.header.all fun header => header.op = join.head - entry.2

def recordJoinView (replica : Replica χ) (cfg : Config) (join : JoinView χ) : Replica χ :=
  if ¬ replica.recordable cfg join then replica
  else
    let joins := replica.joins.set join.author (some (joinRecord join))
    let replica := { replica with joins := joins }
    if replica.joins.countP Option.isSome < cfg.quorums.viewChange then replica
    else replica.tryInstallCanonicalView cfg

/-- The frame `sendJoinView` seals. -/
def joinView (replica : Replica χ) (cfg : Config) : JoinView χ where
  view := replica.view
  author := cfg.localIndex
  head := replica.headOp
  commit := replica.commitMin
  checkpoint := replica.checkpointOp
  logView := replica.logView
  entries :=
    (List.range (min (replica.headOp - replica.checkpointOp + 1) (cfg.pipelineMax + 1))).map fun index =>
      let evidence := replica.localHeaderEvidence cfg (replica.headOp - index)
      { header := evidence.1, present := evidence.1.isSome, nack := evidence.2 }

def sendJoinView (replica : Replica χ) (cfg : Config) : Replica χ :=
  if replica.status ≠ .viewChange ∨ replica.durableView ≠ replica.view then replica
  else if replica.isPrimary cfg then replica.recordJoinView cfg (replica.joinView cfg)
  else replica.send (some (cfg.primary replica.view)) (.joinView (replica.joinView cfg))

/-! ## Announcing a view -/

/-- `collectViewSuffix`, which leaves the headers in the array of canonical headers. -/
def collectViewSuffix (replica : Replica χ) (cfg : Config) : Replica χ × Nat :=
  let headers := replica.collectLocalSuffix cfg
  let replica := replica.overwriteCanonicalHeaders headers
  if headers.any (fun header => headerOp header = replica.checkpointOp) then (replica, headers.length)
  else
    let count := min headers.length cfg.pipelineMax
    ({ replica with
      canonicalHeaders := replica.canonicalHeaders.set count (some replica.checkpoint.header) }, count + 1)

def buildView (replica : Replica χ) (cfg : Config) (nonce : Nat) : Replica χ × ViewMessage χ :=
  let (replica, count) := replica.collectViewSuffix cfg
  (replica, {
    view := replica.view
    author := cfg.localIndex
    nonce := nonce
    head := replica.headOp
    commit := replica.commitMax
    checkpointOp := replica.checkpointOp
    checkpoint := replica.checkpoint
    headers := replica.canonicalHeaders.take count })

def broadcastView (replica : Replica χ) (cfg : Config) : Replica χ :=
  let (replica, message) := replica.buildView cfg 0
  replica.send none (.view message)

def handleGetView (replica : Replica χ) (cfg : Config) (author nonce : Nat) : Replica χ :=
  if ¬ replica.isPrimary cfg ∨ replica.durableView ≠ replica.view ∨ replica.status ≠ .normal then replica
  else
    let (replica, message) := replica.buildView cfg nonce
    replica.send (some author) (.view message)

def handleJoinView (replica : Replica χ) (cfg : Config) (inputs : Inputs χ) (join : JoinView χ) :
    Replica χ :=
  if replica.view < join.view then replica.beginViewChange cfg inputs join.view
  else if replica.status = .normal ∧ join.view = replica.view ∧ replica.isPrimary cfg ∧
      replica.durableView = replica.view ∧ replica.logView = replica.view then
    replica.broadcastView cfg
  else if replica.status ≠ .viewChange ∨ join.view ≠ replica.view ∨ ¬ replica.isPrimary cfg ∨
      replica.durableView ≠ replica.view ∨ cfg.activeCount ≤ join.author then
    replica
  else replica.recordJoinView cfg join

/-! ## Receiving a view -/

/-- The header loop of `validViewProof`, which has to end at the checkpoint. -/
def viewProofFrom (checkpoint : CheckpointState χ) (expected : Nat) : List (Option (Header χ)) → Bool
  | [] => false
  | [candidate] =>
    headerChecksum candidate = checkpoint.header.checksum ∧ headerOp candidate = checkpoint.prepareOp
  | candidate :: next :: rest =>
    if headerChecksum candidate = checkpoint.header.checksum ∧
        headerOp candidate = checkpoint.prepareOp then
      false
    else if headerOp candidate ≠ expected then false
    else if headerOp next = checkpoint.prepareOp ∧ headerChecksum next = checkpoint.header.checksum ∧
        checkpoint.prepareOp + 1 < headerOp candidate then
      viewProofFrom checkpoint (expected - 1) (next :: rest)
    else headerParent candidate = headerChecksum next ∧ viewProofFrom checkpoint (expected - 1) (next :: rest)

/-- `validStateSyncView` and `validViewProof`. -/
def validStateSyncView (replica : Replica χ) (checkpoint : CheckpointState χ) (head commit count : Nat) :
    Bool :=
  checkpoint.prepareOp ≤ commit ∧ commit ≤ head ∧ 0 < count ∧ count - 1 ≤ head ∧
    headerOp (replica.canonicalHeaders.getD 0 none) = head ∧
    viewProofFrom checkpoint head (replica.canonicalHeaders.take count)

/-- The checks of `handleView` that come before the headers are decoded. -/
def refusesView (replica : Replica χ) (cfg : Config) (message : ViewMessage χ) : Bool :=
  let matched := message.nonce ≠ 0 ∧ message.nonce = replica.getViewNonce ∧
    replica.getViewTarget ≤ message.view
  message.author ≠ cfg.primary message.view ∨ message.view < replica.view ∨
    replica.viewIo.isSome ∨ replica.repairWrite.isSome ∨ replica.repairViewValid ∨
    (message.nonce ≠ 0 ∧ ¬ matched) ∨
    message.commit < replica.commitMax ∨ message.head < message.commit ∨
    message.head < replica.commitMin ∨
    (replica.status = .recoveringHead ∧ message.view = replica.view ∧
      message.head ≤ (prepareMaximum cfg.cluster replica.checkpointOp).getD 0 ∧ ¬ matched) ∨
    (replica.status = .normal ∧ message.view = replica.view ∧ ¬ matched)

/-- The last part of `handleView`: state sync, a repair window, or the installation of the headers. -/
def adoptView (replica : Replica χ) (cfg : Config) (inputs : Inputs χ) (message : ViewMessage χ) :
    Replica χ :=
  let count := message.headers.length
  let adopted (replica : Replica χ) : Replica χ := { replica with getViewNonce := 0, getViewLast := 0 }
  if replica.checkpointOp < message.checkpoint.prepareOp then
    adopted (replica.beginStateSync cfg message.checkpoint message.view message.commit message.head
      message.headers)
  else if replica.commitMin < message.commit ∧ cfg.pipelineMax < message.head - replica.commitMin then
    match replica.beginRepairWindow cfg inputs message.view message.commit with
    | (replica, false) => replica
    | (replica, true) => adopted replica
  else if ¬ replica.validRecoveringView cfg message.view message.commit message.head count then replica
  else
    adopted (replica.distrustHead.recordRecoveringView cfg message.view message.commit message.head count)

/-- The last header of a `View` that is not the checkpoint it ends with. -/
def viewTail (replica : Replica χ) (checkpoint : CheckpointState χ) (count : Nat) : Option (Header χ) :=
  let last := replica.canonicalHeaders.getD (count - 1) none
  if 1 < count ∧ headerOp last = checkpoint.prepareOp then replica.canonicalHeaders.getD (count - 2) none
  else last

def handleView (replica : Replica χ) (cfg : Config) (inputs : Inputs χ) (message : ViewMessage χ) :
    Replica χ :=
  let checkpoint := message.checkpoint
  let count := message.headers.length
  let undecodable := message.headers.any (fun header => ¬ header.any fun header => header.view ≤ message.view)
  if replica.refusesView cfg message ∨
      ¬ checkpoint.valid (cfg.validation : SuperblockValidation χ).checkpointValidation ∨
      checkpoint.prepareOp < replica.checkpointOp ∨ count = 0 ∨ cfg.pipelineMax + 1 < count ∨
      undecodable then
    replica
  else
    let replica := replica.overwriteCanonicalHeaders message.headers
    if ¬ replica.validStateSyncView checkpoint message.head message.commit count ∨
        message.commit + 1 < headerOp (replica.viewTail checkpoint count) ∨
        (replica.stateSyncAwaitingOpen ∧ checkpoint.prepareOp = replica.checkpointOp) then
      replica
    else replica.adoptView cfg inputs message

/-! ## Completion of a persisted view -/

/-- The fields `handleViewPersistence` sets once a view is durably installed. -/
def installDurable (replica : Replica χ) (cfg : Config) : Replica χ :=
  { replica with
    wal := replica.wal.discardAfter cfg.cluster replica.viewHead
    lastPrimaryCommit := 0
    logView := replica.view
    commitMax := max replica.commitMax replica.viewCommit
    status := .normal
    viewInstall := false }

/-- The end of `handleViewPersistence` once a view is durably installed. -/
def enterNormal (replica : Replica χ) (cfg : Config) (inputs : Inputs χ) : Replica χ :=
  let replica := replica.installDurable cfg
  let replica := (List.range replica.pipeline.length).foldl (fun replica offset =>
    replica.acknowledgeEntry cfg offset) replica
  if replica.resumesPendingView then replica.resumePendingViewChange cfg inputs
  else
    let replica := replica.resumePendingViewChange cfg inputs
    let replica := if replica.isPrimary cfg then replica.broadcastView cfg else replica
    replica.advanceCommit cfg inputs

/-- `handleViewPersistence`, where the completion is its own. -/
def handleViewPersistence (replica : Replica χ) (cfg : Config) (inputs : Inputs χ)
    (result : Except ReplicaError Unit) : Replica χ :=
  let replica := { replica with viewIo := none }
  match result with
  | .error err => replica.fail err
  | .ok () =>
    let replica := { replica with durableView := replica.view }
    if replica.viewInstall then replica.enterNormal cfg inputs
    else if replica.resumesPendingView then replica.resumePendingViewChange cfg inputs
    else (replica.resumePendingViewChange cfg inputs).sendJoinView cfg

end Supervsr.Replica
