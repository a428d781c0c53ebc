import Supervsr.Digest
import Supervsr.Execution
import Supervsr.ReplicaRecovery

/-
# Supervsr.Replay — re-executing the journal when a replica opens

`replayCommitted` of `open.go` executes the prepares behind the checkpoint again.  It is written
independently of the commit path; this module embeds it and says when the two do the same.
-/

namespace Supervsr

section

variable {χ : Type}

variable {state executed result : ExecutionState χ} {token next trigger : Nat} {calls called : List Call}
  {body : Bytes} {upgrade followed : UpgradeState} {reply : Option (ReplyHeader χ × SessionCommitPlan χ)}

/-- The first part of `observe`: the release the prepare moves to. -/
def UpgradeState.observeTarget (upgrade : UpgradeState) (config : ExecutionConfig) (prepared : Prepared χ) :
    Except ExecutionError UpgradeState :=
  if prepared.header.operation ≠ .upgrade then .ok upgrade
  else if prepared.body.length ≠ 16 then .error .walRecovery
  else if prepared.target = config.checkpointRelease then .ok upgrade
  else if prepared.target < config.checkpointRelease ∨ prepared.target ≤ prepared.header.release then
    .error .walRecovery
  else if upgrade.target ≠ 0 ∧ upgrade.target ≠ prepared.target then .error .walRecovery
  else .ok { upgrade with target := prepared.target }

/-- `observe`: the upgrade is followed before the prepare is executed. -/
def UpgradeState.observe (upgrade : UpgradeState) (config : ExecutionConfig) (prepared : Prepared χ) :
    Except ExecutionError UpgradeState := do
  let upgrade ← upgrade.observeTarget config prepared
  match checkpointAfter config.cluster config.checkpoint with
  | none => .error .walRecovery
  | some next =>
    match checkpointTrigger config.cluster next with
    | none => .error .walRecovery
    | some trigger =>
      let op := prepared.header.op
      if op ≤ next ∨ trigger < op then .ok upgrade
      else
        let window :=
          if ¬ upgrade.window.started then ⟨next, 0, op = next + 1, true⟩ else upgrade.window
        .ok { upgrade with window := window.extend prepared }

/-- `replayPrefetch`, which waits for the prefetch that `startPrefetch` starts. -/
def replayPrefetch (machine : StateMachine) (calls : List Call) (prepared : Prepared χ) :
    Except ExecutionError (Nat × List Call) :=
  startPrefetch machine calls prepared

variable [Checksums χ] [DecidableEq χ]

def replayExecute (config : ExecutionConfig) (machine : StateMachine) (state : ExecutionState χ)
    (prepared : Prepared χ) (token : Nat) : Except ExecutionError (ExecutionState χ) :=
  if prepared.header.client = 0 then
    match prepared.header.operation with
    | .pulse => do
      let (_, calls) ← commitApplication machine state.calls prepared token none
      return { state with calls }
    | _ => return state
  else do
    let (body, calls) ← replyBody config machine state.calls prepared token
      (config.cluster.messageSizeMax - headerBytes)
      (prepared.body.slice (prepared.body.length - 4) prepared.body.length)
    let header := buildReplyHeader config prepared body
    let session ← replySession state.sessions prepared
    let (plan, reserved) ← sessionResult (state.sessions.planCommit header session)
    let sessions ← sessionResult (reserved.commitAt plan header session)
    return { state with sessions, calls, replies := writeReply state.replies plan.slot ⟨header, body⟩ }

/-- One round of the loop of `replayCommitted`. -/
def replayEntry (config : ExecutionConfig) (machine : StateMachine) (next : Nat)
    (state : ExecutionState χ) (prepared : Prepared χ) : Except ExecutionError (ExecutionState χ) := do
  let upgrade ← state.upgrade.observe config prepared
  let (token, calls) ← replayPrefetch machine state.calls prepared
  let state ← replayExecute config machine { state with upgrade, calls } prepared token
  keepSessions next { state with commitMin := prepared.header.op } prepared

/-- `ReadPrepare` with the decoding of the frame. -/
def readPrepared (read : Nat → Option (Prepared χ)) (op : Nat) : Except ExecutionError (Prepared χ) :=
  (read op).elim (.error .walRecovery) .ok

/-- `replayCommitted`, from the checkpoint to `target`, with what each prepare does. -/
def ExecutionConfig.replayCommitted (config : ExecutionConfig) (machine : StateMachine)
    (read : Nat → Option (Prepared χ)) (state : ExecutionState χ) (target : Nat) :
    Except ExecutionError (ExecutionState χ) := do
  let (result, outcome) := replayCommittedOf config.cluster .walRecovery (readPrepared read)
    (fun next state _ => replayEntry config machine next state) state config.checkpoint target
  outcome
  return result

end

/-! ## The prepares that are replayed -/

/-- What `ValidateSemantics` checked of a prepare when it was accepted: its release and the shape of
its body. -/
structure Prepared.Valid {χ : Type} (prepared : Prepared χ) (config : ExecutionConfig) : Prop where
  release : prepared.header.release ≤ config.currentRelease
  body : prepared.header.operation = .register ∨
    validateOperationBody prepared.header.operation.code prepared.body
      config.cluster.applicationBatchSizeMax true = .ok ()

/-- The committed prepares behind a checkpoint, up to an op below the next checkpoint's trigger. -/
structure CommittedRange (config : ExecutionConfig) (χ : Type) where
  prepares : List (Prepared χ)
  next : Nat
  trigger : Nat
  next_eq : checkpointAfter config.cluster config.checkpoint = some next
  trigger_eq : checkpointTrigger config.cluster next = some trigger
  op_eq : ∀ {index : Nat} {prepared : Prepared χ}, prepares[index]? = some prepared →
    prepared.header.op = config.checkpoint + 1 + index
  below : config.checkpoint + prepares.length < trigger
  valid : ∀ prepared ∈ prepares, prepared.Valid config

namespace CommittedRange

variable {config : ExecutionConfig} {χ : Type}

/-- The last op of the range. -/
def last (range : CommittedRange config χ) : Nat := config.checkpoint + range.prepares.length

/-- A journal that holds the range. -/
def Journal (range : CommittedRange config χ) (read : Nat → Option (Prepared χ)) : Prop :=
  ∀ index < range.prepares.length, read (config.checkpoint + 1 + index) = range.prepares[index]?

end CommittedRange

/-- Two states with the same sessions, replies, upgrade, calls, progress and kept trailer. -/
structure ExecutionState.Agrees {χ : Type} (live replayed : ExecutionState χ) : Prop where
  sessions : live.sessions.Agrees replayed.sessions
  replies : live.replies = replayed.replies
  upgrade : live.upgrade = replayed.upgrade
  calls : live.calls = replayed.calls
  commitMin : live.commitMin = replayed.commitMin
  checkpointSession : live.checkpointSession = replayed.checkpointSession

/-- The prepare is executed alike on both paths: it ends no compaction, and the reply buffer it is
committed into, if it is committed into one, has the same length. -/
def Prepared.Replayable {χ : Type} (prepared : Prepared χ) (config : ExecutionConfig) : Prop :=
  (prepared.header.op + 1) % config.cluster.compactionOps ≠ 0 ∧
    (prepared.header.client ≠ 0 → (∃ code, prepared.header.operation = .application code) →
      config.cluster.applicationReplySizeMax = config.cluster.messageSizeMax - headerBytes)

/-! ## Upgrades -/

section Upgrade

variable {χ : Type} {config : ExecutionConfig} {prepared : Prepared χ}

theorem Prepared.Valid.length_upgrade (valid : prepared.Valid config)
    (operation : prepared.header.operation = .upgrade) : prepared.body.length = 16 := by
  have hbody := valid.body
  rw [operation] at hbody
  simp only [reduceCtorEq, false_or, validateOperationBody, Operation.code] at hbody
  split_ifs at hbody <;> simp_all

theorem Prepared.Valid.length_reconfigure (valid : prepared.Valid config)
    (operation : prepared.header.operation = .reconfigure) : prepared.body.length = 256 := by
  have hbody := valid.body
  rw [operation] at hbody
  simp only [reduceCtorEq, false_or, validateOperationBody, Operation.code] at hbody
  split_ifs at hbody <;> simp_all

/-- The window belongs to the next checkpoint. -/
def UpgradeState.WindowAt (upgrade : UpgradeState) (next : Nat) : Prop :=
  upgrade.window.started = true → upgrade.window.checkpoint = next

theorem followUpgrade_window (follows : followUpgrade config upgrade prepared = .ok followed) :
    followed.window = upgrade.window := by
  unfold followUpgrade executeUpgrade at follows
  split_ifs at follows <;> cases follows <;> rfl

@[simp] theorem UpgradeWindow.extend_checkpoint (window : UpgradeWindow) :
    (window.extend prepared).checkpoint = window.checkpoint := by
  simp only [UpgradeWindow.extend]
  split_ifs <;> rfl

variable (release : config.checkpointRelease = config.currentRelease) (valid : prepared.Valid config)

include release valid

/-- Replay follows an upgrade as the commit path does, as long as the member runs the checkpoint's
release: a release the commit path moves to is above the current one, hence above the prepare's. -/
theorem UpgradeState.observeTarget_of_followed (follows : followUpgrade config upgrade prepared = .ok followed) :
    upgrade.observeTarget config prepared = .ok followed := by
  unfold followUpgrade at follows
  unfold UpgradeState.observeTarget
  split_ifs at follows with hoperation
  · have hprepared := valid.release
    rw [if_neg (by simpa using hoperation), if_neg (by simpa using valid.length_upgrade hoperation)]
    unfold executeUpgrade at follows
    rw [release] at follows ⊢
    split_ifs at follows with hcurrent hknown hconflict
    · rw [if_pos (by simpa using hcurrent)]
      exact follows
    · rw [or_self] at hcurrent
      rw [if_neg hcurrent, if_neg (by omega), if_neg hconflict]
      exact follows
  · rw [if_pos hoperation]
    exact follows

/-- What replay observes of a prepare is what the commit path makes of it. -/
theorem UpgradeState.observe_of_tracked {upgrade followed tracked : UpgradeState}
    (after : checkpointAfter config.cluster config.checkpoint = some next) (window : upgrade.WindowAt next)
    (follows : followUpgrade config upgrade prepared = .ok followed)
    (tracks : trackUpgradeWindow config followed prepared = .ok tracked) :
    upgrade.observe config prepared = .ok tracked ∧ tracked.WindowAt next := by
  have hwindow := followUpgrade_window follows
  unfold UpgradeState.observe
  rw [UpgradeState.observeTarget_of_followed release valid follows]
  simp only [trackUpgradeWindow, after, hwindow, bind, Except.bind] at tracks ⊢
  cases htrigger : checkpointTrigger config.cluster next with
  | none => simp [htrigger] at tracks
  | some trigger =>
    simp only [htrigger] at tracks ⊢
    by_cases houtside : prepared.header.op ≤ next ∨ trigger < prepared.header.op
    · rw [if_pos houtside] at tracks ⊢
      cases tracks
      exact ⟨rfl, by rw [UpgradeState.WindowAt, hwindow]; exact window⟩
    rw [if_neg houtside] at tracks ⊢
    by_cases hstarted : upgrade.window.started = true
    · rw [if_neg (by simp [hstarted, window hstarted])] at tracks
      cases tracks
      rw [if_neg (by simp [hstarted])]
      exact ⟨rfl, fun _ => by simpa using window hstarted⟩
    · rw [if_pos (.inl hstarted)] at tracks
      cases tracks
      rw [if_pos hstarted]
      exact ⟨rfl, fun _ => by simp⟩

end Upgrade

/-! ## Execution -/

section Execution

variable {χ : Type} {config : ExecutionConfig} {machine : StateMachine} {prepared : Prepared χ}

/-- Below the trigger, a prepare that ends no compaction is followed by nothing but the sessions kept
at the next checkpoint's op. -/
theorem continueCommitMaintenance_eq (after : checkpointAfter config.cluster config.checkpoint = some next)
    (triggers : checkpointTrigger config.cluster next = some trigger) (below : prepared.header.op < trigger)
    (boundary : (prepared.header.op + 1) % config.cluster.compactionOps ≠ 0) :
    continueCommitMaintenance config machine state prepared = keepSessions next state prepared := by
  unfold continueCommitMaintenance afterCompact reachCheckpoint
  rw [if_pos boundary, after]
  dsimp only
  cases hkept : keepSessions next state prepared with
  | error => rfl
  | ok kept => simp [triggers, below.ne, bind, Except.bind, pure, Except.pure]

theorem ExecutionState.Agrees.keepSessions {live replayed kept : ExecutionState χ}
    (agrees : live.Agrees replayed) (keeps : keepSessions next live prepared = .ok kept) :
    ∃ other, Supervsr.keepSessions next replayed prepared = .ok other ∧ kept.Agrees other ∧
      kept.upgrade = live.upgrade := by
  unfold Supervsr.keepSessions at keeps ⊢
  split_ifs at keeps ⊢ with hop
  · cases keeps
    exact ⟨_, rfl, agrees, rfl⟩
  rw [agrees.sessions.encodeTrailer_eq] at keeps
  obtain ⟨trailer, htrailer, hkept⟩ := bind_eq_ok.mp keeps
  cases hkept
  refine ⟨{ replayed with checkpointSession := some (next, trailer) }, ?_, ?_, rfl⟩
  · rw [htrailer]
    rfl
  · exact { agrees with checkpointSession := rfl }

/-- The reply body of a replayable prepare does not depend on the path. -/
theorem replyBody_eq (valid : prepared.Valid config) (replayable : prepared.Replayable config)
    (client : prepared.header.client ≠ 0) (calls : List Call) (token : Nat) :
    replyBody config machine calls prepared token (config.cluster.messageSizeMax - headerBytes)
        (prepared.body.slice (prepared.body.length - 4) prepared.body.length) =
      replyBody config machine calls prepared token config.cluster.applicationReplySizeMax
        (prepared.body.slice 252 256) := by
  unfold replyBody replyContents
  cases hoperation : prepared.header.operation with
  | application code => rw [replayable.2 client ⟨code, hoperation⟩]
  | reconfigure => rw [valid.length_reconfigure hoperation]
  | _ => rfl

/-- An upgrade has no client, so a client's prepare leaves the upgrade alone. -/
theorem replyBody_not_upgrade {token buffer : Nat} {reconfigured body : Bytes}
    (built : replyBody config machine calls prepared token buffer reconfigured = .ok (body, called)) :
    prepared.header.operation ≠ .upgrade := by
  intro hoperation
  simp [replyBody, replyContents, hoperation, bind, Except.bind] at built

theorem replySession_eq {live decoded : SessionTable χ} (agrees : live.Agrees decoded) :
    replySession decoded prepared = replySession live prepared := by
  unfold replySession SessionTableOf.session
  rw [agrees.lookup_eq]

variable [Checksums χ] {read : Nat → Option (Prepared χ)} {prepares : List (Prepared χ)}

/-- The upgrade an executed prepare leaves. -/
theorem executeEntry_upgrade
    (executes : executeEntry config machine state prepared token = .ok (reply, executed)) :
    followUpgrade config state.upgrade prepared = .ok executed.upgrade := by
  by_cases hclient : prepared.header.client = 0
  · exact (executeEntry_zero hclient executes).2.1
  · obtain ⟨body, calls, session, plan, reserved, hbody, -, -, -, rfl⟩ :=
      executeEntry_client hclient executes
    rw [followUpgrade, if_neg (replyBody_not_upgrade hbody)]

variable [DecidableEq χ]

theorem replayExecute_of_executeEntry {decoded sessions : SessionTable χ} (valid : prepared.Valid config)
    (replayable : prepared.Replayable config)
    (executes : executeEntry config machine state prepared token = .ok (reply, executed))
    (commits : commitReply executed.sessions reply = .ok sessions) (agrees : state.sessions.Agrees decoded)
    (upgrade : UpgradeState) :
    ∃ committed, sessions.Agrees committed ∧
      replayExecute config machine { state with sessions := decoded, upgrade } prepared token =
        .ok { executed with sessions := committed, upgrade } := by
  unfold replayExecute
  by_cases hclient : prepared.header.client = 0
  · obtain ⟨rfl, -, hcalls, hexecuted⟩ := executeEntry_zero hclient executes
    obtain rfl : executed.sessions = sessions := Except.ok.inj commits
    refine ⟨decoded, by rw [hexecuted]; exact agrees, ?_⟩
    rw [if_pos hclient, hexecuted]
    cases hoperation : prepared.header.operation with
    | pulse =>
      rw [if_pos hoperation] at hcalls
      cases hcommit : commitApplication machine state.calls prepared token none with
      | error => simp [hcommit, Except.map] at hcalls
      | ok committed =>
        rw [hcommit] at hcalls
        simp only [bind, Except.bind, ← Except.ok.inj hcalls]
        rfl
    | _ =>
      rw [if_neg (by simp [hoperation])] at hcalls
      rw [← Except.ok.inj hcalls]
      rfl
  · obtain ⟨body, calls, session, plan, reserved, hbody, hsession, hplan, rfl, rfl⟩ :=
      executeEntry_client hclient executes
    obtain ⟨otherPlan, otherReserved, hother, hslot⟩ := agrees.planCommit_eq hplan
    -- The plan was committed, so its slot exists, in the decoded table as well.
    have hcommit := sessionResult_eq_ok commits
    have hinside : plan.slot < state.sessions.slots.length := by
      obtain ⟨-, -, -, held, hheld, -⟩ := SessionTableOf.commitAt_eq_ok hcommit
      have hlt := (List.getElem?_eq_some_iff.mp hheld).1
      rwa [(SessionTableOf.planCommit_eq_ok hplan).2.2.1, SessionTableOf.length_reserve] at hlt
    rw [show plan.session = session by rw [(SessionTableOf.planCommit_eq_ok hplan).2.2.2],
      SessionTable.commitAt_planCommit hplan hinside] at hcommit
    have hotherCommit := SessionTable.commitAt_planCommit hother (by rw [hslot, ← agrees.length_eq]; exact hinside)
    rw [hslot] at hotherCommit
    refine ⟨_, by rw [← Except.ok.inj hcommit]; exact agrees.committed plan.slot _, ?_⟩
    rw [if_neg hclient]
    simp only [replyBody_eq valid replayable hclient, hbody, replySession_eq agrees, hsession, hother,
      hotherCommit, sessionResult, hslot, bind, Except.bind]
    rfl

/-- One round of the replay does what the commit path did with the prepare. -/
theorem replayEntry_of_commitEntry {live replayed committed : ExecutionState χ}
    (after : checkpointAfter config.cluster config.checkpoint = some next)
    (triggers : checkpointTrigger config.cluster next = some trigger) (below : prepared.header.op < trigger)
    (release : config.checkpointRelease = config.currentRelease) (valid : prepared.Valid config)
    (replayable : prepared.Replayable config) (agrees : live.Agrees replayed)
    (window : live.upgrade.WindowAt next) (commits : commitEntry config machine live prepared = .ok committed) :
    ∃ result, replayEntry config machine next replayed prepared = .ok result ∧ committed.Agrees result ∧
      committed.upgrade.WindowAt next := by
  obtain ⟨⟨token, calls⟩, hprefetch, hrest⟩ := bind_eq_ok.mp commits
  obtain ⟨⟨reply, executed⟩, hexecute, hrest⟩ := bind_eq_ok.mp hrest
  obtain ⟨sessions, hsessions, hrest⟩ := bind_eq_ok.mp hrest
  obtain ⟨upgrade, hupgrade, hrest⟩ := bind_eq_ok.mp hrest
  have hfollowed := executeEntry_upgrade hexecute
  obtain ⟨hobserve, hwindow⟩ :=
    UpgradeState.observe_of_tracked release valid after window hfollowed hupgrade
  obtain ⟨decoded, hdecoded, hreplay⟩ :=
    replayExecute_of_executeEntry valid replayable hexecute hsessions agrees.sessions upgrade
  rw [continueCommitMaintenance_eq after triggers below replayable.1] at hrest
  have hagrees : ExecutionState.Agrees
      { executed with sessions, upgrade, commitMin := prepared.header.op }
      { executed with sessions := decoded, upgrade, commitMin := prepared.header.op } :=
    ⟨hdecoded, rfl, rfl, rfl, rfl, rfl⟩
  obtain ⟨result, hresult, hkept, hsame⟩ := hagrees.keepSessions hrest
  refine ⟨result, ?_, hkept, by rw [hsame]; exact hwindow⟩
  have hstate : ({ live with sessions := replayed.sessions, upgrade, calls } : ExecutionState χ) =
      { replayed with upgrade, calls } := by
    cases replayed
    obtain ⟨-, hreplies, -, -, hcommitMin, hsession⟩ := agrees
    simp_all
  unfold replayEntry replayPrefetch
  rw [← agrees.upgrade, hobserve, ← agrees.calls]
  simp only [hprefetch, bind, Except.bind]
  rw [← hstate]
  simp only [hreplay, hresult]

/-! ## The calls of each path -/

omit [Checksums χ] [DecidableEq χ]

theorem startPrefetch_calls (prefetches : startPrefetch machine calls prepared = .ok (token, called)) :
    called = if prepared.executes then calls ++ [.startPrefetch prepared.input] else calls := by
  unfold startPrefetch at prefetches
  split_ifs at prefetches ⊢ with hexecutes
  · cases hprefetch : machine.prefetch (calls ++ [.startPrefetch prepared.input]) with
    | none => simp [hprefetch] at prefetches
    | some => simp_all
  · cases prefetches
    rfl

theorem commitApplication_calls {reply : Option Nat}
    (commits : commitApplication machine calls prepared token reply = .ok (body, called)) :
    called = calls ++ [.commit prepared.input token reply] := by
  unfold commitApplication at commits
  cases hcommit : machine.commit (calls ++ [.commit prepared.input token reply]) with
  | none => simp [hcommit] at commits
  | some => simp_all

/-- Only an application's prepare is committed for its reply, into the buffer of the path. -/
theorem replyBody_calls {token buffer : Nat} {reconfigured body : Bytes}
    (built : replyBody config machine calls prepared token buffer reconfigured = .ok (body, called)) :
    called = calls ++
      match prepared.header.operation with
      | .application _ => [.commit prepared.input token (some buffer)]
      | _ => [] := by
  unfold replyBody at built
  obtain ⟨⟨chosen, made⟩, hchosen, hrest⟩ := bind_eq_ok.mp built
  dsimp only at hrest
  split_ifs at hrest
  obtain rfl : made = called := congrArg Prod.snd (Except.ok.inj hrest)
  unfold replyContents at hchosen
  cases hoperation : prepared.header.operation with
  | application code =>
    simp only [hoperation] at hchosen
    exact commitApplication_calls hchosen
  | register | reconfigure | noop =>
    simp only [hoperation] at hchosen
    cases hchosen
    simp
  | _ =>
    simp only [hoperation] at hchosen
    cases hchosen

theorem keepSessions_calls {state kept : ExecutionState χ} (keeps : keepSessions next state prepared = .ok kept) :
    kept.calls = state.calls := by
  unfold keepSessions at keeps
  split_ifs at keeps
  · cases keeps
    rfl
  · obtain ⟨trailer, -, hkept⟩ := bind_eq_ok.mp keeps
    cases hkept
    rfl

/-- The calls a replay makes. -/
def Call.Replayed (config : ExecutionConfig) : Call → Prop
  | .startPrefetch _ => True
  | .commit _ _ reply => ∀ length, reply = some length → length = config.cluster.messageSizeMax - headerBytes
  | .startCompact _ _ => False
  | .startCheckpoint _ _ _ => False

theorem startPrefetch_replayed (prefetches : startPrefetch machine calls prepared = .ok (token, called))
    (replayed : ∀ call ∈ calls, call.Replayed config) : ∀ call ∈ called, call.Replayed config := by
  intro call mem
  rw [startPrefetch_calls prefetches] at mem
  split_ifs at mem
  · obtain hold | hnew := List.mem_append.mp mem
    · exact replayed call hold
    · rw [List.mem_singleton.mp hnew]
      trivial
  · exact replayed call mem

variable [Checksums χ] [DecidableEq χ]

theorem replayExecute_replayed (executes : replayExecute config machine state prepared token = .ok executed)
    (replayed : ∀ call ∈ state.calls, call.Replayed config) :
    ∀ call ∈ executed.calls, call.Replayed config := by
  unfold replayExecute at executes
  split_ifs at executes with hclient
  · cases hoperation : prepared.header.operation with
    | pulse =>
      simp only [hoperation] at executes
      obtain ⟨⟨body, calls⟩, hcommit, hrest⟩ := bind_eq_ok.mp executes
      cases hrest
      intro call mem
      dsimp only at mem
      rw [commitApplication_calls hcommit] at mem
      obtain hold | hnew := List.mem_append.mp mem
      · exact replayed call hold
      · rw [List.mem_singleton.mp hnew]
        exact fun length h => by cases h
    | _ =>
      simp only [hoperation] at executes
      cases executes
      exact replayed
  · obtain ⟨⟨body, calls⟩, hbody, hrest⟩ := bind_eq_ok.mp executes
    obtain ⟨session, -, hrest⟩ := bind_eq_ok.mp hrest
    obtain ⟨⟨plan, reserved⟩, -, hrest⟩ := bind_eq_ok.mp hrest
    obtain ⟨sessions, -, hrest⟩ := bind_eq_ok.mp hrest
    cases hrest
    intro call mem
    dsimp only at mem
    rw [replyBody_calls hbody] at mem
    obtain hold | hnew := List.mem_append.mp mem
    · exact replayed call hold
    split at hnew
    · rw [List.mem_singleton.mp hnew]
      exact fun length h => (Option.some.inj h).symm
    · cases hnew

theorem replayEntry_replayed (replays : replayEntry config machine next state prepared = .ok result)
    (replayed : ∀ call ∈ state.calls, call.Replayed config) : ∀ call ∈ result.calls, call.Replayed config := by
  obtain ⟨upgrade, -, hrest⟩ := bind_eq_ok.mp replays
  obtain ⟨⟨token, calls⟩, hprefetch, hrest⟩ := bind_eq_ok.mp hrest
  obtain ⟨executed, hexecute, hrest⟩ := bind_eq_ok.mp hrest
  unfold replayPrefetch at hprefetch
  have hcalls := replayExecute_replayed hexecute (startPrefetch_replayed hprefetch replayed)
  rw [keepSessions_calls hrest]
  exact hcalls

omit [Checksums χ] [DecidableEq χ] in
theorem afterCompact_calls (maintained : afterCompact config state prepared = .ok result) :
    state.calls ⊆ result.calls := by
  unfold afterCompact at maintained
  split at maintained
  rename_i kept reached hreached
  obtain ⟨begun, -, hrest⟩ := bind_eq_ok.mp maintained
  have hcalls : kept.calls = state.calls := by
    obtain rfl | ⟨_, -, hkept⟩ := reachCheckpoint_state hreached
    · rfl
    · exact keepSessions_calls hkept
  rw [← hcalls]
  cases begun with
  | none =>
    cases hrest
    exact List.Subset.refl _
  | some target =>
    cases hrest
    exact List.subset_append_left _ _

/-- What the commit path leaves in the calls: those made before, the compaction the prepare ends and
the commit of a client's application prepare. -/
structure CommitCalls (config : ExecutionConfig) (prepared : Prepared χ) (calls : List Call) : Prop where
  compact : (prepared.header.op + 1) % config.cluster.compactionOps = 0 →
    .startCompact prepared.header.op prepared.header.timestamp ∈ calls
  commit : prepared.header.client ≠ 0 → (∃ code, prepared.header.operation = .application code) →
    ∃ token, .commit prepared.input token (some config.cluster.applicationReplySizeMax) ∈ calls

section

omit [Checksums χ] [DecidableEq χ]

theorem CommitCalls.mono {calls more : List Call} (made : CommitCalls config prepared calls)
    (sub : calls ⊆ more) : CommitCalls config prepared more :=
  ⟨fun hboundary => sub (made.compact hboundary), fun hclient happlication =>
    (made.commit hclient happlication).imp fun _ mem => sub mem⟩

theorem continueCommitMaintenance_calls
    (maintained : continueCommitMaintenance config machine state prepared = .ok result) :
    state.calls ⊆ result.calls ∧ ((prepared.header.op + 1) % config.cluster.compactionOps = 0 →
      .startCompact prepared.header.op prepared.header.timestamp ∈ result.calls) := by
  unfold continueCommitMaintenance at maintained
  split_ifs at maintained with hboundary
  · exact ⟨afterCompact_calls maintained, fun hends => (hboundary hends).elim⟩
  dsimp only at maintained
  split_ifs at maintained
  have hcalls := afterCompact_calls maintained
  exact ⟨List.Subset.trans (List.subset_append_left _ _) hcalls, fun _ => hcalls (by simp)⟩

end

omit [DecidableEq χ] in
theorem executeEntry_calls (executes : executeEntry config machine state prepared token = .ok (reply, executed)) :
    state.calls ⊆ executed.calls ∧ (prepared.header.client ≠ 0 →
      (∃ code, prepared.header.operation = .application code) →
      .commit prepared.input token (some config.cluster.applicationReplySizeMax) ∈ executed.calls) := by
  by_cases hclient : prepared.header.client = 0
  · obtain ⟨-, -, hcalls, -⟩ := executeEntry_zero hclient executes
    refine ⟨?_, fun h => (h hclient).elim⟩
    split_ifs at hcalls
    · cases hcommit : commitApplication machine state.calls prepared token none with
      | error => simp [hcommit, Except.map] at hcalls
      | ok committed =>
        rw [hcommit] at hcalls
        rw [← Except.ok.inj hcalls]
        dsimp only
        rw [commitApplication_calls hcommit]
        exact List.subset_append_left _ _
    · rw [← Except.ok.inj hcalls]
      exact List.Subset.refl _
  · obtain ⟨body, calls, session, plan, reserved, hbody, -, -, -, rfl⟩ :=
      executeEntry_client hclient executes
    dsimp only
    rw [replyBody_calls hbody]
    refine ⟨List.subset_append_left _ _, ?_⟩
    rintro - ⟨code, hoperation⟩
    simp [hoperation]

theorem commitEntry_calls (commits : commitEntry config machine state prepared = .ok result) :
    state.calls ⊆ result.calls ∧ CommitCalls config prepared result.calls := by
  obtain ⟨⟨token, calls⟩, hprefetch, hrest⟩ := bind_eq_ok.mp commits
  obtain ⟨⟨reply, executed⟩, hexecute, hrest⟩ := bind_eq_ok.mp hrest
  obtain ⟨sessions, -, hrest⟩ := bind_eq_ok.mp hrest
  obtain ⟨upgrade, -, hrest⟩ := bind_eq_ok.mp hrest
  have hprefetched : state.calls ⊆ calls := by
    rw [startPrefetch_calls hprefetch]
    split_ifs
    · exact List.subset_append_left _ _
    · exact List.Subset.refl _
  obtain ⟨hexecuted, hcommit⟩ := executeEntry_calls hexecute
  obtain ⟨hmaintained, hcompact⟩ := continueCommitMaintenance_calls hrest
  exact ⟨List.Subset.trans hprefetched (List.Subset.trans hexecuted hmaintained), hcompact,
    fun hclient happlication => ⟨token, hmaintained (hcommit hclient happlication)⟩⟩

/-! ## Whole ranges -/

theorem commitEntries_cons_eq_ok {first : Prepared χ} {rest : List (Prepared χ)}
    (commits : commitEntries config machine state (first :: rest) = .ok result) :
    ∃ entered, commitEntry config machine state first = .ok entered ∧
      commitEntries config machine entered rest = .ok result := by
  unfold commitEntries at commits
  rw [List.foldlM_cons] at commits
  exact bind_eq_ok.mp commits

theorem commitEntries_calls (commits : commitEntries config machine state prepares = .ok result) :
    state.calls ⊆ result.calls ∧ ∀ prepared ∈ prepares, CommitCalls config prepared result.calls := by
  induction prepares generalizing state with
  | nil =>
    cases commits
    exact ⟨List.Subset.refl _, by simp⟩
  | cons first rest ih =>
    obtain ⟨committed, hfirst, hrest⟩ := commitEntries_cons_eq_ok commits
    obtain ⟨hcalls, hmade⟩ := commitEntry_calls hfirst
    obtain ⟨hlater, hall⟩ := ih hrest
    refine ⟨List.Subset.trans hcalls hlater, ?_⟩
    intro prepared mem
    obtain rfl | hmem := List.mem_cons.mp mem
    · exact hmade.mono hlater
    · exact hall prepared hmem

theorem replayCommitted_replayed {target : Nat}
    (replays : config.replayCommitted machine read state target = .ok result)
    (replayed : ∀ call ∈ state.calls, call.Replayed config) : ∀ call ∈ result.calls, call.Replayed config := by
  obtain ⟨-, -, hreplayed⟩ := bind_eq_ok.mp replays
  obtain ⟨-, -, hcalls, -⟩ := replayCommittedOf_keeps
    (fun _ (state : ExecutionState χ) => ∀ call ∈ state.calls, call.Replayed config)
    (fun next state _ => replayEntry config machine next state)
    (fun hcalls hentry => replayEntry_replayed hentry hcalls) replayed
  cases hreplayed
  exact hcalls

/-- The replay of journalled prepares that are all replayable does what the commit path did. -/
theorem replayFrom_of_commitEntries {next trigger op : Nat} {live replayed committed : ExecutionState χ}
    (after : checkpointAfter config.cluster config.checkpoint = some next)
    (triggers : checkpointTrigger config.cluster next = some trigger)
    (release : config.checkpointRelease = config.currentRelease)
    (journal : ∀ index < prepares.length, read (op + index) = prepares[index]?)
    (all : ∀ prepared ∈ prepares, prepared.header.op < trigger ∧ prepared.Valid config ∧
      prepared.Replayable config)
    (agrees : live.Agrees replayed) (window : live.upgrade.WindowAt next)
    (commits : commitEntries config machine live prepares = .ok committed) :
    ∃ result, replayFrom (readPrepared read) (fun state _ => replayEntry config machine next state)
        prepares.length op replayed = (result, .ok ()) ∧
      committed.Agrees result := by
  induction prepares generalizing live replayed op with
  | nil =>
    cases commits
    exact ⟨replayed, rfl, agrees⟩
  | cons first rest ih =>
    obtain ⟨entered, hfirst, hrest⟩ := commitEntries_cons_eq_ok commits
    obtain ⟨hbelow, hvalid, hreplayable⟩ := all first List.mem_cons_self
    obtain ⟨result, hentry, hagrees, hwindow⟩ :=
      replayEntry_of_commitEntry after triggers hbelow release hvalid hreplayable agrees window hfirst
    have hread : read op = some first := by simpa using journal 0 (by simp)
    have hjournal : ∀ index < rest.length, read (op + 1 + index) = rest[index]? := by
      intro index hindex
      have hnext := journal (index + 1) (by simpa using hindex)
      rwa [← Nat.add_assoc, Nat.add_right_comm, List.getElem?_cons_succ] at hnext
    obtain ⟨last, hlast, hfinal⟩ := ih hjournal (fun prepared mem => all prepared (List.mem_cons_of_mem _ mem))
      hagrees hwindow hrest
    refine ⟨last, ?_, hfinal⟩
    rw [List.length_cons, replayFrom, readPrepared, hread]
    simp only [Option.elim_some, hentry, bind, Except.bind]
    exact hlast

/-- A range is replayed as it was executed exactly when no prepare of it ends a compaction, and none of
a client's application prepares is committed into a reply buffer whose length the paths choose
differently.  `Open` replays only with the checkpoint's own release. -/
theorem CommittedRange.replays_iff (range : CommittedRange config χ)
    {read : Nat → Option (Prepared χ)} {sessions decoded : SessionTable χ}
    {replies : Table (Option (ReplyFrame χ))} {live : ExecutionState χ}
    (release : config.checkpointRelease = config.currentRelease) (journal : range.Journal read)
    (agrees : sessions.Agrees decoded)
    (executed : commitEntries config machine (.opened config sessions replies) range.prepares = .ok live) :
    (∃ replayed, config.replayCommitted machine read (.opened config decoded replies) range.last =
        .ok replayed ∧ live.Agrees replayed) ↔
      ∀ prepared ∈ range.prepares, prepared.Replayable config := by
  constructor
  · rintro ⟨replayed, hreplayed, hsame⟩ prepared mem
    obtain ⟨-, hcalls⟩ := commitEntries_calls executed
    have hmade := replayCommitted_replayed hreplayed (by simp [ExecutionState.opened])
    rw [← hsame.calls] at hmade
    refine ⟨fun hboundary => hmade _ ((hcalls prepared mem).compact hboundary), ?_⟩
    intro hclient happlication
    obtain ⟨token, hcommit⟩ := (hcalls prepared mem).commit hclient happlication
    exact hmade _ hcommit _ rfl
  · intro hall
    have hcount : range.last - config.checkpoint = range.prepares.length := by
      unfold CommittedRange.last
      omega
    have hopened : (ExecutionState.opened config sessions replies).Agrees (.opened config decoded replies) :=
      ⟨agrees, rfl, rfl, rfl, rfl, rfl⟩
    have hwindow : (ExecutionState.opened config sessions replies).upgrade.WindowAt range.next := by
      simp [UpgradeState.WindowAt, ExecutionState.opened, UpgradeState.idle]
    have hreplayable : ∀ prepared ∈ range.prepares, prepared.header.op < range.trigger ∧
        prepared.Valid config ∧ prepared.Replayable config := by
      intro prepared mem
      obtain ⟨index, hindex⟩ := List.mem_iff_getElem?.mp mem
      have hlength := (List.getElem?_eq_some_iff.mp hindex).1
      have hop := range.op_eq hindex
      have hbelow := range.below
      exact ⟨by omega, range.valid prepared mem, hall prepared mem⟩
    obtain ⟨result, hresult, hagrees⟩ := replayFrom_of_commitEntries range.next_eq range.trigger_eq release
      journal hreplayable hopened hwindow executed
    refine ⟨result, ?_, hagrees⟩
    unfold ExecutionConfig.replayCommitted replayCommittedOf
    simp only [range.next_eq, if_neg (show ¬ range.last < config.checkpoint by unfold CommittedRange.last; omega),
      hcount, hresult]
    rfl

end Execution

/-! ## A registration and a compaction -/

/-- A member of three with the default limits, opened at the root checkpoint. -/
def atRoot : ExecutionConfig where
  cluster := .default
  activeCount := 3
  currentRelease := 1
  releaseHistory := [1]
  checkpoint := 0
  checkpointRelease := 1

/-- A state machine that answers every commit with one byte. -/
def echo : StateMachine where
  prefetch := fun calls => some calls.length
  commit := fun _ => some [1]
  compact := fun _ => true

/-- A table of two free slots. -/
def twoSlots : SessionTable Digest where
  config := ⟨2, 3, 1048576, 1048320⟩
  slots := List.replicate 2 ⟨none, false, 0⟩
  count := 0

/-- The registration of client 7 as op 1. -/
def registration : Prepared Digest where
  header := { Header.root with client := 7, op := 1, timestamp := 1, operation := .register, release := 1 }
  body := Bytes.putUint 4 1048320 ++ Bytes.zeros 252

/-- The pulse that is op `op`. -/
def pulseAt (op : Nat) : Prepared Digest where
  header := { Header.root with op, commit := op - 1, timestamp := op, operation := .pulse, release := 1 }
  body := []

def registered : CommittedRange atRoot Digest where
  prepares := [registration]
  next := 959
  trigger := 991
  next_eq := by decide +kernel
  trigger_eq := by decide +kernel
  op_eq := by
    intro index prepared mem
    cases index with
    | zero =>
      obtain rfl := Option.some.inj mem
      rfl
    | succ => simp at mem
  below := by decide
  valid := by
    intro prepared mem
    obtain rfl := List.mem_singleton.mp mem
    exact ⟨le_rfl, .inl rfl⟩

/-- The pulses up to the end of the first compaction. -/
def pulses : CommittedRange atRoot Digest where
  prepares := (List.range 31).map fun index => pulseAt (index + 1)
  next := 959
  trigger := 991
  next_eq := by decide +kernel
  trigger_eq := by decide +kernel
  op_eq := by
    intro index prepared mem
    rw [List.getElem?_map, Option.map_eq_some_iff] at mem
    obtain ⟨position, hposition, rfl⟩ := mem
    obtain ⟨hindex, rfl⟩ := List.getElem?_eq_some_iff.mp hposition
    simp [pulseAt, atRoot, Nat.add_comm]
  below := by decide
  valid := by
    intro prepared mem
    obtain ⟨index, -, rfl⟩ := List.mem_map.mp mem
    exact ⟨le_rfl, .inr rfl⟩

/-- The journal that holds the prepares of a range. -/
def CommittedRange.read {config : ExecutionConfig} {χ : Type} (range : CommittedRange config χ) (op : Nat) :
    Option (Prepared χ) :=
  range.prepares[op - (config.checkpoint + 1)]?

theorem CommittedRange.journal_read {config : ExecutionConfig} {χ : Type} (range : CommittedRange config χ) :
    range.Journal range.read := by
  intro index _
  rw [CommittedRange.read, Nat.add_sub_cancel_left]

theorem twoSlots_agrees : twoSlots.Agrees twoSlots :=
  ⟨rfl, rfl, rfl, by decide, by decide⟩

theorem exists_of_isOk {ε α : Type} {result : Except ε α} (succeeds : result.isOk = true) :
    ∃ a, result = .ok a := by
  cases result with
  | error => cases succeeds
  | ok a => exact ⟨a, rfl⟩

theorem registered_replays :
    ∃ live replayed, commitEntries atRoot echo (.opened atRoot twoSlots .empty) registered.prepares = .ok live ∧
      atRoot.replayCommitted echo registered.read (.opened atRoot twoSlots .empty) registered.last =
        .ok replayed ∧ live.Agrees replayed := by
  obtain ⟨live, hlive⟩ : ∃ live,
      commitEntries atRoot echo (.opened atRoot twoSlots .empty) registered.prepares = .ok live :=
    exists_of_isOk (by decide +kernel)
  obtain ⟨replayed, hreplayed, hagrees⟩ :=
    (registered.replays_iff rfl registered.journal_read twoSlots_agrees hlive).mpr (by
      intro prepared mem
      obtain rfl := List.mem_singleton.mp mem
      exact ⟨by decide, fun _ happlication => by obtain ⟨code, hcode⟩ := happlication; cases hcode⟩)
  exact ⟨live, replayed, hlive, hreplayed, hagrees⟩

/-- The commit path compacts at op 31, the replay of the same pulses does not. -/
theorem compaction_not_replayed :
    ∃ live replayed, commitEntries atRoot echo (.opened atRoot twoSlots .empty) pulses.prepares = .ok live ∧
      atRoot.replayCommitted echo pulses.read (.opened atRoot twoSlots .empty) pulses.last = .ok replayed ∧
      live.calls = replayed.calls ++ [.startCompact 31 31] ∧ ¬ live.Agrees replayed := by
  have hruns : (match commitEntries atRoot echo (.opened atRoot twoSlots .empty) pulses.prepares,
      atRoot.replayCommitted echo pulses.read (.opened atRoot twoSlots .empty) pulses.last with
      | .ok live, .ok replayed => decide (live.calls = replayed.calls ++ [.startCompact 31 31])
      | _, _ => false) = true := by decide +kernel
  split at hruns
  · rename_i live replayed hlive hreplayed
    have hcalls := of_decide_eq_true hruns
    refine ⟨live, replayed, hlive, hreplayed, hcalls, fun hagrees => ?_⟩
    rw [hagrees.calls] at hcalls
    simp at hcalls
  · cases hruns

end Supervsr
