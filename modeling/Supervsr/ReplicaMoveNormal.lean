import Supervsr.ReplicaMove

/-
# Supervsr.ReplicaMoveNormal — prepares and commits as moves

Each handler of `ReplicaView` and `ReplicaNormal` is a sequence of moves.  A lemma
states the conditions its callers guarantee and no others, and follows the function's own branches.
-/

namespace Supervsr.Replica

open Relation (ReflTransGen)

variable {χ : Type} {rest : List (PipelineEntry χ)} {entry : PipelineEntry χ}

variable {replica : Replica χ} {inputs : Inputs χ}

variable {α : Type} {f : PipelineEntry χ → PipelineEntry χ} {header : Header χ} {durable : Bool}
  {request : Request χ} {op : Nat}

/-- No view change is pending while the first pipeline entry holds the op that triggers a checkpoint and
that checkpoint is not being written yet. -/
def Punctual (replica : Replica χ) (cfg : Config) : Prop :=
  replica.view < replica.pendingView → ∀ entry ∈ replica.pipeline.head?,
    entry.stage ≠ .checkpointSuperblock → replica.nextTrigger cfg ≠ some entry.header.op

theorem punctual_of_low {cfg : Config} (low : replica.pendingView ≤ replica.view) :
    replica.Punctual cfg := fun higher => absurd higher (Nat.not_lt.mpr low)

variable [DecidableEq χ] [Checksums χ] {cfg : Config} {given : Surroundings χ}

theorem Move.moves {next : Replica χ} (move : Move cfg given replica next) : Moves cfg given replica next :=
  ReflTransGen.single move

theorem moves_refl : Moves cfg given replica replica := ReflTransGen.refl

/-- A loop whose body is a sequence of moves wherever what the loop keeps holds. -/
theorem moves_foldl_of {f : Replica χ → α → Replica χ} (keeps : Replica χ → Prop) (actions : List α)
    (step : ∀ replica, ∀ a ∈ actions, keeps replica → Moves cfg given replica (f replica a) ∧ keeps (f replica a))
    (holds : keeps replica) :
    Moves cfg given replica (actions.foldl f replica) ∧ keeps (actions.foldl f replica) := by
  induction actions generalizing replica with
  | nil => exact ⟨moves_refl, holds⟩
  | cons a rest ih =>
    obtain ⟨hmoved, hkept⟩ := step replica a List.mem_cons_self holds
    obtain ⟨hrest, hlast⟩ := ih (fun replica b hb => step replica b (List.mem_cons_of_mem a hb)) hkept
    exact ⟨hmoved.trans hrest, hlast⟩

theorem moves_foldl {f : Replica χ → α → Replica χ} (step : ∀ replica a, Moves cfg given replica (f replica a))
    (actions : List α) (replica : Replica χ) : Moves cfg given replica (actions.foldl f replica) :=
  (moves_foldl_of (fun _ => True) actions (fun replica a _ _ => ⟨step replica a, trivial⟩) trivial).1

/-! ## Views -/

theorem sendGetView_moves : Moves cfg given replica (replica.sendGetView cfg inputs) := by
  unfold sendGetView
  simp only
  split_ifs with hprimary hsoon hnonce
  · exact moves_refl
  · exact moves_refl
  all_goals
    refine ReflTransGen.tail (Move.quiet _ _ _ _ _ _ _ _ fun _ h => .inl h).moves (Move.send _ ⟨rfl, ?_⟩)
    first
      | exact hnonce
      | exact Nat.ne_of_gt (Nat.lt_of_lt_of_le Nat.one_pos (Nat.le_max_right _ _))

theorem requestView_moves (view : Nat) : Moves cfg given replica (replica.requestView cfg inputs view) := by
  unfold requestView
  simp only
  split_ifs
  · exact (Move.quiet _ _ _ _ _ _ _ _ fun _ h => .inl h).moves.trans sendGetView_moves
  · exact sendGetView_moves

theorem beginViewChange_moves {target : Nat}
    (undisturbed : given.calm → replica.view < target → replica.syncing = true → replica.status ≠ .recovering) :
    Moves cfg given replica (replica.beginViewChange cfg inputs target) := by
  unfold beginViewChange
  split_ifs with hstay hbusy
  · exact moves_refl
  · rw [not_or, Nat.not_le] at hstay
    rw [Option.isSome_iff_ne_none] at hbusy
    exact (Move.pend hstay.1 hstay.2 hbusy fun hcalm => undisturbed hcalm hstay.1).moves
  rw [not_or, Nat.not_le] at hstay
  simp only [not_or, Option.isSome_iff_ne_none, ne_eq, Bool.not_eq_true, not_not] at hbusy
  exact (Move.beginViewChange inputs hstay.1 hstay.2 hbusy.1 hbusy.2
    fun hcalm => undisturbed hcalm hstay.1).moves

theorem resumePendingViewChange_moves (free : replica.viewIo = none)
    (committed : given.calm → replica.commitInFlight = false) :
    Moves cfg given replica (replica.resumePendingViewChange cfg inputs) := by
  unfold resumePendingViewChange resumesPendingView
  split_ifs with hpending
  · rw [decide_eq_true_eq] at hpending
    exact (Move.resume inputs hpending free committed).moves
  · exact (Move.settle (by simpa using hpending)).moves

theorem requestRepairWindowHeaders_moves :
    Moves cfg given replica (replica.requestRepairWindowHeaders cfg inputs) := by
  unfold requestRepairWindowHeaders
  simp only
  split_ifs
  · exact moves_refl
  · exact ReflTransGen.tail (b := replica.send _ (.getHeaders _ _ _)) (Move.moves (Move.send _ rfl))
      (Move.quiet _ _ _ _ _ _ _ _ fun _ h => .inl h)

omit [DecidableEq χ] [Checksums χ] in
theorem requestRepairWindowHeaders_punctual (punctual : replica.Punctual cfg) : (replica.requestRepairWindowHeaders cfg inputs).Punctual cfg := by
  unfold requestRepairWindowHeaders
  simp only
  split_ifs <;> exact punctual

/-! ## Prepares and acknowledgements -/

section

omit [DecidableEq χ] [Checksums χ]

theorem map_unacknowledged_modify (same : ∀ entry, (f entry).unacknowledged = entry.unacknowledged)
    (pipeline : List (PipelineEntry χ)) (offset : Nat) : (pipeline.modify offset f).map PipelineEntry.unacknowledged =
      pipeline.map PipelineEntry.unacknowledged := by
  induction pipeline generalizing offset with
  | nil => simp
  | cons entry rest ih =>
    cases offset with
    | zero => simp [same]
    | succ offset => simpa using ih offset

/-- Whether a commit is in flight does not depend on acknowledgements. -/
theorem commitInFlight_of_unacknowledged {next : Replica χ}
    (same : next.pipeline.map PipelineEntry.unacknowledged = replica.pipeline.map PipelineEntry.unacknowledged) : next.commitInFlight = replica.commitInFlight := by
  have hstages : ∀ pipeline : List (PipelineEntry χ), pipeline.any (fun entry => entry.stage ≠ .idle) =
      (pipeline.map PipelineEntry.unacknowledged).any (fun entry => entry.stage ≠ .idle) := by
    intro pipeline
    rw [List.any_map]
    rfl
  rw [commitInFlight, commitInFlight, hstages, same, ← hstages]

end

theorem modifyEntry_moves (offset : Nat) (same : ∀ entry, (f entry).unacknowledged = entry.unacknowledged) :
    Moves cfg given replica (replica.modifyEntry offset f) :=
  (Move.acks (map_unacknowledged_modify same replica.pipeline offset)).moves

theorem countPrepareAck_moves (offset author : Nat) :
    Moves cfg given replica (replica.countPrepareAck cfg offset author) := by
  refine modifyEntry_moves offset fun entry => ?_
  split_ifs <;> rfl

omit [DecidableEq χ] [Checksums χ] in
theorem canAcknowledge_durable (may : replica.canAcknowledge cfg header durable = true) :
    durable = true ∧ replica.canAcknowledge cfg header true = true := by
  cases durable with
  | true => exact ⟨rfl, may⟩
  | false => simp [canAcknowledge] at may

/-- What makes a replica vouch for a header, before it is asked whether it may say so. -/
def Holds (replica : Replica χ) (cfg : Config) (header : Header χ) : Prop :=
  (∃ entry ∈ replica.pipeline, entry.header = header ∧ entry.durable = true) ∨
    (header.op ≤ replica.commitMin ∧ replica.storedHeader cfg header.op = some header)

theorem sendPrepareOK_moves (held : durable = true → replica.Holds cfg header) :
    Moves cfg given replica (replica.sendPrepareOK cfg header durable) := by
  unfold sendPrepareOK
  split_ifs with hmay
  · obtain ⟨hdurable, hmay⟩ := canAcknowledge_durable hmay
    have spoken : replica.Says cfg (.prepareOK (replica.prepareOK cfg header)) :=
      ⟨header, rfl, hmay, held hdurable⟩
    exact (Move.send _ spoken).moves
  · exact moves_refl

theorem acknowledgeEntry_moves (offset : Nat) : Moves cfg given replica (replica.acknowledgeEntry cfg offset) := by
  unfold acknowledgeEntry
  split
  · exact moves_refl
  rename_i entry hentry
  have held : entry.durable = true → replica.Holds cfg entry.header :=
    fun durable => .inl ⟨entry, List.mem_of_getElem? hentry, rfl, durable⟩
  split_ifs with hmay hprimary
  · exact countPrepareAck_moves offset cfg.localIndex
  · exact (sendPrepareOK_moves held).trans (modifyEntry_moves offset fun _ => rfl)
  · exact moves_refl

theorem acknowledgeDurablePrepares_moves : Moves cfg given replica (replica.acknowledgeDurablePrepares cfg) := by
  unfold acknowledgeDurablePrepares
  split_ifs
  · exact moves_refl
  refine moves_foldl (fun replica offset => ?_) _ replica
  split
  · exact moves_refl
  · split_ifs
    · exact moves_refl
    · exact acknowledgeEntry_moves offset

/-- An accepted prepare is the last entry of the pipeline. -/
theorem mem_of_acceptPrepare {next : Replica χ} (accepted : replica.acceptPrepare cfg inputs header = some next) :
    ∃ entry ∈ next.pipeline, entry.prepare = header := by
  unfold acceptPrepare at accepted
  split_ifs at accepted
  split at accepted
  · cases accepted
  unfold pushPipeline at accepted
  split_ifs at accepted
  · cases accepted
  · simp only [Option.map_some, Option.some.injEq] at accepted
    subst accepted
    exact ⟨_, List.mem_append_right _ (List.mem_singleton_self _), rfl⟩

theorem broadcastPrepare_moves {next : Replica χ} (normal : replica.status = .normal)
    (durable : replica.durableView = replica.view) (current : header.view = replica.view)
    (primary : replica.isPrimary cfg = true) (creates : replica.Creates cfg given header)
    (sent : replica.broadcastPrepare cfg inputs header = some next) : Moves cfg given replica next := by
  obtain ⟨accepted, haccepted, rfl⟩ := Option.map_eq_some_iff.mp sent
  exact (Move.accept normal durable current (.inr ⟨primary, creates⟩) haccepted).moves.tail
    (Move.send _ (.inl (mem_of_acceptPrepare haccepted)))

/-- Whether a prepare is broadcast does not depend on the requests that wait. -/
theorem broadcastPrepare_requestQueue (header : Header χ) (requestQueue : List (Request χ × TimeSample)) :
    Replica.broadcastPrepare { replica with requestQueue := requestQueue } cfg inputs header =
      (replica.broadcastPrepare cfg inputs header).map fun next =>
        { next with requestQueue := requestQueue } := by
  unfold broadcastPrepare acceptPrepare submit pushPipeline
  by_cases hroom : replica.pipeline.length = cfg.pipelineMax
  · simp [hroom]
  by_cases hready : inputs.ioAvailable
  · simp only [hroom, hready, checkpointOp, false_or, not_true_eq_false, if_false, Option.map_some]
    split_ifs
    · rfl
    · rfl
  · simp [hready]

/-- A request is prepared, queued or dropped; `queue` is what waits behind it. -/
theorem handleRequest_queue_moves (request : Request χ) (sample : TimeSample)
    {queue : List (Request χ × TimeSample)} (kept : queue ⊆ replica.requestQueue)
    (place : given.heard (.request request) ∨ (request, sample) ∈ replica.requestQueue) :
    Moves cfg given replica
      (Replica.handleRequest { replica with requestQueue := queue } cfg inputs request sample) := by
  have hkept : Moves cfg given replica { replica with requestQueue := queue } :=
    (Move.quiet queue _ _ _ _ _ _ _ fun _ h => .inl (kept h)).moves
  have hqueued : Moves cfg given replica
      (Replica.queueRequest { replica with requestQueue := queue } cfg request sample) := by
    unfold queueRequest
    split_ifs
    · exact hkept
    refine (Move.quiet (queue ++ [(request, sample)]) _ _ _ _ _ _ _ fun queued h => ?_).moves
    obtain h | h := List.mem_append.mp h
    · exact .inl (kept h)
    · rw [List.mem_singleton.mp h]
      exact place.symm
  unfold handleRequest
  split_ifs with hrefused hunfit
  · exact hkept
  · exact hkept
  · exact hqueued
  · exact hqueued
  simp only [not_or, ne_eq, not_not] at hrefused hunfit
  split
  · -- the prepare is made while the request is still queued, which is dropped afterwards
    rename_i hbroadcast
    rw [broadcastPrepare_requestQueue] at hbroadcast
    obtain ⟨sent, hsent, rfl⟩ := Option.map_eq_some_iff.mp hbroadcast
    have hmade : Moves cfg given replica sent :=
      broadcastPrepare_moves hrefused.1 hrefused.2.1 rfl hunfit.2.1
        (.inl ⟨request, sample.wall, place.imp_right fun h => ⟨sample, h⟩, rfl⟩) hsent
    refine hmade.tail (Move.quiet queue _ _ _ _ _ _ _ fun _ h => .inl ?_)
    obtain ⟨accepted, haccepted, rfl⟩ := Option.map_eq_some_iff.mp hsent
    obtain ⟨-, -, -, -, -, rfl⟩ := acceptPrepare_eq_some haccepted
    exact kept h
  · exact hkept.tail (Move.fail _)

theorem handleRequest_moves (sample : TimeSample) (heard : given.heard (.request request)) :
    Moves cfg given replica (replica.handleRequest cfg inputs request sample) :=
  handleRequest_queue_moves request sample (fun _ h => h) (.inl heard)

theorem dequeueRequest_moves : Moves cfg given replica (replica.dequeueRequest cfg inputs) := by
  unfold dequeueRequest
  split
  · exact moves_refl
  rename_i request sample rest hqueue
  have hfirst : (request, sample) ∈ replica.requestQueue := by
    rw [hqueue]
    exact List.mem_cons_self
  split_ifs
  · exact moves_refl
  · refine handleRequest_queue_moves request sample ?_ (.inr hfirst)
    rw [hqueue]
    exact List.subset_cons_self _ _

theorem handlePrepare_moves (heard : given.heard (.prepare header)) :
    Moves cfg given replica (replica.handlePrepare cfg inputs header) := by
  unfold handlePrepare
  split
  · exact moves_refl
  rename_i hrefused
  simp only [not_or, ne_eq, not_not] at hrefused
  split
  · -- a prepare the pipeline holds is acknowledged again
    split
    · exact moves_refl
    rename_i entry hentry
    split_ifs with hsame
    · refine (sendPrepareOK_moves fun durable =>
        .inl ⟨entry, List.mem_of_getElem? hentry, rfl, durable⟩).trans
          (modifyEntry_moves _ fun entry => ?_)
      split_ifs <;> rfl
    · exact moves_refl
  · split_ifs with hcommitted hview hgap
    · split
      · exact moves_refl
      rename_i stored hstored
      split_ifs with hsame
      · have hsame := Header.checksum_injective hsame
        exact sendPrepareOK_moves fun _ => .inr ⟨hsame ▸ hcommitted, hsame ▸ hstored⟩
      · exact moves_refl
    · exact moves_refl
    · exact requestView_moves header.view
    · cases haccepted : replica.acceptPrepare cfg inputs header with
      | none => exact moves_refl
      | some next =>
        exact (Move.accept hrefused.1 hrefused.2.1 (not_not.mp hview) (.inl heard)
          haccepted).moves

theorem handlePrepareOK_moves (ack : PrepareOK χ) : Moves cfg given replica (replica.handlePrepareOK cfg ack) := by
  unfold handlePrepareOK
  split_ifs
  · exact moves_refl
  split
  · exact moves_refl
  split
  · exact moves_refl
  split_ifs
  · exact countPrepareAck_moves _ ack.author
  · exact moves_refl

theorem handleCommit_moves {view author : Nat} {checksum checkpointID : χ} {checkpointOp commit monotonic : Nat}
    (heard : given.heard (.commit view author checksum checkpointID checkpointOp commit monotonic)) :
    Moves cfg given replica (replica.handleCommit cfg inputs view author checksum commit monotonic) := by
  unfold handleCommit
  simp only
  split_ifs with hrefused hconflict hbehind hshort
  · exact moves_refl
  all_goals
    simp only [not_or, ne_eq, not_not] at hrefused
    obtain ⟨hnormal, -, rfl, rfl, -⟩ := hrefused
  · exact (Move.distrustHead hnormal).moves.trans (requestView_moves _)
  · exact moves_refl
  · exact ((Move.learnCommit hnormal heard).moves.tail (Move.distrustHead hnormal)).trans
      (requestView_moves _)
  · exact (Move.learnCommit hnormal heard).moves

/-! ## The commit pipeline -/

/-- A request is handled without a word about views. -/
theorem handleRequest_low {sample : TimeSample} (low : replica.pendingView ≤ replica.view) :
    (replica.handleRequest cfg inputs request sample).pendingView ≤
      (replica.handleRequest cfg inputs request sample).view := by
  unfold handleRequest queueRequest
  split_ifs
  all_goals try exact low
  split
  · rename_i hsent
    obtain ⟨accepted, haccepted, rfl⟩ := Option.map_eq_some_iff.mp hsent
    obtain ⟨-, -, -, -, -, rfl⟩ := acceptPrepare_eq_some haccepted
    exact low
  · exact low

theorem dequeueRequest_low (low : replica.pendingView ≤ replica.view) :
    (replica.dequeueRequest cfg inputs).pendingView ≤ (replica.dequeueRequest cfg inputs).view := by
  unfold dequeueRequest
  split
  · exact low
  · split_ifs
    · exact low
    · exact handleRequest_low low

section

omit [DecidableEq χ]

theorem beginViewChangeNow_pendingView (target : Nat) :
    (replica.beginViewChangeNow cfg inputs target).pendingView = replica.pendingView := by
  obtain ⟨err, h⟩ | ⟨-, h⟩ := replica.beginViewChangeNow_cases cfg inputs target <;> rw [h] <;> rfl

theorem beginViewChangeNow_pipeline (target : Nat) :
    (replica.beginViewChangeNow cfg inputs target).pipeline =
      replica.pipeline.map fun entry => { entry with acks := [], quorum := false } := by
  obtain ⟨err, h⟩ | ⟨-, h⟩ := replica.beginViewChangeNow_cases cfg inputs target <;> rw [h] <;> rfl

end

section

omit [DecidableEq χ] [Checksums χ]

section First

variable (first : replica.pipeline = entry :: rest)

include first

theorem setStage_pipeline (stage : CommitStage) :
    (replica.setStage stage).pipeline = { entry with stage := stage } :: rest := by
  simp [setStage, modifyEntry, first]

theorem executing_pipeline (handle : Nat) :
    (replica.setStage .execute).pipeline.modify 0 (fun entry => { entry with io := some handle }) =
      { entry with stage := .execute, io := some handle } :: rest := by
  rw [setStage_pipeline first]
  rfl

theorem executed_pipeline (stage : CommitStage) :
    (((replica.setStage .execute).recordCommit entry.header).setStage stage).pipeline =
      { entry with stage := stage } :: rest := by
  simp [setStage, modifyEntry, recordCommit, first]

theorem replied_pipeline (handle : Nat) (stage : CommitStage) :
    ((((replica.releaseIo handle).modifyEntry 0
      fun entry => { entry with io := none }).recordCommit entry.header).setStage stage).pipeline =
      { entry with io := none, stage := stage } :: rest := by
  simp [setStage, modifyEntry, recordCommit, releaseIo, first]

theorem checkpointData_pipeline (target : Nat) :
    ({ replica with checkpointTarget := target }.setStage .checkpointData).pipeline =
      { entry with stage := .checkpointData } :: rest := by
  simp [setStage, modifyEntry, first]

theorem checkpointing_pipeline (handle : Nat) :
    replica.pipeline.modify 0 (fun entry => { entry with stage := .checkpointSuperblock, io := some handle }) =
      { entry with stage := .checkpointSuperblock, io := some handle } :: rest := by
  rw [first]
  rfl

end First

theorem appended_pipeline (replica : Replica χ) (offset : Nat) :
    ((replica.pipeline.modify offset fun entry => { entry with io := none }).modify offset
        fun entry => { entry with durable := true }) =
      replica.pipeline.modify offset fun entry => { entry with io := none, durable := true } :=
  List.modify_modify_eq ..

theorem setStage_punctual (first : replica.pipeline = entry :: rest)
    (unsubmitted : entry.stage ≠ .checkpointSuperblock)
    (punctual : given.punctual → replica.Punctual cfg) (stage : CommitStage) :
    given.punctual → (replica.setStage stage).Punctual cfg := by
  intro hpunctual higher other hother _
  rw [setStage_pipeline first] at hother
  cases hother
  exact punctual hpunctual higher entry (by rw [first]; rfl) unsubmitted

end

/-- A sequence of moves to a state in which no pending view change keeps a checkpoint from being taken. -/
structure Leads (cfg : Config) (given : Surroundings χ) (start replica : Replica χ) : Prop where
  moves : Moves cfg given start replica
  punctual : given.punctual → replica.Punctual cfg

theorem Leads.head {start middle : Replica χ} (first : Moves cfg given start middle)
    (rest : Leads cfg given middle replica) : Leads cfg given start replica :=
  ⟨first.trans rest.moves, rest.punctual⟩

section Commit

variable {next : Replica χ → Replica χ}
  (hnext : ∀ replica, (given.punctual → replica.Punctual cfg) → Leads cfg given replica (next replica))

include hnext

/-- What `completeCommitEntry` does behind its pop. -/
theorem completeCommitEntry_popped (low : replica.pendingView ≤ replica.view) :
    Leads cfg given replica.popPipeline (replica.completeCommitEntry cfg inputs next) := by
  have hpunctual : given.punctual → replica.popPipeline.Punctual cfg := fun _ => punctual_of_low low
  unfold completeCommitEntry
  simp only
  split_ifs with hbehind
  · have source : replica.popPipeline.WindowSource given replica.popPipeline.view
        replica.popPipeline.commitMax := .inr ⟨hbehind.2.2.1, hbehind.2.1, rfl, rfl, low⟩
    obtain h | h | ⟨windowHead, hahead, hbounded, h⟩ := replica.popPipeline.beginRepairWindow_cases cfg
      inputs replica.popPipeline.view replica.popPipeline.commitMax
    all_goals rw [h]
    · exact ⟨(Move.fail _).moves.tail (Move.fail _), hpunctual⟩
    · exact ⟨(Move.fail _).moves, hpunctual⟩
    · exact ⟨(Move.openWindow hahead hbounded source).moves.trans
        requestRepairWindowHeaders_moves,
        fun _ => requestRepairWindowHeaders_punctual (punctual_of_low low)⟩
  · exact Leads.head dequeueRequest_moves
      (hnext _ fun _ => punctual_of_low (dequeueRequest_low low))
  · exact ⟨moves_refl, hpunctual⟩

theorem yieldCheckpointToView_leads (first : replica.pipeline = entry :: rest)
    (maintains : entry.stage.maintains = true) (unsubmitted : entry.stage ≠ .checkpointSuperblock)
    (higher : replica.view < replica.pendingView) (punctual : given.punctual → replica.Punctual cfg) :
    Leads cfg given replica (replica.yieldCheckpointToView cfg inputs next) := by
  refine Leads.head (Move.yield inputs first maintains unsubmitted higher ?_).moves
    (completeCommitEntry_popped hnext ?_)
  · intro hpunctual
    exact punctual hpunctual higher entry (by rw [first]; rfl) unsubmitted
  · rw [beginViewChangeNow_pendingView]
    exact Nat.zero_le _

theorem applyCheckpoint_leads (first : replica.pipeline = entry :: rest) (data : entry.stage = .checkpointData)
    (punctual : given.punctual → replica.Punctual cfg)
    (undrained : given.calm → replica.status = .recovering → replica.drainsCompletions = false) :
    Leads cfg given replica (replica.applyCheckpoint cfg inputs next) := by
  unfold applyCheckpoint
  split
  · rename_i higher
    exact yieldCheckpointToView_leads hnext first (by rw [data]; rfl) (by rw [data]; decide) higher punctual
  rename_i hlow
  split
  · exact ⟨(Move.fail _).moves, punctual⟩
  rename_i hplaced
  split
  · exact ⟨(Move.fail _).moves, punctual⟩
  rename_i checkpoint hbuilt
  split
  · exact ⟨(Move.fail _).moves, punctual⟩
  rename_i hsubmitted
  refine ⟨(Move.submitCheckpoint first data hbuilt undrained hsubmitted
    fun h => hplaced (.inr h)).moves, fun _ => ?_⟩
  obtain ⟨-, rfl⟩ := submit_eq_ok hsubmitted
  exact punctual_of_low (Nat.not_lt.mp hlow)

theorem afterCompact_leads (first : replica.pipeline = entry :: rest) (holds : entry.header.op = op)
    (stage : entry.stage = .checkpointDurable ∨ entry.stage = .compact)
    (punctual : given.punctual → replica.Punctual cfg)
    (undrained : given.calm → replica.status = .recovering → replica.drainsCompletions = false) :
    Leads cfg given replica (replica.afterCompact cfg inputs op next) := by
  subst holds
  have maintains : entry.stage.maintains = true := by rcases stage with h | h <;> rw [h] <;> rfl
  have unsubmitted : entry.stage ≠ .checkpointSuperblock := by rcases stage with h | h <;> rw [h] <;> decide
  unfold afterCompact
  split
  · rename_i higher
    exact yieldCheckpointToView_leads hnext first maintains unsubmitted higher punctual
  rename_i hlow
  rcases hreached : replica.reachNext cfg entry.header.op with ⟨noted, begun⟩
  -- the session note does not touch what the rest reads
  obtain ⟨hmoved, hfirst, hcheckpoint, hlow, hundrained⟩ : Moves cfg given replica noted ∧
      noted.pipeline = entry :: rest ∧ noted.checkpointOp = replica.checkpointOp ∧
      noted.pendingView ≤ noted.view ∧
      (given.calm → noted.status = .recovering → noted.drainsCompletions = false) := by
    obtain rfl | ⟨target, htarget, hkept⟩ := reachCheckpoint_state hreached
    · exact ⟨moves_refl, first, rfl, Nat.not_lt.mp hlow, undrained⟩
    cases hkept
    split_ifs
    · exact ⟨(Move.session htarget).moves, first, rfl, Nat.not_lt.mp hlow, undrained⟩
    · exact ⟨moves_refl, first, rfl, Nat.not_lt.mp hlow, undrained⟩
  refine Leads.head hmoved ?_
  rcases begun with err | started
  · exact ⟨(Move.fail _).moves, fun _ => punctual_of_low hlow⟩
  obtain ⟨target, trigger, htarget, htrigger, ⟨rfl, hop⟩ | ⟨rfl, rfl, hsession⟩⟩ :=
    reachCheckpoint_eq_ok hreached
  · refine Leads.head (Move.pop hfirst maintains hlow (.inl ⟨unsubmitted, ?_⟩)).moves
      (completeCommitEntry_popped hnext hlow)
    rw [nextTrigger, hcheckpoint, htarget, Option.bind_some, htrigger]
    exact fun h => hop (Option.some.inj h).symm
  have hdata : Move cfg given noted _ :=
    Move.checkpointData hfirst stage (hcheckpoint ▸ htarget) htrigger hsession
  simp only
  split_ifs
  · exact Leads.head hdata.moves (applyCheckpoint_leads hnext (setStage_pipeline hfirst .checkpointData) rfl
      (fun _ => punctual_of_low hlow) hundrained)
  · exact ⟨hdata.moves, fun _ => punctual_of_low hlow⟩

/-- The maintenance that follows an execution; `commit` is the move that records it. -/
theorem continueCommitMaintenance_leads {start : Replica χ} (first : replica.pipeline = entry :: rest)
    (holds : entry.header.op = op) (executes : entry.stage = .execute)
    (commit : ∀ stage, stage = .checkpointDurable ∨ stage = .compact →
      Move cfg given start (replica.setStage stage))
    (punctual : given.punctual → replica.Punctual cfg)
    (undrained : given.calm → replica.status = .recovering → replica.drainsCompletions = false) :
    Leads cfg given start (replica.continueCommitMaintenance cfg inputs op next) := by
  have hstaged := setStage_punctual first (by rw [executes]; decide) punctual
  unfold continueCommitMaintenance
  simp only
  split_ifs
  · exact Leads.head (commit _ (.inl rfl)).moves
      (afterCompact_leads hnext (setStage_pipeline first _) holds (.inl rfl) (hstaged _) undrained)
  · exact Leads.head (commit _ (.inr rfl)).moves
      (afterCompact_leads hnext (setStage_pipeline first _) holds (.inr rfl) (hstaged _) undrained)
  · exact ⟨(commit _ (.inr rfl)).moves, hstaged _⟩

omit [DecidableEq χ] [Checksums χ] hnext in
theorem ne_superblock_of_waits (waits : entry.stage = .stall ∨ entry.stage = .replySetup) :
    entry.stage ≠ .checkpointSuperblock := by
  rcases waits with h | h <;> rw [h] <;> decide

section Execute

variable (first : replica.pipeline = entry :: rest)
  (waits : entry.stage = .stall ∨ entry.stage = .replySetup)
  (ready : (∃ inputs, replica.mayCommit inputs = true) ∧ replica.entryReady cfg entry = true)
  (punctual : given.punctual → replica.Punctual cfg)

include first waits ready punctual

theorem finishCommit_leads :
    Leads cfg given replica
      ((replica.setStage .execute).finishCommit cfg inputs entry.header next) := by
  refine continueCommitMaintenance_leads hnext (setStage_pipeline first .execute) rfl rfl
    (fun _ => Move.commit first waits ready)
    (setStage_punctual first (ne_superblock_of_waits waits) punctual .execute) ?_
  -- commits do not run during a state sync
  intro _ hrecovering
  obtain ⟨⟨inputs, hmay⟩, -⟩ := ready
  simp only [mayCommit, decide_eq_true_eq] at hmay
  rw [show replica.status = .recovering from hrecovering] at hmay
  simp at hmay

theorem executeEntry_leads :
    Leads cfg given replica
      ((replica.setStage .execute).executeEntry cfg inputs entry.header next) := by
  have hfailed : ∀ err, Leads cfg given replica ((replica.setStage .execute).fail err) :=
    fun err => ⟨(Move.progress first (by tauto) (.inr ready) (by tauto)).moves.tail (Move.fail err),
      setStage_punctual first (ne_superblock_of_waits waits) punctual .execute⟩
  unfold executeEntry
  split
  · exact finishCommit_leads hnext first waits ready punctual
  split
  · exact hfailed _
  split_ifs
  · exact hfailed _
  · exact finishCommit_leads hnext first waits ready punctual
  split
  · exact hfailed _
  rename_i hsubmitted
  refine ⟨(Move.submitReply first waits ready hsubmitted).moves, ?_⟩
  obtain ⟨-, rfl⟩ := submit_eq_ok hsubmitted
  intro hpunctual higher other hother _
  change other ∈ ((replica.setStage .execute).pipeline.modify 0 _).head? at hother
  rw [setStage_pipeline first] at hother
  cases hother
  exact punctual hpunctual higher entry (by rw [first]; rfl) (ne_superblock_of_waits waits)

end Execute

theorem advanceCommitRound_leads (punctual : given.punctual → replica.Punctual cfg) :
    Leads cfg given replica (replica.advanceCommitRound cfg inputs next) := by
  unfold advanceCommitRound
  split
  · exact ⟨moves_refl, punctual⟩
  rename_i hmay
  rw [not_not] at hmay
  split
  · exact ⟨moves_refl, punctual⟩
  rename_i entry rest first
  split
  · exact ⟨moves_refl, punctual⟩
  rename_i hready
  rw [not_not] at hready
  have ready : (∃ inputs, replica.mayCommit inputs = true) ∧ replica.entryReady cfg entry = true :=
    ⟨⟨inputs, hmay⟩, hready⟩
  have begin : (entry.stage = .idle ∨ entry.stage = .start ∨ entry.stage = .checkPrepare) →
      Leads cfg given replica (if ¬ entry.header.operation.prefetches = true ∨
          inputs.prefetchReady entry.header.op = true then next (replica.setStage .stall)
        else replica.setStage .prefetch) := by
    intro h
    have hstaged := setStage_punctual first (by rcases h with h | h | h <;> rw [h] <;> decide) punctual
    split_ifs
    · exact Leads.head (Move.progress first (by tauto) (.inr ready) (by tauto)).moves
        (hnext _ (hstaged .stall))
    · exact ⟨(Move.progress first (by tauto) (.inr ready) (by tauto)).moves, hstaged .prefetch⟩
  cases hstage : entry.stage with
  | idle => exact begin (.inl hstage)
  | start => exact begin (.inr (.inl hstage))
  | checkPrepare => exact begin (.inr (.inr hstage))
  | stall => exact executeEntry_leads hnext first (.inl hstage) ready punctual
  | replySetup => exact executeEntry_leads hnext first (.inr hstage) ready punctual
  | _ => exact ⟨moves_refl, punctual⟩

end Commit

theorem advanceCommitRounds_leads (rounds : Nat) :
    ∀ replica : Replica χ, (given.punctual → replica.Punctual cfg) →
      Leads cfg given replica (advanceCommitRounds cfg inputs rounds replica) := by
  induction rounds with
  | zero =>
    intro replica punctual
    exact ⟨moves_refl, punctual⟩
  | succ rounds ih =>
    intro replica punctual
    exact advanceCommitRound_leads ih punctual

theorem advanceCommit_leads (punctual : given.punctual → replica.Punctual cfg) :
    Leads cfg given replica (replica.advanceCommit cfg inputs) :=
  advanceCommitRounds_leads _ replica punctual

theorem finishCheckpointPersistence_moves
    (free : given.calm → replica.syncing = false ∧ ∀ entry ∈ replica.pipeline.head?, entry.io = none) :
    Moves cfg given replica (replica.finishCheckpointPersistence cfg inputs) := by
  unfold finishCheckpointPersistence
  split
  · rename_i entry checkpoint hhead hpending
    obtain ⟨rest, first⟩ : ∃ rest, replica.pipeline = entry :: rest := by
      cases hpipeline : replica.pipeline with
      | nil => simp [hpipeline] at hhead
      | cons other rest =>
        simp only [hpipeline, List.head?_cons, Option.some.injEq] at hhead
        exact ⟨rest, by rw [hhead]⟩
    have hfree : given.calm → replica.syncing = false ∧ entry.io = none :=
      fun hcalm => ⟨(free hcalm).1, (free hcalm).2 entry hhead⟩
    split
    · exact (Move.fail _).moves
    rename_i hpersisted
    rw [ne_eq, not_not] at hpersisted
    split
    · exact (Move.drain first hpersisted hfree (by rw [hpending]; exact Option.some_ne_none checkpoint)).moves
    split
    · exact (Move.publishLast first hpersisted hfree hpending _).moves
    rename_i nextCheckpoint _
    generalize (if entry.header.op = nextCheckpoint then nextCheckpoint else 0) = sessionOp
    refine (Move.publish sessionOp first hpersisted hfree hpending).moves.trans ?_
    have maintains : entry.stage.maintains = true := by rw [hpersisted]; rfl
    have hfirst : (replica.publishCheckpoint checkpoint sessionOp).pipeline = entry :: rest := first
    have published : (replica.publishCheckpoint checkpoint sessionOp).pendingCheckpoint = none := rfl
    have hfree : given.calm → (replica.publishCheckpoint checkpoint sessionOp).syncing = false ∧
        entry.io = none := hfree
    generalize replica.publishCheckpoint checkpoint sessionOp = replica at hfirst published hfree ⊢
    simp only
    split_ifs with hresumes
    · have hhigher : replica.view < replica.pendingView := by simpa [resumesPendingView] using hresumes
      refine (Move.yieldPublished inputs hfirst hpersisted hfree published hhigher).moves.trans ?_
      rw [resumePendingViewChange, if_pos hresumes]
      refine Leads.moves (completeCommitEntry_popped (advanceCommitRounds_leads _) ?_)
      rw [beginViewChangeNow_pendingView]
      exact Nat.zero_le _
    · have hlow : replica.pendingView ≤ replica.view := by simpa [resumesPendingView] using hresumes
      exact (Move.pop hfirst maintains hlow (.inr ⟨hpersisted, published, hfree⟩)).moves.trans
        (completeCommitEntry_popped (advanceCommitRounds_leads _) hlow).moves
  · exact (Move.fail _).moves

theorem finishCheckpointRepairDrain_moves (attributed : Attributed given replica) :
    Moves cfg given replica (replica.finishCheckpointRepairDrain cfg inputs) := by
  unfold finishCheckpointRepairDrain
  split_ifs with hidle
  · exact moves_refl
  · simp only [not_or, not_not] at hidle
    exact finishCheckpointPersistence_moves fun hcalm => attributed.drained hcalm hidle.1

end Supervsr.Replica
