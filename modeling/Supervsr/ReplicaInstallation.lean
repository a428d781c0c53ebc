import Supervsr.MemberRun
import Supervsr.SmallCluster

/-
# Supervsr.ReplicaInstallation — a view under installation and the commits around it

The installation of a view remembers the op up to which the replica's own log agrees with it, and the
rebuilding of the pipeline refuses where that op lies below what is executed.  A view named in full is
recorded only while no commit is under way.  A repair window is opened without that check: where the reply
of the first entry is being written, its completion moves the executed prefix past the remembered op, and
the installation can never be finished.  Where no `View` comes in between that opens such a window, the
remembered op stays in place.
-/

namespace Supervsr

open Transition

variable {χ : Type} [DecidableEq χ] [Checksums χ] {cfg : Config} {given : Surroundings χ}

variable {replica next : Replica χ} {headers : List (Option (Header χ))}

namespace Replica

/-- Whether the reply of an entry is being written. -/
def replying (replica : Replica χ) : Bool := replica.pipeline.any fun entry => entry.stage = .execute

/-- A view whose pipeline is still to be rebuilt is not behind what is executed, and nothing is about to
put it there. -/
structure Ahead (replica : Replica χ) : Prop where
  bounds : replica.repairViewValid = true → replica.repairViewRebuilt = false →
    replica.commitMin ≤ replica.repairViewAncestor ∧ replica.repairViewAncestor ≤ replica.repairViewHead
  silent : replica.repairViewValid = true → replica.repairViewRebuilt = false → replica.replying = false

/-! ## Ways to keep it -/

section

omit [DecidableEq χ] [Checksums χ]

theorem replying_eq_false : replica.replying = false ↔ ∀ entry ∈ replica.pipeline, entry.stage ≠ .execute := by
  simp [replying]

theorem Ahead.of_uninstalled (uninstalled : replica.repairViewValid = false) : replica.Ahead :=
  ⟨fun h => absurd (h.symm.trans uninstalled) (by decide), fun h => absurd (h.symm.trans uninstalled) (by decide)⟩

section

variable (ahead : replica.Ahead) (valid : next.repairViewValid = replica.repairViewValid)
  (rebuilt : next.repairViewRebuilt = replica.repairViewRebuilt) (commitMin : next.commitMin = replica.commitMin)
  (ancestor : next.repairViewAncestor = replica.repairViewAncestor)
  (head : next.repairViewHead = replica.repairViewHead)

include ahead valid rebuilt commitMin ancestor head

theorem Ahead.keep (silent : replica.replying = false → next.replying = false) : next.Ahead := by
  constructor
  · rw [valid, rebuilt, commitMin, ancestor, head]
    exact ahead.bounds
  · rw [valid, rebuilt]
    exact fun hvalid hunbuilt => silent (ahead.silent hvalid hunbuilt)

/-- Nothing the installation depends on changes. -/
theorem Ahead.frame (pipeline : next.pipeline = replica.pipeline) :
    next.Ahead :=
  ahead.keep valid rebuilt commitMin ancestor head fun h => by rw [replying, pipeline]; exact h

end

theorem replying_of_unacknowledged {pipeline : List (PipelineEntry χ)}
    (same : pipeline.map PipelineEntry.unacknowledged = replica.pipeline.map PipelineEntry.unacknowledged)
    (silent : replica.replying = false) : ∀ entry ∈ pipeline, entry.stage ≠ .execute := by
  intro entry hentry
  obtain ⟨old, hold, hsame⟩ : ∃ old ∈ replica.pipeline, old.unacknowledged = entry.unacknowledged := by
    rw [← List.mem_map, ← same]
    exact List.mem_map_of_mem hentry
  rw [← show old.stage = entry.stage from (PipelineEntry.mk.inj hsame).2.2.2.2.2.2.2]
  exact replying_eq_false.mp silent old hold

/-- Changes to one entry that do not begin to write its reply. -/
theorem replying_modify {offset : Nat} {f : PipelineEntry χ → PipelineEntry χ}
    (unreplying : ∀ entry, entry.stage ≠ .execute → (f entry).stage ≠ .execute)
    (silent : replica.replying = false) :
    ∀ entry ∈ replica.pipeline.modify offset f, entry.stage ≠ .execute := by
  intro entry hentry
  obtain hentry | ⟨old, hold, rfl⟩ := mem_modify hentry
  · exact replying_eq_false.mp silent entry hentry
  · exact unreplying old (replying_eq_false.mp silent old hold)

theorem replying_popPipeline (silent : replica.replying = false) : replica.popPipeline.replying = false :=
  replying_eq_false.mpr fun entry hentry => replying_eq_false.mp silent entry (List.mem_of_mem_tail hentry)

end

omit [DecidableEq χ] in
theorem Ahead.beginViewChangeNow (ahead : replica.Ahead) (inputs : Inputs χ) (target : Nat) :
    (replica.beginViewChangeNow cfg inputs target).Ahead := by
  have hsilent : replica.replying = false → ∀ entry ∈ (replica.enterViewChange target).pipeline,
      entry.stage ≠ .execute :=
    replying_of_unacknowledged (replica.map_unacknowledged_enterViewChange target)
  obtain ⟨err, h⟩ | ⟨-, h⟩ := replica.beginViewChangeNow_cases cfg inputs target
  · rw [h]
    exact ahead.keep rfl rfl rfl rfl rfl fun hreplying => replying_eq_false.mpr (hsilent hreplying)
  · rw [h]
    exact ahead.keep rfl rfl rfl rfl rfl fun hreplying => replying_eq_false.mpr (hsilent hreplying)

section

omit [DecidableEq χ] [Checksums χ]

/-- Nothing is committed while the pipeline of a view is still to be rebuilt. -/
theorem Phase.rebuilt_of_mayCommit {inputs : Inputs χ} (phase : Phase cfg replica)
    (may : replica.mayCommit inputs = true) (installing : replica.repairViewValid = true) :
    replica.repairViewRebuilt = true := by
  simp only [mayCommit, decide_eq_true_eq] at may
  obtain hnormal | ⟨-, -, hrebuilt⟩ := may.2.2.1
  · obtain h | h := phase.installing installing <;> rw [hnormal] at h <;> cases h
  · exact hrebuilt

theorem Ahead.of_rebuilt (valid : next.repairViewValid = replica.repairViewValid)
    (rebuilt : next.repairViewRebuilt = replica.repairViewRebuilt)
    (whenever : replica.repairViewValid = true → replica.repairViewRebuilt = true) : next.Ahead := by
  have hnever : next.repairViewValid = true → next.repairViewRebuilt = false → False := by
    rw [valid, rebuilt]
    intro hvalid hunbuilt
    exact absurd (hunbuilt.symm.trans (whenever hvalid)) (by decide)
  exact ⟨fun hvalid hunbuilt => (hnever hvalid hunbuilt).elim, fun hvalid hunbuilt => (hnever hvalid hunbuilt).elim⟩

end

/-! ## Recording a view -/

omit [DecidableEq χ] in
/-- The headers of a view lie at its head and below. -/
theorem op_le_of_linkedDown {view expected : Nat} {child : Option (Option (Header χ))} [DecidableEq χ]
    (linked : linkedDown view expected child headers = true) :
    ∀ header ∈ headers, headerOp header ≤ expected := by
  induction headers generalizing expected child with
  | nil => exact fun _ h => absurd h List.not_mem_nil
  | cons first rest ih =>
    simp only [linkedDown, decide_eq_true_eq] at linked
    obtain ⟨hfirst, -, -, hrest⟩ := linked
    intro header hheader
    obtain rfl | hheader := List.mem_cons.mp hheader
    · exact Nat.le_of_eq hfirst
    · exact Nat.le_trans (ih hrest header hheader) (Nat.sub_le _ _)

theorem mem_of_commonAncestorAmong {op : Nat} (found : replica.commonAncestorAmong cfg headers = some (some op)) :
    ∃ header ∈ headers, headerOp header = op := by
  induction headers with
  | nil => cases found
  | cons first rest ih =>
    have hlater : replica.commonAncestorAmong cfg rest = some (some op) →
        ∃ header ∈ first :: rest, headerOp header = op := by
      intro hrest
      obtain ⟨header, hheader, hop⟩ := ih hrest
      exact ⟨header, List.mem_cons_of_mem first hheader, hop⟩
    unfold commonAncestorAmong at found
    simp only at found
    split at found
    · exact hlater found
    split at found
    · cases found
      exact ⟨first, List.mem_cons_self, rfl⟩
    split at found
    · cases found
    · exact hlater found

/-- A view that may be recorded agrees with the log from somewhere between what is executed and its head. -/
theorem ancestor_of_validRecoveringView {view commit head count : Nat}
    (recordable : replica.validRecoveringView cfg view commit head count = true) :
    replica.replying = false ∧ ∃ ancestor, replica.recoveringCommonAncestor cfg (replica.proofCount count) =
      some ancestor ∧ replica.commitMin ≤ ancestor ∧ ancestor ≤ head := by
  simp only [validRecoveringView, decide_eq_true_eq] at recordable
  obtain ⟨hquiet, -, -, -, -, -, -, -, -, -, hlinked, hfound⟩ := recordable
  refine ⟨?_, ?_⟩
  · rw [replying_eq_false]
    intro entry hentry hexecutes
    apply hquiet
    rw [commitInFlight, List.any_eq_true]
    exact ⟨entry, hentry, by rw [hexecutes]; rfl⟩
  obtain ⟨ancestor, hancestor, hbounds⟩ := (Option.any_eq_true _ _).mp hfound
  refine ⟨ancestor, hancestor, (of_decide_eq_true hbounds).1, ?_⟩
  have hheaders := op_le_of_linkedDown hlinked
  unfold recoveringCommonAncestor at hancestor
  split at hancestor
  · cases hancestor
  rename_i hcount
  split at hancestor
  · cases hancestor
  · rename_i op hop
    cases hancestor
    obtain ⟨header, hheader, rfl⟩ := mem_of_commonAncestorAmong hop
    exact hheaders header hheader
  · simp only at hancestor
    split at hancestor
    · cases hancestor
      -- the oldest header is one of those that were checked
      rename_i holdest
      set oldest := replica.canonicalHeaders.getD (replica.proofCount count - 1) none with hdef
      obtain hnone | ⟨header, hheader⟩ := Option.eq_none_or_eq_some oldest
      · rw [hnone] at holdest
        exact absurd holdest.1 (Nat.lt_irrefl 0)
      refine Nat.le_trans (Nat.sub_le _ _) (hheaders oldest ?_)
      rw [hdef, List.getD_eq_getElem?_getD] at hheader
      cases hplace : replica.canonicalHeaders[replica.proofCount count - 1]? with
      | none => rw [hplace] at hheader; cases hheader
      | some found =>
        have hmem : found ∈ replica.canonicalHeaders.take (replica.proofCount count) := by
          apply List.mem_of_getElem? (i := replica.proofCount count - 1)
          rw [List.getElem?_take_of_lt (by omega)]
          exact hplace
        rw [hdef, List.getD_eq_getElem?_getD, hplace]
        exact hmem
    · cases hancestor

/-- What the log agrees with does not depend on the status. -/
theorem recoveringCommonAncestor_status (replica : Replica χ) (status : Status)
    (requestQueue : List (Request χ × TimeSample)) (count : Nat) :
    Replica.recoveringCommonAncestor { replica with status := status, requestQueue := requestQueue } cfg
      count = replica.recoveringCommonAncestor cfg count := by
  have hamong : ∀ headers : List (Option (Header χ)),
      Replica.commonAncestorAmong { replica with status := status, requestQueue := requestQueue } cfg
        headers = replica.commonAncestorAmong cfg headers := by
    intro headers
    induction headers with
    | nil => rfl
    | cons first rest ih =>
      unfold commonAncestorAmong
      rw [ih]
      rfl
  unfold recoveringCommonAncestor
  rw [hamong]
  rfl

/-! ## Every move keeps it -/

/-- Every move keeps a view under installation ahead of what is executed, where no `View` opens a repair
window while a reply is being written. -/
theorem Ahead.move (ahead : replica.Ahead) (phase : Phase cfg replica) (unreplying : given.unreplying)
    (move : Move cfg given replica next) : next.Ahead := by
  cases move with
  | quiet | fail | send | learnCommit | pend | settle | join | session | drain | publish
  | publishLast | overwriteHeaders | wantHeader | drop | clearSync | clearView | viewFailed | clearRepair
  | syncPersisted | viewPersisted | repairWritten | cancelSync | drained | resizePhase | resized | resetDone
  | opening | resizedOpening | openReplay | openIncomplete | openLevel | openStuck | repliesRepaired |
      distrustHead => exact ahead.frame rfl rfl rfl rfl rfl rfl
  | announce destination nonce =>
    obtain ⟨headers, h⟩ := replica.buildView_cases cfg nonce
    rw [h]
    exact ahead.frame rfl rfl rfl rfl rfl rfl
  | acks same =>
    exact ahead.keep rfl rfl rfl rfl rfl fun hsilent =>
      replying_eq_false.mpr (replying_of_unacknowledged same hsilent)
  | accept normal durable current source accepted =>
    obtain ⟨-, -, -, -, -, rfl⟩ := acceptPrepare_eq_some accepted
    refine ahead.keep rfl rfl rfl rfl rfl fun hsilent => replying_eq_false.mpr ?_
    intro entry hentry
    obtain hentry | hentry := List.mem_append.mp hentry
    · exact replying_eq_false.mp hsilent entry hentry
    · rw [List.mem_singleton.mp hentry]
      exact fun h => by cases h
  | beginViewChange inputs => exact ahead.beginViewChangeNow inputs _
  | resume inputs =>
    have hsettled : Ahead { replica with pendingView := 0 } := ahead.frame rfl rfl rfl rfl rfl rfl
    exact hsettled.beginViewChangeNow inputs _
  | progress first waits ready after =>
    obtain ⟨hprefetched, rfl⟩ | ⟨⟨inputs, hmay⟩, -⟩ := ready
    · exact ahead.keep rfl rfl rfl rfl rfl fun hsilent =>
        replying_eq_false.mpr (replying_modify (fun _ _ h => by cases h) hsilent)
    · exact .of_rebuilt rfl rfl (phase.rebuilt_of_mayCommit hmay)
  | submitReply first waits ready submitted =>
    obtain ⟨rfl, rfl⟩ := submit_eq_ok submitted
    obtain ⟨⟨inputs, hmay⟩, -⟩ := ready
    exact .of_rebuilt rfl rfl (phase.rebuilt_of_mayCommit hmay)
  | commit first waits ready maintains =>
    obtain ⟨⟨inputs, hmay⟩, -⟩ := ready
    exact .of_rebuilt rfl rfl (phase.rebuilt_of_mayCommit hmay)
  | checkpointData first =>
    exact ahead.keep rfl rfl rfl rfl rfl fun hsilent =>
      replying_eq_false.mpr (replying_modify (fun _ _ h => by cases h) hsilent)
  | submitCheckpoint first data built undrained submitted =>
    obtain ⟨rfl, rfl⟩ := submit_eq_ok submitted
    exact ahead.keep rfl rfl rfl rfl rfl fun hsilent =>
      replying_eq_false.mpr (replying_modify (fun _ _ h => by cases h) hsilent)
  | yield inputs first =>
    have hyielded : Ahead ({ replica with
        pendingView := 0, checkpointTarget := 0, pendingCheckpoint := none }.setStage .idle) :=
      ahead.keep rfl rfl rfl rfl rfl fun hsilent =>
        replying_eq_false.mpr (replying_modify (fun _ _ h => by cases h) hsilent)
    exact (hyielded.beginViewChangeNow inputs _).keep rfl rfl rfl rfl rfl replying_popPipeline
  | yieldPublished inputs first =>
    have hyielded : Ahead { replica with pendingView := 0 } := ahead.frame rfl rfl rfl rfl rfl rfl
    exact (hyielded.beginViewChangeNow inputs _).keep rfl rfl rfl rfl rfl replying_popPipeline
  | pop first => exact ahead.keep rfl rfl rfl rfl rfl replying_popPipeline
  | openWindow beyond bounded source =>
    refine ⟨fun _ _ => ⟨Nat.le_refl _, Nat.le_of_lt beyond⟩, fun _ _ => replying_eq_false.mpr ?_⟩
    obtain ⟨_, -, -, -, -, -, -, -, -, -, -, hsilent⟩ | ⟨-, hempty, -⟩ := source
    · exact hsilent unreplying
    · show ∀ entry ∈ replica.pipeline, _
      rw [hempty]
      exact fun _ h => absurd h List.not_mem_nil
  | @recordView requestQueue view commit head count counted recorded =>
    obtain ⟨hsilent, ancestor, hancestor, hcommitted, hhead⟩ := ancestor_of_validRecoveringView recorded
    refine ⟨fun _ _ => ?_, fun _ _ => hsilent⟩
    show replica.commitMin ≤ (Replica.recoveringCommonAncestor _ cfg (replica.proofCount count)).getD 0 ∧
      (Replica.recoveringCommonAncestor _ cfg (replica.proofCount count)).getD 0 ≤ head
    rw [recoveringCommonAncestor_status, hancestor]
    exact ⟨hcommitted, hhead⟩
  | windowHeaders =>
    obtain ⟨_, _, _, _, h⟩ := replica.handleRepairWindowHeaders_frame cfg _ _
    rw [h]
    exact ahead.frame rfl rfl rfl rfl rfl rfl
  | repairAppend heard repaired =>
    obtain ⟨-, -, -, -, -, -, rfl⟩ := handleRepairPrepare_eq_some repaired
    exact ahead.frame rfl rfl rfl rfl rfl rfl
  | rebuild installing named unbuilt written idle quiet rebuilt =>
    obtain rfl | ⟨entries, _, _, _, _, hentries, rfl | rfl⟩ := rebuilt_cases rebuilt
    · exact ahead
    · refine ahead.keep rfl rfl rfl rfl rfl fun hsilent => replying_eq_false.mpr ?_
      intro entry hentry
      obtain hentry | hentry := List.mem_append.mp hentry
      · exact replying_eq_false.mp hsilent entry ((replica.pipelineThrough_initial _).subset hentry)
      · rw [(hentries entry hentry).2.1]
        exact fun h => by cases h
    · constructor
      · exact fun _ h => by cases h
      · exact fun _ h => by cases h
  | persistInstall installing rebuilt committed quiet persisted =>
    obtain ⟨-, -, -, rfl⟩ := persistView_eq_ok persisted
    exact .of_uninstalled rfl
  | perform handle =>
    obtain h | ⟨_, -, -, -, _, _, _, _, -, h⟩ := replica.perform_cases cfg handle
    · rw [h]
      exact ahead
    · rw [h]
      exact ahead.frame rfl rfl rfl rfl rfl rfl
  | clearEntry =>
    exact ahead.keep rfl rfl rfl rfl rfl fun hsilent =>
      replying_eq_false.mpr (replying_modify (fun _ h => h) hsilent)
  | @viewPersistedOnward inputs handle =>
    have hreleased : Ahead { replica.releaseIo handle with
        viewIo := none, durableView := replica.view, pendingView := 0 } :=
      ahead.frame rfl rfl rfl rfl rfl rfl
    exact hreleased.beginViewChangeNow inputs _
  | viewInstalled =>
    exact ahead.frame rfl rfl rfl rfl rfl rfl
  | @appended handle offset =>
    have hcleared : Ahead ((replica.releaseIo handle).modifyEntry offset
        fun entry => { entry with io := none }) :=
      ahead.keep rfl rfl rfl rfl rfl fun hsilent =>
        replying_eq_false.mpr (replying_modify (fun _ h => h) hsilent)
    exact hcleared.keep rfl rfl rfl rfl rfl fun hsilent =>
      replying_eq_false.mpr (replying_modify (fun _ h => h) hsilent)
  | replyWritten done first owner executing =>
    -- a reply that has been written was being written
    refine .of_rebuilt rfl rfl fun hvalid => ?_
    rw [← Bool.not_eq_false]
    intro hunbuilt
    refine replying_eq_false.mp (ahead.silent hvalid hunbuilt) _ ?_ executing
    rw [first]
    exact List.mem_cons_self
  | enterStateSync heard idle unopened unreplayed beyond free => exact .of_uninstalled free.2.2
  | submitSync free kind submitted =>
    obtain ⟨rfl, rfl⟩ := submit_eq_ok submitted
    exact ahead.frame rfl rfl rfl rfl rfl rfl
  | startReset inputs =>
    unfold startStateSyncReset
    split
    · exact ahead
    · exact ahead.frame rfl rfl rfl rfl rfl rfl
  | releaseFrames stage | installCheckpoint stage =>
    have hsyncing : replica.syncing = true := by simp [syncing, stage]
    exact .of_uninstalled (phase.uninstalled hsyncing)
  | openHeaders answered fresh beyond =>
    obtain ⟨hsynced, -, -⟩ := phase.opens answered
    refine ⟨fun _ _ => ⟨Nat.le_of_eq (phase.level hsynced), Nat.le_of_lt beyond⟩, fun _ _ => ?_⟩
    show List.any replica.pipeline _ = false
    rw [phase.vacated (vacant_of_synced hsynced)]
    rfl
  | openBehind answered fresh beyond =>
    refine ⟨fun _ _ => ⟨Nat.le_refl _, Nat.le_of_lt beyond⟩, fun _ _ => ?_⟩
    show List.any replica.pipeline _ = false
    rw [phase.vacated (vacant_of_synced (phase.opens answered).1)]
    rfl
  | replay =>
    obtain h | ⟨hreplay, -⟩ := replica.replayInterrupted_cases cfg
    · rw [h]
      exact ahead
    have hsyncing : replica.syncing = true := by simp [syncing, hreplay]
    obtain ⟨_, _, _, _, _, _, _, _, _, _, _, _, _, _, _, _, h, -⟩ := replica.replayInterrupted_frame cfg
    rw [h]
    exact .of_uninstalled (phase.uninstalled hsyncing)

end Replica

/-! ## Runs -/

/-- Whether a `View` that is taken would open a repair window. -/
def Replica.opensWindow (replica : Replica χ) (cfg : Config) (message : ViewMessage χ) : Bool :=
  ¬ replica.refusesView cfg message ∧ message.checkpoint.prepareOp ≤ replica.checkpointOp ∧
    replica.commitMin < message.commit ∧ cfg.pipelineMax < message.head - replica.commitMin

namespace Cluster

/-- No `View` that opens a repair window is taken while a reply is being written. -/
def unreplying (cfg : Config) (cluster : Cluster χ) (step : Nat × NodeAction χ) : Bool :=
  match step.2, cluster.nodes[step.1]? with
  | .event _ (.receive (.view message)), some (.running replica) =>
    ¬ (replica.opensWindow cfg message ∧ replica.replying)
  | _, _ => true

/-- What a step is taken with in such a run. -/
def foreignViews (cfg : Config) : Surroundings χ where
  heard message := ∀ view, message = .view view → view.author ≠ cfg.localIndex
  calm := False
  unreplying := True
  punctual := False

theorem ahead_lasting (cfg : Config) : Lasting cfg (foreignViews cfg) True (fun _ => True)
    (Durable.Sound cfg) (fun replica : Replica χ => replica.Sound cfg ∧ replica.Ahead) where
  attributed := fun ⟨sound, _⟩ => {
    reply := sound.owned.reply_first
    checkpoint := sound.owned.checkpoint_first
    drained := fun h => h.elim
    unsynced := fun h => h.elim
    persisting := fun h => h.elim }
  move := by
    rintro replica next ⟨sound, ahead⟩ move
    refine ⟨sound.move ?_ move, ahead.move sound.phase trivial move⟩
    exact fun message hheard => hheard message rfl
  crash := fun torn ⟨sound, _⟩ => sound.crash torn
  opened := by
    intro durable replica sound _ valid _ opened
    refine ⟨opened.sound sound valid, .of_uninstalled ?_⟩
    cases opened with
    | resumed recovered resumes checked resumed =>
      obtain rfl := eq_of_ite_error resumed
      rfl
    | restarted => rfl
  reopened := fun sound reopened => sound.reopened reopened
  damaged := fun _ _ _ _ sound => ⟨sound.authored, sound.solo⟩

/-- In every run in which no `View` opens a repair window while a reply is being written, a view whose
pipeline is still to be rebuilt has its common ancestor between what is executed and its head. -/
theorem installation_ahead {cluster : Cluster χ} {index : Nat} {node : Node χ} {replica : Replica χ}
    (reached : Reaches (Cluster.step cfg) (fun cluster step => unreplying cfg cluster step = true)
      (.initial cfg) cluster)
    (found : cluster.nodes[index]? = some node) (up : node.replica? = some replica)
    (installing : replica.repairViewValid = true) (unbuilt : replica.repairViewRebuilt = false) :
    replica.commitMin ≤ replica.repairViewAncestor ∧
      replica.repairViewAncestor ≤ replica.repairViewHead := by
  have hholds := Cluster.invariant (fun index node => node.Holds (Durable.Sound (cfg.member index))
    fun replica : Replica χ => replica.Sound (cfg.member index) ∧ replica.Ahead)
    (fun _ => Durable.Sound.formatted) ?_ reached found
  · exact (hholds.replica up).2.bounds installing unbuilt
  intro cluster index node next action hlength hall hnode hallowed hadmits hstepped
  refine (ahead_lasting (cfg.member index)).step (hall hnode) ?_ (fun _ => trivial) (fun _ _ => trivial)
    (fun h => h.elim) hstepped
  rintro replica inputs message rfl rfl -
  have hheard : ∀ view, message = .view view → view.author ≠ (cfg.member index).localIndex := by
    rintro view rfl
    refine Cluster.foreign hlength (fun hmember => ?_) (hall hnode).1.valid ?_ hadmits
    · exact (hall hmember).durable (fun _ h => h.authored) fun _ h => h.1.authored
    · rw [← hlength]
      exact (List.getElem?_eq_some_iff.mp hnode).1
  refine ⟨hheard, fun h => h.elim, ?_⟩
  rintro view rfl
  refine ⟨hheard, fun h => h.elim, fun h => h.elim, fun _ htaken hlevel hcommit hhead => ?_⟩
  simp only [unreplying, hnode, decide_eq_true_eq, not_and, Bool.not_eq_true] at hallowed
  have htaken : ¬ replica.refusesView cfg view = true := by
    rw [show replica.refusesView cfg view = false from htaken]
    exact Bool.false_ne_true
  exact Replica.replying_eq_false.mp (hallowed (decide_eq_true ⟨htaken, hlevel, hcommit, hhead⟩))

/-- One op is executed by the primary and by a backup, the other is about to write its reply; a second op
is prepared. -/
def replyUnderWay : List Direction :=
  toNormal ++
    [.round 1 10 (.receive (.request (.registration 1))), .settle 1 10, .deliver 1 0 0 10, .settle 0 10,
      .deliver 1 2 0 10, .settle 2 10, .deliver 2 1 0 10, .settle 1 10, .settle 1 10,
      .round 1 10 (.timer .commit), .deliver 1 0 0 10, .deliver 1 2 0 10, .settle 2 10,
      .round 1 20 (.timer .pulse), .settle 1 20, .deliver 1 2 0 20, .settle 2 20]

/-- The primary restarts and the backup that has both ops becomes the primary of view 2.  The other member
takes its `View`. -/
def toSecondView : List Direction :=
  [.act 1 (.crash none), .act 1 .open, .round 1 30 (.timer .join), .deliver 1 2 0 30, .settle 2 30,
    .deliver 1 2 0 30, .settle 2 30, .hand 2 0 0 30]

theorem installation_ahead_recorded : ∃ (cluster : Cluster Digest) (replica : Replica Digest),
    Reaches (Cluster.step threeMembers) (fun cluster step => unreplying threeMembers cluster step = true)
        (.initial threeMembers) cluster ∧
      cluster.nodes[0]? = some (.running replica) ∧
      (replica.repairViewValid = true ∧ replica.repairViewRebuilt = false) ∧
      (replica.commitMin = 1 ∧ replica.repairViewAncestor = 1 ∧ replica.repairViewHead = 2) ∧
      replica.commitMin ≤ replica.repairViewAncestor ∧
        replica.repairViewAncestor ≤ replica.repairViewHead := by
  have hfinds : (Cluster.follow threeMembers (unreplying threeMembers)
      (replyUnderWay ++ .settle 0 20 :: toSecondView)).any (fun cluster =>
        (cluster.running? 0).any fun replica => (replica.repairViewValid && !replica.repairViewRebuilt) &&
          decide (replica.commitMin = 1 ∧ replica.repairViewAncestor = 1 ∧ replica.repairViewHead = 2)) = true := by
    decide +kernel
  obtain ⟨cluster, replica, hreached, hnode, hinstalls⟩ := Cluster.running_of_follow _ (fun _ _ h => h) hfinds
  rw [Bool.and_eq_true, Bool.and_eq_true, Bool.not_eq_true', decide_eq_true_eq] at hinstalls
  exact ⟨cluster, replica, hreached, hnode, hinstalls.1, hinstalls.2,
    installation_ahead hreached hnode rfl hinstalls.1.1 hinstalls.1.2⟩

/-- The `View` opens a repair window at the member that writes its reply, and the reply is written. -/
def windowOverReply : List Direction :=
  replyUnderWay ++ toSecondView ++ [.act 0 (.endRound (.prompt threeMembers 30)), .settle 0 30]

/-- A repair window opened while a reply is being written ends up behind what is executed. -/
theorem window_behind_commit : ∃ (cluster : Cluster Digest) (replica : Replica Digest),
    Reaches (Cluster.step threeMembers) (fun _ _ => True) (.initial threeMembers) cluster ∧
      cluster.nodes[0]? = some (.running replica) ∧
      (replica.repairViewValid = true ∧ replica.repairViewRebuilt = false) ∧
      replica.repairViewAncestor < replica.commitMin := by
  have hfinds : (Cluster.follow threeMembers (fun _ _ => true) windowOverReply).any (fun cluster =>
      (cluster.running? 0).any fun replica => (replica.repairViewValid && !replica.repairViewRebuilt) &&
        decide (replica.repairViewAncestor < replica.commitMin)) = true := by decide +kernel
  obtain ⟨cluster, replica, hreached, hnode, hbehind⟩ :=
    Cluster.running_of_follow (fun _ _ => True) (fun _ _ _ => trivial) hfinds
  rw [Bool.and_eq_true, Bool.and_eq_true, Bool.not_eq_true', decide_eq_true_eq] at hbehind
  exact ⟨cluster, replica, hreached, hnode, hbehind⟩

end Cluster

end Supervsr
