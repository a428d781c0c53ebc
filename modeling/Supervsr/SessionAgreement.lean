import Supervsr.SessionTrailer

/-
# Supervsr.SessionAgreement — commits alone decide the slots

Which slot a record takes is a function of the records, as long as no plan holds an empty slot when a commit
is made.  Plans that are aborted, reserved slots of stored replies and trips through a trailer leave no
trace, so replicas with the same commits have the same table and the same trailer.
-/

namespace Supervsr

open Bytes Transition FrameSession SessionTableOf SessionRecordOf

namespace FrameSession

/-- The slot of a client, from the records alone: its own, the oldest of a full table, or the first empty
one. -/
def seat (records : List (Option FrameSession)) (client : Bytes) : Nat :=
  match records.findIdx? (holds client) with
  | some slot => slot
  | none => if records.all (·.isSome) then evictionSlot records else records.findIdx (·.isNone)

/-- A commit, on the records alone. -/
def place (records : List (Option FrameSession)) (record : FrameSession) : List (Option FrameSession) :=
  records.set (seat records record.client) (some record)

end FrameSession

namespace FrameSessionTable

variable {hash : ChecksumFunction} {table next : FrameSessionTable} {record : FrameSession}

/-- No plan holds an empty slot. -/
def settled (table : FrameSessionTable) : Bool := table.slots.all fun held => held.busy → held.record.isSome

theorem Sound.planSlot_eq_seat (sound : table.Sound hash) (settled : table.settled = true) {client : Bytes}
    {slot : Nat} (planned : table.planSlot client = .ok slot) : slot = seat table.records client := by
  have hfree : table.slots.findIdx (fun slot => slot.record.isNone ∧ ¬ slot.busy) =
      table.records.findIdx (·.isNone) := by
    have hmap : table.slots.map (fun slot => Decidable.decide (slot.record.isNone ∧ ¬ slot.busy)) =
        table.records.map (·.isNone) := by
      rw [records, List.map_map]
      refine List.map_congr_left fun held hmem => ?_
      have hheld := List.all_eq_true.mp settled held hmem
      cases hrecord : held.record <;> simp_all
    have hid : ∀ (slots : List FrameSessionSlot) (test : FrameSessionSlot → Bool),
        slots.findIdx test = (slots.map test).findIdx id := fun slots test => by rw [List.findIdx_map]; rfl
    rw [hid, hmap, List.findIdx_map]
    rfl
  have hfull : table.count = table.slots.length ↔ table.records.all (·.isSome) = true := by
    rw [sound.kept.counted, ← length_records, List.countP_eq_length, List.all_eq_true]
  unfold planSlot lookup at planned
  unfold seat
  cases hfound : table.records.findIdx? (holds client) with
  | some found =>
    obtain ⟨hinside, hholds, -⟩ := List.findIdx?_eq_some_iff_getElem.mp hfound
    obtain ⟨record, hrecord, -⟩ := (Option.any_eq_true _ _).mp hholds
    rw [hfound] at planned
    simp only [List.getElem?_eq_getElem hinside, hrecord, Option.join_some] at planned
    split_ifs at planned
    exact (Except.ok.inj planned).symm
  | none =>
    rw [hfound] at planned
    simp only [hfree] at planned ⊢
    split_ifs at planned with hcount
    · rw [if_pos (hfull.mp hcount)]
      exact (Except.ok.inj planned).symm
    · rw [if_neg fun h => hcount (hfull.mpr h)]
      exact (Except.ok.inj planned).symm

theorem commit_cases (hash : ChecksumFunction) (table : FrameSessionTable) (record : FrameSession) :
    (∃ reason, table.commit hash record = (table, .error reason)) ∨
      ∃ plan reserved, table.planCommit hash record = .ok (plan, reserved) ∧
        ((∃ reason, table.commit hash record = (reserved.abort plan, .error reason)) ∨
          ∃ committed, reserved.commitAt hash plan record = .ok committed ∧
            table.commit hash record = (committed, .ok plan.slot)) := by
  unfold commit
  split
  · rename_i reason _
    exact .inl ⟨reason, rfl⟩
  rename_i plan reserved hplanned
  refine .inr ⟨plan, reserved, hplanned, ?_⟩
  split
  · rename_i reason _
    exact .inl ⟨reason, rfl⟩
  · rename_i committed hcommits
    exact .inr ⟨committed, hcommits, rfl⟩

theorem Sound.commit (sound : table.Sound hash) (representable : record.Representable) :
    (table.commit hash record).1.Sound hash := by
  rcases commit_cases hash table record with ⟨reason, h⟩ | ⟨plan, reserved, hplanned, hcommit⟩
  · rw [h]
    exact sound
  obtain ⟨-, hslot, rfl, -⟩ := planCommit_eq_ok hplanned
  rcases hcommit with ⟨reason, h⟩ | ⟨committed, hcommits, h⟩
  · rw [h]
    exact (sound.reserve plan.slot).abort plan
  rw [h]
  refine (sound.reserve plan.slot).commitAt representable hcommits fun hother hsame => ?_
  rw [records_reserve] at hother
  exact (sound.planSlot_eq_ok hslot).2 hother hsame

/-- A commit that succeeds on a settled table places its record. -/
theorem Sound.records_commit (sound : table.Sound hash) (settled : table.settled = true) {slot : Nat}
    (commits : table.commit hash record = (next, .ok slot)) :
    next.config = table.config ∧ next.records = place table.records record := by
  rcases commit_cases hash table record with ⟨reason, h⟩ | ⟨plan, reserved, hplanned, hcommit⟩
  · rw [h] at commits
    cases commits
  obtain ⟨-, hslot, rfl, -⟩ := planCommit_eq_ok hplanned
  rcases hcommit with ⟨reason, h⟩ | ⟨committed, hcommits, h⟩
  · rw [h] at commits
    cases commits
  rw [h] at commits
  cases commits
  refine ⟨?_, by rw [records_commitAt hcommits, records_reserve, place,
    ← sound.planSlot_eq_seat settled hslot]⟩
  obtain ⟨-, -, -, held, -, rfl⟩ := commitAt_eq_ok hcommits
  rfl

end FrameSessionTable

/-! ## What a replica does with its table -/

/-- What happens to a table: the commits of the log, and what one replica does besides.  The slot of a stored
reply is reserved for its repair by a plan of that reply. -/
inductive SessionActivity where
  | commit (record : FrameSession) (representable : record.Representable)
  | plan (record : FrameSession)
  | abort (plan : FrameSessionPlan)
  | reload (fresh : Bool)

namespace SessionActivity

/-- The record of a commit. -/
def committed : SessionActivity → Option FrameSession
  | .commit record _ => some record
  | _ => none

open FrameSessionTable

/-- Carry the activity out; a commit has to succeed.  A table goes through its trailer into itself or into a
new table, as far as it can be encoded. -/
def perform (hash : ChecksumFunction) (table : FrameSessionTable) : SessionActivity → Option FrameSessionTable
  | .commit record _ =>
    match table.commit hash record with
    | (next, .ok _) => some next
    | (_, .error _) => none
  | .plan record =>
    match table.planCommit hash record with
    | .ok (_, reserved) => some reserved
    | .error _ => some table
  | .abort given => some (table.abort given)
  | .reload fresh =>
    match table.encodeTrailer hash table.trailerSize with
    | .error _ => some table
    | .ok (trailer, checksum) =>
      let target := if fresh then (newFrameSessionTable table.config).getD table else table
      some (target.decodeTrailer hash trailer checksum).1

/-- Commits are made on a settled table. -/
def timely (table : FrameSessionTable) (activity : SessionActivity) : Bool :=
  activity.committed.isSome → table.settled

variable {hash : ChecksumFunction} {table next : FrameSessionTable}

theorem newFrameSessionTable_eq {config : FrameSessionConfig} (created : newFrameSessionTable config = some table) :
    table.config = config ∧ table.slots.length = config.clientsMax := by
  unfold newFrameSessionTable at created
  split at created
  · cases created
  · cases created
    exact ⟨rfl, List.length_replicate⟩

/-- A trip through the trailer leaves the records. -/
theorem sound_reload (sound : table.Sound hash) {fresh : Bool}
    (performed : perform hash table (.reload fresh) = some next) :
    next.Sound hash ∧ next.config = table.config ∧ next.records = table.records := by
  simp only [perform] at performed
  split at performed
  · cases performed
    exact ⟨sound, rfl, rfl⟩
  rename_i trailer checksum hencodes
  have hparts : trailer = table.trailer hash ∧ checksum = hash.sum (table.trailer hash) := by
    unfold encodeTrailer at hencodes
    split_ifs at hencodes
    cases hencodes
    exact ⟨rfl, rfl⟩
  obtain ⟨rfl, rfl⟩ := hparts
  obtain ⟨target, htarget, hsound, hconfig⟩ : ∃ target : FrameSessionTable,
      target = (if fresh then (newFrameSessionTable table.config).getD table else table) ∧
        target.Sound hash ∧ target.config = table.config := by
    refine ⟨_, rfl, ?_⟩
    split
    · cases hcreated : newFrameSessionTable table.config with
      | none => exact ⟨sound, rfl⟩
      | some created => exact ⟨sound_new hcreated, (newFrameSessionTable_eq hcreated).1⟩
    · exact ⟨sound, rfl⟩
  have hlength : target.slots.length = table.slots.length := by rw [hsound.length, hconfig, sound.length]
  simp only [← htarget, sound.decodeTrailer_trailer hconfig hlength, Option.some.injEq] at performed
  subst performed
  have hrecords : table.records.length = target.slots.length := by rw [length_records, hlength]
  exact ⟨hsound.restored hrecords (hconfig ▸ sound.kept), hconfig, records_restored hrecords⟩

/-- One activity: the record of a commit is placed, everything else leaves the records. -/
theorem records_perform (sound : table.Sound hash) {activity : SessionActivity}
    (timely : timely table activity = true) (performed : perform hash table activity = some next) :
    next.Sound hash ∧ next.config = table.config ∧
      next.records = activity.committed.elim table.records (place table.records) := by
  cases activity with
  | commit record representable =>
    simp only [perform] at performed
    split at performed
    · rename_i after slot hcommits
      cases performed
      have hsound := sound.commit representable
      rw [hcommits] at hsound
      exact ⟨hsound, sound.records_commit (by simpa [SessionActivity.timely, committed] using timely) hcommits⟩
    · cases performed
  | plan record =>
    simp only [perform] at performed
    split at performed
    · rename_i plan reserved hplanned
      cases performed
      obtain ⟨-, -, rfl, -⟩ := planCommit_eq_ok hplanned
      exact ⟨sound.reserve _, rfl, records_reserve _ _⟩
    · cases performed
      exact ⟨sound, rfl, rfl⟩
  | abort plan =>
    cases performed
    exact ⟨sound.abort plan, by unfold SessionTableOf.abort; split <;> rfl, records_abort⟩
  | reload fresh => exact sound_reload sound performed

/-- A run of activities places the records of its commits, one after the other. -/
theorem records_exec (sound : table.Sound hash) {activities : List SessionActivity}
    (passed : passes (perform hash) timely table activities = true)
    (ran : exec (perform hash) table activities = some next) :
    next.Sound hash ∧ next.config = table.config ∧
      next.records = (activities.filterMap committed).foldl place table.records := by
  induction activities generalizing table with
  | nil =>
    cases ran
    exact ⟨sound, rfl, rfl⟩
  | cons activity rest ih =>
    obtain ⟨after, hafter, hrest⟩ := Option.bind_eq_some_iff.mp ran
    simp only [passes, hafter, Option.all_some, Bool.and_eq_true] at passed
    obtain ⟨hsound, hconfig, hrecords⟩ := records_perform sound passed.1 hafter
    obtain ⟨hlast, hconfig', hrecords'⟩ := ih hsound passed.2 hrest
    refine ⟨hlast, hconfig'.trans hconfig, ?_⟩
    rw [hrecords', hrecords]
    cases hcommitted : activity.committed with
    | none => rw [List.filterMap_cons_none hcommitted]; rfl
    | some record => rw [List.filterMap_cons_some hcommitted]; rfl

/-- Two tables with the same records and the same commits end with the same records in the same slots, and so
with the same trailer, whatever either does besides. -/
theorem activities_agree {other last : FrameSessionTable} {activities others : List SessionActivity}
    (sound : table.Sound hash) (otherSound : other.Sound hash)
    (records : table.records = other.records)
    (commits : activities.filterMap committed = others.filterMap committed)
    (passed : passes (perform hash) timely table activities = true)
    (otherPassed : passes (perform hash) timely other others = true)
    (ran : exec (perform hash) table activities = some next)
    (otherRan : exec (perform hash) other others = some last) :
    next.records = last.records ∧ next.trailer hash = last.trailer hash ∧
      (next.slots.any (·.busy) = false → last.slots.any (·.busy) = false →
        next.encodeTrailer hash next.trailerSize = last.encodeTrailer hash last.trailerSize) := by
  obtain ⟨hnext, hconfig, hrecords⟩ := records_exec sound passed ran
  obtain ⟨hlast, hconfig', hrecords'⟩ := records_exec otherSound otherPassed otherRan
  have hsame : next.records = last.records := by rw [hrecords, hrecords', records, commits]
  have hlength : next.slots.length = last.slots.length := by rw [← length_records, hsame, length_records]
  have htrailer : next.trailer hash = last.trailer hash := by
    rw [trailer, trailer, trailerSize, trailerSize, hsame, hlength]
  refine ⟨hsame, htrailer, fun hidle hidle' => ?_⟩
  rw [hnext.encodeTrailer_eq hidle, hlast.encodeTrailer_eq hidle', htrailer]

end SessionActivity

namespace SessionActivity

open SessionHistory

/-- A plan for a new client, aborted before the commit of another. -/
def abortedPlan : List SessionActivity :=
  [.plan (sampleSession 5), .abort (samplePlan 5 0), .commit (sampleSession 6) (sampleSession_representable 6),
    .reload true]

theorem activities_agree_abortedPlan : ∃ next last,
    exec (perform digitSum) sampleTable abortedPlan = some next ∧
      exec (perform digitSum) sampleTable [.commit (sampleSession 6) (sampleSession_representable 6)] = some last ∧
      next.records = last.records := by
  have hcreated : newFrameSessionTable sampleConfig = some sampleTable := by decide
  have hsound : sampleTable.Sound digitSum := FrameSessionTable.sound_new hcreated
  have hran : (exec (perform digitSum) sampleTable abortedPlan).isSome = true := by decide +kernel
  have hran' : (exec (perform digitSum) sampleTable
    [.commit (sampleSession 6) (sampleSession_representable 6)]).isSome = true := by decide +kernel
  obtain ⟨next, hnext⟩ := Option.isSome_iff_exists.mp hran
  obtain ⟨last, hlast⟩ := Option.isSome_iff_exists.mp hran'
  exact ⟨next, last, hnext, hlast, (activities_agree hsound hsound rfl (by simp [abortedPlan, List.filterMap_cons, committed])
    (by decide +kernel) (by decide +kernel) hnext hlast).1⟩

/-- A plan for a new client that is aborted only after the commit of another: it holds the slot that the
commit would have taken. -/
def heldPlan : List SessionActivity :=
  [.plan (sampleSession 5), .commit (sampleSession 6) (sampleSession_representable 6), .abort (samplePlan 5 0)]

theorem heldPlan_disagrees : ∃ next last,
    exec (perform digitSum) sampleTable heldPlan = some next ∧
      exec (perform digitSum) sampleTable [.commit (sampleSession 6) (sampleSession_representable 6)] = some last ∧
      next.records = [none, some (sampleSession 6)] ∧ last.records = [some (sampleSession 6), none] := by
  have hran : ((exec (perform digitSum) sampleTable heldPlan).any
      (·.records = [none, some (sampleSession 6)])) = true := by decide +kernel
  have hran' : ((exec (perform digitSum) sampleTable
    [.commit (sampleSession 6) (sampleSession_representable 6)]).any
      (·.records = [some (sampleSession 6), none])) = true := by decide +kernel
  obtain ⟨next, hnext, hrecords⟩ := (Option.any_eq_true _ _).mp hran
  obtain ⟨last, hlast, hrecords'⟩ := (Option.any_eq_true _ _).mp hran'
  exact ⟨next, last, hnext, hlast, of_decide_eq_true hrecords, of_decide_eq_true hrecords'⟩

end SessionActivity

/-! ## Requests of a table reached by commits -/

namespace FrameSessionTable

variable {hash : ChecksumFunction} {table : FrameSessionTable}

/-- The table after these commits, whether they succeed or not. -/
def commits (hash : ChecksumFunction) (table : FrameSessionTable) (records : List FrameSession) :
    FrameSessionTable :=
  records.foldl (fun table record => (table.commit hash record).1) table

theorem Sound.commits (sound : table.Sound hash) {records : List FrameSession}
    (representable : ∀ record ∈ records, record.Representable) : (table.commits hash records).Sound hash := by
  induction records generalizing table with
  | nil => exact sound
  | cons record rest ih =>
    exact ih (sound.commit (representable record List.mem_cons_self))
      fun other hmem => representable other (List.mem_cons_of_mem _ hmem)

theorem mem_of_lookup {client : Bytes} {record : FrameSession} {slot : Nat}
    (found : table.lookup client = (some record, slot)) : some record ∈ table.records := by
  unfold lookup at found
  split at found
  · rename_i index _
    obtain ⟨hrecord, -⟩ := Prod.mk.inj found
    exact List.mem_of_getElem? (Option.join_eq_some_iff.mp hrecord)
  · cases found

/-- On a table reached by commits, a request of the recorded session and release is classified by its
standing exactly if it is not the repetition of the request with the last number. -/
theorem decide_commits {config : FrameSessionConfig} (created : newFrameSessionTable config = some table)
    {records : List FrameSession} (representable : ∀ record ∈ records, record.Representable)
    {request : SessionRequest} {record : FrameSession} {slot : Nat}
    (found : (table.commits hash records).lookup request.client = (some record, slot))
    (session : request.session = record.session) (release : request.release = record.reply.release)
    (bound : request.request < 256 ^ 4) :
    (table.commits hash records).decide request = request.standing record.reply ↔
      ¬ (record.reply.replyRequest = FrameHeader.lastRequest ∧ request.request = FrameHeader.lastRequest) :=
  decide_eq_standing_iff found
    ((((sound_new created).commits representable).kept.valid record (mem_of_lookup found)).1) session release bound

open SessionHistory

/-- The first request of a client that has just registered. -/
def firstRequest : SessionRequest := ⟨putUint 16 5, 1, 1, 1, putUint 16 9, zeros 16⟩

theorem decide_commits_firstRequest :
    (sampleTable.commits digitSum [sampleSession 5]).lookup firstRequest.client = (some (sampleSession 5), 0) ∧
      (sampleTable.commits digitSum [sampleSession 5]).decide firstRequest =
        firstRequest.standing (sampleSession 5).reply := by
  have hcreated : newFrameSessionTable sampleConfig = some sampleTable := by decide
  have hfound : (sampleTable.commits digitSum [sampleSession 5]).lookup firstRequest.client =
      (some (sampleSession 5), 0) := by decide +kernel
  have hrepresentable : ∀ record ∈ [sampleSession 5], record.Representable := by
    intro record hmem
    rw [List.mem_singleton.mp hmem]
    exact sampleSession_representable 5
  exact ⟨hfound, (decide_commits hcreated hrepresentable hfound rfl (by decide +kernel) (by decide)).mpr
    (by decide +kernel)⟩

/-- The request that the reply with the last number answers. -/
def lastDuplicate : SessionRequest := ⟨putUint 16 5, 1, FrameHeader.lastRequest, 1, zeros 16, zeros 16⟩

theorem decide_lastDuplicate : newFrameSessionTable sampleConfig = some sampleTable ∧
    ((sampleTable.commits digitSum [sampleSession 5,
      ⟨sampleReply 5 2 FrameHeader.lastRequest, 1⟩]).decide lastDuplicate = .drop) ∧
    lastDuplicate.standing (sampleReply 5 2 FrameHeader.lastRequest) = .duplicate := by
  refine ⟨by decide, by decide +kernel, by decide +kernel⟩

end FrameSessionTable

end Supervsr
