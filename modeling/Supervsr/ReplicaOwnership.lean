import Supervsr.ReplicaMoveRound

/-
# Supervsr.ReplicaOwnership — which storage request belongs to which pipeline entry

A pipeline entry waits for at most one request: the append of its prepare, the write of its reply, or
the superblock of its checkpoint.  Only the first entry is ever past the idle stage.  A completion is
therefore taken for what it is, the first half of what `handle_moves` asks for under the name `Attributed`.
-/

namespace Supervsr

variable {χ : Type}

variable {pipeline rest : List (PipelineEntry χ)}

variable {replica next : Replica χ} {entry : PipelineEntry χ} {handle offset : Nat} {operation : IOOperation χ}
  {result : Except ReplicaError Unit}

/-- What an entry can be waiting for. -/
inductive PipelineEntry.WaitsFor (entry : PipelineEntry χ) : IOOperation χ → Prop where
  | append (reusableThrough : Nat) (idle : entry.stage = .idle) (pending : entry.durable = false) :
      WaitsFor entry (.walAppend entry.header reusableThrough)
  | reply (executing : entry.stage = .execute) : WaitsFor entry .replyWrite
  | checkpoint (next : Superblock χ) (persisting : entry.stage = .checkpointSuperblock) :
      WaitsFor entry (.superblockPersist next)

/-- Two entries that differ in their acknowledgements at most wait for the same. -/
theorem PipelineEntry.WaitsFor.of_unacknowledged {entry other : PipelineEntry χ}
    (same : entry.unacknowledged = other.unacknowledged) (waits : entry.WaitsFor operation) :
    other.WaitsFor operation := by
  have hheader : entry.header = other.header := (PipelineEntry.mk.inj same).2.2.1
  have hdurable : entry.durable = other.durable := (PipelineEntry.mk.inj same).2.2.2.2.1
  have hstage : entry.stage = other.stage := (PipelineEntry.mk.inj same).2.2.2.2.2.2.2
  cases waits with
  | append reusableThrough idle pending =>
    rw [hheader]
    exact .append reusableThrough (hstage ▸ idle) (hdurable ▸ pending)
  | reply executing => exact .reply (hstage ▸ executing)
  | checkpoint next persisting => exact .checkpoint next (hstage ▸ persisting)

/-- A request without its result. -/
def PendingIo.request (pending : PendingIo χ) : Nat × IOOperation χ := (pending.handle, pending.operation)

namespace Replica

variable [DecidableEq χ] [Checksums χ]

/-- Handles are fresh when they are given out, each entry knows what it waits for, and only the first
is under way. -/
structure Owned (replica : Replica χ) : Prop where
  fresh : ∀ pending ∈ replica.io, pending.handle < replica.nextHandle
  distinct : (replica.io.map PendingIo.handle).Nodup
  owners : ∀ entry ∈ replica.pipeline, ∀ handle, entry.io = some handle → handle < replica.nextHandle
  waits : ∀ entry ∈ replica.pipeline, ∀ pending ∈ replica.io, entry.io = some pending.handle →
    entry.WaitsFor pending.operation
  rest : ∀ entry ∈ replica.pipeline.tail, entry.stage = .idle

section

omit [DecidableEq χ] [Checksums χ]

theorem mem_io_of_completedIo (done : replica.completedIo handle = some (operation, result)) :
    ∃ pending ∈ replica.io, pending.handle = handle ∧ pending.operation = operation ∧
      pending.result = some result := by
  unfold completedIo at done
  split at done
  · cases done
  rename_i pending hfound
  obtain ⟨res, hres, heq⟩ := Option.map_eq_some_iff.mp done
  cases heq
  exact ⟨pending, List.mem_of_find?_eq_some hfound, by simpa using List.find?_some hfound, rfl, hres⟩

variable (owned : replica.Owned)

include owned

theorem Owned.waits_of_completed
    (done : replica.completedIo handle = some (operation, result))
    (place : replica.pipeline[offset]? = some entry) (owner : entry.io = some handle) :
    entry.WaitsFor operation := by
  obtain ⟨pending, hmem, rfl, rfl, -⟩ := mem_io_of_completedIo done
  exact owned.waits entry (List.mem_of_getElem? place) pending hmem owner

/-- Where an entry is under way, it is the first. -/
theorem Owned.first_of_stage (place : replica.pipeline[offset]? = some entry)
    (busy : entry.stage ≠ .idle) : offset = 0 := by
  cases offset with
  | zero => rfl
  | succ offset =>
    have htail : entry ∈ replica.pipeline.tail :=
      List.mem_of_getElem? (i := offset) (by rw [List.getElem?_tail]; exact place)
    exact absurd (owned.rest entry htail) busy

theorem Owned.reply_first
    (done : replica.completedIo handle = some (.replyWrite, result))
    (place : replica.pipeline[offset]? = some entry) (owner : entry.io = some handle) :
    offset = 0 ∧ entry.stage = .execute := by
  obtain - | hexecuting := owned.waits_of_completed done place owner
  refine ⟨owned.first_of_stage place ?_, hexecuting⟩
  rw [hexecuting]
  decide

theorem Owned.checkpoint_first {next : Superblock χ}
    (done : replica.completedIo handle = some (.superblockPersist next, result))
    (place : replica.pipeline[offset]? = some entry) (owner : entry.io = some handle) : offset = 0 := by
  obtain - | - | ⟨-, hpersisting⟩ := owned.waits_of_completed done place owner
  apply owned.first_of_stage place
  rw [hpersisting]
  decide

end

/-! ## Ways to keep it -/

/-- An entry that waits for nothing new. -/
def Inherits (replica : Replica χ) (entry : PipelineEntry χ) : Prop :=
  (∃ old ∈ replica.pipeline, old.unacknowledged = entry.unacknowledged) ∨
    ((∀ handle, entry.io = some handle → handle < replica.nextHandle) ∧
      ∀ pending ∈ replica.io, entry.io ≠ some pending.handle)

section

omit [DecidableEq χ] [Checksums χ]

theorem Inherits.of_mem (mem : entry ∈ replica.pipeline) : replica.Inherits entry := .inl ⟨entry, mem, rfl⟩

theorem Inherits.of_io (io : entry.io = none) : replica.Inherits entry := by
  right
  rw [io]
  exact ⟨fun handle h => (nomatch h), fun pending _ h => (nomatch h)⟩

variable (owned : replica.Owned)

include owned

theorem Owned.owner_lt (inherits : replica.Inherits entry)
    (owner : entry.io = some handle) : handle < replica.nextHandle := by
  obtain ⟨old, hold, hsame⟩ | h := inherits
  · have hio : old.io = entry.io := (PipelineEntry.mk.inj hsame).2.2.2.2.2.2.1
    exact owned.owners old hold handle (hio.trans owner)
  · exact h.1 handle owner

theorem Owned.waits_of_inherits (inherits : replica.Inherits entry)
    {pending : PendingIo χ} (mem : pending ∈ replica.io) (owner : entry.io = some pending.handle) :
    entry.WaitsFor pending.operation := by
  obtain ⟨old, hold, hsame⟩ | h := inherits
  · have hio : old.io = entry.io := (PipelineEntry.mk.inj hsame).2.2.2.2.2.2.1
    exact (owned.waits old hold pending mem (hio.trans owner)).of_unacknowledged hsame
  · exact absurd owner (h.2 pending mem)

/-- Steps that submit nothing: requests may go or get a result, entries may go or stop waiting. -/
theorem Owned.keep
    (io : (next.io.map PendingIo.request).Sublist (replica.io.map PendingIo.request))
    (handles : next.nextHandle = replica.nextHandle) (entries : ∀ entry ∈ next.pipeline, replica.Inherits entry)
    (rest : ∀ entry ∈ next.pipeline.tail, entry.stage = .idle) : next.Owned := by
  have hold : ∀ pending ∈ next.io, ∃ old ∈ replica.io, old.request = pending.request := fun pending hmem =>
    List.mem_map.mp (io.subset (List.mem_map_of_mem hmem))
  refine ⟨?_, ?_, ?_, ?_, rest⟩
  · intro pending hmem
    obtain ⟨old, hmem, hsame⟩ := hold pending hmem
    rw [handles, ← show old.handle = pending.handle from congrArg Prod.fst hsame]
    exact owned.fresh old hmem
  · have hsub := io.map Prod.fst
    rw [List.map_map, List.map_map] at hsub
    exact owned.distinct.sublist hsub
  · intro entry hentry handle owner
    rw [handles]
    exact owned.owner_lt (entries entry hentry) owner
  · intro entry hentry pending hmem owner
    obtain ⟨old, hmem, hsame⟩ := hold pending hmem
    rw [← show old.operation = pending.operation from congrArg Prod.snd hsame]
    rw [← show old.handle = pending.handle from congrArg Prod.fst hsame] at owner
    exact owned.waits_of_inherits (entries entry hentry) hmem owner

/-- Steps that submit a request, for an entry or for something else. -/
theorem Owned.submit
    (io : next.io = replica.io ++ [⟨replica.nextHandle, operation, none⟩])
    (handles : next.nextHandle = replica.nextHandle + 1)
    (entries : ∀ entry ∈ next.pipeline, replica.Inherits entry ∨
      (entry.io = some replica.nextHandle ∧ entry.WaitsFor operation))
    (rest : ∀ entry ∈ next.pipeline.tail, entry.stage = .idle) : next.Owned := by
  have hcases : ∀ pending ∈ next.io, pending ∈ replica.io ∨
      pending = ⟨replica.nextHandle, operation, none⟩ := by
    intro pending hmem
    rw [io, List.mem_append, List.mem_singleton] at hmem
    exact hmem
  refine ⟨?_, ?_, ?_, ?_, rest⟩
  · intro pending hmem
    rw [handles]
    obtain hmem | rfl := hcases pending hmem
    · exact Nat.lt_succ_of_lt (owned.fresh pending hmem)
    · exact Nat.lt_succ_self _
  · rw [io, List.map_append, List.nodup_append]
    refine ⟨owned.distinct, List.nodup_cons.mpr ⟨List.not_mem_nil, List.nodup_nil⟩, ?_⟩
    rintro _ hmem _ hnew rfl
    obtain ⟨pending, hold, hhandle⟩ := List.mem_map.mp hmem
    rw [← hhandle] at hnew
    exact absurd (List.mem_singleton.mp hnew) (Nat.ne_of_lt (owned.fresh pending hold))
  · intro entry hentry handle owner
    rw [handles]
    obtain hinherits | ⟨hio, -⟩ := entries entry hentry
    · exact Nat.lt_succ_of_lt (owned.owner_lt hinherits owner)
    · rw [hio] at owner
      cases owner
      exact Nat.lt_succ_self _
  · intro entry hentry pending hmem owner
    obtain hinherits | ⟨hio, hwaits⟩ := entries entry hentry
    · obtain hmem | rfl := hcases pending hmem
      · exact owned.waits_of_inherits hinherits hmem owner
      · exact absurd (owned.owner_lt hinherits owner) (Nat.lt_irrefl _)
    obtain hmem | rfl := hcases pending hmem
    · rw [hio] at owner
      exact absurd (Option.some.inj owner).symm (Nat.ne_of_lt (owned.fresh pending hmem))
    · exact hwaits

/-- A first entry past the idle stage, but not at a stage that waits for storage, waits for nothing. -/
theorem Owned.unawaited (mem : entry ∈ replica.pipeline)
    (idle : entry.stage = .idle → entry.durable = true) (executes : entry.stage ≠ .execute)
    (persists : entry.stage ≠ .checkpointSuperblock) {pending : PendingIo χ} (request : pending ∈ replica.io) :
    entry.io ≠ some pending.handle := by
  intro owner
  have hwaits := owned.waits entry mem pending request owner
  generalize pending.operation = operation at hwaits
  cases hwaits with
  | append _ hidle hpending =>
    rw [idle hidle] at hpending
    cases hpending
  | reply hexecuting => exact executes hexecuting
  | checkpoint _ hpersisting => exact persists hpersisting

end

/-! ## Every move keeps it -/

section

omit [DecidableEq χ] [Checksums χ]

/-- Neither the requests nor the entries change. -/
theorem Owned.same (owned : replica.Owned) (io : next.io = replica.io)
    (handles : next.nextHandle = replica.nextHandle) (pipeline : next.pipeline = replica.pipeline) :
    next.Owned := by
  apply owned.keep
  · rw [io]
  · exact handles
  · intro entry hentry
    rw [pipeline] at hentry
    exact .of_mem hentry
  · rw [pipeline]
    exact owned.rest

theorem inherits_of_unacknowledged
    (same : pipeline.map PipelineEntry.unacknowledged = replica.pipeline.map PipelineEntry.unacknowledged)
    (mem : entry ∈ pipeline) : replica.Inherits entry := by
  have hmem : entry.unacknowledged ∈ replica.pipeline.map PipelineEntry.unacknowledged := by
    rw [← same]
    exact List.mem_map_of_mem mem
  obtain ⟨old, hold, hsame⟩ := List.mem_map.mp hmem
  exact .inl ⟨old, hold, hsame⟩

theorem idle_of_unacknowledged {old : List (PipelineEntry χ)}
    (same : pipeline.map PipelineEntry.unacknowledged = old.map PipelineEntry.unacknowledged)
    (rest : ∀ entry ∈ old.tail, entry.stage = .idle) : ∀ entry ∈ pipeline.tail, entry.stage = .idle := by
  intro entry hentry
  have hmem : entry.unacknowledged ∈ old.tail.map PipelineEntry.unacknowledged := by
    rw [List.map_tail, ← same, ← List.map_tail]
    exact List.mem_map_of_mem hentry
  obtain ⟨other, hother, hsame⟩ := List.mem_map.mp hmem
  rw [← show other.stage = entry.stage from (PipelineEntry.mk.inj hsame).2.2.2.2.2.2.2]
  exact rest other hother

theorem map_unacknowledged_enterViewChange (replica : Replica χ) (target : Nat) :
    (replica.enterViewChange target).pipeline.map PipelineEntry.unacknowledged =
      replica.pipeline.map PipelineEntry.unacknowledged := by
  unfold enterViewChange
  rw [List.map_map]
  rfl

end

omit [DecidableEq χ] in
theorem Owned.beginViewChangeNow (owned : replica.Owned) (cfg : Config) (inputs : Inputs χ) (target : Nat) :
    (replica.beginViewChangeNow cfg inputs target).Owned := by
  have hsame := replica.map_unacknowledged_enterViewChange target
  obtain ⟨err, h⟩ | ⟨-, h⟩ := replica.beginViewChangeNow_cases cfg inputs target
  · rw [h]
    exact owned.keep (List.Sublist.refl _) rfl (fun entry => inherits_of_unacknowledged hsame)
      (idle_of_unacknowledged hsame owned.rest)
  · rw [h]
    exact owned.submit rfl rfl (fun entry hentry => .inl (inherits_of_unacknowledged hsame hentry))
      (idle_of_unacknowledged hsame owned.rest)

section

omit [DecidableEq χ] [Checksums χ]

/-- A change to the first entry that does not wait for storage. -/
theorem Owned.advance (owned : replica.Owned) (first : replica.pipeline = entry :: rest)
    (idle : entry.stage = .idle → entry.durable = true) (executes : entry.stage ≠ .execute)
    (persists : entry.stage ≠ .checkpointSuperblock) (stage : CommitStage) (io : next.io = replica.io)
    (handles : next.nextHandle = replica.nextHandle)
    (pipeline : next.pipeline = { entry with stage := stage } :: rest) : next.Owned := by
  have hmem : entry ∈ replica.pipeline := by
    rw [first]
    exact List.mem_cons_self
  apply owned.keep
  · rw [io]
  · exact handles
  · intro other hother
    rw [pipeline] at hother
    obtain rfl | hother := List.mem_cons.mp hother
    · exact .inr ⟨owned.owners entry hmem,
        fun pending hpending => owned.unawaited hmem idle executes persists hpending⟩
    · apply Inherits.of_mem
      rw [first]
      exact List.mem_cons_of_mem entry hother
  · intro other hother
    rw [pipeline] at hother
    apply owned.rest
    rw [first]
    exact hother

/-- A request of the first entry. -/
theorem Owned.submitFirst (owned : replica.Owned) {entry first : PipelineEntry χ}
    (before : replica.pipeline = entry :: rest)
    (io : next.io = replica.io ++ [⟨replica.nextHandle, operation, none⟩])
    (handles : next.nextHandle = replica.nextHandle + 1) (pipeline : next.pipeline = first :: rest)
    (owner : first.io = some replica.nextHandle) (waits : first.WaitsFor operation) : next.Owned := by
  apply owned.submit io handles
  · intro other hother
    rw [pipeline] at hother
    obtain rfl | hother := List.mem_cons.mp hother
    · exact .inr ⟨owner, waits⟩
    left
    apply Inherits.of_mem
    rw [before]
    exact List.mem_cons_of_mem entry hother
  · intro other hother
    rw [pipeline] at hother
    apply owned.rest
    rw [before]
    exact hother

theorem sublist_releaseIo (replica : Replica χ) (handle : Nat) :
    ((replica.releaseIo handle).io.map PendingIo.request).Sublist (replica.io.map PendingIo.request) :=
  List.filter_sublist.map PendingIo.request

/-- A completed request that no entry waits for any more. -/
theorem Owned.release (owned : replica.Owned) (handle : Nat) (io : next.io = (replica.releaseIo handle).io)
    (handles : next.nextHandle = replica.nextHandle) (pipeline : next.pipeline = replica.pipeline) :
    next.Owned := by
  apply owned.keep
  · rw [io]
    exact replica.sublist_releaseIo handle
  · exact handles
  · intro entry hentry
    rw [pipeline] at hentry
    exact .of_mem hentry
  · rw [pipeline]
    exact owned.rest

/-- A completed request of an entry. -/
theorem Owned.releaseEntry (owned : replica.Owned) {f : PipelineEntry χ → PipelineEntry χ}
    (unawaited : ∀ entry, (f entry).io = none) (stage : ∀ entry, (f entry).stage = entry.stage)
    (io : next.io = (replica.releaseIo handle).io) (handles : next.nextHandle = replica.nextHandle)
    (pipeline : next.pipeline = replica.pipeline.modify offset f) : next.Owned := by
  apply owned.keep
  · rw [io]
    exact replica.sublist_releaseIo handle
  · exact handles
  · intro entry hentry
    rw [pipeline] at hentry
    obtain hentry | ⟨old, -, rfl⟩ := mem_modify hentry
    · exact .of_mem hentry
    · exact .of_io (unawaited old)
  · intro entry hentry
    rw [pipeline] at hentry
    obtain hentry | ⟨old, hold, rfl⟩ := mem_tail_modify hentry
    · exact owned.rest entry hentry
    · rw [stage]
      exact owned.rest old hold

/-- The first entry leaves. -/
theorem Owned.pop (owned : replica.Owned) : replica.popPipeline.Owned := by
  apply owned.keep
  · exact List.Sublist.refl _
  · rfl
  · intro entry hentry
    exact .of_mem (List.mem_of_mem_tail hentry)
  · intro entry hentry
    exact owned.rest entry (List.mem_of_mem_tail hentry)

end

/-- What a worker makes of a request: it is refused, or it changes the journal or the superblock. -/
inductive Executes (cfg : Config) (replica : Replica χ) :
    IOOperation χ → WAL χ → WALZones χ → Superblock χ → Except ReplicaError Unit → Prop where
  | refused {operation : IOOperation χ} (err : ReplicaError) :
      Executes cfg replica operation replica.wal replica.durable.zones replica.durable.superblock (.error err)
  | plain {operation : IOOperation χ}
      (kind : operation = .sync ∨ operation = .resize ∨ operation = .replyWrite) :
      Executes cfg replica operation replica.wal replica.durable.zones replica.durable.superblock (.ok ())
  | append {header : Header χ} {reusableThrough : Nat} {wal : WAL χ} {zones : WALZones χ}
      (appended : replica.wal.append replica.durable.zones cfg.cluster header reusableThrough =
        .ok (wal, zones)) :
      Executes cfg replica (.walAppend header reusableThrough) wal zones replica.durable.superblock (.ok ())
  | persist {next : Superblock χ} (follows : successor replica.durable.superblock next = true)
      (validates : next.validate cfg.validation = .ok ()) :
      Executes cfg replica (.superblockPersist next) replica.wal replica.durable.zones next (.ok ())

theorem persistSuperblock_eq_ok {current next written : Superblock χ} {cfg : Config}
    (persisted : persistSuperblock cfg current next = .ok written) :
    successor current next = true ∧ next.validate cfg.validation = .ok () ∧ written = next := by
  unfold persistSuperblock at persisted
  split at persisted
  · cases persisted
  · rename_i hfollows
    obtain ⟨⟨⟩, hvalid, hwritten⟩ := bind_eq_ok.mp persisted
    exact ⟨not_not.mp hfollows, hvalid, (Except.ok.inj hwritten).symm⟩

theorem execute_cases (replica : Replica χ) (cfg : Config) (operation : IOOperation χ) :
    ∃ wal zones superblock, Executes cfg replica operation wal zones superblock (replica.execute cfg operation).2 ∧
      (replica.execute cfg operation).1 = { replica with
        wal := wal
        durable := { replica.durable with zones := zones, superblock := superblock } } := by
  cases operation with
  | sync => exact ⟨_, _, _, .plain (.inl rfl), rfl⟩
  | resize => exact ⟨_, _, _, .plain (.inr (.inl rfl)), rfl⟩
  | replyWrite => exact ⟨_, _, _, .plain (.inr (.inr rfl)), rfl⟩
  | walAppend header reusableThrough =>
    unfold Replica.execute
    simp only
    split
    · exact ⟨_, _, _, .refused _, rfl⟩
    · rename_i happended
      exact ⟨_, _, _, .append happended, rfl⟩
  | superblockPersist next =>
    unfold Replica.execute
    simp only
    split
    · exact ⟨_, _, _, .refused _, rfl⟩
    · rename_i hpersisted
      obtain ⟨hfollows, hvalid, rfl⟩ := persistSuperblock_eq_ok hpersisted
      exact ⟨_, _, _, .persist hfollows hvalid, rfl⟩

/-- A worker carries out one request that has no result yet, if there is one with the handle. -/
theorem perform_cases (replica : Replica χ) (cfg : Config) (handle : Nat) :
    replica.perform cfg handle = replica ∨
      ∃ pending ∈ replica.io, pending.handle = handle ∧ pending.result = none ∧
        ∃ wal zones superblock result, Executes cfg replica pending.operation wal zones superblock result ∧
          replica.perform cfg handle = { replica with
            wal := wal
            durable := { replica.durable with zones := zones, superblock := superblock }
            io := replica.io.map fun other =>
              if other.handle = handle then { other with result := some result } else other } := by
  unfold Replica.perform
  split
  · exact .inl rfl
  rename_i pending hfound
  have hpending : pending.handle = handle ∧ pending.result.isNone = true := by
    simpa using List.find?_some hfound
  obtain ⟨wal, zones, superblock, hexecutes, h⟩ := replica.execute_cases cfg pending.operation
  refine .inr ⟨pending, List.mem_of_find?_eq_some hfound, hpending.1, ?_, wal, zones, superblock, _,
    hexecutes, ?_⟩
  · exact Option.isNone_iff_eq_none.mp hpending.2
  · simp only [h]

theorem Owned.perform (owned : replica.Owned) (cfg : Config) (handle : Nat) :
    (replica.perform cfg handle).Owned := by
  obtain h | ⟨pending, -, -, -, wal, zones, superblock, result, -, h⟩ := replica.perform_cases cfg handle
  · rw [h]
    exact owned
  rw [h]
  apply owned.keep
  · show List.Sublist ((replica.io.map _).map _) _
    rw [List.map_map, List.map_congr_left]
    intro other _
    rw [Function.comp_apply]
    split_ifs <;> rfl
  · rfl
  · exact fun entry hentry => .of_mem hentry
  · exact owned.rest

section

omit [DecidableEq χ] [Checksums χ]

/-- Entries that wait for nothing and are not under way, behind what is left of the others. -/
theorem Owned.extend (owned : replica.Owned) {kept added : List (PipelineEntry χ)} (io : next.io = replica.io)
    (handles : next.nextHandle = replica.nextHandle)
    (pipeline : next.pipeline.map PipelineEntry.unacknowledged =
      (kept ++ added).map PipelineEntry.unacknowledged)
    (keeps : kept <+: replica.pipeline) (idle : ∀ entry ∈ added, entry.io = none ∧ entry.stage = .idle) :
    next.Owned := by
  have hinherits : ∀ entry ∈ next.pipeline, replica.Inherits entry := by
    intro entry hentry
    have hmem : entry.unacknowledged ∈ (kept ++ added).map PipelineEntry.unacknowledged := by
      rw [← pipeline]
      exact List.mem_map_of_mem hentry
    obtain ⟨other, hother, hsame⟩ := List.mem_map.mp hmem
    obtain hother | hother := List.mem_append.mp hother
    · exact .inl ⟨other, keeps.subset hother, hsame⟩
    · apply Inherits.of_io
      rw [← show other.io = entry.io from (PipelineEntry.mk.inj hsame).2.2.2.2.2.2.1]
      exact (idle other hother).1
  apply owned.keep _ handles hinherits
  · apply idle_of_unacknowledged pipeline
    intro entry hentry
    cases kept with
    | nil => exact (idle entry (List.mem_of_mem_tail hentry)).2
    | cons first rest =>
      obtain hrest | hadded := List.mem_append.mp (show entry ∈ rest ++ added from hentry)
      · obtain ⟨behind, hbehind⟩ := keeps
        apply owned.rest
        rw [← hbehind]
        exact List.mem_append_left behind hrest
      · exact (idle entry hadded).2
  · rw [io]

theorem mem_tail_append {α : Type} {a : α} {front behind : List α} (mem : a ∈ (front ++ behind).tail) :
    a ∈ front.tail ∨ a ∈ behind := by
  cases front with
  | nil => exact .inr (List.mem_of_mem_tail mem)
  | cons first rest => exact List.mem_append.mp mem

end

variable {cfg : Config} {given : Surroundings χ}

omit [DecidableEq χ] in
/-- A view change begins and the first entry is popped, so that what it waited for does not matter. -/
theorem Owned.yieldPop (owned : replica.Owned) (yielded : Replica χ) (inputs : Inputs χ) (target : Nat)
    (tail : yielded.pipeline.tail = replica.pipeline.tail) (io : yielded.io = replica.io)
    (handles : yielded.nextHandle = replica.nextHandle) :
    (yielded.beginViewChangeNow cfg inputs target).popPipeline.Owned := by
  have hsame : (yielded.enterViewChange target).pipeline.tail.map PipelineEntry.unacknowledged =
      replica.pipeline.tail.map PipelineEntry.unacknowledged := by
    rw [List.map_tail, map_unacknowledged_enterViewChange, ← List.map_tail, tail]
  have hinherits : ∀ other ∈ (yielded.enterViewChange target).pipeline.tail, replica.Inherits other := by
    intro other hother
    have hmem : other.unacknowledged ∈ replica.pipeline.tail.map PipelineEntry.unacknowledged := by
      rw [← hsame]
      exact List.mem_map_of_mem hother
    obtain ⟨old, hold, heq⟩ := List.mem_map.mp hmem
    exact .inl ⟨old, List.mem_of_mem_tail hold, heq⟩
  have hidle : ∀ other ∈ (yielded.enterViewChange target).pipeline.tail.tail, other.stage = .idle :=
    idle_of_unacknowledged hsame fun other hother => owned.rest other (List.mem_of_mem_tail hother)
  obtain ⟨err, h⟩ | ⟨-, h⟩ := yielded.beginViewChangeNow_cases cfg inputs target
  · rw [h]
    apply owned.keep
    · show List.Sublist (yielded.io.map _) _
      rw [io]
    · exact handles
    · exact hinherits
    · exact hidle
  · rw [h]
    apply owned.submit
    · show yielded.io ++ _ = _
      rw [io, handles]
    · show yielded.nextHandle + 1 = _
      rw [handles]
    · exact fun other hother => .inl (hinherits other hother)
    · exact hidle

/-- Every move keeps track of what belongs to what. -/
theorem Owned.move (owned : replica.Owned) (move : Move cfg given replica next) : next.Owned := by
  cases move with
  | quiet | fail | send | learnCommit | distrustHead | pend | settle | join | session
  | drain | publish | publishLast | openWindow | overwriteHeaders | recordView | wantHeader
  | enterStateSync | cancelSync | drained | installCheckpoint | resizePhase | resized | resetDone
  | opening | resizedOpening | openReplay | openIncomplete | openHeaders | openBehind | openLevel | openStuck
  | repliesRepaired => exact owned.same rfl rfl rfl
  | announce destination nonce =>
    obtain ⟨headers, h⟩ := replica.buildView_cases cfg nonce
    rw [h]
    exact owned.same rfl rfl rfl
  | acks same =>
    exact owned.keep (List.Sublist.refl _) rfl (fun entry => inherits_of_unacknowledged same)
      (idle_of_unacknowledged same owned.rest)
  | accept normal durable current source accepted =>
    obtain ⟨-, -, -, -, -, rfl⟩ := acceptPrepare_eq_some accepted
    apply owned.submit rfl rfl
    · intro entry hentry
      obtain hentry | hentry := List.mem_append.mp hentry
      · exact .inl (.of_mem hentry)
      · rw [List.mem_singleton.mp hentry]
        exact .inr ⟨rfl, .append _ rfl rfl⟩
    · intro entry hentry
      obtain hentry | hentry := mem_tail_append hentry
      · exact owned.rest entry hentry
      · rw [List.mem_singleton.mp hentry]
  | beginViewChange inputs => exact owned.beginViewChangeNow cfg inputs _
  | resume inputs =>
    have hsettled : Owned { replica with pendingView := 0 } := owned.same rfl rfl rfl
    exact hsettled.beginViewChangeNow cfg inputs _
  | @progress entry rest stage first waits ready ahead =>
    refine owned.advance first ?_ ?_ ?_ stage rfl rfl (setStage_pipeline first stage)
    · intro hidle
      obtain ⟨hprefetch, -⟩ | ⟨-, hready⟩ := ready
      · rw [hidle] at hprefetch
        cases hprefetch
      · simp only [entryReady, decide_eq_true_eq] at hready
        exact hready.1
    · rintro hexecute
      simp [hexecute] at waits
    · rintro hpersists
      simp [hpersists] at waits
  | @submitReply _ _ _ entry rest first waits ready submitted =>
    obtain ⟨rfl, rfl⟩ := submit_eq_ok submitted
    have hpipeline := executing_pipeline first replica.nextHandle
    exact owned.submitFirst first rfl rfl hpipeline rfl (.reply rfl)
  | @commit entry rest stage first waits ready maintains =>
    refine owned.advance first ?_ ?_ ?_ stage rfl rfl ?_
    · rintro hidle
      simp [hidle] at waits
    · rintro hexecute
      simp [hexecute] at waits
    · rintro hpersists
      simp [hpersists] at waits
    · simp [Replica.setStage, modifyEntry, recordCommit, first]
  | @checkpointData entry rest target first maintains =>
    refine owned.advance first ?_ ?_ ?_ .checkpointData rfl rfl ?_
    · rintro hidle
      simp [hidle] at maintains
    · rintro hexecute
      simp [hexecute] at maintains
    · rintro hpersists
      simp [hpersists] at maintains
    · simp [Replica.setStage, modifyEntry, first]
  | @submitCheckpoint _ _ _ checkpoint entry rest first data built undrained submitted =>
    obtain ⟨rfl, rfl⟩ := submit_eq_ok submitted
    have hpipeline := checkpointing_pipeline first replica.nextHandle
    exact owned.submitFirst first rfl rfl hpipeline rfl (.checkpoint _ rfl)
  | @yield inputs entry rest first maintains =>
    refine owned.yieldPop ({ replica with
      pendingView := 0, checkpointTarget := 0, pendingCheckpoint := none }.setStage .idle)
      inputs _ ?_ rfl rfl
    simp [Replica.setStage, modifyEntry, first]
  | yieldPublished inputs =>
    exact owned.yieldPop { replica with pendingView := 0 } inputs _ rfl rfl rfl
  | pop => exact owned.pop
  | windowHeaders =>
    obtain ⟨_, _, _, _, h⟩ := replica.handleRepairWindowHeaders_frame cfg _ _
    rw [h]
    exact owned.same rfl rfl rfl
  | repairAppend heard repaired =>
    obtain ⟨-, -, -, -, -, -, rfl⟩ := handleRepairPrepare_eq_some repaired
    exact owned.submit rfl rfl (fun entry hentry => .inl (.of_mem hentry)) owned.rest
  | rebuild installing named unbuilt written idle quiet rebuilt =>
    obtain rfl | ⟨entries, _, _, _, _, hentries, rfl | rfl⟩ := rebuilt_cases rebuilt
    · exact owned
    · exact owned.extend rfl rfl rfl (replica.pipelineThrough_initial _)
        fun entry hentry => ⟨(hentries entry hentry).1, (hentries entry hentry).2.1⟩
    · refine owned.extend rfl rfl ?_ (replica.pipelineThrough_initial replica.repairViewAncestor)
        fun entry hentry => ⟨(hentries entry hentry).1, (hentries entry hentry).2.1⟩
      show (List.map _ (_ ++ entries)).map PipelineEntry.unacknowledged = _
      rw [List.map_map]
      rfl
  | persistInstall installing rebuilt committed undisturbed persisted =>
    obtain ⟨-, -, -, rfl⟩ := persistView_eq_ok persisted
    exact owned.submit rfl rfl (fun entry hentry => .inl (.of_mem hentry)) owned.rest
  | perform handle => exact owned.perform cfg handle
  | drop | clearSync | clearView | viewFailed | clearRepair | syncPersisted | viewPersisted | repairWritten =>
    exact owned.release _ rfl rfl rfl
  | clearEntry =>
    exact owned.releaseEntry (f := fun entry => { entry with io := none }) (fun _ => rfl) (fun _ => rfl)
      rfl rfl rfl
  | @viewPersistedOnward inputs handle =>
    have hreleased : Owned { replica.releaseIo handle with
        viewIo := none, durableView := replica.view, pendingView := 0 } := owned.release handle rfl rfl rfl
    exact hreleased.beginViewChangeNow cfg inputs _
  | viewInstalled =>
    exact owned.release _ rfl rfl rfl
  | @appended handle offset =>
    exact owned.releaseEntry (f := fun entry => { entry with io := none, durable := true }) (fun _ => rfl)
      (fun _ => rfl) rfl rfl (replica.appended_pipeline offset)
  | @replyWritten handle entry rest stage done first =>
    have hpipeline := replied_pipeline first handle stage
    apply owned.keep
    · exact replica.sublist_releaseIo handle
    · rfl
    · intro other hother
      rw [hpipeline] at hother
      obtain rfl | hother := List.mem_cons.mp hother
      · exact .of_io rfl
      · apply Inherits.of_mem
        rw [first]
        exact List.mem_cons_of_mem entry hother
    · intro other hother
      rw [hpipeline] at hother
      apply owned.rest
      rw [first]
      exact hother
  | submitSync free kind submitted =>
    obtain ⟨rfl, rfl⟩ := submit_eq_ok submitted
    exact owned.submit rfl rfl (fun entry hentry => .inl (.of_mem hentry)) owned.rest
  | startReset inputs =>
    unfold startStateSyncReset
    split
    · exact owned
    · exact owned.same rfl rfl rfl
  | releaseFrames =>
    apply owned.keep
    · exact List.Sublist.refl _
    · rfl
    · intro entry hentry
      exact absurd hentry List.not_mem_nil
    · intro entry hentry
      exact absurd hentry List.not_mem_nil
  | replay =>
    obtain ⟨_, _, _, _, _, _, _, _, _, _, _, _, _, _, _, _, h, -, -, entries, hpipeline, hentries⟩ :=
      replica.replayInterrupted_frame cfg
    rw [h]
    exact owned.extend rfl rfl (congrArg _ hpipeline) List.prefix_rfl
      fun entry hentry => ⟨(hentries entry hentry).1, (hentries entry hentry).2.1⟩

end Replica

end Supervsr
