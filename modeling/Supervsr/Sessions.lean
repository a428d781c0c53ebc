import Supervsr.Config
import Supervsr.FrameValidation

/-
# Supervsr.Sessions — the client session table

A replica keeps one slot per client: the session number and the header of the latest reply.  A slot is
reserved by `PlanCommit` while its reply is written and released by `CommitAt` or `Abort`; the trailer
that a checkpoint retains can be encoded only while no slot is reserved.

The three parallel slices of the source are one list of slots.  A record with session 0 is an empty
slot there and `none` here.  The table is generic in the reply headers it stores: the execution of a
prepare keeps one over `ReplyHeader`, and `FrameSessions` over the bytes of a frame's header.
-/

namespace Supervsr

/-! ## Reply headers -/

/-- The header of a reply: the fields of `protocol.Header` that the session table reads or the reply
builders write.  As for prepares, the header's own checksum is `ReplyHeader.checksum` of the rest. -/
structure ReplyHeader (χ : Type) where
  requestChecksum : χ
  context : χ
  client : Nat
  op : Nat
  commit : Nat
  timestamp : Nat
  request : Nat
  operation : Operation
  view : Nat
  release : Nat
  author : Nat
  size : Nat
  bodyChecksum : χ
deriving DecidableEq, Repr

namespace ReplyHeader

variable {χ : Type}

/-- `protocol.EncodeHeader`. -/
def encode (reply : ReplyHeader χ) : List (Word χ) :=
  [.sum reply.bodyChecksum, .num reply.size, .num reply.view, .num reply.release, .num reply.author,
    .sum reply.requestChecksum, .sum reply.context, .num reply.client, .num reply.op,
    .num reply.commit, .num reply.timestamp, .num reply.request, .num reply.operation.code]

/-- `HeaderChecksum`. -/
def checksum [Checksums χ] (reply : ReplyHeader χ) : χ := checksumBytes reply.encode

end ReplyHeader

/-! ## The table -/

/-- `ErrSessionCapacity`, `ErrSessionEncoding` and `ErrSessionChecksum`. -/
inductive SessionError where
  | capacity
  | encoding
  | checksum
deriving DecidableEq, Repr

/-- What the table reads of a stored reply: its op and its client, zero in an empty record. -/
class SessionReply (ρ : Type) (κ : outParam Type) where
  op : ρ → Nat
  client : ρ → κ
  noClient : κ

/-- `SessionRecord` of an occupied slot. -/
structure SessionRecordOf (ρ : Type) where
  reply : ρ
  session : Nat
deriving DecidableEq, Repr

/-- A slot of the table: its record, whether a commit plan holds it, and the generation of its plans. -/
structure SessionSlotOf (ρ : Type) where
  record : Option (SessionRecordOf ρ)
  busy : Bool
  generation : Nat
deriving DecidableEq, Repr

/-- `SessionCommitPlan`. -/
structure SessionPlanOf (κ χ : Type) where
  slot : Nat
  generation : Nat
  client : κ
  session : Nat
  replyChecksum : χ
deriving DecidableEq, Repr

/-- `SessionTable` with a configuration of the type `γ`. -/
structure SessionTableOf (γ ρ : Type) where
  config : γ
  slots : List (SessionSlotOf ρ)
  count : Nat
deriving DecidableEq, Repr

section

variable {γ ρ κ χ : Type} [SessionReply ρ κ]

namespace SessionRecordOf

def client (record : SessionRecordOf ρ) : κ := SessionReply.client record.reply

/-- The slot is occupied by the client. -/
def holds [DecidableEq κ] (client : κ) (held : Option (SessionRecordOf ρ)) : Bool :=
  held.any (·.client = client)

/-- What `evictionSlot` compares: the op and the client of the reply, zero in an empty record. -/
def age (held : Option (SessionRecordOf ρ)) : Nat × κ :=
  held.elim (0, SessionReply.noClient ρ) fun record => (SessionReply.op record.reply, record.client)

/-- The loop of `evictionSlot`: `selected` is the oldest slot so far, with its op and client. -/
def evictFrom [LT κ] [DecidableLT κ] (slot selected : Nat) (oldest : Nat × κ) : List (Nat × κ) → Nat
  | [] => selected
  | candidate :: rest =>
    if candidate.1 < oldest.1 ∨ (candidate.1 = oldest.1 ∧ candidate.2 < oldest.2) then
      evictFrom (slot + 1) slot candidate rest
    else evictFrom (slot + 1) selected oldest rest

/-- `evictionSlot` of these records. -/
def evictionSlot [LT κ] [DecidableLT κ] (records : List (Option (SessionRecordOf ρ))) : Nat :=
  match records.map age with
  | [] => 0
  | first :: rest => evictFrom 1 0 first rest

end SessionRecordOf

namespace SessionTableOf

/-- The record of every slot. -/
def records (table : SessionTableOf γ ρ) : List (Option (SessionRecordOf ρ)) := table.slots.map (·.record)

/-- The generation of a slot. -/
def generation (table : SessionTableOf γ ρ) (slot : Nat) : Nat := (table.slots[slot]?).elim 0 (·.generation)

/-- Reserve a slot for a plan.  Generations are 64-bit numbers. -/
def reserve (table : SessionTableOf γ ρ) (slot : Nat) : SessionTableOf γ ρ :=
  { table with
    slots := table.slots.modify slot fun held =>
      { held with busy := true, generation := (held.generation + 1) % 256 ^ 8 } }

/-- The plan still holds its slot. -/
def outstanding (table : SessionTableOf γ ρ) (plan : SessionPlanOf κ χ) : Bool :=
  table.slots[plan.slot]?.any fun slot => slot.busy ∧ slot.generation = plan.generation

def abort (table : SessionTableOf γ ρ) (plan : SessionPlanOf κ χ) : SessionTableOf γ ρ :=
  if table.outstanding plan then
    { table with slots := table.slots.modify plan.slot fun held => { held with busy := false } }
  else table

/-- `CommitAt` of a record whose reply has this checksum; `valid` is what `validateOccupied` finds. -/
def commitAtOf [DecidableEq κ] [DecidableEq χ] (table : SessionTableOf γ ρ) (valid : Bool) (checksum : χ)
    (plan : SessionPlanOf κ χ) (record : SessionRecordOf ρ) : Except SessionError (SessionTableOf γ ρ) :=
  match table.slots[plan.slot]? with
  | none => .error .encoding
  | some slot =>
    if ¬ slot.busy ∨ slot.generation ≠ plan.generation ∨ plan.client ≠ record.client ∨
        plan.session ≠ record.session ∨ plan.replyChecksum ≠ checksum ∨ ¬ valid then
      .error .encoding
    else
      .ok { table with
        slots := table.slots.set plan.slot { slot with record := some record, busy := false }
        count := if slot.record.isNone then table.count + 1 else table.count }

section

variable [DecidableEq κ]

/-- `lookup`: the client's record and slot, or the first slot that is empty and not reserved, the length
when there is none. -/
def lookup (table : SessionTableOf γ ρ) (client : κ) : Option (SessionRecordOf ρ) × Nat :=
  match table.records.findIdx? (SessionRecordOf.holds client) with
  | some slot => ((table.records[slot]?).join, slot)
  | none => (none, table.slots.findIdx fun slot => slot.record.isNone ∧ ¬ slot.busy)

def session (table : SessionTableOf γ ρ) (client : κ) : Option Nat :=
  (table.lookup client).1.map (·.session)

variable [LT κ] [DecidableLT κ]

/-- The slot `PlanCommit` takes: the client's own, the oldest one of a full table, or a free one. -/
def planSlot (table : SessionTableOf γ ρ) (client : κ) : Except SessionError Nat :=
  match table.lookup client with
  | (some _, slot) => if table.slots[slot]?.any (·.busy) then .error .capacity else .ok slot
  | (none, free) =>
    if table.count = table.slots.length then
      let oldest := SessionRecordOf.evictionSlot table.records
      if table.slots[oldest]?.any (·.busy) then .error .capacity else .ok oldest
    else if free = table.slots.length then .error .capacity
    else .ok free

/-- `PlanCommit` of a record whose reply has this checksum; `valid` is what `validateOccupied` finds. -/
def planCommitOf (table : SessionTableOf γ ρ) (valid : Bool) (checksum : χ) (record : SessionRecordOf ρ) :
    Except SessionError (SessionPlanOf κ χ × SessionTableOf γ ρ) :=
  if ¬ valid then .error .encoding
  else do
    let slot ← table.planSlot record.client
    let reserved := table.reserve slot
    return (⟨slot, reserved.generation slot, record.client, record.session, checksum⟩, reserved)

end

/-! ## Plans and commits -/

variable {table next reserved : SessionTableOf γ ρ} {plan : SessionPlanOf κ χ} {record : SessionRecordOf ρ}
  {slot : SessionSlotOf ρ} {index : Nat} {valid : Bool} {checksum : χ}

theorem records_getElem? : table.records[index]? = (table.slots[index]?).map (·.record) := List.getElem?_map

@[simp] theorem length_records : table.records.length = table.slots.length := List.length_map _

@[simp] theorem length_reserve (table : SessionTableOf γ ρ) (slot : Nat) :
    (table.reserve slot).slots.length = table.slots.length := by simp [reserve]

omit [SessionReply ρ κ] in
theorem outstanding_iff :
    table.outstanding plan = true ↔ ∃ held, table.slots[plan.slot]? = some held ∧ held.busy = true ∧
      held.generation = plan.generation := by
  unfold outstanding
  cases table.slots[plan.slot]? <;> simp

theorem planCommit_eq_ok [DecidableEq κ] [LT κ] [DecidableLT κ]
    (planned : table.planCommitOf valid checksum record = .ok (plan, reserved)) :
    valid = true ∧ table.planSlot record.client = .ok plan.slot ∧ reserved = table.reserve plan.slot ∧
      plan = ⟨plan.slot, reserved.generation plan.slot, record.client, record.session, checksum⟩ := by
  unfold planCommitOf at planned
  split at planned
  · cases planned
  rename_i hvalid
  cases hslot : table.planSlot record.client with
  | error reason => rw [hslot] at planned; cases planned
  | ok slot =>
    rw [hslot] at planned
    cases planned
    exact ⟨by simpa using hvalid, rfl, rfl, rfl⟩

theorem commitAt_eq_ok [DecidableEq κ] [DecidableEq χ]
    (commits : table.commitAtOf valid checksum plan record = .ok next) :
    table.outstanding plan = true ∧ plan.client = record.client ∧ valid = true ∧
      ∃ held, table.slots[plan.slot]? = some held ∧
        next = { table with
          slots := table.slots.set plan.slot { held with record := some record, busy := false }
          count := if held.record.isNone then table.count + 1 else table.count } := by
  unfold commitAtOf at commits
  split at commits
  · cases commits
  rename_i held hheld
  split at commits
  · cases commits
  rename_i hchecks
  cases commits
  simp only [not_or, ne_eq, not_not] at hchecks
  obtain ⟨hbusy, hgeneration, hclient, -, -, hvalid⟩ := hchecks
  exact ⟨outstanding_iff.mpr ⟨held, hheld, hbusy, hgeneration⟩, hclient, hvalid, held, hheld, rfl⟩

/-! ## Reserved slots -/

/-- A plan reserves its own slot and no other. -/
theorem reserved_of_planCommit [DecidableEq κ] [LT κ] [DecidableLT κ]
    (planned : table.planCommitOf valid checksum record = .ok (plan, reserved))
    (held : reserved.slots[index]? = some slot) :
    (plan.slot = index ∧ plan.generation = slot.generation) ∨ table.slots[index]? = some slot := by
  obtain ⟨-, -, hreserved, hplan⟩ := planCommit_eq_ok planned
  by_cases hindex : plan.slot = index
  · subst hindex
    refine .inl ⟨rfl, ?_⟩
    rw [hplan]
    simp [generation, held]
  · simp only [hreserved, reserve, List.getElem?_modify, if_neg hindex, Option.map_eq_map, Option.map_id'] at held
    exact .inr held

omit [SessionReply ρ κ] in
/-- What is still reserved after a plan was given up is reserved by another one. -/
theorem reserved_of_abort (held : (table.abort plan).slots[index]? = some slot) (busy : slot.busy = true) :
    table.slots[index]? = some slot ∧ ¬ (plan.slot = index ∧ plan.generation = slot.generation) := by
  unfold abort at held
  split_ifs at held with hout
  · rw [List.getElem?_modify, Option.map_eq_map, Option.map_eq_some_iff] at held
    obtain ⟨old, hold, rfl⟩ := held
    by_cases hindex : plan.slot = index
    · simp [hindex] at busy
    · rw [if_neg hindex]
      exact ⟨hold, fun hplan => hindex hplan.1⟩
  · refine ⟨held, fun hplan => hout (outstanding_iff.mpr ⟨slot, ?_, busy, hplan.2.symm⟩)⟩
    rw [hplan.1, held]

/-- A commit releases the slot of its plan. -/
theorem reserved_of_commitAt [DecidableEq κ] [DecidableEq χ]
    (commits : table.commitAtOf valid checksum plan record = .ok next)
    (held : next.slots[index]? = some slot) (busy : slot.busy = true) :
    table.slots[index]? = some slot ∧ plan.slot ≠ index := by
  obtain ⟨-, -, -, old, -, rfl⟩ := commitAt_eq_ok commits
  rw [List.getElem?_set] at held
  split_ifs at held with hindex
  · cases held
    cases busy
  · exact ⟨held, hindex⟩

end SessionTableOf

end

/-! ## The table of the execution -/

/-- `SessionTableConfig`, without the group. -/
structure SessionTableConfig where
  clientsMax : Nat
  activeCount : Nat
  messageSizeMax : Nat
  applicationReplySizeMax : Nat
deriving DecidableEq, Repr

instance {χ : Type} : SessionReply (ReplyHeader χ) Nat := ⟨(·.op), (·.client), 0⟩

abbrev SessionRecord (χ : Type) := SessionRecordOf (ReplyHeader χ)

abbrev SessionSlot (χ : Type) := SessionSlotOf (ReplyHeader χ)

abbrev SessionCommitPlan (χ : Type) := SessionPlanOf Nat χ

abbrev SessionTable (χ : Type) := SessionTableOf SessionTableConfig (ReplyHeader χ)

namespace SessionTable

variable {χ : Type} {plan : SessionCommitPlan χ} {reply : ReplyHeader χ} {slot : SessionSlot χ} {index : Nat}

/-- `validateOccupied`.  The command, protocol and group are fixed by the type, the encoding is the
reply's own, and `ValidateSemantics` runs with the reply's author and release and no body. -/
def validateOccupied (table : SessionTable χ) (reply : ReplyHeader χ) (session : Nat) : Bool :=
  session ≠ 0 ∧ headerBytes ≤ reply.size ∧ reply.size ≤ table.config.messageSizeMax ∧
    reply.size - headerBytes ≤ table.config.applicationReplySizeMax ∧ reply.release ≠ 0 ∧
    reply.author < table.config.activeCount ∧ reply.client ≠ 0 ∧ session ≤ reply.commit ∧
    reply.op = reply.commit ∧ reply.timestamp ≠ 0 ∧
    reply.author = reply.view % table.config.activeCount ∧ reply.op ≠ 0 ∧
    validPreparedOperation reply.operation.code

/-- `EncodeTrailer`: the records by slot, refused while any slot is reserved. -/
def encodeTrailer (table : SessionTable χ) : Except SessionError (List (Option (SessionRecord χ))) :=
  if table.slots.any (·.busy) then .error .capacity else .ok table.records

/-- What `CommitAt` leaves of the slot and of the count when the plan was made by the table itself. -/
def committed (table : SessionTable χ) (slot : Nat) (record : SessionRecord χ) : SessionTable χ :=
  { table with
    slots := table.slots.modify slot fun held =>
      { record := some record, busy := false, generation := (held.generation + 1) % 256 ^ 8 }
    count := if (table.slots[slot]?).any (·.record.isNone) then table.count + 1 else table.count }

variable [Checksums χ] {table reserved committed : SessionTable χ}

def planCommit (table : SessionTable χ) (reply : ReplyHeader χ) (session : Nat) :
    Except SessionError (SessionCommitPlan χ × SessionTable χ) :=
  table.planCommitOf (table.validateOccupied reply session) reply.checksum ⟨reply, session⟩

variable [DecidableEq χ]

def commitAt (table : SessionTable χ) (plan : SessionCommitPlan χ) (reply : ReplyHeader χ)
    (session : Nat) : Except SessionError (SessionTable χ) :=
  table.commitAtOf (table.validateOccupied reply session) reply.checksum plan ⟨reply, session⟩

/-- `RepairReply`: the stored header of the reply and its slot, unless the slot is reserved. -/
def repairReply (table : SessionTable χ) (client op : Nat) (checksum : χ) :
    Option (ReplyHeader χ × Nat) :=
  match table.lookup client with
  | (none, _) => none
  | (some record, slot) =>
    if table.slots[slot]?.any (·.busy) ∨ record.reply.op ≠ op ∨ record.reply.checksum ≠ checksum then none
    else some (record.reply, slot)

/-- A commit right after its plan always succeeds, and only the planned slot changes. -/
theorem commitAt_planCommit {session : Nat} (planned : table.planCommit reply session = .ok (plan, reserved))
    (inside : plan.slot < table.slots.length) :
    reserved.commitAt plan reply session = .ok (table.committed plan.slot ⟨reply, session⟩) := by
  obtain ⟨hvalid, -, rfl, hplan⟩ := SessionTableOf.planCommit_eq_ok planned
  obtain ⟨slot, hslot⟩ : ∃ slot, table.slots[plan.slot]? = some slot := ⟨_, List.getElem?_eq_getElem inside⟩
  have hreserved : (table.reserve plan.slot).slots[plan.slot]? =
      some { slot with busy := true, generation := (slot.generation + 1) % 256 ^ 8 } := by
    simp [SessionTableOf.reserve, hslot]
  unfold commitAt SessionTableOf.commitAtOf
  rw [hreserved]
  dsimp only
  rw [if_neg]
  · congr 1
    simp only [committed, SessionTableOf.reserve, hslot, Option.any_some, SessionTableOf.mk.injEq, and_true,
      true_and]
    refine List.ext_getElem? fun index => ?_
    rw [List.getElem?_set, List.getElem?_modify, List.getElem?_modify]
    by_cases hindex : plan.slot = index
    · subst hindex
      simp [(List.getElem?_eq_some_iff.mp hslot).2, inside]
    · simp [hindex]
  · rw [hplan]
    simp only [SessionTableOf.generation, hreserved, Option.elim_some, ne_eq, not_true_eq_false, false_or]
    exact not_not.mpr hvalid

end SessionTable

/-! ## Tables with the same sessions -/

/-- Two tables with the same sessions in the same slots and no slot reserved.  The generations may
differ: a table decoded from a trailer starts counting anew. -/
structure SessionTable.Agrees {χ : Type} (table other : SessionTable χ) : Prop where
  config : table.config = other.config
  records : table.records = other.records
  count : table.count = other.count
  idle : ∀ slot ∈ table.slots, slot.busy = false
  otherIdle : ∀ slot ∈ other.slots, slot.busy = false

namespace SessionTable

variable {χ : Type} {table other : SessionTable χ}

/-- Where no slot is reserved, the first free one is the first empty one. -/
theorem findIdx_free (idle : ∀ slot ∈ table.slots, slot.busy = false) :
    (table.slots.findIdx fun slot => slot.record.isNone ∧ ¬ slot.busy) = table.records.findIdx (·.isNone) := by
  have hmap (free : SessionSlot χ → Bool) : table.slots.findIdx free = (table.slots.map free).findIdx id := by
    rw [List.findIdx_map]
    rfl
  rw [SessionTableOf.records, List.findIdx_map, hmap, hmap, List.map_congr_left]
  intro slot mem
  cases hrecord : slot.record <;> simp [idle slot mem, hrecord]

theorem not_any_busy (idle : ∀ slot ∈ table.slots, slot.busy = false) (slot : Nat) :
    (table.slots[slot]?).any (·.busy) = false := by
  cases hslot : table.slots[slot]? with
  | none => rfl
  | some held => exact idle held (List.mem_of_getElem? hslot)

namespace Agrees

section

variable (agrees : table.Agrees other)

include agrees

theorem length_eq : table.slots.length = other.slots.length := by
  rw [← SessionTableOf.length_records, agrees.records, SessionTableOf.length_records]

theorem record_eq (slot : Nat) :
    (table.slots[slot]?).map (·.record) = (other.slots[slot]?).map (·.record) := by
  rw [← SessionTableOf.records_getElem?, agrees.records, SessionTableOf.records_getElem?]

theorem lookup_eq (client : Nat) :
    table.lookup client = other.lookup client := by
  unfold SessionTableOf.lookup
  rw [findIdx_free agrees.idle, findIdx_free agrees.otherIdle, agrees.records]

theorem planSlot_eq (client : Nat) :
    table.planSlot client = other.planSlot client := by
  unfold SessionTableOf.planSlot
  rw [agrees.lookup_eq, agrees.count, agrees.length_eq, agrees.records]
  simp only [not_any_busy agrees.idle, not_any_busy agrees.otherIdle]

theorem planCommit_eq [Checksums χ] {reply : ReplyHeader χ} {session : Nat} {plan : SessionCommitPlan χ}
    {reserved : SessionTable χ} (planned : table.planCommit reply session = .ok (plan, reserved)) :
    ∃ otherPlan otherReserved, other.planCommit reply session = .ok (otherPlan, otherReserved) ∧
      otherPlan.slot = plan.slot := by
  obtain ⟨hvalid, hslot, -, -⟩ := SessionTableOf.planCommit_eq_ok planned
  refine ⟨⟨plan.slot, (other.reserve plan.slot).generation plan.slot, reply.client, session, reply.checksum⟩,
    other.reserve plan.slot, ?_, rfl⟩
  have hvalid' : other.validateOccupied reply session = true := by
    unfold validateOccupied at hvalid ⊢
    rw [← agrees.config]
    exact hvalid
  unfold planCommit SessionTableOf.planCommitOf
  rw [if_neg (by simp [hvalid']), ← agrees.planSlot_eq, hslot]
  rfl

/-- Committing the same record to the same slot keeps two tables in agreement. -/
theorem committed (slot : Nat) (record : SessionRecord χ) :
    (table.committed slot record).Agrees (other.committed slot record) := by
  have hidle {held : SessionTable χ} (idle : ∀ slot ∈ held.slots, slot.busy = false) :
      ∀ changed ∈ (held.committed slot record).slots, changed.busy = false := by
    intro changed mem
    obtain ⟨index, hindex⟩ := List.mem_iff_getElem?.mp mem
    rw [SessionTable.committed, List.getElem?_modify] at hindex
    obtain ⟨old, hold, rfl⟩ := Option.map_eq_some_iff.mp hindex
    split
    · rfl
    · exact idle old (List.mem_of_getElem? hold)
  refine ⟨agrees.config, List.ext_getElem? fun index => ?_, ?_, hidle agrees.idle, hidle agrees.otherIdle⟩
  · have hsame := agrees.record_eq index
    rw [SessionTableOf.records_getElem?, SessionTableOf.records_getElem?]
    simp only [SessionTable.committed, List.getElem?_modify]
    by_cases hindex : slot = index
    · subst hindex
      cases hslot : table.slots[slot]? <;> cases hother : other.slots[slot]? <;> simp_all
    · simpa [hindex] using hsame
  · have hsame := agrees.record_eq slot
    have hempty : (table.slots[slot]?).any (·.record.isNone) = (other.slots[slot]?).any (·.record.isNone) := by
      cases hslot : table.slots[slot]? <;> cases hother : other.slots[slot]? <;> simp_all
    simp only [SessionTable.committed, hempty, agrees.count]

theorem encodeTrailer_eq : table.encodeTrailer = other.encodeTrailer := by
  have hidle {held : SessionTable χ} (idle : ∀ slot ∈ held.slots, slot.busy = false) :
      held.slots.any (·.busy) = false := List.any_eq_false.mpr fun slot mem => by simp [idle slot mem]
  unfold encodeTrailer
  rw [hidle agrees.idle, hidle agrees.otherIdle, agrees.records]

end

end Agrees

end SessionTable

end Supervsr
