import Supervsr.Sessions

/-
# Supervsr.FrameSessions — the session table down to the bytes of its replies

The table of `sessions.go` over the 256-byte headers themselves: it compares fields of the stored reply by
offset, in the widths they have on the wire.
-/

namespace Supervsr

open Bytes

namespace FrameHeader

def replyRequestChecksum (header : FrameHeader) : Bytes := header.field 0 16

def replyContext (header : FrameHeader) : Bytes := header.field 32 48

def replyClient (header : FrameHeader) : Bytes := header.field 64 80

def replyOp (header : FrameHeader) : Nat := header.number 80 88

def replyCommit (header : FrameHeader) : Nat := header.number 88 96

def replyTimestamp (header : FrameHeader) : Nat := header.number 96 104

def replyRequest (header : FrameHeader) : Nat := header.number 104 108

end FrameHeader

/-! ## The table -/

/-- `SessionTableConfig`. -/
structure FrameSessionConfig where
  clientsMax : Nat
  group : Bytes
  activeCount : Nat
  messageSizeMax : Nat
  applicationReplySizeMax : Nat
deriving DecidableEq, Repr

instance : SessionReply FrameHeader Bytes := ⟨(·.replyOp), (·.replyClient), zeros 16⟩

abbrev FrameSession := SessionRecordOf FrameHeader

abbrev FrameSessionSlot := SessionSlotOf FrameHeader

abbrev FrameSessionPlan := SessionPlanOf Bytes Bytes

abbrev FrameSessionTable := SessionTableOf FrameSessionConfig FrameHeader

/-- The values the Go types of the two fields can hold. -/
structure FrameSession.Representable (record : FrameSession) : Prop where
  reply : record.reply.Representable
  session : record.session < 256 ^ 8

/-- `NewSessionTable`. -/
def newFrameSessionTable (config : FrameSessionConfig) : Option FrameSessionTable :=
  if config.clientsMax = 0 ∨ config.activeCount = 0 ∨ config.messageSizeMax < headerSize ∨
      config.messageSizeMax - headerSize < config.applicationReplySizeMax then
    none
  else some { config, slots := List.replicate config.clientsMax ⟨none, false, 0⟩, count := 0 }

/-- What `validateOccupied` validates a stored header in: the reply's own author and release, and no
body. -/
def FrameSessionConfig.context (config : FrameSessionConfig) (reply : FrameHeader) : ValidationContext where
  authenticated := true
  replicaSource := true
  sender := reply.author
  activeCount := config.activeCount
  memberCount := config.activeCount
  pipelineMax := 0
  releaseHistoryMax := 0
  applicationBatchSizeMax := 0
  applicationReplySizeMax := config.applicationReplySizeMax
  repairRequestsMax := 0
  currentRelease := reply.release
  clientReleaseMin := 0
  group := config.group
  messageSizeMax := config.messageSizeMax

/-- Whether the header encodes with the checksum it carries. -/
def FrameHeader.encodes (header : FrameHeader) (hash : ChecksumFunction) : Bool :=
  (encodeHeader hash header).any (·.1.headerChecksum = header.headerChecksum)

def FrameSessionConfig.validateOccupied (config : FrameSessionConfig) (hash : ChecksumFunction)
    (reply : FrameHeader) (session : Nat) : Bool :=
  session ≠ 0 ∧ reply.command = .reply ∧ reply.protocol = protocolVersion ∧ reply.group = config.group ∧
    headerSize ≤ reply.size ∧ reply.size ≤ config.messageSizeMax ∧
    reply.size - headerSize ≤ config.applicationReplySizeMax ∧ reply.release ≠ 0 ∧
    reply.author < config.activeCount ∧ ¬ reply.replyClient.allZero ∧ session ≤ reply.replyCommit ∧
    reply.replyOp = reply.replyCommit ∧ reply.replyTimestamp ≠ 0 ∧ reply.encodes hash ∧
    (reply.validateSemantics hash [] (config.context reply)).isOk

namespace FrameSessionTable

variable (hash : ChecksumFunction)

def planCommit (table : FrameSessionTable) (record : FrameSession) :
    Except SessionError (FrameSessionPlan × FrameSessionTable) :=
  table.planCommitOf (table.config.validateOccupied hash record.reply record.session)
    record.reply.headerChecksum record

def commitAt (table : FrameSessionTable) (plan : FrameSessionPlan) (record : FrameSession) :
    Except SessionError FrameSessionTable :=
  table.commitAtOf (table.config.validateOccupied hash record.reply record.session)
    record.reply.headerChecksum plan record

/-- `Commit`: the table and the slot, or why there is none. -/
def commit (table : FrameSessionTable) (record : FrameSession) :
    FrameSessionTable × Except SessionError Nat :=
  match table.planCommit hash record with
  | .error reason => (table, .error reason)
  | .ok (plan, reserved) =>
    match reserved.commitAt hash plan record with
    | .error reason => (reserved.abort plan, .error reason)
    | .ok committed => (committed, .ok plan.slot)

/-! ## The trailer -/

def trailerSize (table : FrameSessionTable) : Nat := table.slots.length * headerSize + table.slots.length * 8

/-- What a slot puts into the headers of the trailer. -/
def slotHeader (held : Option FrameSession) : Bytes := held.elim (zeros headerSize) (·.reply.encoded hash)

/-- What a slot puts into the sessions of the trailer. -/
def slotSession (held : Option FrameSession) : Bytes := held.elim (zeros 8) (putUint 8 ·.session)

/-- The headers of all slots, then their sessions. -/
def trailer (table : FrameSessionTable) : Bytes :=
  Bytes.record table.trailerSize
    (array headerSize 0 (table.records.map (slotHeader hash)) ++
      array 8 (table.slots.length * headerSize) (table.records.map slotSession))

/-- `EncodeTrailer` into a destination of the given length: the trailer and its checksum. -/
def encodeTrailer (table : FrameSessionTable) (room : Nat) : Except SessionError (Bytes × Bytes) :=
  if room ≠ table.trailerSize then .error .encoding
  else if table.slots.any (·.busy) then .error .capacity
  else if table.records.any fun held => held.any (¬ ·.reply.encodes hash) then .error .encoding
  else .ok (table.trailer hash, hash.sum (table.trailer hash))

/-- The loop of `DecodeTrailer` over the header and the session of each slot; `decoded` are the records so
far, `count` how many of them are occupied. -/
def decodeSlots (config : FrameSessionConfig) :
    List (Bytes × Bytes) → List (Option FrameSession) → Nat → Option (List (Option FrameSession) × Nat)
  | [], decoded, count => some (decoded, count)
  | (headerBytes, sessionBytes) :: rest, decoded, count =>
    let session := uint sessionBytes
    if session = 0 then
      if ¬ headerBytes.allZero then none else decodeSlots config rest (decoded ++ [none]) count
    else
      match decodeHeader hash headerBytes config.group config.messageSizeMax config.activeCount with
      | .error _ => none
      | .ok header =>
        if ¬ config.validateOccupied hash header session then none
        else if decoded.any fun prior => prior.any (·.client = header.replyClient) then none
        else decodeSlots config rest (decoded ++ [some ⟨header, session⟩]) (count + 1)

/-- The decoded records in the slots of the table, none of them reserved and each of a new generation. -/
def restored (table : FrameSessionTable) (decoded : List (Option FrameSession)) (count : Nat) :
    FrameSessionTable :=
  { table with
    slots := List.zipWith (fun held record => ⟨record, false, (held.generation + 1) % 256 ^ 8⟩)
      table.slots decoded
    count }

/-- `DecodeTrailer`: what it leaves of the table, and its error. -/
def decodeTrailer (table : FrameSessionTable) (source expectedChecksum : Bytes) :
    FrameSessionTable × Option SessionError :=
  if source.length ≠ table.trailerSize then (table, some .encoding)
  else if hash.sum source ≠ expectedChecksum then (table, some .checksum)
  else
    let headers := readArray source headerSize 0 table.slots.length
    let sessions := readArray source 8 (table.slots.length * headerSize) table.slots.length
    match decodeSlots hash table.config (headers.zip sessions) [] 0 with
    | none => (table, some .encoding)
    | some (decoded, count) => (table.restored decoded count, none)

end FrameSessionTable

/-! ## Requests -/

inductive SessionDecision where
  | admitted
  | duplicate
  | drop
  | clientFork
  | noSession
  | tooLow
  | behind
  | releaseMismatch
deriving DecidableEq, Repr

structure SessionRequest where
  client : Bytes
  session : Nat
  request : Nat
  release : Nat
  requestChecksum : Bytes
  parent : Bytes
deriving DecidableEq, Repr

/-- `Decide`.  The successor of the latest request is a 32-bit number. -/
def FrameSessionTable.decide (table : FrameSessionTable) (request : SessionRequest) : SessionDecision :=
  match table.lookup request.client with
  | (none, _) => .noSession
  | (some record, _) =>
    if request.session < record.session then .tooLow
    else if record.session < request.session then .behind
    else if request.release ≠ record.reply.release then .releaseMismatch
    else
      let latestRequest := record.reply.replyRequest
      if request.request < latestRequest ∨ (latestRequest + 1) % 256 ^ 4 < request.request then .drop
      else if request.request = latestRequest then
        if request.requestChecksum = record.reply.replyRequestChecksum then .duplicate else .clientFork
      else if request.parent ≠ record.reply.replyContext then .clientFork
      else .admitted

/-- How a request stands to the latest reply of its session, on unbounded numbers: the request that was
answered, the next one of the chain, a fork of either, or out of turn. -/
def SessionRequest.standing (request : SessionRequest) (latest : FrameHeader) : SessionDecision :=
  if request.request = latest.replyRequest then
    if request.requestChecksum = latest.replyRequestChecksum then .duplicate else .clientFork
  else if request.request = latest.replyRequest + 1 then
    if request.parent = latest.replyContext then .admitted else .clientFork
  else .drop

namespace FrameHeader

/-- The largest request number of a client. -/
def lastRequest : Nat := 256 ^ 4 - 1

theorem replyRequest_lt {header : FrameHeader} (fields : header.fields.length = 128) :
    header.replyRequest < 256 ^ 4 := by
  have hlength : (header.field 104 108).length = 4 := length_slice (by rw [fields]; decide)
  have hbound := uint_lt (header.field 104 108)
  rw [hlength] at hbound
  exact hbound

end FrameHeader

namespace FrameSessionTable

/-- A request of the recorded session and release is classified by its standing, unless it repeats the
request that used up the numbers: there the successor wraps to zero and the request is dropped. -/
theorem decide_eq_standing_iff {table : FrameSessionTable} {request : SessionRequest} {record : FrameSession}
    {slot : Nat} (found : table.lookup request.client = (some record, slot))
    (representable : record.Representable) (session : request.session = record.session)
    (release : request.release = record.reply.release) (bound : request.request < 256 ^ 4) :
    table.decide request = request.standing record.reply ↔
      ¬ (record.reply.replyRequest = FrameHeader.lastRequest ∧
        request.request = FrameHeader.lastRequest) := by
  have hlatest := FrameHeader.replyRequest_lt representable.reply.fields
  have hdecide : table.decide request =
      if request.request < record.reply.replyRequest ∨
          (record.reply.replyRequest + 1) % 256 ^ 4 < request.request then .drop
      else if request.request = record.reply.replyRequest then
        if request.requestChecksum = record.reply.replyRequestChecksum then .duplicate else .clientFork
      else if request.parent ≠ record.reply.replyContext then .clientFork
      else .admitted := by
    unfold FrameSessionTable.decide
    rw [found]
    simp only [session, Nat.lt_irrefl, if_false, release, ne_eq, not_true_eq_false]
  rw [hdecide, SessionRequest.standing, FrameHeader.lastRequest]
  by_cases hlast : record.reply.replyRequest = 256 ^ 4 - 1
  · have hwrap : (record.reply.replyRequest + 1) % 256 ^ 4 = 0 := by omega
    rw [hwrap, if_pos (by omega)]
    by_cases hrequest : request.request = record.reply.replyRequest
    · rw [if_pos hrequest]
      simp only [hrequest, hlast, and_self, not_true_eq_false, iff_false]
      split_ifs <;> simp
    · rw [if_neg hrequest, if_neg (by omega)]
      simp only [true_iff, not_and]
      omega
  · rw [Nat.mod_eq_of_lt (by omega)]
    simp only [hlast, false_and, not_false_eq_true, iff_true]
    by_cases hrequest : request.request = record.reply.replyRequest
    · rw [if_neg (by omega), if_pos hrequest, if_pos hrequest]
    rw [if_neg hrequest, if_neg hrequest]
    by_cases hnext : request.request = record.reply.replyRequest + 1
    · rw [if_neg (by omega), if_pos hnext, ite_not]
    · rw [if_pos (by omega), if_neg hnext]

end FrameSessionTable

end Supervsr
