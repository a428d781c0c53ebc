import Supervsr.Frame

/-
# Supervsr.FrameValidation — what a replica asks of a decoded frame

`protocol/validation.go`.  A frame that decodes is checked against its sender, the release and the fields
and body its command allows.  The checks read the 128 command-specific bytes by offset.
-/

namespace Supervsr

open Bytes

structure ValidationContext where
  authenticated : Bool
  replicaSource : Bool
  sender : Nat
  activeCount : Nat
  memberCount : Nat
  pipelineMax : Nat
  releaseHistoryMax : Nat
  applicationBatchSizeMax : Nat
  applicationReplySizeMax : Nat
  repairRequestsMax : Nat
  currentRelease : Nat
  clientReleaseMin : Nat
  group : Bytes
  messageSizeMax : Nat
deriving DecidableEq, Repr

namespace FrameHeader

/-- The bytes `start` to `stop` of the command-specific fields. -/
def field (header : FrameHeader) (start stop : Nat) : Bytes := header.fields.slice start stop

/-- The same, as a little-endian number. -/
def number (header : FrameHeader) (start stop : Nat) : Nat := uint (header.field start stop)

/-- Whether those bytes are all zero. -/
def clear (header : FrameHeader) (start stop : Nat) : Bool := (header.field start stop).allZero

section Record

variable {header : FrameHeader} {layout : List (Nat × Bytes)} (fields : header.fields = record 128 layout)
  (placed : Placed 128 0 layout)

include fields placed

theorem field_of_record {offset stop : Nat} {data : Bytes} (hmem : (offset, data) ∈ layout)
    (exact : stop = offset + data.length) : header.field offset stop = data := by
  rw [field, fields]
  exact slice_record placed hmem exact

theorem number_of_record {offset stop width value : Nat} (hmem : (offset, putUint width value) ∈ layout)
    (exact : stop = offset + width) (word : value < 256 ^ width) : header.number offset stop = value := by
  rw [number, field_of_record fields placed hmem (by rw [exact, length_putUint]), uint_putUint,
    Nat.mod_eq_of_lt word]

theorem clear_of_record {start stop : Nat} (fits : stop ≤ 128)
    (gap : ∀ field ∈ layout, stop ≤ field.1 ∨ field.1 + field.2.length ≤ start) :
    header.clear start stop = true := by
  rw [clear, field, fields, slice_record_gap placed fits gap, allZero_zeros]

end Record

end FrameHeader

/-! ## Operations and bodies -/

def operationApplicationMin : Nat := 128

/-- `validClientOperation`, on the operation's byte. -/
def validClientOperation (operation : Nat) : Bool :=
  operation = Operation.reconfigure.code ∨ operation = Operation.noop.code ∨
    operationApplicationMin ≤ operation

/-- `validPreparedOperation`, on the operation's byte. -/
def validPreparedOperation (operation : Nat) : Bool :=
  operation = Operation.register.code ∨ operation = Operation.reconfigure.code ∨
    operation = Operation.pulse.code ∨ operation = Operation.upgrade.code ∨
    operation = Operation.noop.code ∨ operationApplicationMin ≤ operation

/-- `isZero16`: a slice of any other length than 16 is not zero for it. -/
def isZero16 (input : Bytes) : Bool := input.length = 16 ∧ input.allZero

def validateOperationBody (operation : Nat) (body : Bytes) (maximum : Nat) (prepared : Bool) :
    Except RejectReason Unit :=
  if maximum < body.length then .error .bodyShape
  else if operation = Operation.noop.code ∨ operation = Operation.pulse.code then
    if body.length ≠ 0 then .error .bodyShape else .ok ()
  else if operation = Operation.upgrade.code then
    if body.length ≠ 16 ∨ uint (body.slice 0 4) = 0 ∨ ¬ (body.slice 4 body.length).allZero then
      .error .bodyShape
    else .ok ()
  else if operation = Operation.reconfigure.code then
    if body.length ≠ 256 then .error .bodyShape
    else if ¬ prepared ∧ uint (body.slice 252 256) ≠ 0 then .error .bodyShape
    else .ok ()
  else if operation < operationApplicationMin then .error .commandFields
  else .ok ()

/-! ## Requests, prepares and acknowledgements -/

def validateRequest (header : FrameHeader) (body : Bytes) (context : ValidationContext) :
    Except RejectReason Unit :=
  let session := header.number 48 56
  let request := header.number 64 68
  let operation := header.number 68 69
  if ¬ header.clear 16 32 ∨ ¬ header.clear 69 72 ∨ ¬ header.clear 76 128 then .error .commandFields
  else if operation = Operation.register.code then
    if ¬ isZero16 (header.field 0 16) ∨ session ≠ 0 ∨ request ≠ 0 ∨
        (body.length ≠ 0 ∧ body.length ≠ 256) then
      .error .commandFields
    else if body.length = 256 ∧ ¬ body.allZero then .error .bodyShape
    else .ok ()
  else if session = 0 ∨ request = 0 ∨ ¬ validClientOperation operation then .error .commandFields
  else validateOperationBody operation body context.applicationBatchSizeMax false

/-- `validRootPrepare`.  It gives `isZero16` a slice of 32 bytes. -/
def validRootPrepare (header : FrameHeader) (body : Bytes) (op commit timestamp : Nat) : Bool :=
  op = 0 ∧ commit = 0 ∧ timestamp = 0 ∧ isZero16 (header.field 0 16) ∧ isZero16 (header.field 32 48) ∧
    isZero16 (header.field 64 96) ∧ header.clear 120 124 ∧ body.length = 0

def validatePrepare (header : FrameHeader) (body : Bytes) (context : ValidationContext) :
    Except RejectReason Unit :=
  let op := header.number 96 104
  let commit := header.number 104 112
  let timestamp := header.number 112 120
  let operation := header.number 124 125
  if ¬ header.clear 16 32 ∨ ¬ header.clear 48 64 ∨ ¬ header.clear 125 128 then .error .commandFields
  else if operation = Operation.root.code ∨ operation = Operation.reserved.code then
    if ¬ validRootPrepare header body op commit timestamp then .error .commandFields else .ok ()
  else if op = 0 ∨ op ≤ commit ∨ timestamp = 0 ∨ ¬ validPreparedOperation operation then
    .error .commandFields
  else if operation = Operation.register.code then
    if header.number 120 124 ≠ 0 ∨ isZero16 (header.field 80 96) ∨ body.length ≠ 256 ∨
        uint (body.slice 0 4) ≠ context.applicationBatchSizeMax ∨
        ¬ (body.slice 4 body.length).allZero then
      .error .bodyShape
    else .ok ()
  else validateOperationBody operation body context.applicationBatchSizeMax true

def validatePrepareOK (header : FrameHeader) (body : Bytes) : Except RejectReason Unit :=
  let op := header.number 96 104
  let commitMin := header.number 104 112
  if ¬ header.clear 16 32 ∨ ¬ header.clear 48 64 ∨ op = 0 ∨ op ≤ commitMin ∨ header.number 112 120 = 0 ∨
      header.number 124 125 ≤ Operation.root.code ∨ ¬ header.clear 125 128 ∨ body.length ≠ 0 then
    .error .commandFields
  else .ok ()

def validateReply (header : FrameHeader) (body : Bytes) (context : ValidationContext) :
    Except RejectReason Unit :=
  let op := header.number 80 88
  let commit := header.number 88 96
  if ¬ header.clear 16 32 ∨ ¬ header.clear 48 64 ∨ isZero16 (header.field 64 80) ∨ op = 0 ∨ op ≠ commit ∨
      header.number 96 104 = 0 ∨ ¬ validPreparedOperation (header.number 108 109) ∨
      ¬ header.clear 109 128 ∨ context.applicationReplySizeMax < body.length then
    .error .commandFields
  else .ok ()

/-! ## View changes -/

/-- `bitsWithin`: no bit from `count` on is set. -/
def bitsWithin (bits : Bytes) (count : Nat) : Bool :=
  (List.range (bits.length * 8)).all fun bit =>
    bit < count ∨ ¬ (bits.getD (bit / 8) 0).toNat.testBit (bit % 8)

def validateEmbeddedPrepareHeaders (hash : ChecksumFunction) (body : Bytes) (context : ValidationContext)
    (allowBlank : Bool) : Except RejectReason Unit :=
  let valid (index : Nat) : Bool :=
    let encoded := body.slice (index * headerSize) ((index + 1) * headerSize)
    if allowBlank ∧ encoded.allZero then true
    else
      match decodeHeader hash encoded context.group context.messageSizeMax context.memberCount with
      | .error _ => false
      | .ok header => header.command = .prepare
  if (List.range (body.length / headerSize)).all valid then .ok () else .error .bodyShape

def validateJoinView (hash : ChecksumFunction) (header : FrameHeader) (body : Bytes)
    (context : ValidationContext) : Except RejectReason Unit :=
  let head := header.number 32 40
  let commit := header.number 40 48
  let checkpoint := header.number 48 56
  let entryCount := body.length / headerSize
  if head < commit ∨ commit < checkpoint ∨ body.length = 0 ∨ body.length % headerSize ≠ 0 ∨
      context.pipelineMax + 1 < entryCount ∨ ¬ header.clear 60 128 then
    .error .bodyShape
  else if ¬ bitsWithin (header.field 0 16) entryCount ∨ ¬ bitsWithin (header.field 16 32) entryCount then
    .error .commandFields
  else validateEmbeddedPrepareHeaders hash body context true

def validateView (hash : ChecksumFunction) (header : FrameHeader) (body : Bytes)
    (context : ValidationContext) : Except RejectReason Unit :=
  let head := header.number 16 24
  let commit := header.number 24 32
  let checkpoint := header.number 32 40
  if head < commit ∨ commit < checkpoint ∨ ¬ header.clear 40 128 then .error .commandFields
  else if body.length < 1024 ∨ (body.length - 1024) % headerSize ≠ 0 ∨
      context.pipelineMax + 1 < (body.length - 1024) / headerSize then
    .error .bodyShape
  else if body.length = 1024 then .ok ()
  else validateEmbeddedPrepareHeaders hash (body.slice 1024 body.length) context true

/-! ## The other commands -/

/-- The release loop of `validatePing`: increasing nonzero releases up to `count`, zeros behind, and
whether the header's own release is among them. -/
def pingReleases (release count : Nat) (body : Bytes) : Nat → Nat → Nat → Bool → Option Bool
  | 0, _, _, contained => some contained
  | rounds + 1, index, previous, contained =>
    let listed := uint (body.slice (index * 4) (index * 4 + 4))
    if index < count then
      if listed = 0 ∨ listed ≤ previous then none
      else pingReleases release count body rounds (index + 1) listed (contained || listed = release)
    else if listed ≠ 0 then none
    else pingReleases release count body rounds (index + 1) previous contained

def validatePing (header : FrameHeader) (body : Bytes) (context : ValidationContext) :
    Except RejectReason Unit :=
  let count := header.number 32 34
  if header.number 24 32 = 0 ∨ count = 0 ∨ context.releaseHistoryMax < count ∨ ¬ header.clear 34 128 ∨
      body.length ≠ context.releaseHistoryMax * 4 then
    .error .commandFields
  else if pingReleases header.release count body context.releaseHistoryMax 0 0 false ≠ some true then
    .error .bodyShape
  else .ok ()

def validateGetBlocks (header : FrameHeader) (body : Bytes) (context : ValidationContext) :
    Except RejectReason Unit :=
  let valid (index : Nat) : Bool :=
    let offset := index * 32
    uint (body.slice (offset + 16) (offset + 24)) ≠ 0 ∧ (body.slice (offset + 24) (offset + 32)).allZero
  if ¬ header.clear 0 128 ∨ body.length = 0 ∨ body.length % 32 ≠ 0 ∨
      context.repairRequestsMax < body.length / 32 then
    .error .bodyShape
  else if (List.range (body.length / 32)).all valid then .ok ()
  else .error .bodyShape

def validGetReply (header : FrameHeader) (body : Bytes) : Bool :=
  ¬ isZero16 (header.field 0 16) ∧ header.clear 16 32 ∧ ¬ isZero16 (header.field 32 48) ∧
    header.number 48 56 ≠ 0 ∧ header.clear 56 128 ∧ body.length = 0

def validateCommand (hash : ChecksumFunction) (header : FrameHeader) (body : Bytes)
    (context : ValidationContext) : Except RejectReason Unit :=
  let require (valid : Bool) (reason : RejectReason) : Except RejectReason Unit :=
    if valid then .ok () else .error reason
  match header.command with
  | .ping => validatePing header body context
  | .pong =>
    require (header.clear 16 128 ∧ body.length = 0 ∧ header.number 0 8 ≠ 0) .commandFields
  | .clientPing =>
    require (¬ isZero16 (header.field 0 16) ∧ header.number 16 24 ≠ 0 ∧ header.clear 32 128 ∧
      body.length = 0) .commandFields
  | .clientPong =>
    require (header.number 0 8 ≠ 0 ∧ header.clear 8 128 ∧ body.length = 0) .commandFields
  | .request => validateRequest header body context
  | .prepare => validatePrepare header body context
  | .prepareOK => validatePrepareOK header body
  | .reply => validateReply header body context
  | .commit =>
    require (header.number 48 56 ≤ header.number 56 64 ∧ header.number 64 72 ≠ 0 ∧
      header.clear 72 128 ∧ body.length = 0) .commandFields
  | .exitView => require (header.clear 0 128 ∧ body.length = 0) .commandFields
  | .joinView => validateJoinView hash header body context
  | .view => validateView hash header body context
  | .getView =>
    require (¬ isZero16 (header.field 0 16) ∧ header.clear 16 128 ∧ body.length = 0) .commandFields
  | .getHeaders =>
    require (header.number 0 8 ≤ header.number 8 16 ∧ header.clear 16 128 ∧ body.length = 0)
      .commandFields
  | .headers =>
    if ¬ header.clear 0 128 ∨ body.length = 0 ∨ body.length % headerSize ≠ 0 ∨
        64 < body.length / headerSize then
      .error .bodyShape
    else validateEmbeddedPrepareHeaders hash body context false
  | .getPrepare =>
    require (header.clear 16 32 ∧ header.clear 40 128 ∧ body.length = 0 ∧
      ¬ (header.view = 0 ↔ isZero16 (header.field 0 16))) .commandFields
  | .getReply => require (validGetReply header body) .commandFields
  | .eviction =>
    let reason := header.number 127 128
    require (¬ isZero16 (header.field 0 16) ∧ header.clear 16 127 ∧ 1 ≤ reason ∧ reason ≤ 8 ∧
      body.length = 0) .commandFields
  | .getBlocks => validateGetBlocks header body context
  | .block =>
    let blockType := header.number 112 113
    require (header.number 96 104 ≠ 0 ∧ 1 ≤ blockType ∧ blockType ≤ 5 ∧ header.clear 113 128 ∧
      body.length ≠ 0) .commandFields

/-! ## Author and release -/

def validAuthor (command : Command) (author sender : Nat) (replicaSource : Bool) (primary : Nat) : Bool :=
  match command with
  | .request | .clientPing | .block => author = 0
  | .prepare | .reply | .commit | .view => author = primary
  | .ping | .pong | .clientPong | .prepareOK | .exitView | .joinView | .getView | .getHeaders
  | .getPrepare | .getReply | .headers | .eviction | .getBlocks => replicaSource ∧ author = sender

/-- Whether the command carries a release. -/
def requiresRelease (header : FrameHeader) : Bool :=
  match header.command with
  | .request | .reply | .ping | .pong | .clientPing | .clientPong | .eviction | .block => true
  | .prepare =>
    header.number 124 125 ≠ Operation.root.code ∧ header.number 124 125 ≠ Operation.reserved.code
  | _ => false

def validRelease (header : FrameHeader) (context : ValidationContext) : Bool :=
  if requiresRelease header then header.release ≠ 0 ∧ header.release ≤ context.currentRelease
  else header.release = 0

def FrameHeader.validateSemantics (header : FrameHeader) (hash : ChecksumFunction) (body : Bytes)
    (context : ValidationContext) : Except RejectReason Unit :=
  if ¬ context.authenticated then .error .authentication
  else if context.activeCount = 0 ∨ context.memberCount < context.activeCount then .error .author
  else if context.replicaSource ∧ context.memberCount ≤ context.sender then .error .author
  else if ¬ context.replicaSource ∧ header.command ≠ .request ∧ header.command ≠ .clientPing then
    .error .authentication
  else if ¬ validAuthor header.command header.author context.sender context.replicaSource
      (header.view % context.activeCount) then
    .error .author
  else if ¬ validRelease header context then .error .commandFields
  else validateCommand hash header body context

theorem FrameHeader.validateSemantics_eq_ok_iff {header : FrameHeader} {hash : ChecksumFunction}
    {body : Bytes} {context : ValidationContext} :
    header.validateSemantics hash body context = .ok () ↔
      context.authenticated = true ∧
      (context.activeCount ≠ 0 ∧ context.activeCount ≤ context.memberCount) ∧
      (context.replicaSource = true → context.sender < context.memberCount) ∧
      (¬ context.replicaSource = true → header.command = .request ∨ header.command = .clientPing) ∧
      validAuthor header.command header.author context.sender context.replicaSource
        (header.view % context.activeCount) = true ∧
      validRelease header context = true ∧ validateCommand hash header body context = .ok () := by
  unfold FrameHeader.validateSemantics
  constructor
  · intro hok
    split_ifs at hok with hauth hcount hsender hclient hauthor hrelease
    refine ⟨hauth, by omega, ?_, ?_, hauthor, hrelease, hok⟩
    · intro hsource
      by_contra hlarge
      exact hsender ⟨hsource, Nat.not_lt.mp hlarge⟩
    intro hsource
    by_contra hneither
    rw [not_or] at hneither
    exact hclient ⟨hsource, hneither⟩
  · rintro ⟨hauth, hcount, hsender, hclient, hauthor, hrelease, hok⟩
    rw [if_neg (fun h => h hauth), if_neg (by omega), if_neg (fun h => Nat.not_le.mpr (hsender h.1) h.2),
      if_neg (fun h => (hclient h.1).elim h.2.1 h.2.2), if_neg (fun h => h hauthor),
      if_neg (fun h => h hrelease)]
    exact hok

/-- The checks of `handleMessage`: the frame decodes and passes `ValidateSemantics`. -/
def ValidationContext.admits (context : ValidationContext) (hash : ChecksumFunction) (frame : Bytes) : Bool :=
  match decodeFrame hash frame context.group context.messageSizeMax context.memberCount with
  | .error _ => false
  | .ok (header, body) => (header.validateSemantics hash body context).isOk

theorem ValidationContext.admits_iff (context : ValidationContext) {hash : ChecksumFunction}
    {frame body : Bytes} {header : FrameHeader}
    (decodes : decodeFrame hash frame context.group context.messageSizeMax context.memberCount =
      .ok (header, body)) :
    context.admits hash frame = true ↔ header.validateSemantics hash body context = .ok () := by
  rw [ValidationContext.admits, decodes]
  simp only
  cases header.validateSemantics hash body context with
  | error reason => simp [Except.isOk, Except.toBool]
  | ok => simp [Except.isOk, Except.toBool]

/-- `validRootPrepare` refuses every frame. -/
theorem validRootPrepare_eq_false (header : FrameHeader) (fields : header.fields.length = 128) (body : Bytes)
    (op commit timestamp : Nat) : validRootPrepare header body op commit timestamp = false := by
  have hlength : (header.field 64 96).length = 32 := length_slice (by rw [fields]; decide)
  simp [validRootPrepare, isZero16, hlength]

end Supervsr
