import Supervsr.Client
import Supervsr.PrepareFrame

/-
# Supervsr.ReplyFrame — one reply, three ways to build it

The reply to a prepare is built when the prepare commits, sealed again in a later view when the request
comes back, and built anew when the prepare is replayed.  Its context is the checksum of the envelope
with no context in it, so the three carry the same one, and the client takes any of them for its answer.
-/

namespace Supervsr

open Bytes

/-! ## Building a reply -/

/-- What is copied into the command-specific fields of a reply. -/
def replyLayout (prepare : FrameHeader) (context : Bytes) : List (Nat × Bytes) :=
  [(0, prepare.field 32 48), (32, context), (64, prepare.field 80 96), (80, prepare.field 96 104),
    (88, prepare.field 96 104), (96, prepare.field 112 120), (104, prepare.field 120 125)]

/-- The header of the reply to a prepare in the envelope of a view, before it is sealed. -/
def unsealedReply (cfg : Config) (prepare : FrameHeader) (context : Bytes) (view : Nat) : FrameHeader where
  headerChecksum := zeros 16
  bodyChecksum := zeros 16
  group := cfg.groupBytes
  size := 0
  epoch := 0
  view := view
  release := prepare.release
  protocol := protocolVersion
  command := .reply
  author := cfg.primary view
  fields := record 128 (replyLayout prepare context)

/-- The body of the reply; `answer` is what the state machine returns for the prepare, `verdict` the result in
the body of a reconfiguration. -/
def replyContent (cfg : Config) (operation : Nat) (verdict answer : Bytes) : Option Bytes :=
  let reply :=
    if operation = Operation.register.code then
      some ((zeros 64).splice 0 (putUint 4 cfg.cluster.applicationBatchSizeMax))
    else if operation = Operation.noop.code then some []
    else if operation = Operation.reconfigure.code then some verdict
    else if operationApplicationMin ≤ operation then some answer
    else none
  reply.filter (·.length ≤ cfg.cluster.applicationReplySizeMax)

section Paths

variable (hash : ChecksumFunction) (cfg : Config)

/-- `buildReplyHeader`, with the frame it seals. -/
def FrameHeader.buildReplyHeader (prepare : FrameHeader) (body : Bytes) : Option (FrameHeader × Bytes) := do
  let (_, encoded) ← encodeHeader hash ((unsealedReply cfg prepare (zeros 16) prepare.view).sized hash body)
  sealFrame hash (unsealedReply cfg prepare (hash.sum (encoded.slice 16 headerSize)) prepare.view) body

/-- The reply of `executeEntry`: header, frame and body.  `answer` is what `Commit` puts into its buffer; the
buffer of `replayExecute` has another length, which the answer does not depend on. -/
def executeReply (prepare : FrameHeader) (body answer : Bytes) : Option (FrameHeader × Bytes × Bytes) :=
  let operation := prepare.number 124 125
  let capacity := if operation = Operation.register.code then 64
    else cfg.cluster.applicationReplySizeMax % 256 ^ 4
  if cfg.frameLimit < headerSize + capacity then none
  else do
    let reply ← replyContent cfg operation (body.slice 252 256) answer
    let (header, frame) ← prepare.buildReplyHeader hash cfg reply
    return (header, frame, reply)

/-- The reply of `replayExecute`, with the same `answer`. -/
def replayReply (prepare : FrameHeader) (body answer : Bytes) : Option (FrameHeader × Bytes × Bytes) := do
  let reply ← replyContent cfg (prepare.number 124 125) (body.slice (body.length - 4) body.length) answer
  let (_, frame) ← sealFrame hash (unsealedReply cfg prepare (zeros 16) prepare.view) reply
  let (header, frame) ← sealFrame hash
    (unsealedReply cfg prepare (hash.sum (frame.slice 16 headerSize)) prepare.view) reply
  return (header, frame, reply)

/-- The reply `sendHeaderOnlyCachedReply` and `finishDuplicateRead` send in the view of the log. -/
def cachedReply (reply : FrameHeader) (body : Bytes) (logView : Nat) : Option (FrameHeader × Bytes) :=
  if cfg.frameLimit < headerSize + body.length then none
  else sealFrame hash { reply with view := logView, author := cfg.primary logView } body

/-- The checksum of the envelope without a context. -/
def replyIdentity (prepare : FrameHeader) (body : Bytes) : Bytes :=
  ((unsealedReply cfg prepare (zeros 16) prepare.view).sized hash body).checksum hash

end Paths

/-- A prepare of a client's request that a replica has validated. -/
structure ClientPrepare (hash : ChecksumFunction) (cfg : Config) (prepare : FrameHeader) (body : Bytes) :
    Prop where
  representable : prepare.Representable
  command : prepare.command = .prepare
  client : prepare.clear 80 96 = false
  valid : ∃ sender limit, prepare.validateSemantics hash body (cfg.peerContext sender limit) = .ok ()

section Reading

variable {hash : ChecksumFunction} {cfg : Config} {prepare header : FrameHeader} {body context : Bytes}
  {validation : ValidationContext}

/-- What `validatePrepare` has checked that the reply's own checks ask for again. -/
theorem validatePrepare_eq_ok (fields : prepare.fields.length = 128)
    (valid : validatePrepare prepare body validation = .ok ()) :
    prepare.number 96 104 ≠ 0 ∧ prepare.number 112 120 ≠ 0 ∧
      validPreparedOperation (prepare.number 124 125) = true ∧
      (prepare.number 124 125 = Operation.reconfigure.code → body.length = 256) := by
  unfold validatePrepare at valid
  simp only [validRootPrepare_eq_false prepare fields, Bool.false_eq_true, not_false_eq_true, if_true] at valid
  split_ifs at valid with hclear hreserved hplace hregister hbody
  · simp only [not_or, not_not] at hplace
    refine ⟨hplace.1, hplace.2.2.1, hplace.2.2.2, fun h => ?_⟩
    rw [h] at hregister
    cases hregister
  · simp only [not_or, not_not] at hplace
    refine ⟨hplace.1, hplace.2.2.1, hplace.2.2.2, fun h => ?_⟩
    by_contra hlength
    have hrefused : validateOperationBody Operation.reconfigure.code body validation.applicationBatchSizeMax true =
        .error .bodyShape := by
      simp [validateOperationBody, Operation.code, hlength]
    rw [h, hrefused] at valid
    cases valid

/-- When the prepare commits the context is the checksum of the envelope without one. -/
theorem buildReplyHeader_eq (cfg : Config) (prepare : FrameHeader) (content : Bytes) :
    prepare.buildReplyHeader hash cfg content =
      sealFrame hash (unsealedReply cfg prepare (replyIdentity hash cfg prepare content) prepare.view) content := by
  unfold FrameHeader.buildReplyHeader
  rw [encodeHeader_sized hash (by rfl) (by rfl)]
  simp only [Option.bind_eq_bind, Option.bind_some, FrameHeader.slice_encoded (Nat.le_refl 16)]
  rfl

section Sealed

variable {content frame : Bytes} {view : Nat}
  (seals : sealFrame hash (unsealedReply cfg prepare context view) content = some (header, frame))

include seals

theorem fields_of_seal : header.fields = record 128 (replyLayout prepare context) := by
  rw [(sealFrame_eq_some hash seals).2.2.1]
  rfl

/-- A sealed reply that is sealed again in another view is the reply of that view. -/
theorem cachedReply_eq {later : Nat} (fits : headerSize + content.length ≤ cfg.frameLimit) :
    cachedReply hash cfg header content later =
      sealFrame hash (unsealedReply cfg prepare context later) content := by
  rw [cachedReply, if_neg (Nat.not_lt.mpr fits), (sealFrame_eq_some hash seals).2.2.1]
  rfl

end Sealed

namespace ClientPrepare

variable (asked : ClientPrepare hash cfg prepare body)

include asked

theorem facts : prepare.number 96 104 ≠ 0 ∧ prepare.number 112 120 ≠ 0 ∧
    validPreparedOperation (prepare.number 124 125) = true ∧
    (prepare.number 124 125 = Operation.reconfigure.code → body.length = 256) ∧ prepare.release ≠ 0 := by
  obtain ⟨sender, limit, hvalid⟩ := asked.valid
  obtain ⟨-, -, -, -, -, hrelease, hcommand⟩ := FrameHeader.validateSemantics_eq_ok_iff.mp hvalid
  rw [validateCommand, asked.command] at hcommand
  obtain ⟨hop, htimestamp, hoperation, hbody⟩ := validatePrepare_eq_ok asked.representable.fields hcommand
  refine ⟨hop, htimestamp, hoperation, hbody, ?_⟩
  have hrequires : requiresRelease prepare = true := by
    rw [requiresRelease, asked.command]
    refine decide_eq_true ⟨fun h => ?_, fun h => ?_⟩ <;> rw [h] at hoperation <;> cases hoperation
  rw [validRelease, hrequires, if_pos rfl] at hrelease
  exact (of_decide_eq_true hrelease).1

theorem length_field {start stop : Nat} (fits : stop ≤ 128) : (prepare.field start stop).length = stop - start :=
  length_slice (by rw [asked.representable.fields]; exact fits)

theorem placed (context_length : context.length = 16) : Placed 128 0 (replyLayout prepare context) := by
  simp [replyLayout, Placed, asked.length_field, context_length]

theorem representable_unsealed (context_length : context.length = 16) {view : Nat} (word : view < 256 ^ 4)
    (active : cfg.primary view < 256) : (unsealedReply cfg prepare context view).Representable :=
  ⟨length_zeros 16, length_putUint 16 _, (by decide : 0 < 256 ^ 4), word, asked.representable.release, active,
    length_record (asked.placed context_length)⟩

/-- The fields of a reply, whatever envelope it is in. -/
theorem read (fields : header.fields = record 128 (replyLayout prepare context))
    (context_length : context.length = 16) :
    header.replyRequestChecksum = prepare.field 32 48 ∧ header.replyContext = context ∧
      header.replyClient = prepare.field 80 96 ∧ header.replyOp = prepare.number 96 104 ∧
      header.replyCommit = prepare.number 96 104 ∧ header.replyTimestamp = prepare.number 112 120 ∧
      header.replyRequest = prepare.number 120 124 ∧ header.number 108 109 = prepare.number 124 125 := by
  have hfield := @FrameHeader.field_of_record header _ fields (asked.placed context_length)
  have hrest : header.field 104 109 = prepare.field 120 125 :=
    hfield (by simp [replyLayout]) (by rw [asked.length_field (by decide)])
  have hpart : ∀ start stop, stop ≤ 5 →
      header.field (104 + start) (104 + stop) = prepare.field (120 + start) (120 + stop) := by
    intro start stop hstop
    rw [FrameHeader.field, FrameHeader.field, ← slice_slice (by omega : 104 + stop ≤ 109),
      ← slice_slice (by omega : 120 + stop ≤ 125)]
    exact congrArg (slice · start stop) hrest
  refine ⟨hfield (by simp [replyLayout]) ?_, hfield (by simp [replyLayout]) (by rw [context_length]),
    hfield (by simp [replyLayout]) ?_, congrArg uint (hfield (by simp [replyLayout]) ?_),
    congrArg uint (hfield (by simp [replyLayout]) ?_), congrArg uint (hfield (by simp [replyLayout]) ?_),
    congrArg uint (hpart 0 4 (by decide)), congrArg uint (hpart 4 5 (by decide))⟩
  all_goals rw [asked.length_field (by decide)]

/-- `validateReply` accepts the reply in every envelope. -/
theorem validateReply_ok {content : Bytes} (fields : header.fields = record 128 (replyLayout prepare context))
    (context_length : context.length = 16) (fits : content.length ≤ validation.applicationReplySizeMax) :
    validateReply header content validation = .ok () := by
  obtain ⟨-, -, hclient, hop, hcommit, htimestamp, -, hoperation⟩ := asked.read fields context_length
  obtain ⟨hop', htimestamp', hoperation', -⟩ := asked.facts
  have hgap := @FrameHeader.clear_of_record header _ fields (asked.placed context_length)
  have hgaps : header.clear 16 32 = true ∧ header.clear 48 64 = true ∧ header.clear 109 128 = true := by
    refine ⟨hgap (by decide) ?_, hgap (by decide) ?_, hgap (by decide) ?_⟩ <;>
      simp [replyLayout, asked.length_field, context_length]
  have hnamed : isZero16 (header.field 64 80) = false := by
    rw [show header.field 64 80 = prepare.field 80 96 from hclient, isZero16,
      show (prepare.field 80 96).allZero = false from asked.client]
    simp
  unfold validateReply
  rw [if_neg]
  simp only [hgaps, hnamed, show header.number 80 88 = _ from hop, show header.number 88 96 = _ from hcommit,
    show header.number 96 104 = _ from htimestamp, hoperation, hop', htimestamp', hoperation']
  simpa using fits

/-- And so it is when the prepare is replayed. -/
theorem replay_eq (content : Bytes) (short : headerSize + content.length < 256 ^ 4)
    (active : cfg.primary prepare.view < 256) :
    (sealFrame hash (unsealedReply cfg prepare (zeros 16) prepare.view) content).bind (fun sealed =>
        sealFrame hash (unsealedReply cfg prepare (hash.sum (sealed.2.slice 16 headerSize)) prepare.view) content) =
      sealFrame hash (unsealedReply cfg prepare (replyIdentity hash cfg prepare content) prepare.view) content := by
  have hunsealed := asked.representable_unsealed (length_zeros 16) asked.representable.view active
  have hsized := hunsealed.sized hash short
  rw [sealFrame_of_short hash (by rfl) (by rfl) short, Option.bind_some,
    ← slice_slice_front (Nat.le_refl headerSize), slice_append_left (FrameHeader.length_encoded hsized).symm,
    FrameHeader.slice_encoded (Nat.le_refl 16)]
  rfl

end ClientPrepare

end Reading

/-! ## The client -/

/-- The client is one of the cluster. -/
structure ClientConfig.Joins (config : ClientConfig) (cfg : Config) : Prop where
  group : config.group = cfg.groupBytes
  activeCount : config.activeCount = cfg.activeCount
  messageSizeMax : config.messageSizeMax = cfg.cluster.messageSizeMax

/-- The prepare is that of the request in flight. -/
structure Client.Awaits (client : Client) (prepare : FrameHeader) (inflight : ClientInflight) : Prop where
  waiting : client.inflight = some inflight
  checksum : prepare.field 32 48 = inflight.checksum
  id : prepare.field 80 96 = client.config.id
  request : prepare.number 120 124 = inflight.request
  operation : prepare.number 124 125 = inflight.operation
  release : prepare.release = client.config.release

/-- The session a reply is recorded with: the op of a registration, and else the session the request was
admitted in. -/
def Client.recordedSession (client : Client) (prepare : FrameHeader) : Nat :=
  if prepare.number 124 125 = Operation.register.code then prepare.number 96 104 else client.session

section Loop

variable {hash : ChecksumFunction} {cfg : Config} {prepare : FrameHeader} {body context : Bytes} {client : Client}
  {inflight : ClientInflight}

/-- A reply in the envelope of any view is taken for the answer, and the client goes on from it. -/
theorem ClientPrepare.accepted (asked : ClientPrepare hash cfg prepare body)
    (joins : client.config.Joins cfg) (active : cfg.activeCount ≤ 6) (awaits : client.Awaits prepare inflight)
    (sound : client.Sound client.config)
    (context_length : context.length = 16) {view : Nat} (viewWord : view < 256 ^ 4) {content frame : Bytes}
    {header : FrameHeader}
    (seals : sealFrame hash (unsealedReply cfg prepare context view) content = some (header, frame))
    (fits : headerSize + content.length ≤ client.config.messageSizeMax)
    (registration : inflight.operation = Operation.register.code → client.validRegistration content = true)
    {sender : Nat} (member : sender < cfg.activeCount) (now : Nat) :
    ∃ answered, client.handleFrame hash sender frame now =
        (answered, some ⟨inflight.operation, inflight.request, content⟩) ∧
      answered.Poised client.config (client.recordedSession prepare) client.next context := by
  have hpos : 0 < cfg.activeCount := by omega
  have hprimary : cfg.primary view < cfg.activeCount := Nat.mod_lt _ hpos
  have hrepresentable := asked.representable_unsealed context_length viewWord (by omega)
  obtain ⟨-, -, hsealed, -⟩ := sealFrame_eq_some hash seals
  have hfields := fields_of_seal seals
  have hcommand : header.command = .reply := by rw [hsealed]; rfl
  have hrelease : header.release = prepare.release := by rw [hsealed]; rfl
  have hdecodes := decodeFrame_sealFrame hash hrepresentable seals fits
    (show (unsealedReply cfg prepare context view).author < client.config.activeCount by
      rw [joins.activeCount]; exact hprimary)
  have hvalid : header.validateSemantics hash content (client.context sender) = .ok () := by
    rw [FrameHeader.validateSemantics_eq_ok_iff]
    refine ⟨rfl, ⟨?_, Nat.le_refl _⟩, fun _ => ?_, fun h => absurd rfl h, ?_, ?_, ?_⟩
    · show client.config.activeCount ≠ 0
      rw [joins.activeCount]
      omega
    · show sender < client.config.activeCount
      rw [joins.activeCount]
      exact member
    · rw [hcommand]
      show decide (header.author = header.view % client.config.activeCount) = true
      rw [hsealed, joins.activeCount]
      exact decide_eq_true rfl
    · have hrequires : requiresRelease header = true := by rw [requiresRelease, hcommand]
      have hword := asked.representable.release
      rw [validRelease, hrequires, if_pos rfl, hrelease]
      exact decide_eq_true ⟨asked.facts.2.2.2.2, show prepare.release ≤ 256 ^ 4 - 1 by omega⟩
    · rw [validateCommand, hcommand]
      exact asked.validateReply_ok hfields context_length
        (show content.length ≤ client.config.messageSizeMax - headerSize by omega)
  obtain ⟨hchecksum, hcontext, hclient, hop, hcommit, -, hrequest, hoperation⟩ :=
    asked.read hfields context_length
  have hanswered : client.answered header inflight = true := by
    apply decide_eq_true
    exact ⟨hrelease.trans awaits.release, hclient.trans awaits.id, hoperation.trans awaits.operation,
      hrequest.trans awaits.request, hchecksum.trans awaits.checksum, hop.trans hcommit.symm⟩
  obtain ⟨-, hstate⟩ := sound.inflight inflight awaits.waiting
  have opened : client.state ≠ .closed := by
    rw [hstate]
    split <;> decide
  have htaken : client.handleFrame hash sender frame now = client.handleReply header content := by
    have hgroup : client.config.group = (unsealedReply cfg prepare context view).group := joins.group
    unfold Client.handleFrame
    rw [if_neg (by rw [joins.activeCount]; exact fun h => h.elim opened (Nat.not_le.mpr member)), hgroup,
      hdecodes]
    simp only [hvalid, hcommand]
    rfl
  rw [htaken, Client.handleReply, awaits.waiting]
  simp only
  rw [if_neg (by
    rintro (h | ⟨h, hrefused⟩)
    · exact h hanswered
    · exact hrefused (registration h))]
  refine ⟨_, rfl, rfl, ?_, ?_, ?_, ?_, hcontext⟩
  · split
    · show ClientState.registered ≠ .unregistered
      decide
    · rw [if_neg ‹_›] at hstate
      rw [hstate]
      decide
  · split <;> rfl
  · rw [Client.recordedSession, awaits.operation]
    split
    · exact hcommit
    · rfl
  · split <;> rfl

/-- The next request is admitted where the reply is the latest one of the client. -/
theorem Client.Poised.admitted {config : ClientConfig} {session number : Nat} {context : Bytes}
    (poised : client.Poised config session number context) (representable : config.Representable)
    (context_length : context.length = 16) {reply : FrameHeader} (recorded : FrameSession.Representable ⟨reply, session⟩)
    (release : reply.release = config.release) (chained : reply.replyContext = context)
    (latest : reply.replyRequest = number) {operation : Nat} {data : Bytes} {next : Client} {request : FrameHeader}
    (submitted : client.submit hash operation data = some (next, request)) {table : FrameSessionTable} {slot : Nat}
    (found : table.lookup config.id = (some ⟨reply, session⟩, slot)) :
    table.decide request.sessionRequest = .admitted := by
  obtain ⟨-, -, rfl, rfl, rfl, rfl⟩ := poised
  have hbound : client.next < 256 ^ 4 := by
    rw [← latest]
    exact FrameHeader.replyRequest_lt recorded.reply.fields
  obtain ⟨hrequest, hword⟩ :=
    Client.sessionRequest_submit context_length representable.id recorded.session hbound submitted
  rw [hrequest, (FrameSessionTable.decide_eq_standing_iff found recorded rfl release.symm hword).mpr ?_,
    SessionRequest.standing, if_neg, if_pos, if_pos chained.symm]
  · show client.next + 1 = reply.replyRequest + 1
    rw [latest]
  · show ¬ client.next + 1 = reply.replyRequest
    omega
  rw [FrameHeader.lastRequest, latest]
  rintro ⟨hnext, hlast⟩
  have hlast : client.next + 1 = 256 ^ 4 - 1 := hlast
  omega

/-! ### The body -/

theorem replyContent_eq_some {operation : Nat} {verdict answer content : Bytes}
    (built : replyContent cfg operation verdict answer = some content) :
    content.length ≤ cfg.cluster.applicationReplySizeMax ∧ (operation = Operation.register.code →
      content = (zeros 64).splice 0 (putUint 4 cfg.cluster.applicationBatchSizeMax)) := by
  obtain ⟨hcontent, hfits⟩ := Option.filter_eq_some_iff.mp built
  refine ⟨of_decide_eq_true hfits, fun h => ?_⟩
  rw [if_pos h] at hcontent
  exact (Option.some.inj hcontent).symm

theorem validRegistration_of_body (joins : client.config.Joins cfg) (word : client.config.messageSizeMax < 256 ^ 4)
    (batch : 0 < cfg.cluster.applicationBatchSizeMax)
    (fits : cfg.cluster.applicationBatchSizeMax ≤ cfg.cluster.messageSizeMax - headerSize) :
    client.validRegistration ((zeros 64).splice 0 (putUint 4 cfg.cluster.applicationBatchSizeMax)) = true := by
  have hlength : ((zeros 64).splice 0 (putUint 4 cfg.cluster.applicationBatchSizeMax)).length = 64 := by
    rw [length_splice (by simp), length_zeros]
  have hlimit : uint (((zeros 64).splice 0 (putUint 4 cfg.cluster.applicationBatchSizeMax)).slice 0 4) =
      cfg.cluster.applicationBatchSizeMax := by
    rw [slice_splice_self (Nat.zero_le _) (by rw [length_putUint]), uint_putUint, Nat.mod_eq_of_lt]
    have := joins.messageSizeMax
    omega
  have hrest : (((zeros 64).splice 0 (putUint 4 cfg.cluster.applicationBatchSizeMax)).slice 4 64).allZero = true := by
    rw [slice_splice_after (by rw [length_putUint]) (Nat.zero_le _), slice_zeros (Nat.le_refl 64), allZero_zeros]
  rw [Client.validRegistration, hlength, hlimit, joins.messageSizeMax]
  exact decide_eq_true ⟨rfl, hrest, Nat.ne_of_gt batch, fits⟩

/-- Replies close the loop of the client: however the reply to its prepare is built, it carries the same
identity and body, the client takes it for its answer from any active member, and the request the client
sends next is admitted wherever the reply is its latest one. -/
theorem replies_close_loop (hash : ChecksumFunction) (cfg : Config) {standbyCount : Nat}
    (valid : cfg.cluster.validate cfg.activeCount standbyCount = .ok ()) {config : ClientConfig} {client : Client}
    (representable : config.Representable) (joins : config.Joins cfg) (reached : Client.Reached hash config client)
    {prepare : FrameHeader} {body : Bytes} (asked : ClientPrepare hash cfg prepare body)
    {inflight : ClientInflight} (awaits : client.Awaits prepare inflight) {answer frame content : Bytes}
    {reply : FrameHeader} (executed : executeReply hash cfg prepare body answer = some (reply, frame, content)) :
    replayReply hash cfg prepare body answer = some (reply, frame, content) ∧
    ∀ view, prepare.view ≤ view → view < 256 ^ 4 → ∃ cached resent,
      cachedReply hash cfg reply content view = some (cached, resent) ∧
      cached.replyContext = reply.replyContext ∧ cached.replyRequestChecksum = reply.replyRequestChecksum ∧
      cached.replyOp = reply.replyOp ∧ cached.replyTimestamp = reply.replyTimestamp ∧
      ∀ envelope ∈ [frame, resent], ∀ sender < cfg.activeCount, ∀ now, ∃ answered,
        client.handleFrame hash sender envelope now =
          (answered, some ⟨inflight.operation, inflight.request, content⟩) ∧
        ∀ later, Client.Waits hash answered later →
          ∀ operation data next request, later.submit hash operation data = some (next, request) →
          ∀ (table : FrameSessionTable) (slot : Nat),
            table.lookup config.id = (some ⟨reply, client.recordedSession prepare⟩, slot) →
            table.decide request.sessionRequest = .admitted := by
  have hsound := reached.sound
  obtain rfl := hsound.config
  have hactive : cfg.activeCount ≤ 6 := (ClusterConfig.validated_of_validate valid).active_le
  have hpos := (ClusterConfig.validated_of_validate valid).active_pos
  have hsized := ClusterConfig.sized_of_validate valid
  have hbatch := ClusterConfig.batch_pos_of_validate valid
  have hword := representable.messageSizeMax
  have hlimit := joins.messageSizeMax
  obtain ⟨hmessage, hbatchFits, hreplyFits⟩ : 256 + 1024 ≤ cfg.cluster.messageSizeMax ∧
      cfg.cluster.applicationBatchSizeMax ≤ cfg.cluster.messageSizeMax - headerSize ∧
      cfg.cluster.applicationReplySizeMax ≤ cfg.cluster.messageSizeMax - headerSize :=
    ⟨hsized.message_ge, hsized.batch_le, hsized.reply_le⟩
  have hprimary : ∀ view, cfg.primary view < 256 := fun view => by
    have : cfg.primary view < cfg.activeCount := Nat.mod_lt _ hpos
    omega
  -- the reply that was executed
  unfold executeReply at executed
  simp only at executed
  generalize (if prepare.number 124 125 = Operation.register.code then 64
    else cfg.cluster.applicationReplySizeMax % 256 ^ 4) = capacity at executed
  split at executed
  · cases executed
  simp only [Option.bind_eq_bind, Option.bind_eq_some_iff, Prod.exists, Option.pure_def, Option.some.injEq,
    Prod.mk.injEq] at executed
  obtain ⟨built, hbuilt, header, bytes, hseals, rfl, rfl, rfl⟩ := executed
  obtain ⟨hlength, hregister⟩ := replyContent_eq_some hbuilt
  have hfits : headerSize + built.length ≤ client.config.messageSizeMax := by
    rw [hlimit]
    unfold headerSize at hreplyFits ⊢
    omega
  have hshort : headerSize + built.length < 256 ^ 4 := by omega
  rw [buildReplyHeader_eq] at hseals
  have hcontext : (replyIdentity hash cfg prepare built).length = 16 := hash.length_sum _
  have hregistration : inflight.operation = Operation.register.code → client.validRegistration built = true := by
    intro h
    rw [hregister (awaits.operation.trans h)]
    exact validRegistration_of_body joins hword hbatch hbatchFits
  obtain ⟨hchecksum, hchained, -, hop, -, htimestamp, hrequest, -⟩ := asked.read (fields_of_seal hseals) hcontext
  have hrecorded : FrameSession.Representable ⟨header, client.recordedSession prepare⟩ := by
    have hunsealed := asked.representable_unsealed hcontext asked.representable.view (hprimary _)
    refine ⟨?_, ?_⟩
    · have hsized := hunsealed.sized hash hshort
      rw [(sealFrame_eq_some hash hseals).2.2.1]
      exact ⟨hsized.1, hsized.2, hsized.3, hsized.4, hsized.5, hsized.6, hsized.7⟩
    show client.recordedSession prepare < 256 ^ 8
    rw [Client.recordedSession]
    split
    · have hbound := uint_lt (prepare.field 96 104)
      rwa [asked.length_field (by decide)] at hbound
    · exact hsound.session
  have hrelease : header.release = client.config.release := by
    rw [(sealFrame_eq_some hash hseals).2.2.1]
    exact awaits.release
  have hlatest : header.replyRequest = client.next :=
    hrequest.trans (awaits.request.trans (hsound.inflight _ awaits.waiting).1)
  refine ⟨?_, fun view _ hview => ?_⟩
  · have hbody : replyContent cfg (prepare.number 124 125) (body.slice (body.length - 4) body.length) answer =
        some built := by
      rw [← hbuilt]
      by_cases hreconfigure : prepare.number 124 125 = Operation.reconfigure.code
      · rw [asked.facts.2.2.2.1 hreconfigure]
      · simp only [replyContent, if_neg hreconfigure]
    have hreplay := asked.replay_eq built hshort (hprimary _)
    rw [hseals] at hreplay
    obtain ⟨⟨_, first⟩, hfirst, hsecond⟩ := Option.bind_eq_some_iff.mp hreplay
    simp only [replayReply, hbody, Option.bind_eq_bind, Option.bind_some, hfirst, hsecond]
    rfl
  · have hcached : sealFrame hash (unsealedReply cfg prepare (replyIdentity hash cfg prepare built) view) built = _ :=
      sealFrame_of_short hash (by rfl) (by rfl) hshort
    obtain ⟨hchecksum', hchained', -, hop', -, htimestamp', -⟩ := asked.read (fields_of_seal hcached) hcontext
    have hframe : headerSize + built.length ≤ cfg.frameLimit := by
      rw [Config.frameLimit, ← hlimit, Nat.mod_eq_of_lt hword]
      exact hfits
    refine ⟨_, _, (cachedReply_eq hseals hframe).trans hcached, hchained'.trans hchained.symm,
      hchecksum'.trans hchecksum.symm, hop'.trans hop.symm, htimestamp'.trans htimestamp.symm, ?_⟩
    intro envelope henvelope sender hsender now
    obtain ⟨view, other, hview, hother⟩ : ∃ view other, view < 256 ^ 4 ∧ sealFrame hash
        (unsealedReply cfg prepare (replyIdentity hash cfg prepare built) view) built = some (other, envelope) := by
      simp only [List.mem_cons, List.not_mem_nil, or_false] at henvelope
      rcases henvelope with rfl | rfl
      · exact ⟨_, _, asked.representable.view, hseals⟩
      · exact ⟨_, _, hview, hcached⟩
    obtain ⟨answered, htaken, hpoised⟩ :=
      asked.accepted joins hactive awaits hsound hcontext hview hother hfits hregistration hsender now
    refine ⟨answered, htaken, fun later hwaits operation data next request hsubmitted table slot hfound => ?_⟩
    exact (hpoised.run hwaits).admitted representable hcontext hrecorded hrelease hchained hlatest hsubmitted hfound

end Loop

/-! ### A registration -/

def sampleClientConfig : ClientConfig := ⟨threeMembers.groupBytes, putUint 16 5, 1, 3, 1048576⟩

/-- A new client that has sent its registration, and the header it has sent. -/
def sampleRegistration : Client × FrameHeader :=
  ((newClient sampleClientConfig).bind (Client.register digitSum)).get (by decide +kernel)

/-- The prepare of the registration, the first one of its log. -/
def registrationPrepare : FrameHeader where
  headerChecksum := zeros 16
  bodyChecksum := zeros 16
  group := threeMembers.groupBytes
  size := headerSize
  epoch := 0
  view := 1
  release := 1
  protocol := protocolVersion
  command := .prepare
  author := 1
  fields := record 128 (prepareLayout (zeros 16) sampleRegistration.2.headerChecksum (zeros 16) (putUint 16 5) 1 0 1
    (zeros 4) [2])

def registrationBody : Bytes := (zeros 256).splice 0 (putUint 4 threeMembers.cluster.applicationBatchSizeMax)

theorem replies_close_loop_registration : ∃ reply frame content,
    Client.Reached digitSum sampleClientConfig sampleRegistration.1 ∧
      executeReply digitSum threeMembers registrationPrepare registrationBody [] = some (reply, frame, content) ∧
      replayReply digitSum threeMembers registrationPrepare registrationBody [] = some (reply, frame, content) ∧
      ∃ answered, sampleRegistration.1.handleFrame digitSum 2 frame 0 = (answered, some ⟨2, 0, content⟩) := by
  have hexecutes : (executeReply digitSum threeMembers registrationPrepare registrationBody []).isSome = true := by
    decide +kernel
  obtain ⟨⟨reply, frame, content⟩, hexecuted⟩ := Option.isSome_iff_exists.mp hexecutes
  have hreached : Client.Reached digitSum sampleClientConfig sampleRegistration.1 := by
    have hcreated : (newClient sampleClientConfig).isSome = true := by decide +kernel
    obtain ⟨start, hstart⟩ := Option.isSome_iff_exists.mp hcreated
    have hregisters : start.register digitSum = some sampleRegistration := by
      have hsent : (newClient sampleClientConfig).bind (Client.register digitSum) = some sampleRegistration :=
        (Option.some_get _).symm
      rwa [hstart] at hsent
    have htaken : start.step digitSum .register = some sampleRegistration.1 := by
      rw [Client.step, hregisters]
      rfl
    exact ⟨start, hstart, Transition.Reaches.refl.step trivial htaken⟩
  have hvalid : threeMembers.cluster.validate threeMembers.activeCount 0 = .ok () := by decide
  have hasked : ClientPrepare digitSum threeMembers registrationPrepare registrationBody :=
    ⟨⟨rfl, rfl, by decide, by decide, by decide, by decide, by decide +kernel⟩, rfl, by decide +kernel, 0, 1,
      by decide +kernel⟩
  have hawaits : ∃ checksum, sampleRegistration.1.Awaits registrationPrepare ⟨checksum, 0, 2⟩ :=
    ⟨sampleRegistration.2.headerChecksum, by decide +kernel, by decide +kernel, by decide +kernel, by decide +kernel,
      by decide +kernel, by decide +kernel⟩
  obtain ⟨checksum, hawaits⟩ := hawaits
  obtain ⟨hreplayed, hlater⟩ := replies_close_loop digitSum threeMembers hvalid
    ⟨by decide +kernel, by decide +kernel, by decide, by decide⟩ ⟨rfl, rfl, by decide +kernel⟩ hreached hasked hawaits
    hexecuted
  obtain ⟨_, _, -, -, -, -, -, haccepts⟩ := hlater 1 (Nat.le_refl 1) (by decide)
  obtain ⟨answered, hanswered, -⟩ := haccepts frame List.mem_cons_self 2 (by decide) 0
  exact ⟨reply, frame, content, hreached, hexecuted, hreplayed, answered, hanswered⟩

end Supervsr
