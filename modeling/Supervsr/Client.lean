import Supervsr.FrameSessions
import Supervsr.Config
import Supervsr.Lib.Transition

/-
# Supervsr.Client — the client's side of a session

`client.go` without its timers and round-trip measurements.  A client has one request in flight; the
reply that answers it carries the context the next request names as its parent.
-/

namespace Supervsr

open Bytes

variable {operation session number : Nat} {body parent : Bytes} {header : FrameHeader}

inductive ClientState where
  | unregistered
  | registered
  | evicted
  | closed
deriving DecidableEq, Repr

/-- `ClientConfig`, without the times. -/
structure ClientConfig where
  group : Bytes
  id : Bytes
  release : Nat
  activeCount : Nat
  messageSizeMax : Nat
deriving DecidableEq, Repr

/-- The values the Go types of the fields can hold. -/
structure ClientConfig.Representable (config : ClientConfig) : Prop where
  group : config.group.length = 16
  id : config.id.length = 16
  release : config.release < 256 ^ 4
  messageSizeMax : config.messageSizeMax < 256 ^ 4

/-- `clientInflight`: what a reply is compared with. -/
structure ClientInflight where
  checksum : Bytes
  request : Nat
  operation : Nat
deriving DecidableEq, Repr

/-- `ClientReply`, what the application is told. -/
structure ClientReply where
  operation : Nat
  request : Nat
  body : Bytes
deriving DecidableEq, Repr

structure Client where
  config : ClientConfig
  state : ClientState
  view : Nat
  session : Nat
  next : Nat
  parent : Bytes
  batchLimit : Nat
  inflight : Option ClientInflight
  lastPing : Nat
deriving DecidableEq, Repr

def newClient (config : ClientConfig) : Option Client :=
  if config.group.allZero ∨ config.id.allZero ∨ config.release = 0 ∨ config.activeCount = 0 ∨
      activeMax < config.activeCount ∨ config.messageSizeMax < headerSize + 256 then
    none
  else
    some {
      config, state := .unregistered, view := 0, session := 0, next := 0, parent := zeros 16, batchLimit := 0
      inflight := none, lastPing := 0 }

namespace Client

/-- What `send` copies into the command-specific fields. -/
def requestLayout (client : Client) (operation request : Nat) : List (Nat × Bytes) :=
  [(0, client.parent), (32, client.config.id), (48, putUint 8 client.session), (64, putUint 4 request),
    (68, putUint 1 operation)]

/-- The header `send` fills in. -/
def unsealedRequest (client : Client) (operation request : Nat) : FrameHeader where
  headerChecksum := zeros 16
  bodyChecksum := zeros 16
  group := client.config.group
  size := 0
  epoch := 0
  view := client.view
  release := client.config.release
  protocol := protocolVersion
  command := .request
  author := 0
  fields := record 128 (client.requestLayout operation request)

variable (hash : ChecksumFunction)

/-- `send`: the client with the request in flight, and the header of the frame that goes out. -/
def send (client : Client) (operation request : Nat) (body : Bytes) : Option (Client × FrameHeader) :=
  if client.config.messageSizeMax < headerSize + body.length then none
  else
    (sealFrame hash (client.unsealedRequest operation request) body).map fun sealed =>
      ({ client with inflight := some ⟨sealed.1.headerChecksum, request, operation⟩ }, sealed.1)

def register (client : Client) : Option (Client × FrameHeader) :=
  if client.state ≠ .unregistered ∨ client.inflight.isSome then none
  else client.send hash Operation.register.code 0 (zeros 256)

/-- `Submit`.  A request that is not sent keeps its number for the next one. -/
def submit (client : Client) (operation : Nat) (body : Bytes) : Option (Client × FrameHeader) :=
  if client.state ≠ .registered ∨ client.inflight.isSome ∨ client.batchLimit < body.length then none
  else if operation < operationApplicationMin ∧ operation ≠ Operation.noop.code ∧
      operation ≠ Operation.reconfigure.code then
    none
  else if client.next = FrameHeader.lastRequest then none
  else { client with next := client.next + 1 }.send hash operation (client.next + 1) body

/-- The context `HandleFrame` validates in. -/
def context (client : Client) (sender : Nat) : ValidationContext where
  authenticated := true
  replicaSource := true
  sender := sender
  activeCount := client.config.activeCount
  memberCount := client.config.activeCount
  pipelineMax := 15
  releaseHistoryMax := 1
  applicationBatchSizeMax := client.config.messageSizeMax - headerSize
  applicationReplySizeMax := client.config.messageSizeMax - headerSize
  repairRequestsMax := 1
  currentRelease := 256 ^ 4 - 1
  clientReleaseMin := 1
  group := client.config.group
  messageSizeMax := client.config.messageSizeMax

/-- The reply answers the request in flight. -/
def answered (client : Client) (header : FrameHeader) (inflight : ClientInflight) : Bool :=
  header.release = client.config.release ∧ header.replyClient = client.config.id ∧
    header.number 108 109 = inflight.operation ∧ header.replyRequest = inflight.request ∧
    header.replyRequestChecksum = inflight.checksum ∧ header.replyOp = header.replyCommit

/-- The body of the reply to a registration: the batch limit and zeros. -/
def validRegistration (client : Client) (body : Bytes) : Bool :=
  body.length = 64 ∧ (body.slice 4 body.length).allZero ∧ uint (body.slice 0 4) ≠ 0 ∧
    uint (body.slice 0 4) ≤ client.config.messageSizeMax - headerSize

/-- What an accepted reply to a registration sets. -/
def registeredBy (client : Client) (header : FrameHeader) (body : Bytes) : Client :=
  { client with
    session := header.replyCommit, batchLimit := uint (body.slice 0 4), state := .registered }

def handleReply (client : Client) (header : FrameHeader) (body : Bytes) : Client × Option ClientReply :=
  match client.inflight with
  | none => (client, none)
  | some inflight =>
    let registers := inflight.operation = Operation.register.code
    if ¬ client.answered header inflight ∨ (registers ∧ ¬ client.validRegistration body) then (client, none)
    else
      ({ (if registers then client.registeredBy header body else client) with
          parent := header.replyContext, view := max client.view header.view, inflight := none },
        some ⟨inflight.operation, inflight.request, body⟩)

def handleEviction (client : Client) (header : FrameHeader) : Client :=
  if header.field 0 16 ≠ client.config.id ∨ header.view < client.view then client
  else { client with view := header.view, state := .evicted, inflight := none }

def handlePong (client : Client) (header : FrameHeader) (now : Nat) : Client :=
  if header.number 0 8 ≠ client.lastPing ∨ now < header.number 0 8 then client
  else { client with view := max client.view header.view }

def handleFrame (client : Client) (sender : Nat) (frame : Bytes) (now : Nat) : Client × Option ClientReply :=
  if client.state = .closed ∨ client.config.activeCount ≤ sender then (client, none)
  else
    match decodeFrame hash frame client.config.group client.config.messageSizeMax client.config.activeCount with
    | .error _ => (client, none)
    | .ok (header, body) =>
      if ¬ (header.validateSemantics hash body (client.context sender)).isOk then (client, none)
      else
        match header.command with
        | .reply => client.handleReply header body
        | .eviction => (client.handleEviction header, none)
        | .clientPong => (client.handlePong header now, none)
        | _ => (client, none)

end Client

/-- What `handleRequest` asks the session table about. -/
def FrameHeader.sessionRequest (header : FrameHeader) : SessionRequest where
  client := header.field 32 48
  session := header.number 48 56
  request := header.number 64 68
  release := header.release
  requestChecksum := header.headerChecksum
  parent := header.field 0 16

namespace Client

variable (hash : ChecksumFunction)

/-- What happens to a client. -/
inductive Event where
  | register
  | submit (operation : Nat) (body : Bytes)
  | ping (now : Nat)
  | frame (sender : Nat) (frame : Bytes) (now : Nat)
  | close
deriving DecidableEq, Repr

variable {event : Event}

/-- One event; a call that returns an error changes nothing. -/
def step (client : Client) : Event → Option Client
  | .register => (client.register hash).map (·.1)
  | .submit operation body => (client.submit hash operation body).map (·.1)
  | .ping now => some { client with lastPing := max 1 now }
  | .frame sender frame now => some (client.handleFrame hash sender frame now).1
  | .close =>
    if client.state = .closed ∨ client.inflight.isSome then none else some { client with state := .closed }

/-- The states a client of this configuration can be in. -/
def Reached (config : ClientConfig) (client : Client) : Prop :=
  ∃ start, newClient config = some start ∧ Transition.Reaches (step hash) (fun _ _ => True) start client

/-! ## What holds of every client -/

/-- The request in flight is the latest one, and a registration is the first. -/
structure Sound (config : ClientConfig) (client : Client) : Prop where
  config : client.config = config
  parent : client.parent.length = 16
  session : client.session < 256 ^ 8
  next : client.next < 256 ^ 4
  fresh : client.state = .unregistered → client.next = 0
  inflight : ∀ inflight, client.inflight = some inflight → inflight.request = client.next ∧
    client.state = if inflight.operation = Operation.register.code then .unregistered else .registered

variable {hash} {config : ClientConfig} {client next : Client}

theorem sound_new (created : newClient config = some client) : client.Sound config := by
  unfold newClient at created
  split at created
  · cases created
  · cases created
    exact ⟨rfl, length_zeros 16, (by decide : 0 < 256 ^ 8), (by decide : 0 < 256 ^ 4), fun _ => rfl,
      fun _ h => (by cases h)⟩

theorem send_eq_some {request : Nat} (sent : client.send hash operation request body = some (next, header)) :
    next = { client with inflight := some ⟨header.headerChecksum, request, operation⟩ } ∧
      header.release = client.config.release ∧
      header.fields = (client.unsealedRequest operation request).fields := by
  unfold send at sent
  split at sent
  · cases sent
  obtain ⟨⟨sealed, frame⟩, hseals, heq⟩ := Option.map_eq_some_iff.mp sent
  cases heq
  obtain ⟨-, -, hsealed, -⟩ := sealFrame_eq_some hash hseals
  exact ⟨rfl, by rw [hsealed]; rfl, by rw [hsealed]; rfl⟩

theorem submit_eq_some (submitted : client.submit hash operation body = some (next, header)) :
    client.state = .registered ∧ operation ≠ Operation.register.code ∧ client.next ≠ FrameHeader.lastRequest ∧
      { client with next := client.next + 1 }.send hash operation (client.next + 1) body =
        some (next, header) := by
  unfold submit at submitted
  split at submitted
  · cases submitted
  rename_i hready
  split at submitted
  · cases submitted
  rename_i hoperation
  split at submitted
  · cases submitted
  rename_i hlast
  simp only [not_or, ne_eq, not_not] at hready
  refine ⟨hready.1, ?_, hlast, submitted⟩
  rintro rfl
  exact hoperation (by decide)

theorem Sound.handleReply (sound : client.Sound config) (fields : header.fields.length = 128) :
    (client.handleReply header body).1.Sound config := by
  have hparent : header.replyContext.length = 16 := length_slice (by rw [fields]; decide)
  have hcommit : header.replyCommit < 256 ^ 8 := by
    have hlength : (header.field 88 96).length = 8 := length_slice (by rw [fields]; decide)
    exact hlength ▸ uint_lt (header.field 88 96)
  unfold Client.handleReply
  split
  · exact sound
  simp only
  split
  · exact sound
  split
  · exact ⟨sound.config, hparent, hcommit, sound.next, fun h => (by cases h), fun _ h => (by cases h)⟩
  · exact ⟨sound.config, hparent, sound.session, sound.next, sound.fresh, fun _ h => (by cases h)⟩

/-- What a frame can do to a client: answer its request, evict it or tell it a view. -/
theorem handleFrame_cases (hash : ChecksumFunction) (client : Client) (sender : Nat) (frame : Bytes) (now : Nat) :
    (∃ header body, header.fields.length = 128 ∧
      client.handleFrame hash sender frame now = client.handleReply header body) ∨
    ∃ view state inflight, client.handleFrame hash sender frame now =
        ({ client with view := view, state := state, inflight := inflight }, none) ∧
      ((state = client.state ∧ inflight = client.inflight) ∨ (state = .evicted ∧ inflight = none)) := by
  have hsame : ∃ view state inflight, ((client, none) : Client × Option ClientReply) =
      ({ client with view := view, state := state, inflight := inflight }, none) ∧
      ((state = client.state ∧ inflight = client.inflight) ∨ (state = .evicted ∧ inflight = none)) :=
    ⟨_, _, _, rfl, .inl ⟨rfl, rfl⟩⟩
  unfold handleFrame
  split
  · exact .inr hsame
  split
  · exact .inr hsame
  rename_i header body hdecodes
  split
  · exact .inr hsame
  split
  · exact .inl ⟨header, body, (representable_of_decodeFrame hdecodes).1.fields, rfl⟩
  · unfold handleEviction
    split
    · exact .inr hsame
    · exact .inr ⟨_, _, _, rfl, .inr ⟨rfl, rfl⟩⟩
  · unfold handlePong
    split
    · exact .inr hsame
    · exact .inr ⟨_, _, _, rfl, .inl ⟨rfl, rfl⟩⟩
  · exact .inr hsame

theorem Sound.step (sound : client.Sound config) (taken : client.step hash event = some next) :
    next.Sound config := by
  cases event with
  | register =>
    obtain ⟨⟨sent, header⟩, hregister, rfl⟩ := Option.map_eq_some_iff.mp taken
    unfold Client.register at hregister
    split at hregister
    · cases hregister
    rename_i hready
    simp only [not_or, ne_eq, not_not] at hready
    obtain ⟨rfl, -, -⟩ := send_eq_some hregister
    refine ⟨sound.config, sound.parent, sound.session, sound.next, sound.fresh, fun _ h => ?_⟩
    cases h
    exact ⟨(sound.fresh hready.1).symm, hready.1⟩
  | submit operation body =>
    obtain ⟨⟨sent, header⟩, hsubmit, rfl⟩ := Option.map_eq_some_iff.mp taken
    obtain ⟨hstate, hoperation, hlast, hsent⟩ := submit_eq_some hsubmit
    obtain ⟨rfl, -, -⟩ := send_eq_some hsent
    have hnext := sound.next
    refine ⟨sound.config, sound.parent, sound.session, ?_, ?_, fun _ h => ?_⟩
    · rw [FrameHeader.lastRequest] at hlast
      show client.next + 1 < 256 ^ 4
      omega
    · intro h
      rw [show client.state = .unregistered from h] at hstate
      cases hstate
    · cases h
      exact ⟨rfl, by rw [if_neg hoperation]; exact hstate⟩
  | ping now =>
    cases taken
    exact ⟨sound.config, sound.parent, sound.session, sound.next, sound.fresh, sound.inflight⟩
  | frame sender frame now =>
    cases taken
    obtain ⟨header, body, hfields, h⟩ | ⟨view, state, inflight, h, hkept⟩ :=
      client.handleFrame_cases hash sender frame now
    · rw [h]
      exact sound.handleReply hfields
    rw [h]
    refine ⟨sound.config, sound.parent, sound.session, sound.next, ?_, ?_⟩
    · rcases hkept with ⟨rfl, -⟩ | ⟨rfl, -⟩
      · exact sound.fresh
      · exact fun h => (by cases h)
    · rcases hkept with ⟨rfl, rfl⟩ | ⟨-, rfl⟩
      · exact sound.inflight
      · exact fun _ h => (by cases h)
  | close =>
    simp only [Client.step] at taken
    split at taken
    · cases taken
    rename_i hidle
    simp only [not_or, Option.not_isSome_iff_eq_none] at hidle
    cases taken
    refine ⟨sound.config, sound.parent, sound.session, sound.next, fun h => (by cases h), fun _ h => ?_⟩
    rw [show client.inflight = some _ from h] at hidle
    cases hidle.2

/-- In every run of a client. -/
theorem Reached.sound (reached : Reached hash config client) : client.Sound config := by
  obtain ⟨start, hcreated, hreaches⟩ := reached
  exact hreaches.invariant (sound_new hcreated) fun sound _ taken => sound.step taken

/-- The client has its answer, and the next request will be made of these values. -/
structure Poised (client : Client) (config : ClientConfig) (session next : Nat) (parent : Bytes) : Prop where
  idle : client.inflight = none
  past : client.state ≠ .unregistered
  config : client.config = config
  session : client.session = session
  next : client.next = next
  parent : client.parent = parent

/-- Until the next request is sent nothing changes what it will be made of. -/
theorem Poised.step (poised : client.Poised config session number parent)
    (waits : ∀ operation body, event ≠ .submit operation body) (taken : client.step hash event = some next) :
    next.Poised config session number parent := by
  obtain ⟨hidle, hpast, hconfig, hsession, hnext, hparent⟩ := poised
  cases event with
  | register =>
    obtain ⟨⟨sent, header⟩, hregister, -⟩ := Option.map_eq_some_iff.mp taken
    rw [Client.register, if_pos (.inl hpast)] at hregister
    cases hregister
  | submit operation body => exact absurd rfl (waits operation body)
  | ping now =>
    cases taken
    exact ⟨hidle, hpast, hconfig, hsession, hnext, hparent⟩
  | frame sender frame now =>
    cases taken
    obtain ⟨header, body, -, h⟩ | ⟨view, state, inflight, h, hkept⟩ :=
      client.handleFrame_cases hash sender frame now
    · have hreply : client.handleReply header body = (client, none) := by rw [Client.handleReply, hidle]
      rw [h, hreply]
      exact ⟨hidle, hpast, hconfig, hsession, hnext, hparent⟩
    rw [h]
    rcases hkept with ⟨rfl, rfl⟩ | ⟨rfl, rfl⟩
    · exact ⟨hidle, hpast, hconfig, hsession, hnext, hparent⟩
    · exact ⟨rfl, fun h => (by cases h), hconfig, hsession, hnext, hparent⟩
  | close =>
    simp only [Client.step] at taken
    split at taken
    · cases taken
    · cases taken
      exact ⟨hidle, fun h => (by cases h), hconfig, hsession, hnext, hparent⟩

/-- Later states of the client, until it sends its next request. -/
def Waits (hash : ChecksumFunction) : Client → Client → Prop :=
  Transition.Reaches (step hash) fun _ event => ∀ operation body, event ≠ .submit operation body

theorem Poised.run {later : Client} (waits : Waits hash client later)
    (poised : client.Poised config session number parent) : later.Poised config session number parent := by
  induction waits with
  | refl => exact poised
  | step _ waits taken ih => exact ih.step waits taken

/-- What a replica reads of a request: the session of the client and the successor of its latest request. -/
theorem sessionRequest_submit (parent : client.parent.length = 16) (id : client.config.id.length = 16)
    (session : client.session < 256 ^ 8) (bound : client.next < 256 ^ 4)
    (submitted : client.submit hash operation body = some (next, header)) :
    header.sessionRequest = ⟨client.config.id, client.session, client.next + 1, client.config.release,
      header.headerChecksum, client.parent⟩ ∧ client.next + 1 < 256 ^ 4 := by
  obtain ⟨-, -, hlast, hsent⟩ := submit_eq_some submitted
  obtain ⟨-, hrelease, hfields⟩ := send_eq_some hsent
  have hnext : client.next + 1 < 256 ^ 4 := by
    rw [FrameHeader.lastRequest] at hlast
    omega
  have hplaced : Placed 128 0 (client.requestLayout operation (client.next + 1)) := by
    simp [requestLayout, Placed, parent, id]
  have hfield := @FrameHeader.field_of_record header _ hfields hplaced
  have hnumber := @FrameHeader.number_of_record header _ hfields hplaced
  have hid : header.field 32 48 = client.config.id := hfield (by simp [requestLayout]) (by rw [id])
  have hparent : header.field 0 16 = client.parent := hfield (by simp [requestLayout]) (by rw [parent])
  have hsession : header.number 48 56 = client.session := hnumber (by simp [requestLayout]) rfl session
  have hrequest : header.number 64 68 = client.next + 1 := hnumber (by simp [requestLayout]) rfl hnext
  exact ⟨by rw [FrameHeader.sessionRequest, hid, hsession, hrequest, hrelease, hparent], hnext⟩

end Client

end Supervsr
