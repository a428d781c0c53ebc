import Supervsr.Lib.Bytes
import Supervsr.Protocol

/-
# Supervsr.Frame — the 256-byte header every frame starts with

`protocol/header.go`, byte by byte: `EncodeHeader` clears the buffer and copies each field to its
offset, `DecodeHeader` reads them back and refuses what `EncodeHeader` cannot have written.  The checksum
is any function with 16-byte values; the codec never looks inside it.
-/

namespace Supervsr

open Bytes

variable {start offset stop messageSizeMax memberCount : Nat} {frame body group source : Bytes}

/-- `ChecksumBytes`. -/
structure ChecksumFunction where
  sum : Bytes → Bytes
  length_sum : ∀ input, (sum input).length = 16

attribute [simp] ChecksumFunction.length_sum

/-- The defined values of `protocol.Command`. -/
inductive Command where
  | ping
  | pong
  | clientPing
  | clientPong
  | request
  | prepare
  | prepareOK
  | reply
  | commit
  | exitView
  | joinView
  | getView
  | getHeaders
  | getPrepare
  | getReply
  | headers
  | eviction
  | getBlocks
  | block
  | view
deriving DecidableEq, Repr

namespace Command

/-- The byte a command is encoded as; 12 and 21 to 23 are retired. -/
def code : Command → Nat
  | ping => 1
  | pong => 2
  | clientPing => 3
  | clientPong => 4
  | request => 5
  | prepare => 6
  | prepareOK => 7
  | reply => 8
  | commit => 9
  | exitView => 10
  | joinView => 11
  | getView => 13
  | getHeaders => 14
  | getPrepare => 15
  | getReply => 16
  | headers => 17
  | eviction => 18
  | getBlocks => 19
  | block => 20
  | view => 24

def all : List Command :=
  [ping, pong, clientPing, clientPong, request, prepare, prepareOK, reply, commit, exitView, joinView,
    getView, getHeaders, getPrepare, getReply, headers, eviction, getBlocks, block, view]

/-- The command of a byte, where `IsDefined` holds of it. -/
def ofCode (code : Nat) : Option Command := all.find? (·.code = code)

@[simp] theorem ofCode_code (command : Command) : ofCode command.code = some command := by
  cases command <;> rfl

theorem code_lt (command : Command) : command.code < 256 ^ 1 := by
  cases command <;> decide

theorem code_of_ofCode {code : Nat} {command : Command} (found : ofCode code = some command) :
    code = command.code := by
  have hcode := List.find?_some found
  exact (of_decide_eq_true hcode).symm

end Command

/-- `RejectReason`; `RejectNone` is success. -/
inductive RejectReason where
  | headerLength
  | headerChecksum
  | checksumExtension
  | bodyChecksumExtension
  | reservedNonce
  | wrongGroup
  | size
  | protocol
  | epoch
  | command
  | author
  | authentication
  | frameReservation
  | bodyLength
  | bodyChecksum
  | commandFields
  | bodyShape
deriving DecidableEq, Repr

/-- `protocol.Header`. -/
structure FrameHeader where
  headerChecksum : Bytes
  bodyChecksum : Bytes
  group : Bytes
  size : Nat
  epoch : Nat
  view : Nat
  release : Nat
  protocol : Nat
  command : Command
  author : Nat
  fields : Bytes
deriving DecidableEq, Repr

variable {sealed header : FrameHeader}

/-- `protocol.HeaderSize`. -/
def headerSize : Nat := 256

namespace FrameHeader

/-- The values the Go types of the fields can hold. -/
structure Representable (header : FrameHeader) : Prop where
  bodyChecksum : header.bodyChecksum.length = 16
  group : header.group.length = 16
  size : header.size < 256 ^ 4
  view : header.view < 256 ^ 4
  release : header.release < 256 ^ 4
  author : header.author < 256 ^ 1
  fields : header.fields.length = 128

/-- The fields `EncodeHeader` copies into the cleared buffer before the checksum goes in. -/
def layout (header : FrameHeader) : List (Nat × Bytes) :=
  [(32, header.bodyChecksum), (80, header.group), (96, putUint 4 header.size),
    (100, putUint 4 header.epoch), (104, putUint 4 header.view), (108, putUint 4 header.release),
    (112, putUint 2 header.protocol), (114, putUint 1 header.command.code), (115, putUint 1 header.author),
    (128, header.fields)]

def buffer (header : FrameHeader) : Bytes :=
  record headerSize header.layout

/-- The checksum of the header. -/
def checksum (hash : ChecksumFunction) (header : FrameHeader) : Bytes :=
  hash.sum (header.buffer.slice 16 headerSize)

/-- The header on the wire. -/
def encoded (hash : ChecksumFunction) (header : FrameHeader) : Bytes :=
  header.buffer.splice 0 (header.checksum hash)

end FrameHeader

section Codec

variable (hash : ChecksumFunction)

/-- `EncodeHeader`: the header with its checksum, and the buffer. -/
def encodeHeader (header : FrameHeader) : Option (FrameHeader × Bytes) :=
  if header.size < headerSize ∨ header.protocol ≠ protocolVersion ∨ header.epoch ≠ 0 then none
  else some ({ header with headerChecksum := header.checksum hash }, header.encoded hash)

def decodeHeader (source : Bytes) (expectedGroup : Bytes) (messageSizeMax memberCount : Nat) :
    Except RejectReason FrameHeader :=
  if source.length ≠ headerSize then .error .headerLength
  else if hash.sum (source.slice 16 headerSize) ≠ source.slice 0 16 then .error .headerChecksum
  else if ¬ (source.slice 16 32).allZero then .error .checksumExtension
  else if ¬ (source.slice 48 64).allZero then .error .bodyChecksumExtension
  else if ¬ (source.slice 64 80).allZero then .error .reservedNonce
  else if source.slice 80 96 ≠ expectedGroup then .error .wrongGroup
  else
    let size := uint (source.slice 96 100)
    let epoch := uint (source.slice 100 104)
    let protocol := uint (source.slice 112 114)
    let command := uint (source.slice 114 115)
    let author := uint (source.slice 115 116)
    if size < headerSize ∨ messageSizeMax < size then .error .size
    else if protocol ≠ protocolVersion ∧ ¬ (command = Command.block.code ∧ protocol < protocolVersion) then
      .error .protocol
    else if epoch ≠ 0 then .error .epoch
    else
      match Command.ofCode command with
      | none => .error .command
      | some command =>
        if memberCount = 0 ∨ memberCount ≤ author then .error .author
        else if ¬ (source.slice 116 128).allZero then .error .frameReservation
        else
          .ok {
            headerChecksum := source.slice 0 16
            bodyChecksum := source.slice 32 48
            group := source.slice 80 96
            size := size
            epoch := epoch
            view := uint (source.slice 104 108)
            release := uint (source.slice 108 112)
            protocol := protocol
            command := command
            author := author
            fields := source.slice 128 256 }

def validateBody (header : FrameHeader) (body : Bytes) : Except RejectReason Unit :=
  if body.length + headerSize ≠ header.size then .error .bodyLength
  else if hash.sum body ≠ header.bodyChecksum then .error .bodyChecksum
  else .ok ()

def decodeFrame (frame : Bytes) (expectedGroup : Bytes) (messageSizeMax memberCount : Nat) :
    Except RejectReason (FrameHeader × Bytes) :=
  if frame.length < headerSize then .error .headerLength
  else do
    let header ← decodeHeader hash (frame.slice 0 headerSize) expectedGroup messageSizeMax memberCount
    if frame.length ≠ header.size then .error .bodyLength
    else
      let body := frame.slice headerSize header.size
      validateBody hash header body
      return (header, body)

/-- The header with the size and the checksum of the body. -/
def FrameHeader.sized (header : FrameHeader) (body : Bytes) : FrameHeader :=
  { header with size := headerSize + body.length, bodyChecksum := hash.sum body }

/-- `SealFrame` of a frame with the given body. -/
def sealFrame (header : FrameHeader) (body : Bytes) : Option (FrameHeader × Bytes) :=
  if 256 ^ 4 ≤ headerSize + body.length then none
  else (encodeHeader hash (header.sized hash body)).map fun sealed => (sealed.1, sealed.2 ++ body)

/-- What `DecodeHeader` has checked of the bytes it accepts, and the header it makes of them. -/
structure Decoded (source expectedGroup : Bytes) (messageSizeMax memberCount : Nat) (header : FrameHeader) :
    Prop where
  length : source.length = headerSize
  checked : hash.sum (source.slice 16 headerSize) = source.slice 0 16
  extension : (source.slice 16 32).allZero = true
  bodyExtension : (source.slice 48 64).allZero = true
  nonce : (source.slice 64 80).allZero = true
  reservation : (source.slice 116 128).allZero = true
  headerChecksum : header.headerChecksum = source.slice 0 16
  bodyChecksum : header.bodyChecksum = source.slice 32 48
  group : header.group = source.slice 80 96
  expected : header.group = expectedGroup
  size : header.size = uint (source.slice 96 100)
  fits : headerSize ≤ header.size ∧ header.size ≤ messageSizeMax
  epoch : header.epoch = uint (source.slice 100 104)
  initial : header.epoch = 0
  view : header.view = uint (source.slice 104 108)
  release : header.release = uint (source.slice 108 112)
  protocol : header.protocol = uint (source.slice 112 114)
  current : header.protocol = protocolVersion
  command : header.command.code = uint (source.slice 114 115)
  author : header.author = uint (source.slice 115 116)
  member : header.author < memberCount
  fields : header.fields = source.slice 128 256

variable {hash}

theorem decoded_of_decodeHeader
    (decodes : decodeHeader hash source group messageSizeMax memberCount = .ok header) :
    Decoded hash source group messageSizeMax memberCount header := by
  unfold decodeHeader at decodes
  by_cases hlength : source.length = headerSize
  case neg =>
    rw [if_pos hlength] at decodes
    cases decodes
  rw [if_neg (fun h => h hlength)] at decodes
  split at decodes
  · cases decodes
  rename_i hchecked
  split at decodes
  · cases decodes
  rename_i hextension
  split at decodes
  · cases decodes
  rename_i hbodyExtension
  split at decodes
  · cases decodes
  rename_i hnonce
  split at decodes
  · cases decodes
  rename_i hgroup
  simp only at decodes
  split at decodes
  · cases decodes
  rename_i hsize
  split at decodes
  · cases decodes
  rename_i hprotocol
  split at decodes
  · cases decodes
  rename_i hepoch
  split at decodes
  · cases decodes
  rename_i command hcommand
  split_ifs at decodes with hauthor hreservation
  simp only [ne_eq, not_not] at hchecked hextension hbodyExtension hnonce hgroup hepoch hreservation
  -- there is no protocol before the first one
  have hcurrent : uint (source.slice 112 114) = protocolVersion := by
    by_contra hother
    exact hprotocol ⟨hother, fun h => Nat.not_lt_zero _ h.2⟩
  have hfits : headerSize ≤ uint (source.slice 96 100) ∧ uint (source.slice 96 100) ≤ messageSizeMax := by omega
  have hmember : uint (source.slice 115 116) < memberCount := by omega
  cases decodes
  exact ⟨hlength, hchecked, hextension, hbodyExtension, hnonce, hreservation, rfl, rfl, rfl, hgroup, rfl,
    hfits, rfl, hepoch, rfl, rfl, rfl, hcurrent, (Command.code_of_ofCode hcommand).symm, rfl, hmember, rfl⟩

namespace Decoded

section

variable (decoded : Decoded hash source group messageSizeMax memberCount header)

include decoded

theorem length_slice_of_le (fits : stop ≤ 256) : (source.slice start stop).length = stop - start :=
  length_slice (by rw [decoded.length]; exact fits)

/-- A decoded header has the lengths and ranges of its Go types. -/
theorem representable :
    header.Representable where
  bodyChecksum := by rw [decoded.bodyChecksum, decoded.length_slice_of_le (by decide)]
  group := by rw [decoded.group, decoded.length_slice_of_le (by decide)]
  size := by rw [decoded.size]; exact uint_slice_lt decoded.length (by decide)
  view := by rw [decoded.view]; exact uint_slice_lt decoded.length (by decide)
  release := by rw [decoded.release]; exact uint_slice_lt decoded.length (by decide)
  author := by rw [decoded.author]; exact uint_slice_lt decoded.length (by decide)
  fields := by rw [decoded.fields, decoded.length_slice_of_le (by decide)]

end

end Decoded

section

variable (decodes : decodeFrame hash frame group messageSizeMax memberCount = .ok (header, body))

include decodes

theorem decodeFrame_eq_ok :
    headerSize ≤ frame.length ∧ decodeHeader hash (frame.slice 0 headerSize) group messageSizeMax memberCount =
      .ok header ∧ frame.length = header.size ∧ body = frame.slice headerSize header.size ∧
      hash.sum body = header.bodyChecksum := by
  unfold decodeFrame at decodes
  split_ifs at decodes with hlong
  cases hheader : decodeHeader hash (frame.slice 0 headerSize) group messageSizeMax memberCount with
  | error reason =>
    rw [hheader] at decodes
    cases decodes
  | ok decoded =>
    rw [hheader] at decodes
    simp only [bind, Except.bind] at decodes
    split_ifs at decodes with hsize
    unfold validateBody at decodes
    split_ifs at decodes with hbody hsum
    simp only [ne_eq, not_not] at hsize hsum
    cases decodes
    exact ⟨Nat.not_lt.mp hlong, rfl, hsize, rfl, hsum⟩

theorem representable_of_decodeFrame :
    header.Representable ∧ header.headerChecksum.length = 16 := by
  have hdecoded := decoded_of_decodeHeader (decodeFrame_eq_ok decodes).2.1
  exact ⟨hdecoded.representable, by rw [hdecoded.headerChecksum, hdecoded.length_slice_of_le (by decide)]⟩

end

variable (hash)

/-! ## What `SealFrame` writes, `DecodeFrame` reads -/

namespace FrameHeader

variable {hash}

theorem placed (representable : header.Representable) : Placed headerSize 0 header.layout := by
  simp [layout, Placed, headerSize, representable.bodyChecksum, representable.group, representable.fields]

theorem length_encoded (representable : header.Representable) : (header.encoded hash).length = headerSize := by
  have hlength : header.buffer.length = headerSize := length_record (placed representable)
  rw [encoded, length_splice, hlength]
  rw [hlength, checksum, hash.length_sum]
  decide

theorem slice_encoded_checksum : (header.encoded hash).slice 0 16 = header.checksum hash :=
  slice_splice_self (Nat.zero_le _) (by rw [checksum, hash.length_sum])

/-- Behind the checksum the header on the wire is the buffer the checksum was taken over. -/
theorem slice_encoded (behind : 16 ≤ start) :
    (header.encoded hash).slice start stop = header.buffer.slice start stop :=
  slice_splice_after (by rw [checksum, hash.length_sum]; omega) (Nat.zero_le _)

variable (representable : header.Representable)

include representable

theorem slice_encoded_field {data : Bytes}
    (hmem : (offset, data) ∈ header.layout) (behind : 16 ≤ offset) (exact : stop = offset + data.length) :
    (header.encoded hash).slice offset stop = data := by
  rw [slice_encoded behind]
  exact slice_record (placed representable) hmem exact

theorem uint_encoded_field {width value : Nat}
    (hmem : (offset, putUint width value) ∈ header.layout) (behind : 16 ≤ offset)
    (exact : stop = offset + width) (bound : value < 256 ^ width) :
    uint ((header.encoded hash).slice offset stop) = value := by
  rw [slice_encoded_field representable hmem behind (by rw [exact, length_putUint]), uint_putUint,
    Nat.mod_eq_of_lt bound]

theorem allZero_encoded_gap (behind : 16 ≤ start)
    (fits : stop ≤ headerSize)
    (gap : ∀ field ∈ header.layout, stop ≤ field.1 ∨ field.1 + field.2.length ≤ start) :
    ((header.encoded hash).slice start stop).allZero = true := by
  rw [slice_encoded behind, buffer, slice_record_gap (placed representable) fits gap, allZero_zeros]

end FrameHeader

theorem encodeHeader_eq_some {encoded : Bytes}
    (encodes : encodeHeader hash header = some (sealed, encoded)) :
    headerSize ≤ header.size ∧ header.protocol = protocolVersion ∧ header.epoch = 0 ∧
      sealed = { header with headerChecksum := header.checksum hash } ∧ encoded = header.encoded hash := by
  unfold encodeHeader at encodes
  split_ifs at encodes with hvalid
  simp only [not_or, Nat.not_lt, ne_eq, not_not] at hvalid
  cases encodes
  exact ⟨hvalid.1, hvalid.2.1, hvalid.2.2, rfl, rfl⟩

open FrameHeader in
/-- `DecodeHeader` gives back the header that `EncodeHeader` was given, with its checksum. -/
theorem decodeHeader_encodeHeader {encoded : Bytes} (representable : header.Representable)
    (encodes : encodeHeader hash header = some (sealed, encoded)) (fits : header.size ≤ messageSizeMax)
    (member : header.author < memberCount) :
    decodeHeader hash encoded header.group messageSizeMax memberCount = .ok sealed := by
  obtain ⟨hsize, hprotocol, hepoch, rfl, rfl⟩ := encodeHeader_eq_some hash encodes
  -- the fields, read back
  have hbody : (header.encoded hash).slice 32 48 = header.bodyChecksum :=
    slice_encoded_field representable (by simp [layout]) (by decide) (by rw [representable.bodyChecksum])
  have hgroup : (header.encoded hash).slice 80 96 = header.group :=
    slice_encoded_field representable (by simp [layout]) (by decide) (by rw [representable.group])
  have hsizeField : uint ((header.encoded hash).slice 96 100) = header.size :=
    uint_encoded_field representable (by simp [layout]) (by decide) rfl representable.size
  have hepochField : uint ((header.encoded hash).slice 100 104) = header.epoch :=
    uint_encoded_field representable (by simp [layout]) (by decide) rfl
      (show header.epoch < 256 ^ 4 by rw [hepoch]; decide)
  have hview : uint ((header.encoded hash).slice 104 108) = header.view :=
    uint_encoded_field representable (by simp [layout]) (by decide) rfl representable.view
  have hrelease : uint ((header.encoded hash).slice 108 112) = header.release :=
    uint_encoded_field representable (by simp [layout]) (by decide) rfl representable.release
  have hprotocolField : uint ((header.encoded hash).slice 112 114) = header.protocol :=
    uint_encoded_field representable (by simp [layout]) (by decide) rfl
      (show header.protocol < 256 ^ 2 by rw [hprotocol]; decide)
  have hcommand : uint ((header.encoded hash).slice 114 115) = header.command.code :=
    uint_encoded_field representable (by simp [layout]) (by decide) rfl header.command.code_lt
  have hauthor : uint ((header.encoded hash).slice 115 116) = header.author :=
    uint_encoded_field representable (by simp [layout]) (by decide) rfl representable.author
  have hfields : (header.encoded hash).slice 128 256 = header.fields :=
    slice_encoded_field representable (by simp [layout]) (by decide) (by rw [representable.fields])
  -- the bytes between them stay zero
  have hextension : ((header.encoded hash).slice 16 32).allZero = true :=
    allZero_encoded_gap representable (by decide) (by decide) (by simp [layout])
  have hbodyExtension : ((header.encoded hash).slice 48 64).allZero = true :=
    allZero_encoded_gap representable (by decide) (by decide) (by simp [layout, representable.bodyChecksum])
  have hnonce : ((header.encoded hash).slice 64 80).allZero = true :=
    allZero_encoded_gap representable (by decide) (by decide) (by simp [layout, representable.bodyChecksum])
  have hreservation : ((header.encoded hash).slice 116 128).allZero = true :=
    allZero_encoded_gap representable (by decide) (by decide)
      (by simp [layout, representable.bodyChecksum, representable.group])
  have hchecked : hash.sum ((header.encoded hash).slice 16 headerSize) = header.checksum hash := by
    rw [slice_encoded (Nat.le_refl 16), checksum]
  have hcounted : ¬ (memberCount = 0 ∨ memberCount ≤ header.author) := by omega
  have hfits : ¬ (header.size < headerSize ∨ messageSizeMax < header.size) := by omega
  simp only [decodeHeader, length_encoded representable, hchecked, slice_encoded_checksum, hextension,
    hbodyExtension, hnonce, hreservation, hbody, hgroup, hsizeField, hepochField, hview, hrelease,
    hprotocolField, hcommand, hauthor, hfields, Command.ofCode_code, hprotocol, hepoch, hcounted, hfits,
    ne_eq, not_true_eq_false, false_and, if_false]

theorem FrameHeader.Representable.sized (representable : header.Representable)
    (short : headerSize + body.length < 256 ^ 4) : (header.sized hash body).Representable :=
  ⟨hash.length_sum body, representable.group, short, representable.view, representable.release,
    representable.author, representable.fields⟩

theorem sealFrame_eq_some (seals : sealFrame hash header body = some (sealed, frame)) :
    headerSize + body.length < 256 ^ 4 ∧
      encodeHeader hash (header.sized hash body) = some (sealed, (header.sized hash body).encoded hash) ∧
      sealed = { header.sized hash body with headerChecksum := (header.sized hash body).checksum hash } ∧
      frame = (header.sized hash body).encoded hash ++ body := by
  unfold sealFrame at seals
  split_ifs at seals with hshort
  obtain ⟨⟨sealed', encoded⟩, hencodes, heq⟩ := Option.map_eq_some_iff.mp seals
  cases heq
  obtain ⟨-, -, -, rfl, rfl⟩ := encodeHeader_eq_some hash hencodes
  exact ⟨Nat.not_le.mp hshort, hencodes, rfl, rfl⟩

/-- A header that decodes, followed by the body it describes, is a frame. -/
theorem decodeFrame_append {front : Bytes} (length : front.length = headerSize)
    (decodes : decodeHeader hash front group messageSizeMax memberCount = .ok sealed)
    (size : sealed.size = headerSize + body.length) (sum : sealed.bodyChecksum = hash.sum body) :
    decodeFrame hash (front ++ body) group messageSizeMax memberCount = .ok (sealed, body) := by
  have hwhole : (front ++ body).length = sealed.size := by rw [List.length_append, length, size]
  have hbody : slice (front ++ body) headerSize sealed.size = body :=
    slice_append_right length.symm size
  have hvalid : validateBody hash sealed body = .ok () := by
    rw [validateBody, if_neg (by rw [size, Nat.add_comm]; exact fun h => h rfl), if_neg (fun h => h sum.symm)]
  unfold decodeFrame
  rw [if_neg (by omega), slice_append_left length.symm, decodes]
  simp only [bind, Except.bind, hwhole, hbody, hvalid, ne_eq, not_true_eq_false, if_false]
  rfl

/-- `DecodeFrame` gives back the header and the body that `SealFrame` was given, with the size and the
checksums filled in. -/
theorem decodeFrame_sealFrame (representable : header.Representable)
    (seals : sealFrame hash header body = some (sealed, frame))
    (fits : headerSize + body.length ≤ messageSizeMax) (member : header.author < memberCount) :
    decodeFrame hash frame header.group messageSizeMax memberCount = .ok (sealed, body) := by
  obtain ⟨hshort, hencodes, hsealed, rfl⟩ := sealFrame_eq_some hash seals
  have hsized := representable.sized hash hshort
  have hdecodes := decodeHeader_encodeHeader hash hsized hencodes fits member
  exact decodeFrame_append hash (FrameHeader.length_encoded hsized) hdecodes (by rw [hsealed]; rfl)
    (by rw [hsealed]; rfl)

theorem encodeHeader_sized (protocol : header.protocol = protocolVersion)
    (epoch : header.epoch = 0) (body : Bytes) :
    encodeHeader hash (header.sized hash body) =
      some ({ header.sized hash body with headerChecksum := (header.sized hash body).checksum hash },
        (header.sized hash body).encoded hash) := by
  rw [encodeHeader, if_neg]
  simp only [FrameHeader.sized, protocol, epoch]
  omega

/-- Only a body that is too long is not sealed. -/
theorem sealFrame_of_short (protocol : header.protocol = protocolVersion)
    (epoch : header.epoch = 0) (short : headerSize + body.length < 256 ^ 4) :
    sealFrame hash header body =
      some ({ header.sized hash body with headerChecksum := (header.sized hash body).checksum hash },
        (header.sized hash body).encoded hash ++ body) := by
  rw [sealFrame, if_neg (by omega), encodeHeader_sized hash protocol epoch]
  rfl

/-! ## What `DecodeHeader` accepts, `EncodeHeader` writes -/

variable {hash}

namespace Decoded

variable (decoded : Decoded hash source group messageSizeMax memberCount header)

include decoded

/-- Up to the place of the checksum, the accepted bytes are the buffer `EncodeHeader` fills. -/
theorem buffer_eq :
    header.buffer = source.splice 0 (zeros 16) := by
  have hlength : (source.splice 0 (zeros 16)).length = headerSize := by
    rw [length_splice, decoded.length]
    rw [decoded.length]
    decide
  have hfront := allZero_blanked (by decide) decoded.extension
  have hmiddle : (source.slice 48 80).allZero = true :=
    allZero_slice_trans (by decide) (by decide) decoded.bodyExtension decoded.nonce
  have hnumber := @slice_eq_putUint _ _ decoded.length
  have hplaced : Placed (source.splice 0 (zeros 16)).length 0 header.layout := by
    rw [hlength]
    exact FrameHeader.placed decoded.representable
  rw [← record_of_tiled hplaced ?_, hlength]
  · rfl
  simp only [FrameHeader.layout, Tiled, length_putUint, decoded.representable.bodyChecksum,
    decoded.representable.group, decoded.representable.fields, Nat.reduceAdd, hlength, headerSize, slice_self,
    allZero_nil]
  simp only [slice_blanked, Nat.reduceLeDiff, decoded.bodyChecksum, decoded.group, decoded.size, decoded.epoch,
    decoded.view, decoded.release, decoded.protocol, decoded.command, decoded.author, decoded.fields, true_and]
  exact ⟨hfront, hmiddle, hnumber (by decide) rfl, hnumber (by decide) rfl, hnumber (by decide) rfl,
    hnumber (by decide) rfl, hnumber (by decide) rfl, hnumber (by decide) rfl, hnumber (by decide) rfl,
    decoded.reservation, trivial⟩

/-- The bytes of an accepted header are those of the header it decodes to. -/
theorem encoded_eq :
    header.checksum hash = header.headerChecksum ∧ header.encoded hash = source := by
  have hchecksum : header.checksum hash = source.slice 0 16 := by
    rw [FrameHeader.checksum, decoded.buffer_eq,
      slice_splice_after (by rw [length_zeros]) (Nat.zero_le _), decoded.checked]
  refine ⟨by rw [hchecksum, decoded.headerChecksum], ?_⟩
  rw [FrameHeader.encoded, hchecksum, decoded.buffer_eq, splice_splice (Nat.zero_le _),
    splice_slice (Nat.zero_le _) (by rw [decoded.length]; decide)]
  rw [length_zeros, decoded.length_slice_of_le (by decide)]

end Decoded

/-- Encoding the header of accepted bytes reproduces them. -/
theorem encodeHeader_decodeHeader
    (decodes : decodeHeader hash source group messageSizeMax memberCount = .ok header) :
    encodeHeader hash header = some (header, source) := by
  have hdecoded := decoded_of_decodeHeader decodes
  obtain ⟨hchecksum, hencoded⟩ := hdecoded.encoded_eq
  have hfits := hdecoded.fits.1
  rw [encodeHeader, if_neg, hchecksum, hencoded]
  rw [hdecoded.current, hdecoded.initial]
  omega

/-! ## A changed byte is noticed -/

/-- The two spans of a frame that are under a checksum. -/
def checkedSpans (frame : Bytes) : List Bytes :=
  [frame.slice 16 headerSize, frame.slice headerSize frame.length]

/-- No span of the one frame has the checksum of another span of the other. -/
def ChecksumFunction.Separates (hash : ChecksumFunction) (frame other : Bytes) : Prop :=
  ∀ span ∈ checkedSpans frame, ∀ span' ∈ checkedSpans other, hash.sum span = hash.sum span' → span = span'

theorem eq_of_spans {other : Bytes} (long : headerSize ≤ frame.length) (length : other.length = frame.length)
    (checksum : other.slice 0 16 = frame.slice 0 16)
    (header : other.slice 16 headerSize = frame.slice 16 headerSize)
    (body : other.slice headerSize frame.length = frame.slice headerSize frame.length) : other = frame := by
  have hparts : ∀ frame : Bytes, headerSize ≤ frame.length →
      frame.slice 0 16 ++ frame.slice 16 headerSize ++ frame.slice headerSize frame.length = frame := by
    intro frame hlong
    have hfirst : frame.slice 0 16 = frame.take 16 := by rw [slice, List.drop_zero]
    rw [hfirst, take_append_slice (by decide), take_append_slice hlong, List.take_length]
  have hwhole := hparts other (length ▸ long)
  rw [checksum, header, length, body, hparts frame long] at hwhole
  exact hwhole.symm

/-- A frame that differs from an accepted one in a byte is refused, whichever byte it is: in the checksum of
the header, under it, or under the checksum of the body. -/
theorem decodeFrame_set {index : Nat} {byte : UInt8} {result : FrameHeader × Bytes}
    (decodes : decodeFrame hash frame group messageSizeMax memberCount = .ok result)
    (inside : index < frame.length) (changes : frame[index]? ≠ some byte)
    (separates : hash.Separates frame (frame.set index byte)) :
    ∃ reason, decodeFrame hash (frame.set index byte) group messageSizeMax memberCount = .error reason := by
  cases hother : decodeFrame hash (frame.set index byte) group messageSizeMax memberCount with
  | error reason => exact ⟨reason, rfl⟩
  | ok result' =>
    obtain ⟨hlong, hheader, hsize, hbody, hsum⟩ := decodeFrame_eq_ok decodes
    obtain ⟨-, hheader', hsize', hbody', hsum'⟩ := decodeFrame_eq_ok hother
    have hlength : (frame.set index byte).length = frame.length := List.length_set
    have hchecked : hash.sum (frame.slice 16 headerSize) = frame.slice 0 16 := by
      have hdecoded := (decoded_of_decodeHeader hheader).checked
      rwa [slice_slice_front (Nat.le_refl _), slice_slice_front (by decide)] at hdecoded
    have hchecked' : hash.sum (slice (frame.set index byte) 16 headerSize) =
        slice (frame.set index byte) 0 16 := by
      have hdecoded := (decoded_of_decodeHeader hheader').checked
      rwa [slice_slice_front (Nat.le_refl _), slice_slice_front (by decide)] at hdecoded
    have hsame : frame.set index byte = frame := by
      by_cases hhead : index < 16
      · have hspan : slice (frame.set index byte) 16 headerSize = frame.slice 16 headerSize :=
          slice_set_outside (.inl hhead)
        refine eq_of_spans hlong hlength ?_ hspan (slice_set_outside (.inl (by simp only [headerSize]; omega)))
        rw [← hchecked', hspan, hchecked]
      by_cases hfields : index < headerSize
      · have hspan : slice (frame.set index byte) 0 16 = frame.slice 0 16 :=
          slice_set_outside (.inr (Nat.not_lt.mp hhead))
        refine eq_of_spans hlong hlength hspan ?_ (slice_set_outside (.inl hfields))
        refine (separates _ List.mem_cons_self _ List.mem_cons_self ?_).symm
        rw [hchecked, hchecked', hspan]
      · have hbefore : ∀ {start stop : Nat}, stop ≤ headerSize →
            slice (frame.set index byte) start stop = frame.slice start stop := by
          intro start stop hstop
          exact slice_set_outside (.inr (by omega))
        refine eq_of_spans hlong hlength (hbefore (by decide)) (hbefore (Nat.le_refl _)) ?_
        -- the headers are the same, so both bodies have the checksum it carries
        rw [hbefore (Nat.le_refl _), hheader] at hheader'
        have hequal : result'.1 = result.1 := (Except.ok.inj hheader').symm
        rw [hequal] at hsum' hbody'
        have hbodies : hash.sum (frame.slice headerSize frame.length) =
            hash.sum (slice (frame.set index byte) headerSize (frame.set index byte).length) := by
          rw [hlength, hsize, ← hbody, ← hbody', hsum, hsum']
        have hspan := separates _ (List.mem_cons_of_mem _ List.mem_cons_self) _
          (List.mem_cons_of_mem _ List.mem_cons_self) hbodies
        rw [hlength] at hspan
        exact hspan.symm
    have hbyte : (frame.set index byte)[index]? = some byte := List.getElem?_set_self inside
    rw [hsame] at hbyte
    exact absurd hbyte changes

/-- The frame codec: what `SealFrame` makes of a header and a body decodes to that header, with the size and
the checksums filled in, and that body; the bytes of an accepted header are its encoding; and with a changed
byte an accepted frame is refused. -/
theorem frame_codec (hash : ChecksumFunction) (group : Bytes) (messageSizeMax memberCount : Nat)
    (limit : messageSizeMax < 256 ^ 4) :
    (∀ header : FrameHeader, ∀ body : Bytes, header.Representable → header.protocol = protocolVersion →
      header.epoch = 0 → header.group = group → header.author < memberCount →
      headerSize + body.length ≤ messageSizeMax →
      ∃ sealed frame, sealFrame hash header body = some (sealed, frame) ∧
        sealed = { header with
          size := headerSize + body.length
          bodyChecksum := hash.sum body
          headerChecksum := (header.sized hash body).checksum hash } ∧
        decodeFrame hash frame group messageSizeMax memberCount = .ok (sealed, body)) ∧
    (∀ source header, decodeHeader hash source group messageSizeMax memberCount = .ok header →
      encodeHeader hash header = some (header, source)) ∧
    ∀ frame result, decodeFrame hash frame group messageSizeMax memberCount = .ok result →
      ∀ index byte, index < frame.length → frame[index]? ≠ some byte →
        hash.Separates frame (frame.set index byte) →
        ∃ reason, decodeFrame hash (frame.set index byte) group messageSizeMax memberCount = .error reason := by
  refine ⟨?_, fun source header => encodeHeader_decodeHeader, fun frame result decodes index byte inside changes
    separates => decodeFrame_set decodes inside changes separates⟩
  intro header body hrepresentable hprotocol hepoch hgroup hmember hfits
  have hseals := sealFrame_of_short hash hprotocol hepoch (by omega : headerSize + body.length < 256 ^ 4)
  refine ⟨_, _, hseals, rfl, ?_⟩
  rw [← hgroup]
  exact decodeFrame_sealFrame hash hrepresentable hseals hfits hmember

/-- A checksum to compute with: the bytes as the digits of a number. -/
def digitSum : ChecksumFunction :=
  ⟨fun input => putUint 16 (input.foldl (fun sum byte => 263 * sum + byte.toNat) 7), fun _ => length_putUint _ _⟩

/-- The header of an empty `ExitView` of member 1. -/
def exitViewHeader : FrameHeader where
  headerChecksum := zeros 16
  bodyChecksum := zeros 16
  group := zeros 16
  size := 0
  epoch := 0
  view := 3
  release := 0
  protocol := protocolVersion
  command := .exitView
  author := 1
  fields := zeros 128

theorem frame_codec_exitView : ∃ sealed frame,
    sealFrame digitSum exitViewHeader [7] = some (sealed, frame) ∧
      decodeFrame digitSum frame (zeros 16) 512 3 = .ok (sealed, [7]) ∧
      encodeHeader digitSum sealed = some (sealed, frame.slice 0 headerSize) ∧
      ∃ reason, decodeFrame digitSum (frame.set 104 4) (zeros 16) 512 3 = .error reason := by
  obtain ⟨hseal, hheader, hchange⟩ := frame_codec digitSum (zeros 16) 512 3 (by decide)
  obtain ⟨sealed, frame, hseals, -, hdecodes⟩ := hseal exitViewHeader [7]
    ⟨rfl, rfl, by decide, by decide, by decide, by decide, rfl⟩ rfl rfl rfl (by decide) (by decide)
  refine ⟨sealed, frame, hseals, hdecodes, hheader _ _ (decodeFrame_eq_ok hdecodes).2.1, ?_⟩
  have hframe : frame = (exitViewHeader.sized digitSum [7]).encoded digitSum ++ [7] :=
    (sealFrame_eq_some digitSum hseals).2.2.2
  subst hframe
  exact hchange _ _ hdecodes 104 4 (by decide +kernel) (by decide +kernel) (by
    unfold ChecksumFunction.Separates
    decide +kernel)

end Codec

end Supervsr
