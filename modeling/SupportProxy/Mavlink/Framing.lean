import SupportProxy.Mavlink.Message

/-! # A reference framing

An instance of `Library` for MAVLink 2 frames: framing, checksum, the signing
rules of the library and the payload layouts the proxy decodes. The truncated
hash of a signature is a parameter. -/

namespace SupportProxy.Framing

/-- One byte of the X.25 checksum. -/
def crcByte (crc : Nat) (byte : UInt8) : Nat :=
  let first := (byte.toNat ^^^ crc) % 256
  let mixed := (first ^^^ (first <<< 4)) % 256
  ((crc >>> 8) ^^^ (mixed <<< 8) ^^^ (mixed <<< 3) ^^^ (mixed >>> 4)) % 65536

def crc (bytes : List UInt8) : Nat := bytes.foldl crcByte 65535

/-- A little-endian number. -/
def leNat (bytes : List UInt8) : Nat :=
  bytes.foldr (fun byte rest => byte.toNat + 256 * rest) 0

def leBytes : Nat → Nat → List UInt8
  | 0, _ => []
  | count + 1, value => UInt8.ofNat value :: leBytes count (value / 256)

/-- `crc_extra` and the two lengths of the messages below. -/
def dialect (msgid : Nat) : Nat × Nat × Nat :=
  if msgid = Message.heartbeat then (50, 9, 9)
  else if msgid = Message.systemTime then (137, 12, 12)
  else if msgid = Message.remoteLogDataBlock then (159, 206, 206)
  else if msgid = Message.remoteLogBlockStatus then (186, 7, 7)
  else if msgid = Message.setupSigning then (71, 42, 42)
  else (0, 0, 0)

/-- The length of the frame that starts with these bytes up to its checksum, once it is known. -/
def checkedLength : List UInt8 → Option Nat
  | _ :: len :: _ => some (12 + len.toNat)
  | _ => none

/-- The length of the frame that starts with these bytes, once it is known. -/
def frameLength : List UInt8 → Option Nat
  | _ :: len :: flags :: _ =>
      some (12 + len.toNat +
        if BitVec.ofNat 8 flags.toNat &&& Message.iflagSigned != 0 then 13 else 0)
  | _ => none

/-- The message in a complete frame. -/
def decode (frame : List UInt8) : Message :=
  let len := (frame.getD 1 0).toNat
  { msgid := leNat ((frame.drop 7).take 3)
    sysid := frame.getD 5 0
    compid := frame.getD 6 0
    seq := frame.getD 4 0
    incompatFlags := BitVec.ofNat 8 (frame.getD 2 0).toNat
    payload := (frame.drop 10).take len
    signature := (frame.drop (12 + len)).take 13 }

def checksumGood (frame : List UInt8) : Bool :=
  let len := (frame.getD 1 0).toNat
  let extra := (dialect (leNat ((frame.drop 7).take 3))).1
  crc ((frame.drop 1).take (9 + len) ++ [UInt8.ofNat extra]) ==
    leNat ((frame.drop (10 + len)).take 2)

/-- The timestamp of a signature, in 10 µs. -/
def signatureTime (msg : Message) : Nat := leNat ((msg.signature.drop 1).take 6)

/-- `MAVLINK_SIGNING_TIMESTAMP_LIMIT` of the Makefile, in 10 µs. -/
def timestampLimit : Nat := 600 * 100 * 1000

section Signing

variable (authentic : SecretKey → Message → Bool)

def sameStream (msg : Message) (stream : SigningStream) : Bool :=
  stream.linkId == msg.signature.getD 0 0 && stream.sysid == msg.sysid &&
    stream.compid == msg.compid

/-- The status of `mavlink_signature_check`. -/
def signatureStatus (key : SecretKey) (track : SigningTrack) (msg : Message) : SigningStatus :=
  if !authentic key msg then .badSignature
  else
    match track.streams.find? (sameStream msg) with
    | none =>
        if 16 ≤ track.streams.length then .tooManyStreams
        else if signatureTime msg + timestampLimit < track.timestamp then .oldTimestamp
        else .ok
    | some stream => if signatureTime msg ≤ stream.timestamp then .replay else .ok

/-- The signing members after the check. -/
def checkedTrack (key : SecretKey) (track : SigningTrack) (msg : Message) : SigningTrack :=
  match signatureStatus authentic key track msg with
  | .ok =>
      { timestamp := max track.timestamp (signatureTime msg)
        lastStatus := .ok
        streams := track.streams.filter (fun stream => !sameStream msg stream) ++
          [⟨msg.signature.getD 0 0, msg.sysid, msg.compid, signatureTime msg⟩] }
  | status => { track with lastStatus := status }

/-- `mavlink_parse_char` behind a frame that it turns down: the last byte of the frame may be the
first of the next one. -/
def restart (byte : UInt8) : List UInt8 := if byte = 0xFD then [byte] else []

/-- What the last byte of a frame with a good checksum does. -/
def completeFrame (signing : Option Signing) (track : SigningTrack) (byte : UInt8)
    (msg : Message) : Parsed (List UInt8) :=
  match signing with
  | none => ⟨[], track, some msg, false⟩
  | some signing =>
      if !msg.signed then
        if signing.acceptUnsigned then ⟨[], track, some msg, true⟩
        else ⟨restart byte, track, none, false⟩
      else if signatureStatus authentic signing.secretKey track msg = .ok then
        ⟨[], checkedTrack authentic signing.secretKey track msg, some msg, false⟩
      else if signing.acceptUnsigned then
        ⟨[], checkedTrack authentic signing.secretKey track msg, some msg, true⟩
      else ⟨restart byte, checkedTrack authentic signing.secretKey track msg, none, false⟩

/-- A byte outside a frame is skipped unless it starts one. -/
def grow (buffer : List UInt8) (byte : UInt8) : List UInt8 :=
  if buffer = [] ∧ byte ≠ 0xFD then [] else buffer ++ [byte]

/-- The only flag of `MAVLINK_IFLAG_MASK` is the one of a signed frame. -/
def unknownFlags (buffer : List UInt8) (byte : UInt8) : Bool :=
  decide (buffer.length = 2) && byte != 0 && byte != 1

/-- The checksum is compared before the signature comes. An unsigned frame is shown to the
callback even if its checksum is wrong. -/
def parseChar (buffer : List UInt8) (signing : Option Signing) (track : SigningTrack)
    (byte : UInt8) : Parsed (List UInt8) :=
  let grown := grow buffer byte
  if unknownFlags buffer byte then ⟨[], track, none, false⟩
  else if checkedLength grown = some grown.length ∧ checksumGood grown = false then
    ⟨restart byte, track, none, !(decode grown).signed && signing.any Signing.acceptUnsigned⟩
  else if frameLength grown = some grown.length then
    completeFrame authentic signing track byte (decode grown)
  else ⟨grown, track, none, false⟩

/-- The frame of a message without signature. -/
def encode (msg : Message) (seq : UInt8) (flags : UInt8) (extra : Nat) : List UInt8 :=
  let body := [UInt8.ofNat msg.payload.length, flags, 0, seq, msg.sysid, msg.compid] ++
    leBytes 3 msg.msgid ++ msg.payload
  0xFD :: body ++ leBytes 2 (crc (body ++ [UInt8.ofNat extra]))

/-- The reference library; `tag` gives the six bytes that end a signature. -/
def library (tag : SecretKey → List UInt8 → List UInt8) : Library (List UInt8) where
  parser := []
  parseChar := parseChar authentic
  signatureCheck := fun signing track msg =>
    decide (signatureStatus authentic signing.secretKey track msg = .ok)
  signPacket := fun track => { track with timestamp := track.timestamp + 1 }
  minLength := fun msgid => (dialect msgid).2.1
  maxLength := fun msgid => (dialect msgid).2.2
  crcExtra := fun msgid => (dialect msgid).1
  sendBuffer := fun msg seq signing _ maxLen extra =>
    let trimmed := { msg with payload := msg.trimPayload maxLen }
    match signing with
    | none => encode trimmed seq 0 extra
    | some (signing, track) =>
        let frame := encode trimmed seq 1 extra ++ [UInt8.ofNat signing.linkId] ++
          leBytes 6 track.timestamp
        frame ++ tag signing.secretKey frame
  setupSigning := fun msg =>
    let payload := msg.payload ++ List.replicate 42 0
    ⟨leNat (payload.take 8), Vector.ofFn fun index => payload.getD (10 + index) 0⟩
  dataBlock := fun msg =>
    let payload := msg.payload ++ List.replicate 206 0
    ⟨leNat (payload.take 4) % 2 ^ 32, Nat.mod_lt _ (by decide),
      Vector.ofFn fun index => payload.getD (6 + index) 0⟩
  timeBootMs := fun msg => leNat (((msg.payload ++ List.replicate 12 0).drop 8).take 4)

variable {authentic} {tag : SecretKey → List UInt8 → List UInt8}

/-- The callback is called for a frame that is not verified. -/
theorem completeFrame_calledBack {signing : Signing} {track : SigningTrack} {byte : UInt8}
    {msg : Message} (accepts : signing.acceptUnsigned = true)
    (unverified : msg.signed = false ∨
      signatureStatus authentic signing.secretKey track msg ≠ .ok) :
    (completeFrame authentic (some signing) track byte msg).calledBack = true := by
  unfold completeFrame
  cases unsigned : msg.signed with
  | false => simp only [Bool.not_false, ↓reduceIte, accepts]
  | true =>
      have bad : signatureStatus authentic signing.secretKey track msg ≠ .ok :=
        unverified.resolve_left (by simp only [unsigned, Bool.true_eq_false, not_false_eq_true])
      simp only [Bool.not_true, Bool.false_eq_true, ↓reduceIte, bad, accepts]

/-- A frame that is returned is the one that has been read. -/
theorem completeFrame_frame {signing : Option Signing} {track : SigningTrack} {byte : UInt8}
    {msg found : Message}
    (complete : (completeFrame authentic signing track byte msg).frame = some found) :
    found = msg := by
  unfold completeFrame at complete
  split at complete
  · exact (Option.some.inj complete).symm
  · split_ifs at complete <;> exact (Option.some.inj complete).symm

/-- The reference library calls back for every returned frame that is not verified. -/
theorem callsBack : (library authentic tag).CallsBack := by
  intro parser signing track byte msg accepts complete unverified
  simp only [library, parseChar] at complete unverified ⊢
  split_ifs at complete ⊢ with flags checksum length
  have same := completeFrame_frame complete
  subst same
  refine completeFrame_calledBack accepts ?_
  simpa only [decide_eq_false_iff_not] using unverified

end Signing

end SupportProxy.Framing
