import SupportProxy.Event
import Mathlib.Logic.Function.Basic

/-! # MAVLink links

The `MAVLink` class of `mavlink.cpp`. A session owns one link for the user and
one for each engineer slot, and every link has a channel of its own, so a link
is kept together with the library's status of its channel.

What the operating system, the other processes and the wall clock answer is an
`Environment`: the answers are numbered, and `MavState.queries` counts the
questions asked so far. -/

namespace SupportProxy

/-- The members of `struct KeyEntry` that signing uses. -/
structure KeyEntry where
  timestamp : Nat
  secretKey : SecretKey

/-- The answers a session gets from outside. Times are in microseconds. -/
structure Environment where
  /-- `time_seconds()` -/
  now : Nat → Nat
  /-- the record of the port pair as other processes have left it -/
  keyRecord : Nat → Option KeyEntry → Option KeyEntry
  /-- `db_open_transaction() != nullptr` -/
  dbOpens : Nat → Bool
  /-- `db_save_key` and the commit succeed -/
  dbCommits : Nat → Bool
  /-- `socket_is_dead` -/
  socketDead : Nat → Bool
  /-- `tcp_writable_bytes` -/
  writableBytes : Nat → Int
  /-- the result of `send`, `sendto` or `WebSocket::send` for so many bytes -/
  sendReturn : Nat → Nat → Int

/-- A `MAVLink` object with the status of its channel: the parse state,
whether `status->signing` is set, and `current_tx_seq`. -/
structure Link (P : Type) where
  fd : Option Nat
  keyId : Int
  isTcp : Bool
  keyLoaded : Bool
  gotSignedPacket : Bool
  allowWebsocket : Bool
  useSendto : Bool
  sendAddr : Peer
  signing : Signing
  track : SigningTrack
  lastSigningSave : Nat
  lastSigningWarning : Nat
  lastSysid : UInt8
  lastCompid : UInt8
  badSigCount : Nat
  ws : Option Nat
  parser : P
  statusSigning : Bool
  currentTxSeq : UInt8

/-- `ZERO_STRUCT(signing)` -/
def Signing.zero : Signing := ⟨Vector.replicate 32 0, 0, false, false⟩

/-- The library's part of `ZERO_STRUCT(signing)` and `ZERO_STRUCT(signing_streams)`. -/
def SigningTrack.zero : SigningTrack := ⟨0, .none, []⟩

variable {P : Type}

/-- `(mavlink_signing_t *)status->signing` -/
def Link.signingOf (link : Link P) : Option Signing :=
  if link.statusSigning then some link.signing else none

/-- The transport `send_data` picks. -/
def Link.transport (link : Link P) : Transport :=
  match link.ws with
  | some object => .websocket object
  | none => if link.useSendto then .sendto link.sendAddr else .stream

/-- All links of a session with the static `got_bad_signature` array, the
`keys.tdb` record of the port pair and the events so far. -/
structure MavState (P : Type) where
  links : Nat → Link P
  gotBadSignature : Nat → Bool
  keyRecord : Option KeyEntry
  queries : Nat
  log : List Event

namespace MavState

def note (mav : MavState P) (event : Event) : MavState P :=
  { mav with log := event :: mav.log }

def asked (mav : MavState P) : MavState P := { mav with queries := mav.queries + 1 }

def modifyLink (mav : MavState P) (chan : Nat) (change : Link P → Link P) : MavState P :=
  { mav with links := Function.update mav.links chan (change (mav.links chan)) }

def setBadSignature (mav : MavState P) (chan : Nat) (bad : Bool) : MavState P :=
  { mav with gotBadSignature := Function.update mav.gotBadSignature chan bad }

end MavState

/-- The 10 s between two saves of a signing timestamp. -/
def savePeriod : Nat := 10 * 1000000

/-- The 2 s between two signing warnings. -/
def warningPeriod : Nat := 2 * 1000000

/-- Seconds from 1970 to 2015, the epoch of signing timestamps. -/
def epochOffset : Nat := 1420070400

section Operations

variable (lib : Library P) (env : Environment)

/-- `load_key` -/
def loadKey (mav : MavState P) : Option KeyEntry × MavState P :=
  let record := env.keyRecord mav.queries mav.keyRecord
  (record, { mav.asked with keyRecord := record })

/-- `signing.timestamp` after a load: 15 s past the saved value, or the wall
clock where that is later. -/
def loadedTimestamp (saved now : Nat) : Nat :=
  let loaded := (saved + 15 * 100 * 1000) % 2 ^ 64
  let seconds := now / 1000000
  let nowMavlink := if epochOffset < seconds then (seconds - epochOffset) * 100 * 1000 else 0
  if loaded < nowMavlink then nowMavlink else loaded

/-- The members `load_signing_key` sets from a record. A zero key with a zero
timestamp disables signing. -/
def Link.loadEntry (chan : Nat) (entry : KeyEntry) (now : Nat) (link : Link P) : Link P :=
  let allZero := entry.timestamp = 0 ∧ entry.secretKey.isZero = true
  { link with
    keyLoaded := true
    signing := ⟨entry.secretKey, chan % 256, true, true⟩
    track := { link.track with timestamp := loadedTimestamp entry.timestamp now }
    statusSigning := !decide allZero }

/-- `MAVLink::load_signing_key` -/
def loadSigningKey (chan : Nat) (mav : MavState P) : MavState P :=
  match loadKey env mav with
  | (none, mav) => mav
  | (some entry, mav) =>
      (mav.asked.modifyLink chan (Link.loadEntry chan entry (env.now mav.queries))).note
        (.keyLoaded chan entry.secretKey)

/-- The signing timestamp of the wall clock in `update_signing_timestamp`. -/
def clockTimestamp (now : Nat) : Nat :=
  let seconds := now / 1000000
  (if epochOffset < seconds then seconds - epochOffset else seconds) * (100 * 1000)

/-- Raise the timestamp of a channel that signs. -/
def Link.raiseTimestamp (timestamp : Nat) (link : Link P) : Link P :=
  if link.statusSigning = true ∧ link.track.timestamp < timestamp then
    { link with track := { link.track with timestamp := timestamp } }
  else link

/-- `MAVLink::update_signing_timestamp`. The forked saver is another process: what it
stores comes back through `Environment.keyRecord`. -/
def updateSigningTimestamp (chan : Nat) (mav : MavState P) : MavState P :=
  let now := env.now mav.queries
  let mav := mav.asked
  if now < (mav.links chan).lastSigningSave + savePeriod then mav
  else
    let mav := mav.modifyLink chan fun link => { link with lastSigningSave := now }
    { mav with links := fun other =>
        if other < commNumBuffers then (mav.links other).raiseTimestamp (clockTimestamp now)
        else mav.links other }

/-- The members `init` sets. The parse state of the channel, its
`status->signing` and the object's `ws` pointer are left as they are. -/
def Link.reset (fd : Option Nat) (allowWebsocket isTcp : Bool) (keyId : Int) (link : Link P) :
    Link P :=
  { link with
    fd := fd
    keyId := keyId
    isTcp := isTcp
    gotSignedPacket := false
    keyLoaded := false
    lastSigningSave := 0
    lastSigningWarning := 0
    lastSysid := 0
    lastCompid := 0
    badSigCount := 0
    allowWebsocket := allowWebsocket
    useSendto := false
    signing := Signing.zero
    track := SigningTrack.zero }

/-- `MAVLink::init` -/
def init (chan : Nat) (fd : Option Nat) (signingRequired allowWebsocket isTcp : Bool) (keyId : Int)
    (mav : MavState P) : MavState P :=
  let mav := ((mav.modifyLink chan (Link.reset fd allowWebsocket isTcp keyId)).setBadSignature
    chan false).note (.init chan)
  if signingRequired then updateSigningTimestamp env chan (loadSigningKey env chan mav) else mav

/-- `set_ws` -/
def setWs (chan object : Nat) (mav : MavState P) : MavState P :=
  mav.modifyLink chan fun link => { link with ws := some object }

/-- `set_sendto` -/
def setSendto (chan : Nat) (peer : Peer) (mav : MavState P) : MavState P :=
  mav.modifyLink chan fun link => { link with useSendto := true, sendAddr := peer }

/-- A packet finalised on the channel of a link. -/
def Link.packed (nextSeq : UInt8) (link : Link P) : Link P :=
  { link with
    currentTxSeq := nextSeq
    track := if link.statusSigning && link.signing.signOutgoing then lib.signPacket link.track
      else link.track }

/-- `MAVLink::mav_printf`: one copy packed on `CHAN_STATUSTEXT`, one on the link's
own channel, which signs. The results of the sends are not used. -/
def mavPrintf (chan : Nat) (warning : Warning) (mav : MavState P) : MavState P :=
  let link := mav.links chan
  (mav.modifyLink chan (Link.packed lib (link.currentTxSeq + 1))).note
    (.warned chan link.transport warning)

/-- `MAVLink::periodic_warning` -/
def periodicWarning (chan : Nat) (mav : MavState P) : Bool × MavState P :=
  let now := env.now mav.queries
  let due := decide ((mav.links chan).lastSigningWarning + warningPeriod < now)
  (due, if due then mav.asked.modifyLink chan fun link => { link with lastSigningWarning := now }
    else mav.asked)

def clearSigned (chan : Nat) (mav : MavState P) : MavState P :=
  mav.modifyLink chan fun link => { link with gotSignedPacket := false }

/-- `MAVLink::handle_setup_signing` -/
def handleSetupSigning (chan : Nat) (msg : Message) (mav : MavState P) : MavState P :=
  let packet := lib.setupSigning msg
  let opened := env.dbOpens mav.queries
  let mav := mav.asked
  if !opened then mav.note (.setupFailed chan)
  else
    match loadKey env mav with
    | (none, mav) => mav.note (.setupFailed chan)
    | (some _, mav) =>
        let committed := env.dbCommits mav.queries
        let mav := mav.asked
        let mav := if committed then
            { mav with keyRecord := some ⟨packet.initialTimestamp, packet.secretKey⟩ }
          else mav
        loadSigningKey env chan (clearSigned chan mav)

/-- `accept_unsigned_callback` -/
def acceptUnsignedCallback (signing : Signing) (mav : MavState P) : MavState P :=
  if signing.linkId < commNumBuffers then mav.setBadSignature signing.linkId true else mav

/-- `mavlink_parse_char` on a channel, with the callback it may make. -/
def parseByte (chan : Nat) (byte : UInt8) (mav : MavState P) : Option Message × MavState P :=
  let link := mav.links chan
  let parsed := lib.parseChar link.parser link.signingOf link.track byte
  let mav := mav.modifyLink chan fun link =>
    { link with parser := parsed.parser, track := parsed.track }
  let mav := if parsed.calledBack then acceptUnsignedCallback link.signing mav else mav
  match parsed.frame with
  | none => (none, mav)
  | some msg =>
      let verified := link.statusSigning && lib.signatureCheck link.signing link.track msg
      (some msg, mav.note (.frame chan link.signing.secretKey verified msg))

/-- The 48-bit timestamp of a signature, `memcpy(tstamp.t8, psig + 1, 6)`. -/
def Message.signatureTimestamp (msg : Message) : Nat :=
  ((msg.signature.drop 1).take 6).foldr (fun byte rest => byte.toNat + 256 * rest) 0

/-- The two cases that count bad signatures and stay silent for the first two.
The flag says whether `receive_message` returns at once. -/
def countBadSignature (chan : Nat) (warning : Warning) (mav : MavState P) : Bool × MavState P :=
  let mav := mav.modifyLink chan fun link =>
    { link with badSigCount := (link.badSigCount + 1) % 2 ^ 32 }
  if (mav.links chan).badSigCount < 3 then (true, mav)
  else (false, mavPrintf lib chan warning mav)

/-- The switch on `signing.last_status` for a frame with a bad signature. -/
def warnBadSignature (chan : Nat) (msg : Message) (mav : MavState P) : Bool × MavState P :=
  match (mav.links chan).track.lastStatus with
  | .replay => countBadSignature lib chan .replay mav
  | .oldTimestamp =>
      let error : Int := msg.signatureTimestamp - (mav.links chan).track.timestamp
      (false, mavPrintf lib chan (.oldTimestamp error) mav)
  | .noStreams => (false, mavPrintf lib chan .noStreams mav)
  | .tooManyStreams => (false, mavPrintf lib chan .badStreams mav)
  | .badSignature | .none | .ok => countBadSignature lib chan .badKey mav

def trustLink (chan : Nat) (mav : MavState P) : MavState P :=
  mav.modifyLink chan fun link => { link with badSigCount := 0, gotSignedPacket := true }

/-- What `receive_message` does with a completed frame: true to return it. -/
def checkFrame (chan : Nat) (msg : Message) (mav : MavState P) : Bool × MavState P :=
  let link := mav.links chan
  if link.keyId = -1 then (true, mav)
  else if !link.keyLoaded then
    match periodicWarning env chan mav with
    | (true, mav) => (false, mavPrintf lib chan .needSetup mav)
    | (false, mav) => (false, mav)
  else if !msg.signed then
    match periodicWarning env chan mav with
    | (true, mav) => (false, clearSigned chan (mavPrintf lib chan .needUse mav))
    | (false, mav) => (false, clearSigned chan mav)
  else if mav.gotBadSignature chan then
    match periodicWarning env chan mav with
    | (true, mav) =>
        match warnBadSignature lib chan msg mav with
        | (true, mav) => (false, mav)
        | (false, mav) => (false, clearSigned chan mav)
    | (false, mav) => (false, clearSigned chan mav)
  else
    let mav := trustLink chan mav
    if msg.msgid = Message.setupSigning then (false, handleSetupSigning lib env chan msg mav)
    else (true, mav)

/-- The `while (len--)` loop of `receive_message`. -/
def receiveBytes (chan : Nat) :
    List UInt8 → MavState P → Option Message × List UInt8 × MavState P
  | [], mav => (none, [], mav)
  | byte :: rest, mav =>
      match parseByte lib chan byte mav with
      | (none, mav) => receiveBytes chan rest mav
      | (some msg, mav) =>
          match checkFrame lib env chan msg mav with
          | (true, mav) => (some msg, rest, mav.note (.accepted chan msg))
          | (false, mav) => (none, rest, mav)

/-- `MAVLink::receive_message`: the message for true, none for false, and what
is left of the buffer. -/
def receiveMessage (chan : Nat) (bytes : List UInt8) (mav : MavState P) :
    Option Message × List UInt8 × MavState P :=
  receiveBytes lib env chan bytes (mav.setBadSignature chan false)

/-- The TCP checks of `send_message`: some value to return at once. -/
def probeSocket (chan : Nat) (mav : MavState P) : Option Bool × MavState P :=
  if (mav.links chan).isTcp then
    if env.socketDead mav.queries then (some false, mav.asked)
    else if env.writableBytes (mav.queries + 1) < 400 then (some true, mav.asked.asked)
    else (none, mav.asked.asked)
  else (none, mav)

/-- The signing flag of a relayed message; none when an unauthenticated
engineer must not see it. -/
def markSigned (chan : Nat) (msg : Message) (mav : MavState P) : Option Message × MavState P :=
  let link := mav.links chan
  if link.keyId = -1 then
    (some { msg with incompatFlags := msg.incompatFlags &&& ~~~Message.iflagSigned }, mav)
  else if !link.gotSignedPacket && msg.msgid != Message.heartbeat then (none, mav)
  else
    let mav := if msg.msgid = Message.heartbeat then
        mav.modifyLink chan fun link =>
          { link with lastSysid := msg.sysid, lastCompid := msg.compid }
      else mav
    let mav := if link.keyLoaded then updateSigningTimestamp env chan mav else mav
    (some { msg with incompatFlags := msg.incompatFlags ||| Message.iflagSigned }, mav)

/-- Finalise on the channel and hand the bytes to the transport. -/
def transmit (chan : Nat) (msg marked : Message) (mav : MavState P) : Bool × MavState P :=
  let minLen := lib.minLength marked.msgid
  let maxLen := lib.maxLength marked.msgid
  if minLen = 0 ∧ maxLen = 0 then (false, mav)
  else
    let link := mav.links chan
    let signs := link.statusSigning && link.signing.signOutgoing
    let buffer := lib.sendBuffer marked msg.seq
      (if signs then some (link.signing, link.track) else none) minLen maxLen
      (lib.crcExtra marked.msgid)
    let mav := mav.modifyLink chan (Link.packed lib (msg.seq + 1))
    if buffer = [] then (false, mav)
    else
      (decide (env.sendReturn mav.queries buffer.length = buffer.length),
        mav.asked.note (.sent chan link.transport msg))

/-- `MAVLink::send_message` -/
def sendMessage (chan : Nat) (msg : Message) (mav : MavState P) : Bool × MavState P :=
  match probeSocket env chan mav with
  | (some result, mav) => (result, mav)
  | (none, mav) =>
      match markSigned env chan msg mav with
      | (none, mav) => (true, mav)
      | (some marked, mav) => transmit lib env chan msg marked mav

end Operations

end SupportProxy
