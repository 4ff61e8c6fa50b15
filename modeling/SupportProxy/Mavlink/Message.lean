import SupportProxy.Library.Padding
import Mathlib.Data.Vector.Basic

/-! # MAVLink messages and the generated library

The generated MAVLink headers are not part of the repository. `Library` is the
interface the proxy uses of them; the assumptions made about it are stated as
separate propositions beside it. -/

namespace SupportProxy

/-- The members of `mavlink_message_t` that the proxy reads or relays. -/
structure Message where
  msgid : Nat
  sysid : UInt8
  compid : UInt8
  seq : UInt8
  incompatFlags : BitVec 8
  payload : List UInt8
  signature : List UInt8
deriving DecidableEq

namespace Message

/-- `MAVLINK_IFLAG_SIGNED` -/
def iflagSigned : BitVec 8 := 0x01

/-- `(msg.incompat_flags & MAVLINK_IFLAG_SIGNED) != 0` -/
def signed (msg : Message) : Bool := msg.incompatFlags &&& iflagSigned != 0

/-- `MAVLINK_MSG_ID_HEARTBEAT` -/
def heartbeat : Nat := 0

/-- `MAVLINK_MSG_ID_SYSTEM_TIME` -/
def systemTime : Nat := 2

/-- `MAVLINK_MSG_ID_REMOTE_LOG_DATA_BLOCK` -/
def remoteLogDataBlock : Nat := 184

/-- `MAVLINK_MSG_ID_REMOTE_LOG_BLOCK_STATUS` -/
def remoteLogBlockStatus : Nat := 185

/-- `MAVLINK_MSG_ID_SETUP_SIGNING` -/
def setupSigning : Nat := 256

end Message

/-- The payload that `mavlink_finalize_message_buffer` keeps. The parser has filled
the received payload with zeros up to the known length. -/
def Message.trimPayload (maxLen : Nat) (msg : Message) : List UInt8 :=
  Padding.trim 0 ((Padding.fill 0 maxLen msg.payload).take maxLen)

abbrev SecretKey := Vector UInt8 32

/-- `secret_key[i] == 0` for every `i` -/
def SecretKey.isZero (key : SecretKey) : Bool := key.toList.all fun byte => byte == 0

/-- The members of `mavlink_setup_signing_t` the proxy uses. -/
structure SetupSigning where
  initialTimestamp : Nat
  secretKey : SecretKey

/-- The members of `mavlink_remote_log_data_block_t` the proxy uses. -/
structure DataBlock where
  seqno : Nat
  seqno_lt : seqno < 2 ^ 32
  data : Vector UInt8 200
deriving DecidableEq

/-- Seqno 0 fits in a block. -/
theorem DataBlock.zero_lt : 0 < 2 ^ 32 := by decide

/-- Seqno 1 fits in a block. -/
theorem DataBlock.one_lt : 1 < 2 ^ 32 := by decide

/-- `mavlink_signing_status_t` -/
inductive SigningStatus
  | none | ok | badSignature | noStreams | tooManyStreams | oldTimestamp | replay
deriving DecidableEq

/-- An entry of `mavlink_signing_streams_t`. -/
structure SigningStream where
  linkId : UInt8
  sysid : UInt8
  compid : UInt8
  timestamp : Nat
deriving DecidableEq

/-- The members of `mavlink_signing_t` that only the proxy writes. -/
structure Signing where
  secretKey : SecretKey
  linkId : Nat
  signOutgoing : Bool
  /-- `accept_unsigned_callback != nullptr` -/
  acceptUnsigned : Bool

/-- The members of `mavlink_signing_t` that the library writes too, with the
stream table of the same channel. -/
structure SigningTrack where
  timestamp : Nat
  lastStatus : SigningStatus
  streams : List SigningStream

/-- What one call of `mavlink_parse_char` leaves. -/
structure Parsed (P : Type) where
  parser : P
  track : SigningTrack
  frame : Option Message
  /-- `accept_unsigned_callback` was called during the call -/
  calledBack : Bool

/-- The generated MAVLink library; `P` is the parse state of a channel. -/
structure Library (P : Type) where
  parser : P
  /-- `mavlink_parse_char`; the signing argument is `*status->signing`, or none
  for a null pointer -/
  parseChar : P → Option Signing → SigningTrack → UInt8 → Parsed P
  /-- `mavlink_signature_check` -/
  signatureCheck : Signing → SigningTrack → Message → Bool
  /-- what signing an outgoing packet does to the signing members -/
  signPacket : SigningTrack → SigningTrack
  /-- `mavlink_min_message_length` and `mavlink_max_message_length` by message id -/
  minLength : Nat → Nat
  maxLength : Nat → Nat
  /-- `mavlink_get_crc_extra` by message id -/
  crcExtra : Nat → Nat
  /-- `mavlink_finalize_message_buffer` followed by `mavlink_msg_to_send_buffer`, with the
  transmit sequence number, the signing members when the packet is to be signed, and the
  minimum length, maximum length and `crc_extra` -/
  sendBuffer : Message → UInt8 → Option (Signing × SigningTrack) → Nat → Nat → Nat → List UInt8
  /-- `mavlink_msg_setup_signing_decode` -/
  setupSigning : Message → SetupSigning
  /-- `mavlink_msg_remote_log_data_block_decode` -/
  dataBlock : Message → DataBlock
  /-- `time_boot_ms` of `mavlink_msg_system_time_decode` -/
  timeBootMs : Message → Nat

variable {P : Type}

/-- The callback is called for every completed frame that is unsigned or fails
the signature check. -/
def Library.CallsBack (lib : Library P) : Prop :=
  ∀ parser signing track byte msg, signing.acceptUnsigned = true →
    (lib.parseChar parser (some signing) track byte).frame = some msg →
      (msg.signed = false ∨ lib.signatureCheck signing track msg = false) →
        (lib.parseChar parser (some signing) track byte).calledBack = true

end SupportProxy
