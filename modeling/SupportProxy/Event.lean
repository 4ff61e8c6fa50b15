import SupportProxy.Mavlink.Message

/-! # Observable events of a session

One forked child serves one port pair. The events below are what a session does,
in the order it does it; a session keeps them newest first. Channels are
numbered as in `mavlink_msgs.h`: 0 is `CHAN_COMM1`, 1 is `CHAN_STATUSTEXT`, and
`2 + i` is `CHAN_COMM2(i)`. -/

namespace SupportProxy

/-- `MAX_COMM2_LINKS` -/
def maxComm2Links : Nat := 100

/-- `MAVLINK_COMM_NUM_BUFFERS` -/
def commNumBuffers : Nat := maxComm2Links + 2

/-- `CHAN_COMM1` -/
def chanComm1 : Nat := 0

/-- `CHAN_COMM2(i)` -/
def chanComm2 (slot : Nat) : Nat := 2 + slot

/-- Different slots have different links. -/
theorem chanComm2_ne {slot other : Nat} (different : other ≠ slot) :
    chanComm2 other ≠ chanComm2 slot := by
  rw [chanComm2, chanComm2]
  omega

/-- No slot's link is the user's. -/
theorem chanComm2_ne_comm1 (slot : Nat) : chanComm2 slot ≠ chanComm1 := by
  rw [chanComm2, chanComm1]
  omega

/-- `struct sockaddr_in`: `sin_addr.s_addr` and `sin_port` in network order. -/
structure Peer where
  addr : Nat
  port : Nat
deriving DecidableEq

/-- How `MAVLink::send_data` reaches the peer. A WebSocket is named by the
address of its object. -/
inductive Transport
  | websocket (object : Nat)
  | sendto (peer : Peer)
  | stream
deriving DecidableEq

/-- The STATUSTEXT messages of `receive_message`. -/
inductive Warning
  /-- "Need to setup support signing key" -/
  | needSetup
  /-- "Need to use support signing key" -/
  | needUse
  /-- "Bad support signing key" -/
  | badKey
  /-- "Bad signing timestamp - replay" -/
  | replay
  /-- "Bad signing timestamp - old timestamp (%.2fs)", the argument in units of 10 µs -/
  | oldTimestamp (error : Int)
  /-- "Bad signing timestamp - no streams" -/
  | noStreams
  /-- "Bad signing timestamp - bad streams" -/
  | badStreams
deriving DecidableEq

/-- `CONN_TRANSPORT_*` -/
inductive ConnTransport
  | udp | tcp | ws | wss
deriving DecidableEq

/-- `struct ConnEntry`, less its magic and padding. -/
structure ConnEntry where
  connectedAt : Nat
  lastUpdate : Nat
  connIndex : Nat
  pid : Nat
  rxMsgs : Nat
  txMsgs : Nat
  peer : Peer
  transport : ConnTransport
  isUser : Bool
  flags : BitVec 32
deriving DecidableEq

/-- The code that frees an engineer slot. -/
inductive CloseReason
  /-- end of file or a receive error in the TCP engineer loop -/
  | eof
  /-- `send_message` failed in a user fan-out -/
  | sendFailed
  /-- the sweep of silent UDP engineers -/
  | dead
  /-- `process_drops` -/
  | dropped
deriving DecidableEq

inductive Event
  /-- `MAVLink::init` on a channel -/
  | init (chan : Nat)
  /-- `load_signing_key` found the record; the key it copied -/
  | keyLoaded (chan : Nat) (key : SecretKey)
  /-- `mavlink_parse_char` completed a frame on a channel; the key in the link's signing
  struct and the verdict of the signature check under it -/
  | frame (chan : Nat) (key : SecretKey) (verified : Bool) (msg : Message)
  /-- a verified SETUP_SIGNING whose transaction or record could not be opened -/
  | setupFailed (chan : Nat)
  /-- `receive_message` returned true -/
  | accepted (chan : Nat) (msg : Message)
  /-- `mav_printf` to the peer of a channel -/
  | warned (chan : Nat) (transport : Transport) (warning : Warning)
  /-- `send_message` handed a relayed message to the transport -/
  | sent (chan : Nat) (transport : Transport) (msg : Message)
  /-- binlog bytes handed to the transport by `send_buf` -/
  | sentStatus (chan : Nat) (transport : Transport) (seqno : Nat) (ack : Bool)
  /-- `mav1.send_message` was called for a message of an engineer slot -/
  | toUser (slot : Nat) (msg : Message)
  /-- a slot was taken by a new engineer connection -/
  | opened (slot : Nat) (udp : Bool)
  /-- a slot was freed -/
  | closed (slot : Nat) (reason : CloseReason)
  /-- a WebSocket object was made for a slot -/
  | websocket (slot : Nat) (object : Nat)
  /-- a TCP engineer was turned away -/
  | refused
  /-- a loop over `max_conn2_count` ran past the end of `conn2` -/
  | overrun
  /-- the branch `max_conn2_count > MAX_COMM2_LINKS`, which exits the process -/
  | bugExit
  /-- a record handed to the tlog writer -/
  | tlog (msg : Message)
  /-- a snapshot of the live connections handed to a forked writer -/
  | snapshot (records : List ConnEntry)
deriving DecidableEq

end SupportProxy
