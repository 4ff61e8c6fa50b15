import SupportProxy.Mavlink.Link
import SupportProxy.Binlog.Writer

/-! # The state of a session

The locals of `main_loop` in `supportproxy.cpp`: the user link, the table `conn2`
of engineer slots with its two 8-bit counters, and the operations that take and
free a slot. A file descriptor or object pointer is none where the source has -1
or a null pointer. -/

namespace SupportProxy

/-- The members of `listen_port` that stay fixed while a session runs, with
`session_n` and the process id. -/
structure PortPair where
  port2 : Int
  bidi : Bool
  tlogEnabled : Bool
  binlogEnabled : Bool
  fcSysid : UInt8
  sessionN : Nat
  pid : Nat

/-- `class Connection2`, its `mav` apart. -/
structure Connection2 where
  sock : Option Nat
  used : Bool
  tcpActive : Bool
  ws : Option Nat
  /-- `ws->is_SSL()` -/
  wsIsSSL : Bool
  peer : Peer
  isUdp : Bool
  lastPkt : Nat
  connectedAt : Nat
  rxMsgs : Nat
  txMsgs : Nat

/-- A `Connection2` as constructed. -/
def Connection2.fresh : Connection2 :=
  ⟨none, false, false, none, false, ⟨0, 0⟩, false, 0, 0, 0, 0⟩

/-- `Connection2::close` -/
def Connection2.close (slot : Connection2) : Connection2 :=
  { slot with
    sock := none
    tcpActive := false
    used := false
    ws := none
    connectedAt := 0
    rxMsgs := 0
    txMsgs := 0 }

/-- The slot of a new UDP engineer. -/
def Connection2.takeUdp (peer : Peer) (now wallClock : Nat) (slot : Connection2) : Connection2 :=
  { slot with
    peer := peer
    tcpActive := true
    sock := none
    isUdp := true
    used := true
    lastPkt := now
    connectedAt := wallClock
    rxMsgs := 0
    txMsgs := 0 }

/-- The slot of an accepted TCP engineer. -/
def Connection2.takeTcp (fd : Nat) (peer : Peer) (wallClock : Nat) (slot : Connection2) :
    Connection2 :=
  { slot with
    sock := some fd
    tcpActive := false
    used := true
    isUdp := false
    peer := peer
    connectedAt := wallClock
    rxMsgs := 0
    txMsgs := 0 }

structure LoopState (P : Type) where
  /-- the links: `mav1` on channel 0, `conn2[i].mav` on channel `2 + i` -/
  mav : MavState P
  conn2 : Nat → Connection2
  conn2Count : Nat
  maxConn2Count : Nat
  haveConn1 : Bool
  lastPkt1 : Nat
  count1 : Nat
  count2 : Nat
  sock1Udp : Option Nat
  sock2Udp : Option Nat
  sock1Tcp : Option Nat
  sock2Listen : Option Nat
  /-- `p->ws`, with `is_SSL()` -/
  userWs : Option Nat
  userWsIsSSL : Bool
  mav1Peer : Peer
  mav1ConnectedAt : Nat
  mav1RxMsgs : Nat
  mav1TxMsgs : Nat
  mav1IsTcp : Bool
  lastConnSave : Nat
  binlog : BinlogWriter

/-- `++` and `--` on `uint8_t`, and `++` on `uint32_t`. -/
def inc8 (count : Nat) : Nat := (count + 1) % 256

def dec8 (count : Nat) : Nat := (count + 255) % 256

def inc32 (count : Nat) : Nat := (count + 1) % 2 ^ 32

variable {P : Type}

/-- A link before its first `init`. Its `ws` member has no initialiser, so its
content is what the memory held. -/
def Link.uninitialised (lib : Library P) (memory : Option Nat) : Link P where
  fd := none
  keyId := 0
  isTcp := false
  keyLoaded := false
  gotSignedPacket := false
  allowWebsocket := false
  useSendto := false
  sendAddr := ⟨0, 0⟩
  signing := Signing.zero
  track := SigningTrack.zero
  lastSigningSave := 0
  lastSigningWarning := 0
  lastSysid := 0
  lastCompid := 0
  badSigCount := 0
  ws := memory
  parser := lib.parser
  statusSigning := false
  currentTxSeq := 0

/-- The state at the first iteration of a session; `sockets` are the four
descriptors inherited from the parent. -/
def LoopState.initial (lib : Library P) (pair : PortPair) (memory : Nat → Option Nat)
    (record : Option KeyEntry) (sockets : Option Nat × Option Nat × Option Nat × Option Nat) :
    LoopState P where
  mav := ⟨fun chan => Link.uninitialised lib (memory chan), fun _ => false, record, 0, []⟩
  conn2 := fun _ => Connection2.fresh
  conn2Count := 0
  maxConn2Count := 0
  haveConn1 := false
  lastPkt1 := 0
  count1 := 0
  count2 := 0
  sock1Udp := sockets.1
  sock2Udp := sockets.2.1
  sock1Tcp := sockets.2.2.1
  sock2Listen := sockets.2.2.2
  userWs := none
  userWsIsSSL := false
  mav1Peer := ⟨0, 0⟩
  mav1ConnectedAt := 0
  mav1RxMsgs := 0
  mav1TxMsgs := 0
  mav1IsTcp := false
  lastConnSave := 0
  binlog := BinlogWriter.initial (if pair.binlogEnabled then pair.fcSysid else 0)

namespace LoopState

def note (state : LoopState P) (event : Event) : LoopState P :=
  { state with mav := state.mav.note event }

def modifySlot (state : LoopState P) (slot : Nat) (change : Connection2 → Connection2) :
    LoopState P :=
  { state with conn2 := Function.update state.conn2 slot (change (state.conn2 slot)) }

/-- The end-of-file and failed-send code: close the slot, lower
`max_conn2_count` when it equals `conn2_count`, lower `conn2_count`. -/
def closeCounted (reason : CloseReason) (slot : Nat) (state : LoopState P) : LoopState P :=
  let closed := state.modifySlot slot Connection2.close
  { closed with
    maxConn2Count :=
      if state.conn2Count = state.maxConn2Count then dec8 state.maxConn2Count
      else state.maxConn2Count
    conn2Count := dec8 state.conn2Count }.note (.closed slot reason)

/-- The code of `process_drops` for one used engineer slot, which lowers
`max_conn2_count` when the slot is the last one. -/
def closeDropped (slot : Nat) (state : LoopState P) : LoopState P :=
  let closed := state.modifySlot slot Connection2.close
  { closed with
    conn2Count := if 0 < state.conn2Count then dec8 state.conn2Count else state.conn2Count
    maxConn2Count :=
      if 0 < state.maxConn2Count ∧ slot + 1 = state.maxConn2Count then dec8 state.maxConn2Count
      else state.maxConn2Count }.note (.closed slot .dropped)

/-- The sweep of silent UDP engineers closes the slot and no more. -/
def closeDead (slot : Nat) (state : LoopState P) : LoopState P :=
  (state.modifySlot slot Connection2.close).note (.closed slot .dead)

/-- `conn2_count++; max_conn2_count = MAX(max_conn2_count, conn2_count)` -/
def countOpened (slot : Nat) (udp : Bool) (state : LoopState P) : LoopState P :=
  { state with
    conn2Count := inc8 state.conn2Count
    maxConn2Count := max state.maxConn2Count (inc8 state.conn2Count) }.note (.opened slot udp)

def withMav (state : LoopState P) (mav : MavState P) : LoopState P := { state with mav := mav }

/-- `last_conn_save = 0`: the next snapshot is due at once. -/
def askSnapshot (state : LoopState P) : LoopState P := { state with lastConnSave := 0 }

@[simp] theorem withMav_conn2 (state : LoopState P) (mav : MavState P) :
    (state.withMav mav).conn2 = state.conn2 := rfl

@[simp] theorem withMav_mav (state : LoopState P) (mav : MavState P) :
    (state.withMav mav).mav = mav := rfl

@[simp] theorem askSnapshot_conn2 (state : LoopState P) : state.askSnapshot.conn2 = state.conn2 :=
  rfl

@[simp] theorem askSnapshot_mav (state : LoopState P) : state.askSnapshot.mav = state.mav := rfl

/-- `mav.init` of a new engineer, with the request for a snapshot. -/
def startLink (env : Environment) (pair : PortPair) (slot : Nat) (fd : Option Nat)
    (allowWebsocket isTcp : Bool) (state : LoopState P) : LoopState P :=
  (state.withMav
    (init env (chanComm2 slot) fd true allowWebsocket isTcp pair.port2 state.mav)).askSnapshot

/-- `mav.set_sendto` -/
def directLink (slot : Nat) (peer : Peer) (state : LoopState P) : LoopState P :=
  state.withMav (setSendto (chanComm2 slot) peer state.mav)

/-- A slot for a UDP engineer seen for the first time. -/
def openUdp (env : Environment) (pair : PortPair) (slot : Nat) (peer : Peer) (now wallClock : Nat)
    (state : LoopState P) : LoopState P :=
  (((state.modifySlot slot (Connection2.takeUdp peer now wallClock)).countOpened slot
    true).startLink env pair slot state.sock2Udp false false).directLink slot peer

/-- A slot for an accepted TCP engineer. -/
def openTcp (env : Environment) (pair : PortPair) (slot fd : Nat) (peer : Peer) (wallClock : Nat)
    (state : LoopState P) : LoopState P :=
  ((state.modifySlot slot (Connection2.takeTcp fd peer wallClock)).countOpened slot
    false).startLink env pair slot (some fd) true true

/-- The WebSocket object of a TCP engineer, with `set_ws`. -/
def openWebsocket (slot object : Nat) (isSSL : Bool) (state : LoopState P) : LoopState P :=
  ((state.modifySlot slot fun conn => { conn with ws := some object, wsIsSSL := isSSL }).withMav
    (setWs (chanComm2 slot) object state.mav)).note (.websocket slot object)

/-- The first slot that is not used, by the two scans over `conn2`. -/
def freeSlot (state : LoopState P) : Option Nat :=
  (List.range maxComm2Links).find? fun slot => !(state.conn2 slot).used

end LoopState

end SupportProxy
