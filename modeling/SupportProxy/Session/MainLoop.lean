import SupportProxy.Session.State

/-! # The main loop of a session

`main_loop` of `supportproxy.cpp`, one iteration at a time. A `Wakeup` holds what
the system calls in the body of one iteration return. Every block of the loop
body is a function of its own, and `iterate` runs them in the order of the
source. -/

namespace SupportProxy

/-- The result of `select`. -/
inductive SelectResult
  | ready | interrupted | failed
deriving DecidableEq

/-- What a readable TCP peer yields: whether `WebSocket::detect` holds, the
object `new WebSocket` returns, and the result of the receive, none for an
error. -/
structure Readable where
  detected : Bool
  object : Nat
  isSSL : Bool
  received : Option (List UInt8)

structure Wakeup where
  /-- `g_drops_pending`, and the flagged indices `process_drops` collects; none when the
  database does not open -/
  dropsPending : Bool
  flagged : Option (List Nat)
  /-- `time_seconds()` before and after `select`, and before the snapshot -/
  top : Nat
  now : Nat
  snapshotNow : Nat
  /-- `time(nullptr)` -/
  wallClock : Nat
  select : SelectResult
  /-- readiness of each socket with the outcome of reading it -/
  userDatagram : Option (Option (Peer × List UInt8))
  userConnects : Bool
  engineerDatagram : Option (Option (Peer × List UInt8))
  userTcpReady : Bool
  userAccept : Option (Nat × Peer)
  userReadable : Readable
  engineerAccept : Option (Option (Nat × Peer))
  engineerReadable : Nat → Option Readable
  /-- answers for the binlog writer -/
  blockIo : Nat → BlockIo
  nextSessionN : Nat → Nat
  tickIo : TickIo

/-- How a block of the loop body ends: fall through, `continue`, or leave the
loop. In a `for` loop over the slots, `again` is a `break`. -/
inductive Flow
  | next | again | stop
deriving DecidableEq

variable {P : Type}

/-- Blocks of code one after the other. -/
def runBlocks : List (LoopState P → Flow × LoopState P) → LoopState P → Flow × LoopState P
  | [], state => (.next, state)
  | block :: rest, state =>
      match block state with
      | (.next, state) => runBlocks rest state
      | (.again, state) => (.again, state)
      | (.stop, state) => (.stop, state)

/-- `for (uint8_t i=0; i<max_conn2_count; i++)` over `conn2[i]`, the bound read
anew each time. Reaching `conn2[MAX_COMM2_LINKS]` is undefined behaviour and
ends the modelled run. -/
def forSlots (body : Nat → LoopState P → Flow × LoopState P) :
    Nat → Nat → LoopState P → Flow × LoopState P
  | 0, _, state => (.next, state)
  | fuel + 1, slot, state =>
      if slot < state.maxConn2Count then
        if slot < maxComm2Links then
          match body slot state with
          | (.next, state) => forSlots body fuel (slot + 1) state
          | (.again, state) => (.next, state)
          | (.stop, state) => (.stop, state)
        else (.stop, state.note .overrun)
      else (.next, state)

/-- The loop from slot 0; `max_conn2_count` is below 256. -/
def eachSlot (body : Nat → LoopState P → Flow × LoopState P) (state : LoopState P) :
    Flow × LoopState P :=
  forSlots body 256 0 state

/-- The 10 s after which a silent user or UDP engineer is given up. -/
def silencePeriod : Nat := 10 * 1000000

/-- The 5 s between two heartbeat snapshots. -/
def snapshotPeriod : Nat := 5 * 1000000

section Blocks

variable (lib : Library P) (env : Environment) (pair : PortPair) (wake : Wakeup)

/-- Close the slot of one flagged index, when it is an engineer's. -/
def dropSlot (state : LoopState P) (index : Nat) : LoopState P :=
  if 1 ≤ index ∧ index ≤ maxComm2Links ∧ (state.conn2 (index - 1)).used = true then
    state.closeDropped (index - 1)
  else state

/-- `process_drops` at the top of the loop; index 0 ends the session. -/
def processDrops (state : LoopState P) : Flow × LoopState P :=
  if wake.dropsPending then
    match wake.flagged with
    | none => (.next, state)
    | some indices =>
        (if 0 ∈ indices then .stop else .next, indices.foldl dropSlot state)
  else (.next, state)

/-- The user has been silent for more than 10 s. -/
def checkUser (state : LoopState P) : Flow × LoopState P :=
  if state.haveConn1 = true ∧ state.lastPkt1 + silencePeriod < wake.top then (.stop, state)
  else (.next, state)

/-- The select set over the slots. -/
def watchSlots (state : LoopState P) : Flow × LoopState P :=
  eachSlot (fun _ state => (.next, state)) state

/-- `select` and the BUG check. -/
def selectSockets (state : LoopState P) : Flow × LoopState P :=
  match wake.select with
  | .interrupted => (.again, state)
  | .failed => (.stop, state)
  | .ready =>
      if maxComm2Links < state.maxConn2Count then (.stop, state.note .bugExit) else (.next, state)

/-- The sweep of silent UDP engineers. -/
def sweepDeadUdp (state : LoopState P) : Flow × LoopState P :=
  eachSlot (fun slot state =>
    let conn := state.conn2 slot
    if conn.used = true ∧ conn.isUdp = true ∧ conn.lastPkt + silencePeriod < wake.now then
      (.next, state.closeDead slot)
    else (.next, state)) state

/-- `ensure_tlog_open` and `tlog_write_message` -/
def writeTlog (msg : Message) (state : LoopState P) : LoopState P :=
  if pair.tlogEnabled then state.note (.tlog msg) else state

/-- `binlog_handle_user_msg`: true when the message is stripped. -/
def binlogHandleUserMsg (msg : Message) (state : LoopState P) : Bool × LoopState P :=
  if !pair.binlogEnabled then (false, state)
  else
    let observed := state.binlog.observe (wake.nextSessionN state.mav.queries) msg
      (lib.timeBootMs msg)
    if msg.msgid = Message.remoteLogDataBlock then
      (true, { state with
        binlog := (observed.handleBlock (pair.port2 % 2 ^ 32).toNat pair.sessionN
          (wake.blockIo state.mav.queries) msg.sysid msg.compid (lib.dataBlock msg)).2
        mav := state.mav.asked })
    else
      (decide (msg.msgid = Message.remoteLogBlockStatus),
        { state with binlog := observed, mav := state.mav.asked })

def sendToSlot (slot : Nat) (msg : Message) (state : LoopState P) : Bool × LoopState P :=
  let (sent, mav) := sendMessage lib env (chanComm2 slot) msg state.mav
  (sent, { state with mav := mav })

def countTx (slot : Nat) (state : LoopState P) : LoopState P :=
  state.modifySlot slot fun conn => { conn with txMsgs := inc32 conn.txMsgs }

/-- The fan-out of the UDP user handler for one slot. -/
def fanOutUdp (msg : Message) (slot : Nat) (state : LoopState P) : Flow × LoopState P :=
  let conn := state.conn2 slot
  if !conn.used then (.next, state)
  else if !conn.isUdp && conn.sock.isSome then
    match sendToSlot lib env slot msg state with
    | (false, state) => (.next, state.closeCounted .sendFailed slot)
    | (true, state) => (.next, countTx slot state)
  else if conn.isUdp then (.next, countTx slot (sendToSlot lib env slot msg state).2)
  else (.next, state)

/-- The fan-out of the TCP user handler for one slot. -/
def fanOutTcp (msg : Message) (slot : Nat) (state : LoopState P) : Flow × LoopState P :=
  if !(state.conn2 slot).used then (.next, state)
  else
    match sendToSlot lib env slot msg state with
    | (false, state) => (.next, state.closeCounted .sendFailed slot)
    | (true, state) => (.next, countTx slot state)

/-- The body of the user parse loops, with the fan-out of the handler. -/
def relayToEngineers (fanOut : Message → Nat → LoopState P → Flow × LoopState P) (msg : Message)
    (state : LoopState P) : Flow × LoopState P :=
  let state := writeTlog pair msg { state with mav1RxMsgs := inc32 state.mav1RxMsgs }
  match binlogHandleUserMsg lib pair wake msg state with
  | (true, state) => (.next, state)
  | (false, state) => eachSlot (fanOut msg) state

/-- The bookkeeping of an engineer's message on its way to the user. -/
def noteRelay (slot : Nat) (msg : Message) (state : LoopState P) : LoopState P :=
  (writeTlog pair msg (state.modifySlot slot fun conn =>
    { conn with rxMsgs := inc32 conn.rxMsgs })).note (.toUser slot msg)

/-- The body of the engineer parse loops: forward to the user. `again` is a
failed send. -/
def relayToUser (slot : Nat) (msg : Message) (state : LoopState P) : Flow × LoopState P :=
  let state := noteRelay pair slot msg state
  match sendMessage lib env chanComm1 msg state.mav with
  | (false, mav) => (.again, { state with mav := mav })
  | (true, mav) => (.next, { state with mav := mav, mav1TxMsgs := inc32 state.mav1TxMsgs })

/-- `while (n > 0 && receive_message(buf0, n, msg))`, for at most `fuel` messages. -/
def parseMessages (chan : Nat) (handle : Message → LoopState P → Flow × LoopState P) :
    Nat → List UInt8 → LoopState P → Flow × LoopState P
  | 0, _, state => (.next, state)
  | fuel + 1, bytes, state =>
      if bytes = [] then (.next, state)
      else
        match receiveMessage lib env chan bytes state.mav with
        | (none, _, mav) => (.next, { state with mav := mav })
        | (some msg, rest, mav) =>
            match handle msg { state with mav := mav } with
            | (.next, state) => parseMessages chan handle fuel rest state
            | (.again, state) => (.again, state)
            | (.stop, state) => (.stop, state)

/-- Every message takes at least a byte, so the length of the buffer is enough. -/
def parseBuffer (chan : Nat) (handle : Message → LoopState P → Flow × LoopState P)
    (bytes : List UInt8) (state : LoopState P) : Flow × LoopState P :=
  parseMessages lib env chan handle bytes.length bytes state

/-- User bytes are parsed when there is anywhere for them to go. -/
def userBytes (fanOut : Message → Nat → LoopState P → Flow × LoopState P) (bytes : List UInt8)
    (state : LoopState P) : Flow × LoopState P :=
  if 0 < state.conn2Count ∨ pair.binlogEnabled = true ∨ pair.tlogEnabled = true then
    parseBuffer lib env chanComm1 (relayToEngineers lib pair wake fanOut) bytes state
  else (.next, state)

/-- The user's key id: none unless the pair signs both ways. -/
def conn1KeyId : Int := if pair.bidi then pair.port2 else -1

/-- A first packet or an accept from the user. -/
def openUser (fd : Option Nat) (peer : Peer) (isTcp : Bool) (state : LoopState P) : LoopState P :=
  { state with
    mav := init env chanComm1 fd pair.bidi false isTcp (conn1KeyId pair) state.mav
    haveConn1 := true
    mav1Peer := peer
    mav1ConnectedAt := wake.wallClock
    mav1IsTcp := isTcp
    lastConnSave := 0 }

/-- UDP user data. -/
def userUdp (state : LoopState P) : Flow × LoopState P :=
  match state.sock1Udp, wake.userDatagram with
  | some _, some datagram =>
      let state := { state with sock1Tcp := none }
      match datagram with
      | none => (.stop, state)
      | some (peer, bytes) =>
          let state := { state with lastPkt1 := wake.now, count1 := inc32 state.count1 }
          if state.haveConn1 then
            userBytes lib env pair wake (fanOutUdp lib env) bytes state
          else if wake.userConnects then
            userBytes lib env pair wake (fanOutUdp lib env) bytes
              (openUser env pair wake state.sock1Udp peer false state)
          else (.stop, state)
  | _, _ => (.next, state)

/-- The search for the slot of a known UDP engineer. -/
def udpSlot (peer : Peer) (state : LoopState P) : Option Nat :=
  (List.range (min state.maxConn2Count maxComm2Links)).find? fun slot =>
    (state.conn2 slot).used && (state.conn2 slot).isUdp && decide ((state.conn2 slot).peer = peer)

/-- An engineer's bytes on one slot, when there is a user to forward to. -/
def engineerBytes (slot : Nat) (bytes : List UInt8) (state : LoopState P) : Flow × LoopState P :=
  if state.haveConn1 then
    parseBuffer lib env (chanComm2 slot) (relayToUser lib env pair slot) bytes state
  else (.next, state)

/-- An engineer's datagram on its slot. A failed send to the user leaves the
main loop. -/
def engineerDatagram (slot : Nat) (bytes : List UInt8) (state : LoopState P) :
    Flow × LoopState P :=
  match engineerBytes lib env pair slot bytes state with
  | (.next, state) => (.next, state)
  | (_, state) => (.stop, state)

/-- A datagram goes to its engineer's slot, or to a free one. -/
def engineerPacket (peer : Peer) (bytes : List UInt8) (state : LoopState P) : Flow × LoopState P :=
  match udpSlot peer state with
  | some slot =>
      engineerDatagram lib env pair slot bytes
        (state.modifySlot slot fun conn => { conn with lastPkt := wake.now })
  | none =>
      if maxComm2Links < state.maxConn2Count then (.stop, state.note .overrun)
      else
        match state.freeSlot with
        | none => (.next, state)
        | some slot =>
            engineerDatagram lib env pair slot bytes
              (state.openUdp env pair slot peer wake.now wake.wallClock)

/-- UDP engineer data. -/
def engineerUdp (state : LoopState P) : Flow × LoopState P :=
  match state.sock2Udp, wake.engineerDatagram with
  | some _, some none => (.stop, state)
  | some _, some (some (peer, bytes)) =>
      engineerPacket lib env pair wake peer bytes { state with count2 := inc32 state.count2 }
  | _, _ => (.next, state)

/-- A new TCP user. -/
def userTcpAccept (state : LoopState P) : Flow × LoopState P :=
  if state.haveConn1 = false ∧ state.sock1Tcp.isSome ∧ wake.userTcpReady = true then
    let state := { state with sock1Udp := none }
    match wake.userAccept with
    | none => (.stop, state)
    | some (fd, peer) =>
        let opened := openUser env pair wake (some fd) peer true { state with sock1Tcp := some fd }
        (.again, { opened with lastPkt1 := wake.now })
  else (.next, state)

/-- `p->ws = new WebSocket(p->sock1_tcp)`, with `set_ws`. -/
def openUserWebsocket (state : LoopState P) : LoopState P :=
  if state.count1 = 0 ∧ wake.userReadable.detected = true then
    { state with
      userWs := some wake.userReadable.object
      userWsIsSSL := wake.userReadable.isSSL
      mav := setWs chanComm1 wake.userReadable.object state.mav }
  else state

/-- TCP user data. -/
def userTcpData (state : LoopState P) : Flow × LoopState P :=
  if state.sock1Tcp.isSome ∧ wake.userTcpReady = true then
    let state := openUserWebsocket wake { state with sock1Udp := none }
    match wake.userReadable.received with
    | none => (.stop, state)
    | some bytes =>
        if state.userWs.isNone ∧ bytes = [] then (.stop, state)
        else
          userBytes lib env pair wake (fanOutTcp lib env) bytes
            { state with lastPkt1 := wake.now, count1 := inc32 state.count1 }
  else (.next, state)

/-- A new TCP engineer. -/
def engineerTcpAccept (state : LoopState P) : Flow × LoopState P :=
  match state.sock2Listen, wake.engineerAccept with
  | some _, some none => (.again, state)
  | some _, some (some (fd, peer)) =>
      if maxComm2Links ≤ state.conn2Count then (.again, state.note .refused)
      else
        match state.freeSlot with
        | none => (.again, state.note .refused)
        | some slot => (.again, state.openTcp env pair slot fd peer wake.wallClock)
  | _, _ => (.next, state)

/-- The data of one TCP engineer. A failed send to the user leaves the loop
over the slots only. -/
def engineerTcpSlot (slot : Nat) (state : LoopState P) : Flow × LoopState P :=
  let conn := state.conn2 slot
  if conn.isUdp || !conn.used || conn.sock.isNone then (.next, state)
  else
    match wake.engineerReadable slot with
    | none => (.next, state)
    | some readable =>
        let state := if !conn.tcpActive && readable.detected then
            state.openWebsocket slot readable.object readable.isSSL
          else state
        match readable.received with
        | none => (.next, state.closeCounted .eof slot)
        | some [] =>
            if (state.conn2 slot).ws.isSome then (.next, state)
            else (.next, state.closeCounted .eof slot)
        | some (byte :: bytes) =>
            let state := { state.modifySlot slot fun conn => { conn with tcpActive := true } with
              count2 := inc32 state.count2 }
            engineerBytes lib env pair slot (byte :: bytes) state

/-- TCP engineer data. -/
def engineerTcpData (state : LoopState P) : Flow × LoopState P :=
  eachSlot (engineerTcpSlot lib env pair wake) state

/-- One status packet packed on `CHAN_COMM1` and handed to `send_buf`. -/
def sendStatus (state : LoopState P) (packet : StatusPacket) : LoopState P :=
  { state with
    mav := (state.mav.modifyLink chanComm1
        (Link.packed lib ((state.mav.links chanComm1).currentTxSeq + 1))).note
      (.sentStatus chanComm1 (state.mav.links chanComm1).transport packet.seqno packet.ack) }

/-- `binlog.tick(mav1)` -/
def binlogTick (state : LoopState P) : Flow × LoopState P :=
  if pair.binlogEnabled = true ∧ state.haveConn1 = true then
    let (packets, binlog) := state.binlog.tick wake.tickIo
    (.next, packets.foldl (sendStatus lib) { state with binlog := binlog })
  else (.next, state)

/-- The record of the user connection. -/
def userEntry (state : LoopState P) : ConnEntry where
  connectedAt := state.mav1ConnectedAt
  lastUpdate := wake.wallClock
  connIndex := 0
  pid := pair.pid
  rxMsgs := state.mav1RxMsgs
  txMsgs := state.mav1TxMsgs
  peer := state.mav1Peer
  transport :=
    if state.userWs.isSome then (if state.userWsIsSSL then .wss else .ws)
    else if state.mav1IsTcp then .tcp else .udp
  isUser := true
  flags := 0

/-- The record of an engineer slot. -/
def engineerEntry (state : LoopState P) (slot : Nat) : ConnEntry :=
  let conn := state.conn2 slot
  { connectedAt := conn.connectedAt
    lastUpdate := wake.wallClock
    connIndex := slot + 1
    pid := pair.pid
    rxMsgs := conn.rxMsgs
    txMsgs := conn.txMsgs
    peer := conn.peer
    transport :=
      if conn.isUdp then .udp
      else if conn.ws.isSome then (if conn.wsIsSSL then .wss else .ws)
      else .tcp
    isUser := false
    flags := 0 }

/-- The records of a snapshot: the user, and the used slots below
`max_conn2_count`. -/
def snapshotEntries (state : LoopState P) : List ConnEntry :=
  (if state.haveConn1 then [userEntry pair wake state] else []) ++
    ((List.range state.maxConn2Count).filter fun slot => (state.conn2 slot).used).map
      (engineerEntry pair wake state)

/-- The heartbeat snapshot, at most every 5 s, handed to a forked writer. -/
def heartbeatSnapshot (state : LoopState P) : Flow × LoopState P :=
  if state.lastConnSave + snapshotPeriod < wake.snapshotNow then
    (.next, { state with lastConnSave := wake.snapshotNow }.note
      (.snapshot (snapshotEntries pair wake state)))
  else (.next, state)

/-- The body of the loop, in the order of the source. -/
def blocks : List (LoopState P → Flow × LoopState P) :=
  [processDrops wake, checkUser wake, watchSlots, selectSockets wake, sweepDeadUdp wake,
    userUdp lib env pair wake, engineerUdp lib env pair wake, userTcpAccept env pair wake,
    userTcpData lib env pair wake, engineerTcpAccept env pair wake,
    engineerTcpData lib env pair wake, binlogTick lib pair wake, heartbeatSnapshot pair wake]

/-- One iteration of `main_loop`. -/
def iterate (state : LoopState P) : Flow × LoopState P :=
  runBlocks (blocks lib env pair wake) state

end Blocks

/-- The states of a session: each wakeup is one iteration, until one of them
leaves the loop. -/
def run (lib : Library P) (env : Environment) (pair : PortPair) :
    List Wakeup → LoopState P → Flow × LoopState P
  | [], state => (.next, state)
  | wake :: wakes, state =>
      match iterate lib env pair wake state with
      | (.stop, state) => (.stop, state)
      | (_, state) => run lib env pair wakes state

end SupportProxy
