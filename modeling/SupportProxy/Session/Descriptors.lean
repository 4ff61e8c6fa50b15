import SupportProxy.Session.Calls
import SupportProxy.Library.HandleTable

/-! # The descriptors of a session

What `main_loop` does to its descriptors, read off its run. A `WebSocket` keeps a copy of the
descriptor of its connection and closes it on a hard error; whether the connection is closed too
is up to the loop, which sees the result of the call and no more. -/

namespace SupportProxy

/-- The variables that hold a descriptor, and the files a session opens. -/
inductive Holder
  | sock1Udp
  | sock2Udp
  | sock1Tcp
  | sock2Listen
  /-- `conn2[slot].sock` -/
  | conn2 (slot : Nat)
  | file (id : Nat)
deriving DecidableEq

/-- The code that is using a WebSocket when it fails hard. -/
inductive Caller
  /-- its constructor and `fill_pending`, behind which `recv` looks at `fd` -/
  | recv
  /-- `send_handshake`, in a `recv` that has looked at `fd` -/
  | handshake
  /-- `send_message` to a TCP engineer, in a fan-out -/
  | fanOut
  /-- `send_message` to a UDP engineer, in a fan-out that does not look at the result -/
  | fanOutUdp
  /-- `mav1.send_message` for a TCP engineer, which leaves the loop over the slots -/
  | relayTcp
  /-- `mav1.send_message` for a UDP engineer, which leaves the main loop -/
  | relayUdp
  | mavPrintf
  /-- `BinlogWriter::tick` -/
  | tick
deriving DecidableEq

/-- The callers that learn of the error and leave the connection or the session. -/
def Caller.leaves : Caller → Bool
  | .recv | .fanOut | .relayUdp => true
  | _ => false

/-- A tlog, binlog or database file. -/
inductive FileAction
  | opened (id fd : Nat)
  | closed (id : Nat)
deriving DecidableEq

/-- What a session does to its descriptors. -/
inductive DescriptorAction
  /-- a TCP engineer in a free slot -/
  | accept (slot fd : Nat)
  /-- `Connection2::close` -/
  | closeSlot (slot : Nat)
  /-- `new WebSocket(sock)` -/
  | webSocket (holder : Holder)
  /-- a hard error in the WebSocket of a connection: `close(fd); fd = -1` -/
  | fail (holder : Holder) (caller : Caller)
  /-- a call through a WebSocket pointer that is not the connection's, with what it closes -/
  | stray (holder : Holder) (closed : Option Nat)
  /-- `close_fd` -/
  | closeFd (holder : Holder)
  /-- `close(p->sock1_tcp); p->sock1_tcp = fd2` -/
  | acceptUser (fd : Nat)
  | file (action : FileAction)
deriving DecidableEq

/-- The descriptors of a session, and the `fd` of the WebSocket of a connection that has one. -/
structure Descriptors where
  table : HandleTable Holder
  ws : Holder → Option (Option Nat)

namespace DescriptorAction

def apply : DescriptorAction → Descriptors → Descriptors
  | .accept slot fd, fds => { fds with table := fds.table.take (.conn2 slot) fd }
  | .closeSlot slot, fds =>
      { table := fds.table.release (.conn2 slot)
        ws := Function.update fds.ws (.conn2 slot) none }
  | .webSocket holder, fds =>
      { fds with ws := Function.update fds.ws holder (some (fds.table.held holder)) }
  | .fail holder _, fds =>
      match fds.ws holder with
      | some (some fd) =>
          { table := fds.table.shut holder fd
            ws := Function.update fds.ws holder (some none) }
      | _ => fds
  | .stray holder (some fd), fds => { fds with table := fds.table.shut holder fd }
  | .stray _ none, fds => fds
  | .closeFd holder, fds => { fds with table := fds.table.release holder }
  | .acceptUser fd, fds => { fds with table := (fds.table.release .sock1Tcp).take .sock1Tcp fd }
  | .file (.opened id fd), fds => { fds with table := fds.table.take (.file id) fd }
  | .file (.closed id), fds => { fds with table := fds.table.release (.file id) }

/-- A number that the system gives out is not open. -/
def Fresh (fds : Descriptors) : DescriptorAction → Prop
  | .accept _ fd | .acceptUser fd | .file (.opened _ fd) => fds.table.isOpen fd = false
  | _ => True

instance (fds : Descriptors) : DecidablePred (Fresh fds) := by
  intro action
  unfold Fresh
  split <;> infer_instance

/-- A hard error that the loop learns of, and no use of another WebSocket than the connection's. -/
def Harmless : DescriptorAction → Prop
  | .fail _ caller => caller.leaves = true
  | .stray _ _ => False
  | _ => True

instance : DecidablePred Harmless := by
  intro action
  unfold Harmless
  split <;> infer_instance

end DescriptorAction

namespace Descriptors

/-- The descriptors behind a trail of actions. -/
def after (trail : List DescriptorAction) (fds : Descriptors) : Descriptors :=
  trail.foldl (fun fds action => action.apply fds) fds

/-- Along a trail, no number is given out that is open. -/
def Numbered : List DescriptorAction → Descriptors → Prop
  | [], _ => True
  | action :: trail, fds => action.Fresh fds ∧ Numbered trail (action.apply fds)

instance Numbered.decidable : (trail : List DescriptorAction) → (fds : Descriptors) →
    Decidable (Numbered trail fds)
  | [], _ => isTrue trivial
  | action :: trail, fds =>
      have := Numbered.decidable trail (action.apply fds)
      inferInstanceAs (Decidable (action.Fresh fds ∧ Numbered trail (action.apply fds)))

/-- One list of actions after the other. -/
theorem after_append (first more : List DescriptorAction) (fds : Descriptors) :
    after (first ++ more) fds = after more (after first fds) := by
  rw [after, List.foldl_append]
  rfl

/-- The numbers of two lists of actions, one after the other. -/
theorem numbered_append {first more : List DescriptorAction} {fds : Descriptors} :
    Numbered (first ++ more) fds ↔ Numbered first fds ∧ Numbered more (after first fds) := by
  induction first generalizing fds with
  | nil => exact (and_iff_right trivial).symm
  | cons action first ih =>
      change _ ∧ Numbered (first ++ more) (action.apply fds) ↔ (_ ∧ _) ∧ _
      rw [ih, and_assoc]
      rfl

end Descriptors

/-- What a child inherits: open and distinct listening sockets. -/
structure Inherited where
  table : HandleTable Holder
  sound : table.Sound
  slots : ∀ slot, table.held (.conn2 slot) = none

namespace Inherited

/-- The four sockets, in the order of `LoopState.initial`. -/
def sockets (inherited : Inherited) : Option Nat × Option Nat × Option Nat × Option Nat :=
  (inherited.table.held .sock1Udp, inherited.table.held .sock2Udp, inherited.table.held .sock1Tcp,
    inherited.table.held .sock2Listen)

def descriptors (inherited : Inherited) : Descriptors := ⟨inherited.table, fun _ => none⟩

end Inherited

/-- A place of the loop body at which files are opened and closed. -/
inductive Place
  /-- before a block -/
  | block (index : Nat)
  /-- before a message is handled -/
  | message
deriving DecidableEq

/-- What the system does to the descriptors in one iteration. -/
structure Faults where
  /-- the WebSocket of a connection fails hard under its `recv` -/
  recv : Holder → Bool
  handshake : Holder → Bool
  /-- the write behind a history fails hard -/
  write : List Event → Bool
  /-- what is closed by the WebSocket call behind a history that is not the connection's -/
  strays : List Event → Option Nat
  /-- the files opened and closed at a place, behind a history -/
  files : Place → List Event → List FileAction

variable {P : Type}

section Trails

variable (lib : Library P) (env : Environment) (pair : PortPair) (wake : Wakeup) (faults : Faults)

def filesAt (place : Place) (state : LoopState P) : List DescriptorAction :=
  (faults.files place state.mav.log).map .file

/-- `c2.close()`, where the code frees the slot. -/
def freedTrail (slot : Nat) (before after : LoopState P) : List DescriptorAction :=
  if (before.conn2 slot).used && !(after.conn2 slot).used then [.closeSlot slot] else []

/-- A write on a transport, for a connection that owns a WebSocket or none. -/
def writeTrail (holder : Holder) (own : Option Nat) (caller : Caller) (failed : Bool)
    (log : List Event) : Transport → List DescriptorAction
  | .websocket object =>
      if own = some object then if failed then [.fail holder caller] else []
      else [.stray holder (faults.strays log)]
  | _ => []

/-- A call of `send_message`. A hard error makes it return false. -/
def sendTrail (holder : Holder) (own : Option Nat) (caller : Caller) (call : MessageSend P) :
    List DescriptorAction :=
  let result := sendMessage lib env call.chan call.msg call.mav
  -- an early return writes nothing
  if result.2.log = call.mav.log then []
  else
    writeTrail faults holder own caller (!result.1 && faults.write call.mav.log) call.mav.log
      (call.mav.links call.chan).transport

def fanOutTcpFds (msg : Message) (slot : Nat) (state : LoopState P) : List DescriptorAction :=
  (fanOutTcpSends msg slot state).flatMap
      (sendTrail lib env faults (.conn2 slot) (state.conn2 slot).ws .fanOut) ++
    freedTrail slot state (fanOutTcp lib env msg slot state).2

def fanOutUdpFds (msg : Message) (slot : Nat) (state : LoopState P) : List DescriptorAction :=
  (fanOutUdpSends msg slot state).flatMap
      (sendTrail lib env faults (.conn2 slot) (state.conn2 slot).ws
        (if (state.conn2 slot).isUdp then .fanOutUdp else .fanOut)) ++
    freedTrail slot state (fanOutUdp lib env msg slot state).2

def relayToEngineersFds (fanOut : Message → Nat → LoopState P → Flow × LoopState P)
    (fds : Message → Nat → LoopState P → List DescriptorAction) (msg : Message)
    (state : LoopState P) : List DescriptorAction :=
  filesAt faults .message state ++
    match binlogHandleUserMsg lib pair wake msg
      (writeTlog pair msg { state with mav1RxMsgs := inc32 state.mav1RxMsgs }) with
    | (true, _) => []
    | (false, state) => slotTrail (fanOut msg) (fds msg) 256 0 state

def relayToUserFds (caller : Caller) (slot : Nat) (msg : Message) (state : LoopState P) :
    List DescriptorAction :=
  filesAt faults .message state ++
    (relayToUserSends pair slot msg state).flatMap
      (sendTrail lib env faults .sock1Tcp state.userWs caller)

/-- The `mav_printf` in `receive_message`. -/
def printTrail (chan : Nat) (holder : Holder) (own : LoopState P → Option Nat) (bytes : List UInt8)
    (state : LoopState P) : List DescriptorAction :=
  let log := (receiveMessage lib env chan bytes state.mav).2.2.log
  (log.take (log.length - state.mav.log.length)).flatMap fun event =>
    match event with
    | .warned _ transport _ =>
        writeTrail faults holder (own state) .mavPrintf (faults.write state.mav.log) state.mav.log
          transport
    | _ => []

def userBytesFds (fanOut : Message → Nat → LoopState P → Flow × LoopState P)
    (fds : Message → Nat → LoopState P → List DescriptorAction) (bytes : List UInt8)
    (state : LoopState P) : List DescriptorAction :=
  if 0 < state.conn2Count ∨ pair.binlogEnabled = true ∨ pair.tlogEnabled = true then
    messageTrail lib env chanComm1 (relayToEngineers lib pair wake fanOut)
      (printTrail lib env faults chanComm1 .sock1Tcp LoopState.userWs)
      (relayToEngineersFds lib pair wake faults fanOut fds) bytes.length bytes state
  else []

def engineerBytesFds (caller : Caller) (slot : Nat) (bytes : List UInt8) (state : LoopState P) :
    List DescriptorAction :=
  if state.haveConn1 then
    messageTrail lib env (chanComm2 slot) (relayToUser lib env pair slot)
      (printTrail lib env faults (chanComm2 slot) (.conn2 slot) fun state => (state.conn2 slot).ws)
      (relayToUserFds lib env pair faults caller slot) bytes.length bytes state
  else []

/-- `recv` of a WebSocket. -/
def recvTrail (holder : Holder) (own : Option Nat) (received : Option (List UInt8)) :
    List DescriptorAction :=
  if own.isNone then []
  else if received.isNone then if faults.recv holder then [.fail holder .recv] else []
  else if faults.handshake holder then [.fail holder .handshake] else []

def dropTrail : List Nat → LoopState P → List DescriptorAction
  | [], _ => []
  | index :: indices, state =>
      freedTrail (index - 1) state (dropSlot state index) ++
        dropTrail indices (dropSlot state index)

def processDropsFds (state : LoopState P) : List DescriptorAction :=
  if wake.dropsPending then
    match wake.flagged with
    | none => []
    | some indices => dropTrail indices state
  else []

/-- The body of the sweep of silent UDP engineers. -/
def sweepSlot (slot : Nat) (state : LoopState P) : Flow × LoopState P :=
  if (state.conn2 slot).used = true ∧ (state.conn2 slot).isUdp = true ∧
      (state.conn2 slot).lastPkt + silencePeriod < wake.now then
    (.next, state.closeDead slot)
  else (.next, state)

def sweepDeadUdpFds (state : LoopState P) : List DescriptorAction :=
  slotTrail (sweepSlot wake)
    (fun slot state => freedTrail slot state (sweepSlot wake slot state).2) 256 0 state

/-- UDP user data closes the socket of TCP users. -/
def userUdpFds (state : LoopState P) : List DescriptorAction :=
  (if state.sock1Udp.isSome && wake.userDatagram.isSome then [.closeFd .sock1Tcp] else []) ++
    userUdpTrail env pair wake
      (userBytesFds lib env pair wake faults (fanOutUdp lib env) (fanOutUdpFds lib env faults))
      state

/-- A TCP user closes the socket of UDP users, before `accept`. -/
def userTcpAcceptFds (state : LoopState P) : List DescriptorAction :=
  if state.haveConn1 = false ∧ state.sock1Tcp.isSome ∧ wake.userTcpReady = true then
    match wake.userAccept with
    | none => [.closeFd .sock1Udp]
    | some (fd, _) => [.closeFd .sock1Udp, .acceptUser fd]
  else []

def userTcpDataFds (state : LoopState P) : List DescriptorAction :=
  if state.sock1Tcp.isSome ∧ wake.userTcpReady = true then
    [.closeFd .sock1Udp] ++
      (if state.count1 = 0 ∧ wake.userReadable.detected = true then [.webSocket .sock1Tcp]
        else []) ++
      recvTrail faults .sock1Tcp (openUserWebsocket wake state).userWs wake.userReadable.received ++
      userTcpTrail wake
        (userBytesFds lib env pair wake faults (fanOutTcp lib env) (fanOutTcpFds lib env faults))
        state
  else []

/-- A TCP engineer; the descriptor of one that is turned away is closed at once. -/
def engineerTcpAcceptFds (state : LoopState P) : List DescriptorAction :=
  match state.sock2Listen, wake.engineerAccept with
  | some _, some (some (fd, _)) =>
      if maxComm2Links ≤ state.conn2Count then []
      else
        match state.freeSlot with
        | none => []
        | some slot => [.accept slot fd]
  | _, _ => []

def engineerTcpSlotFds (slot : Nat) (state : LoopState P) : List DescriptorAction :=
  let conn := state.conn2 slot
  if conn.isUdp || !conn.used || conn.sock.isNone then []
  else
    match wake.engineerReadable slot with
    | none => []
    | some readable =>
        let detected := !conn.tcpActive && readable.detected
        (if detected then [.webSocket (.conn2 slot)] else []) ++
          recvTrail faults (.conn2 slot) (if detected then some readable.object else conn.ws)
            readable.received ++
          freedTrail slot state (engineerTcpSlot lib env pair wake slot state).2 ++
          engineerTcpTrail wake (engineerBytesFds lib env pair faults .relayTcp) slot state

/-- The packets of `BinlogWriter::tick`. -/
def statusTrail : List StatusPacket → LoopState P → List DescriptorAction
  | [], _ => []
  | packet :: packets, state =>
      writeTrail faults .sock1Tcp state.userWs .tick (faults.write state.mav.log) state.mav.log
          (state.mav.links chanComm1).transport ++
        statusTrail packets (sendStatus lib state packet)

def binlogTickFds (state : LoopState P) : List DescriptorAction :=
  if pair.binlogEnabled = true ∧ state.haveConn1 = true then
    statusTrail lib faults (state.binlog.tick wake.tickIo).1
      { state with binlog := (state.binlog.tick wake.tickIo).2 }
  else []

/-- A block with the files before it. -/
def placed (index : Nat) (block : LoopState P → Flow × LoopState P)
    (fds : LoopState P → List DescriptorAction) :
    (LoopState P → Flow × LoopState P) × (LoopState P → List DescriptorAction) :=
  (block, fun state => filesAt faults (.block index) state ++ fds state)

/-- The blocks of the loop body with what they do to the descriptors. -/
def descriptorBlocks :
    List ((LoopState P → Flow × LoopState P) × (LoopState P → List DescriptorAction)) :=
  [placed faults 0 (processDrops wake) (processDropsFds wake),
    placed faults 1 (checkUser wake) (fun _ => []),
    placed faults 2 watchSlots (fun _ => []),
    placed faults 3 (selectSockets wake) (fun _ => []),
    placed faults 4 (sweepDeadUdp wake) (sweepDeadUdpFds wake),
    placed faults 5 (userUdp lib env pair wake) (userUdpFds lib env pair wake faults),
    placed faults 6 (engineerUdp lib env pair wake)
      (engineerUdpTrail env pair wake (engineerBytesFds lib env pair faults .relayUdp)),
    placed faults 7 (userTcpAccept env pair wake) (userTcpAcceptFds wake),
    placed faults 8 (userTcpData lib env pair wake) (userTcpDataFds lib env pair wake faults),
    placed faults 9 (engineerTcpAccept env pair wake) (engineerTcpAcceptFds wake),
    placed faults 10 (engineerTcpData lib env pair wake)
      (slotTrail (engineerTcpSlot lib env pair wake)
        (engineerTcpSlotFds lib env pair wake faults) 256 0),
    placed faults 11 (binlogTick lib pair wake) (binlogTickFds lib pair wake faults),
    placed faults 12 (heartbeatSnapshot pair wake) (fun _ => [])]

/-- What an iteration does to the descriptors. -/
def iterateFds (turn : Wakeup × Faults) (state : LoopState P) : List DescriptorAction :=
  blockTrail (descriptorBlocks lib env pair turn.1 turn.2) state

end Trails

/-- What a session does to the descriptors. -/
def runFds (lib : Library P) (env : Environment) (pair : PortPair) :
    List (Wakeup × Faults) → LoopState P → List DescriptorAction :=
  runTrail lib env pair Prod.fst (iterateFds lib env pair)

/-- What a session does to the descriptors that it inherits. -/
def sessionFds (lib : Library P) (env : Environment) (pair : PortPair) (memory : Nat → Option Nat)
    (record : Option KeyEntry) (inherited : Inherited) (turns : List (Wakeup × Faults)) :
    List DescriptorAction :=
  runFds lib env pair turns (LoopState.initial lib pair memory record inherited.sockets)

/-- Descriptors have one owner. -/
structure OneOwner (state : LoopState P) (fds : Descriptors) : Prop where
  user : ∀ fd, state.sock1Tcp = some fd → fds.table.isOpen fd = true
  slots : ∀ slot fd, (state.conn2 slot).used = true → (state.conn2 slot).isUdp = false →
    (state.conn2 slot).sock = some fd → fds.table.isOpen fd = true
  distinct : ∀ first second fd, (state.conn2 first).sock = some fd →
    (state.conn2 second).sock = some fd → first = second
  owned : ∀ fd holder held, (fd, holder, held) ∈ fds.table.closes →
    ∀ other : Holder, held other = some fd → other = holder

end SupportProxy
