import SupportProxy.Session.Trail

/-! # The calls of `send_message`

Which messages a session hands to `send_message`, on which link and in which state. A user's
message goes to the engineers' slots in their order, an engineer's message to the user. -/

namespace SupportProxy

/-- A call of `send_message` on the link of a channel. -/
structure MessageSend (P : Type) where
  chan : Nat
  msg : Message
  mav : MavState P

variable {P : Type}

/-- Sending to a slot is a call on its link. -/
theorem sendToSlot_eq (lib : Library P) (env : Environment) (slot : Nat) (msg : Message)
    (state : LoopState P) :
    sendToSlot lib env slot msg state =
      ((sendMessage lib env (chanComm2 slot) msg state.mav).1,
        { state with mav := (sendMessage lib env (chanComm2 slot) msg state.mav).2 }) :=
  rfl

section Calls

variable (lib : Library P) (env : Environment) (pair : PortPair) (wake : Wakeup)

/-- The call of `fanOutUdp` for one slot. -/
def fanOutUdpSends (msg : Message) (slot : Nat) (state : LoopState P) : List (MessageSend P) :=
  if (state.conn2 slot).used && ((state.conn2 slot).isUdp || (state.conn2 slot).sock.isSome) then
    [⟨chanComm2 slot, msg, state.mav⟩]
  else []

/-- The call of `fanOutTcp` for one slot. -/
def fanOutTcpSends (msg : Message) (slot : Nat) (state : LoopState P) : List (MessageSend P) :=
  if (state.conn2 slot).used then [⟨chanComm2 slot, msg, state.mav⟩] else []

/-- A user's message that is not stripped is offered to every slot. -/
def relayToEngineersSends (fanOut : Message → Nat → LoopState P → Flow × LoopState P)
    (sends : Message → Nat → LoopState P → List (MessageSend P)) (msg : Message)
    (state : LoopState P) : List (MessageSend P) :=
  match binlogHandleUserMsg lib pair wake msg
    (writeTlog pair msg { state with mav1RxMsgs := inc32 state.mav1RxMsgs }) with
  | (true, _) => []
  | (false, state) => slotTrail (fanOut msg) (sends msg) 256 0 state

/-- An engineer's message goes to the user. -/
def relayToUserSends (slot : Nat) (msg : Message) (state : LoopState P) : List (MessageSend P) :=
  [⟨chanComm1, msg, (noteRelay pair slot msg state).mav⟩]

/-- The calls for a buffer from the user. -/
def userBytesSends (fanOut : Message → Nat → LoopState P → Flow × LoopState P)
    (sends : Message → Nat → LoopState P → List (MessageSend P)) (bytes : List UInt8)
    (state : LoopState P) : List (MessageSend P) :=
  if 0 < state.conn2Count ∨ pair.binlogEnabled = true ∨ pair.tlogEnabled = true then
    messageTrail lib env chanComm1 (relayToEngineers lib pair wake fanOut) (fun _ _ => [])
      (relayToEngineersSends lib pair wake fanOut sends) bytes.length bytes state
  else []

/-- The calls for a buffer from an engineer. -/
def engineerBytesSends (slot : Nat) (bytes : List UInt8) (state : LoopState P) :
    List (MessageSend P) :=
  if state.haveConn1 then
    messageTrail lib env (chanComm2 slot) (relayToUser lib env pair slot) (fun _ _ => [])
      (relayToUserSends pair slot) bytes.length bytes state
  else []

/-- The blocks of the loop body with the calls they make. -/
def sendingBlocks :
    List ((LoopState P → Flow × LoopState P) × (LoopState P → List (MessageSend P))) :=
  [(processDrops wake, fun _ => []), (checkUser wake, fun _ => []), (watchSlots, fun _ => []),
    (selectSockets wake, fun _ => []), (sweepDeadUdp wake, fun _ => []),
    (userUdp lib env pair wake, userUdpTrail env pair wake
      (userBytesSends lib env pair wake (fanOutUdp lib env) fanOutUdpSends)),
    (engineerUdp lib env pair wake, engineerUdpTrail env pair wake
      (engineerBytesSends lib env pair)),
    (userTcpAccept env pair wake, fun _ => []),
    (userTcpData lib env pair wake, userTcpTrail wake
      (userBytesSends lib env pair wake (fanOutTcp lib env) fanOutTcpSends)),
    (engineerTcpAccept env pair wake, fun _ => []),
    (engineerTcpData lib env pair wake,
      slotTrail (engineerTcpSlot lib env pair wake)
        (engineerTcpTrail wake (engineerBytesSends lib env pair)) 256 0),
    (binlogTick lib pair wake, fun _ => []), (heartbeatSnapshot pair wake, fun _ => [])]

/-- The calls of one iteration. -/
def iterateSends (state : LoopState P) : List (MessageSend P) :=
  blockTrail (sendingBlocks lib env pair wake) state

end Calls

/-- The calls of a session. -/
def runSends (lib : Library P) (env : Environment) (pair : PortPair) :
    List Wakeup → LoopState P → List (MessageSend P) :=
  runTrail lib env pair id (iterateSends lib env pair)

end SupportProxy
