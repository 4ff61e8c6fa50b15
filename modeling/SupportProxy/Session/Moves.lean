import SupportProxy.Session.MainLoop
import Mathlib.Logic.Relation

/-! # The moves of the main loop

`Move` lists what the blocks of the loop body do, each with the guard the source
checks before it. Every block is a sequence of moves (`run_moves`). -/

namespace SupportProxy

variable {P : Type}

/-- The events a session adds on its own, with what is known when it does. -/
def Event.plain (state : LoopState P) : Event → Prop
  | .tlog _ => True
  | .snapshot _ => True
  | .refused => maxComm2Links ≤ state.conn2Count ∨ state.freeSlot = none
  | .overrun => maxComm2Links < state.maxConn2Count
  | .bugExit => maxComm2Links < state.maxConn2Count
  | _ => False

/-- Nothing that slots, links or the history depend on has changed; the environment
may have been asked something. -/
structure Idle (state next : LoopState P) : Prop where
  mav : next.mav = state.mav ∨ next.mav = state.mav.asked
  user : next.haveConn1 = state.haveConn1
  used : ∀ slot, (next.conn2 slot).used = (state.conn2 slot).used
  ws : ∀ slot, (next.conn2 slot).ws = (state.conn2 slot).ws
  count : next.conn2Count = state.conn2Count
  max : next.maxConn2Count = state.maxConn2Count

/-- A channel the loop reads from or writes to: the user's, or a used slot's. -/
def LoopState.Active (state : LoopState P) (chan : Nat) : Prop :=
  chan = chanComm1 ∨
    ∃ slot < maxComm2Links, chan = chanComm2 slot ∧ (state.conn2 slot).used = true

/-- `Move lib env pair state next`: one step of a block. -/
inductive Move (lib : Library P) (env : Environment) (pair : PortPair) :
    LoopState P → LoopState P → Prop
  | idle {state next : LoopState P} (idle : Idle state next) : Move lib env pair state next
  | plain {state : LoopState P} {event : Event} (plain : event.plain state) :
      Move lib env pair state (state.note event)
  | receive {state : LoopState P} (chan : Nat) (bytes : List UInt8) (active : state.Active chan) :
      Move lib env pair state
        { state with mav := (receiveMessage lib env chan bytes state.mav).2.2 }
  /-- an engineer's message is accepted and goes to the user -/
  | relay {state : LoopState P} {mav : MavState P} {slot : Nat} {bytes rest : List UInt8}
      {msg : Message} (inside : slot < maxComm2Links) (used : (state.conn2 slot).used = true)
      (received : receiveMessage lib env (chanComm2 slot) bytes state.mav = (some msg, rest, mav)) :
      Move lib env pair state (noteRelay pair slot msg { state with mav := mav })
  | send {state : LoopState P} (chan : Nat) (msg : Message) (active : state.Active chan) :
      Move lib env pair state { state with mav := (sendMessage lib env chan msg state.mav).2 }
  | status {state : LoopState P} (packet : StatusPacket) :
      Move lib env pair state (sendStatus lib state packet)
  | openUser {state : LoopState P} {wake : Wakeup} (fd : Option Nat) (peer : Peer) (isTcp : Bool)
      (absent : state.haveConn1 = false) :
      Move lib env pair state (openUser env pair wake fd peer isTcp state)
  | userWebsocket {state : LoopState P} (object : Nat) :
      Move lib env pair state { state with mav := setWs chanComm1 object state.mav }
  | openUdp {state : LoopState P} {slot : Nat} {peer : Peer} {now wallClock : Nat}
      (free : state.freeSlot = some slot) (room : state.maxConn2Count ≤ maxComm2Links) :
      Move lib env pair state (state.openUdp env pair slot peer now wallClock)
  | openTcp {state : LoopState P} {slot fd : Nat} {peer : Peer} {wallClock : Nat}
      (free : state.freeSlot = some slot) (room : state.conn2Count < maxComm2Links) :
      Move lib env pair state (state.openTcp env pair slot fd peer wallClock)
  | websocket {state : LoopState P} {slot object : Nat} {isSSL : Bool}
      (inside : slot < maxComm2Links) (used : (state.conn2 slot).used = true) :
      Move lib env pair state (state.openWebsocket slot object isSSL)
  | closeCounted {state : LoopState P} {slot : Nat} {reason : CloseReason}
      (inside : slot < maxComm2Links) (used : (state.conn2 slot).used = true)
      (counted : reason = .eof ∨ reason = .sendFailed) :
      Move lib env pair state (state.closeCounted reason slot)
  | closeDropped {state : LoopState P} {slot : Nat} (inside : slot < maxComm2Links)
      (used : (state.conn2 slot).used = true) : Move lib env pair state (state.closeDropped slot)
  | closeDead {state : LoopState P} {slot : Nat} (inside : slot < maxComm2Links)
      (used : (state.conn2 slot).used = true) : Move lib env pair state (state.closeDead slot)

/-- `Moves lib env pair state next`: a sequence of moves. -/
abbrev Moves (lib : Library P) (env : Environment) (pair : PortPair) :
    LoopState P → LoopState P → Prop :=
  Relation.ReflTransGen (Move lib env pair)

section Blocks

variable {lib : Library P} {env : Environment} {pair : PortPair} {wake : Wakeup}

private theorem Idle.moves {state next : LoopState P} (idle : Idle state next) :
    Moves lib env pair state next := .single (.idle idle)

/-- A change of slots that keeps `used` and `ws`. -/
theorem modifySlot_idle {state : LoopState P} {slot : Nat} {change : Connection2 → Connection2}
    (used : (change (state.conn2 slot)).used = (state.conn2 slot).used)
    (ws : (change (state.conn2 slot)).ws = (state.conn2 slot).ws) :
    Idle state (state.modifySlot slot change) := by
  rw [LoopState.modifySlot]
  refine ⟨.inl rfl, rfl, fun other => ?_, fun other => ?_, rfl, rfl⟩
  · by_cases same : other = slot
    · subst same
      simp only [Function.update_self, used]
    · simp only [Function.update_of_ne same]
  · by_cases same : other = slot
    · subst same
      simp only [Function.update_self, ws]
    · simp only [Function.update_of_ne same]

/-- A fixed number of slots is visited, or the session ends at the overrun. -/
theorem forSlots_moves {body : Nat → LoopState P → Flow × LoopState P}
    (acts : ∀ slot state, slot < maxComm2Links → Moves lib env pair state (body slot state).2)
    (fuel slot : Nat) (state : LoopState P) :
    Moves lib env pair state (forSlots body fuel slot state).2 := by
  induction fuel generalizing slot state with
  | zero => exact .refl
  | succ fuel ih =>
      unfold forSlots
      by_cases visited : slot < state.maxConn2Count
      · by_cases inside : slot < maxComm2Links
        · have step := acts slot state inside
          simp only [visited, inside, ↓reduceIte]
          generalize body slot state = result at step
          rcases result with ⟨_ | _ | _, middle⟩
          · exact step.trans (ih (slot + 1) middle)
          · exact step
          · exact step
        · simp only [visited, inside, ↓reduceIte]
          exact .single (.plain (show maxComm2Links < state.maxConn2Count by omega))
      · simp only [visited, ↓reduceIte]
        exact .refl

private theorem eachSlot_moves {body : Nat → LoopState P → Flow × LoopState P}
    (acts : ∀ slot state, slot < maxComm2Links → Moves lib env pair state (body slot state).2)
    (state : LoopState P) : Moves lib env pair state (eachSlot body state).2 :=
  forSlots_moves acts 256 0 state

private theorem runBlocks_moves {blocks : List (LoopState P → Flow × LoopState P)}
    (acts : ∀ block ∈ blocks, ∀ state, Moves lib env pair state (block state).2)
    (state : LoopState P) : Moves lib env pair state (runBlocks blocks state).2 := by
  induction blocks generalizing state with
  | nil => exact .refl
  | cons block rest ih =>
      have step := acts block List.mem_cons_self state
      unfold runBlocks
      generalize block state = result at step
      rcases result with ⟨_ | _ | _, middle⟩
      · exact step.trans
          (ih (fun other member => acts other (List.mem_cons_of_mem _ member)) middle)
      · exact step
      · exact step

private theorem processDrops_moves (state : LoopState P) :
    Moves lib env pair state (processDrops wake state).2 := by
  have dropped : ∀ (indices : List Nat) (state : LoopState P),
      Moves lib env pair state (indices.foldl dropSlot state) := by
    intro indices
    induction indices with
    | nil => exact fun _ => .refl
    | cons index indices ih =>
        intro state
        refine Relation.ReflTransGen.trans ?_ (ih (dropSlot state index))
        unfold dropSlot
        split
        next used => exact .single (.closeDropped (by omega) used.2.2)
        next => exact .refl
  unfold processDrops
  split
  · split
    · exact .refl
    · exact dropped _ state
  · exact .refl

private theorem checkUser_moves (state : LoopState P) :
    Moves lib env pair state (checkUser wake state).2 := by
  unfold checkUser
  split <;> exact .refl

private theorem watchSlots_moves (state : LoopState P) :
    Moves lib env pair state (watchSlots state).2 :=
  eachSlot_moves (fun _ _ _ => .refl) state

private theorem selectSockets_moves (state : LoopState P) :
    Moves lib env pair state (selectSockets wake state).2 := by
  unfold selectSockets
  split
  · exact .refl
  · exact .refl
  · split
    next beyond => exact .single (.plain (show maxComm2Links < state.maxConn2Count from beyond))
    next => exact .refl

private theorem sweepDeadUdp_moves (state : LoopState P) :
    Moves lib env pair state (sweepDeadUdp wake state).2 := by
  refine eachSlot_moves (fun slot state inside => ?_) state
  dsimp only
  split
  next silent => exact .single (.closeDead inside silent.1)
  next => exact .refl

private theorem writeTlog_moves (msg : Message) (state : LoopState P) :
    Moves lib env pair state (writeTlog pair msg state) := by
  unfold writeTlog
  split
  · exact .single (.plain (show Event.plain state (.tlog msg) from trivial))
  · exact .refl

private theorem binlogHandleUserMsg_moves (msg : Message) (state : LoopState P) :
    Moves lib env pair state (binlogHandleUserMsg lib pair wake msg state).2 := by
  unfold binlogHandleUserMsg
  dsimp only
  split
  · exact .refl
  split <;> exact Idle.moves ⟨.inr rfl, rfl, fun _ => rfl, fun _ => rfl, rfl, rfl⟩

/-- A send to the engineer of a used slot. -/
theorem sendToSlot_moves {slot : Nat} (msg : Message) {state : LoopState P}
    (inside : slot < maxComm2Links) (used : (state.conn2 slot).used = true) :
    Moves lib env pair state (sendToSlot lib env slot msg state).2 :=
  .single (.send (chanComm2 slot) msg (.inr ⟨slot, inside, rfl, used⟩))

private theorem sendToSlot_used (slot : Nat) (msg : Message) (state : LoopState P) :
    (sendToSlot lib env slot msg state).2.conn2 = state.conn2 := rfl

private theorem countTx_moves (slot : Nat) (state : LoopState P) :
    Moves lib env pair state (countTx slot state) :=
  (modifySlot_idle rfl rfl).moves

/-- A failed send to an engineer frees its slot. -/
theorem sendOrClose_moves {slot : Nat} (msg : Message) {state : LoopState P}
    (inside : slot < maxComm2Links) (used : (state.conn2 slot).used = true) :
    Moves lib env pair state
      (match sendToSlot lib env slot msg state with
        | (false, state) => (Flow.next, state.closeCounted .sendFailed slot)
        | (true, state) => (Flow.next, countTx slot state)).2 := by
  have send : Moves lib env pair state (sendToSlot lib env slot msg state).2 :=
    sendToSlot_moves msg inside used
  have same : (sendToSlot lib env slot msg state).2.conn2 = state.conn2 :=
    sendToSlot_used slot msg state
  generalize sendToSlot lib env slot msg state = result at send same
  rcases result with ⟨_ | _, after⟩
  · have stillUsed : (after.conn2 slot).used = true := by
      rw [same]
      exact used
    exact send.tail (.closeCounted inside stillUsed (.inr rfl))
  · exact send.trans (countTx_moves slot after)

private theorem fanOutUdp_moves (msg : Message) (slot : Nat) (state : LoopState P)
    (inside : slot < maxComm2Links) :
    Moves lib env pair state (fanOutUdp lib env msg slot state).2 := by
  unfold fanOutUdp
  dsimp only
  cases used : (state.conn2 slot).used with
  | false => exact .refl
  | true =>
      simp only [Bool.not_true, Bool.false_eq_true, ↓reduceIte]
      split
      · exact sendOrClose_moves msg inside used
      split
      · exact (sendToSlot_moves msg inside used).trans (countTx_moves slot _)
      · exact .refl

private theorem fanOutTcp_moves (msg : Message) (slot : Nat) (state : LoopState P)
    (inside : slot < maxComm2Links) :
    Moves lib env pair state (fanOutTcp lib env msg slot state).2 := by
  unfold fanOutTcp
  cases used : (state.conn2 slot).used with
  | false => exact .refl
  | true => exact sendOrClose_moves msg inside used

/-- The two fan-outs of the user handlers. -/
def FanOutMoves (lib : Library P) (env : Environment) (pair : PortPair)
    (fanOut : Message → Nat → LoopState P → Flow × LoopState P) : Prop :=
  ∀ msg slot state, slot < maxComm2Links → Moves lib env pair state (fanOut msg slot state).2

private theorem relayToEngineers_moves {fanOut : Message → Nat → LoopState P → Flow × LoopState P}
    (fans : FanOutMoves lib env pair fanOut) (msg : Message) (state : LoopState P) :
    Moves lib env pair state (relayToEngineers lib pair wake fanOut msg state).2 := by
  unfold relayToEngineers
  have counted : Moves lib env pair state { state with mav1RxMsgs := inc32 state.mav1RxMsgs } :=
    Idle.moves ⟨.inl rfl, rfl, fun _ => rfl, fun _ => rfl, rfl, rfl⟩
  have logged := counted.trans (writeTlog_moves msg _)
  dsimp only
  generalize writeTlog pair msg { state with mav1RxMsgs := inc32 state.mav1RxMsgs } = middle
    at logged
  have handled : Moves lib env pair state (binlogHandleUserMsg lib pair wake msg middle).2 :=
    logged.trans (binlogHandleUserMsg_moves msg middle)
  generalize binlogHandleUserMsg lib pair wake msg middle = result at handled
  rcases result with ⟨_ | _, after⟩
  · exact handled.trans (eachSlot_moves (fun slot state inside => fans msg slot state inside) after)
  · exact handled

/-- A send to the user. -/
theorem sendUser_moves (msg : Message) (state : LoopState P) :
    Moves lib env pair state
      { state with mav := (sendMessage lib env chanComm1 msg state.mav).2 } :=
  .single (.send chanComm1 msg (.inl rfl))

private theorem relayToUser_send (slot : Nat) (msg : Message) (state : LoopState P) :
    Moves lib env pair (noteRelay pair slot msg state)
      (relayToUser lib env pair slot msg state).2 := by
  unfold relayToUser
  dsimp only
  generalize noteRelay pair slot msg state = noted
  have send : Moves lib env pair noted
      { noted with mav := (sendMessage lib env chanComm1 msg noted.mav).2 } :=
    sendUser_moves msg noted
  generalize sendMessage lib env chanComm1 msg noted.mav = result at send ⊢
  rcases result with ⟨_ | _, mav⟩
  · exact send
  · exact send.trans (Idle.moves ⟨.inl rfl, rfl, fun _ => rfl, fun _ => rfl, rfl, rfl⟩)

private theorem noteRelay_used {slot : Nat} (msg : Message) {state : LoopState P}
    (used : (state.conn2 slot).used = true) :
    ((noteRelay pair slot msg state).conn2 slot).used = true := by
  unfold noteRelay writeTlog LoopState.note LoopState.modifySlot
  split <;> simp only [Function.update_self, used]

private theorem relayToUser_used {slot : Nat} (msg : Message) {state : LoopState P}
    (used : (state.conn2 slot).used = true) :
    ((relayToUser lib env pair slot msg state).2.conn2 slot).used = true := by
  unfold relayToUser
  dsimp only
  split <;> exact noteRelay_used msg used

/-- The user's parse loops. -/
theorem parseUser_moves {fanOut : Message → Nat → LoopState P → Flow × LoopState P}
    (fans : FanOutMoves lib env pair fanOut) (fuel : Nat) (bytes : List UInt8)
    (state : LoopState P) :
    Moves lib env pair state (parseMessages lib env chanComm1
      (relayToEngineers lib pair wake fanOut) fuel bytes state).2 := by
  induction fuel generalizing bytes state with
  | zero => exact .refl
  | succ fuel ih =>
      unfold parseMessages
      split
      · exact .refl
      have received : Moves lib env pair state { state with
          mav := (receiveMessage lib env chanComm1 bytes state.mav).2.2 } :=
        .single (.receive chanComm1 bytes (.inl rfl))
      generalize receiveMessage lib env chanComm1 bytes state.mav = result at received
      rcases result with ⟨_ | msg, rest, mav⟩
      · exact received
      · have relayed : Moves lib env pair state
            (relayToEngineers lib pair wake fanOut msg { state with mav := mav }).2 :=
          received.trans (relayToEngineers_moves fans msg { state with mav := mav })
        dsimp only
        generalize relayToEngineers lib pair wake fanOut msg { state with mav := mav } = answer
          at relayed
        rcases answer with ⟨_ | _ | _, after⟩
        · exact relayed.trans (ih rest after)
        · exact relayed
        · exact relayed

/-- An engineer's parse loop, on a used slot. -/
theorem parseEngineer_moves {slot : Nat} (inside : slot < maxComm2Links) (fuel : Nat)
    (bytes : List UInt8) {state : LoopState P} (used : (state.conn2 slot).used = true) :
    Moves lib env pair state (parseMessages lib env (chanComm2 slot)
      (relayToUser lib env pair slot) fuel bytes state).2 := by
  induction fuel generalizing bytes state with
  | zero => exact .refl
  | succ fuel ih =>
      unfold parseMessages
      split
      · exact .refl
      have received : Moves lib env pair state { state with
          mav := (receiveMessage lib env (chanComm2 slot) bytes state.mav).2.2 } :=
        .single (.receive (chanComm2 slot) bytes (.inr ⟨slot, inside, rfl, used⟩))
      generalize result : receiveMessage lib env (chanComm2 slot) bytes state.mav = answer
        at received
      rcases answer with ⟨_ | msg, rest, mav⟩
      · exact received
      · have relayed : Moves lib env pair state
            (relayToUser lib env pair slot msg { state with mav := mav }).2 :=
          (Relation.ReflTransGen.single (.relay inside used result)).trans
            (relayToUser_send slot msg { state with mav := mav })
        have kept : ((relayToUser lib env pair slot msg { state with mav := mav }).2.conn2
            slot).used = true := relayToUser_used msg used
        dsimp only
        generalize relayToUser lib env pair slot msg { state with mav := mav } = answer
          at relayed kept
        rcases answer with ⟨_ | _ | _, after⟩
        · exact relayed.trans (ih rest kept)
        · exact relayed
        · exact relayed

private theorem userBytes_moves {fanOut : Message → Nat → LoopState P → Flow × LoopState P}
    (fans : FanOutMoves lib env pair fanOut) (bytes : List UInt8) (state : LoopState P) :
    Moves lib env pair state (userBytes lib env pair wake fanOut bytes state).2 := by
  unfold userBytes
  split
  · exact parseUser_moves fans bytes.length bytes state
  · exact .refl

private theorem openUser_moves (fd : Option Nat) (peer : Peer) (isTcp : Bool) {state : LoopState P}
    (absent : state.haveConn1 = false) :
    Moves lib env pair state (openUser env pair wake fd peer isTcp state) :=
  .single (.openUser fd peer isTcp absent)

private theorem userUdp_moves (state : LoopState P) :
    Moves lib env pair state (userUdp lib env pair wake state).2 := by
  unfold userUdp
  split
  · dsimp only
    have silenced : Moves lib env pair state { state with sock1Tcp := none } :=
      Idle.moves ⟨.inl rfl, rfl, fun _ => rfl, fun _ => rfl, rfl, rfl⟩
    split
    · exact silenced
    next peer bytes _ =>
      have counted : Moves lib env pair state { state with
          sock1Tcp := none, lastPkt1 := wake.now, count1 := inc32 state.count1 } :=
        Idle.moves ⟨.inl rfl, rfl, fun _ => rfl, fun _ => rfl, rfl, rfl⟩
      split
      · exact counted.trans (userBytes_moves fanOutUdp_moves bytes _)
      next absent =>
        split
        · exact counted.trans ((openUser_moves _ peer false (Bool.not_eq_true _ ▸ absent)).trans
            (userBytes_moves fanOutUdp_moves bytes _))
        · exact counted
  · exact .refl

private theorem engineerBytes_moves {slot : Nat} (inside : slot < maxComm2Links)
    (bytes : List UInt8) {state : LoopState P} (used : (state.conn2 slot).used = true) :
    Moves lib env pair state (engineerBytes lib env pair slot bytes state).2 := by
  unfold engineerBytes
  split
  · exact parseEngineer_moves inside bytes.length bytes used
  · exact .refl

private theorem engineerDatagram_moves {slot : Nat} (inside : slot < maxComm2Links)
    (bytes : List UInt8) {state : LoopState P} (used : (state.conn2 slot).used = true) :
    Moves lib env pair state (engineerDatagram lib env pair slot bytes state).2 := by
  have parsed : Moves lib env pair state (engineerBytes lib env pair slot bytes state).2 :=
    engineerBytes_moves inside bytes used
  unfold engineerDatagram
  generalize engineerBytes lib env pair slot bytes state = result at parsed
  rcases result with ⟨_ | _ | _, after⟩ <;> exact parsed

/-- The free slot is the first that is not used. -/
theorem freeSlot_free {state : LoopState P} {slot : Nat} (free : state.freeSlot = some slot) :
    slot < maxComm2Links ∧ (state.conn2 slot).used = false ∧
      ∀ earlier < slot, (state.conn2 earlier).used = true := by
  unfold LoopState.freeSlot at free
  obtain ⟨unused, inside, before⟩ := List.find?_range_eq_some.mp free
  refine ⟨List.mem_range.mp inside, ?_, ?_⟩
  · simpa only [Bool.not_eq_true'] using unused
  · intro earlier below
    simpa only [Bool.not_not] using before earlier below

/-- Without a free slot all are used. -/
theorem freeSlot_none {state : LoopState P} (full : state.freeSlot = none) :
    ∀ slot < maxComm2Links, (state.conn2 slot).used = true := by
  unfold LoopState.freeSlot at full
  intro slot inside
  have used := List.find?_eq_none.mp full slot (List.mem_range.mpr inside)
  simpa only [Bool.not_eq_true', Bool.not_eq_false] using used

private theorem udpSlot_used {peer : Peer} {state : LoopState P} {slot : Nat}
    (found : udpSlot peer state = some slot) :
    slot < maxComm2Links ∧ (state.conn2 slot).used = true := by
  unfold udpSlot at found
  have member := List.mem_range.mp (List.mem_of_find?_eq_some found)
  have holds := List.find?_some found
  simp only [Bool.and_eq_true] at holds
  exact ⟨Nat.lt_of_lt_of_le member (Nat.min_le_right _ _), holds.1.1⟩

private theorem openUdp_used (slot : Nat) (peer : Peer) (now wallClock : Nat)
    (state : LoopState P) :
    ((state.openUdp env pair slot peer now wallClock).conn2 slot).used = true := by
  simp only [LoopState.openUdp, LoopState.directLink, LoopState.startLink, LoopState.askSnapshot,
    LoopState.withMav, LoopState.countOpened, LoopState.note, LoopState.modifySlot,
    Function.update_self, Connection2.takeUdp]

private theorem engineerPacket_moves (peer : Peer) (bytes : List UInt8) (state : LoopState P) :
    Moves lib env pair state (engineerPacket lib env pair wake peer bytes state).2 := by
  unfold engineerPacket
  split
  next slot known =>
    obtain ⟨inside, used⟩ := udpSlot_used known
    have stamped : Idle state (state.modifySlot slot fun conn =>
        { conn with lastPkt := wake.now }) := modifySlot_idle rfl rfl
    refine stamped.moves.trans (engineerDatagram_moves inside bytes ?_)
    rw [stamped.used]
    exact used
  next =>
    split
    next beyond => exact .single (.plain (show maxComm2Links < state.maxConn2Count from beyond))
    next room =>
      split
      · exact .refl
      next slot free =>
        have opened : Moves lib env pair state
            (state.openUdp env pair slot peer wake.now wake.wallClock) :=
          .single (.openUdp free (Nat.not_lt.mp room))
        exact opened.trans (engineerDatagram_moves (freeSlot_free free).1 bytes
          (openUdp_used slot peer wake.now wake.wallClock state))

private theorem engineerUdp_moves (state : LoopState P) :
    Moves lib env pair state (engineerUdp lib env pair wake state).2 := by
  unfold engineerUdp
  split
  · exact .refl
  · have counted : Moves lib env pair state { state with count2 := inc32 state.count2 } :=
      Idle.moves ⟨.inl rfl, rfl, fun _ => rfl, fun _ => rfl, rfl, rfl⟩
    exact counted.trans (engineerPacket_moves _ _ _)
  · exact .refl

private theorem userTcpAccept_moves (state : LoopState P) :
    Moves lib env pair state (userTcpAccept env pair wake state).2 := by
  unfold userTcpAccept
  split
  next absent =>
    dsimp only
    split
    · exact Idle.moves ⟨.inl rfl, rfl, fun _ => rfl, fun _ => rfl, rfl, rfl⟩
    next fd peer _ =>
      have settled :
          Moves lib env pair state { state with sock1Udp := none, sock1Tcp := some fd } :=
        Idle.moves ⟨.inl rfl, rfl, fun _ => rfl, fun _ => rfl, rfl, rfl⟩
      have opened : Moves lib env pair state (openUser env pair wake (some fd) peer true
          { state with sock1Udp := none, sock1Tcp := some fd }) :=
        settled.trans (openUser_moves (some fd) peer true absent.1)
      exact opened.trans (Idle.moves ⟨.inl rfl, rfl, fun _ => rfl, fun _ => rfl, rfl, rfl⟩)
  · exact .refl

private theorem openUserWebsocket_moves (state : LoopState P) :
    Moves lib env pair state (openUserWebsocket wake state) := by
  unfold openUserWebsocket
  split
  · have pointed : Moves lib env pair state { state with
        mav := setWs chanComm1 wake.userReadable.object state.mav } :=
      .single (.userWebsocket wake.userReadable.object)
    exact pointed.trans (Idle.moves ⟨.inl rfl, rfl, fun _ => rfl, fun _ => rfl, rfl, rfl⟩)
  · exact .refl

private theorem userTcpData_moves (state : LoopState P) :
    Moves lib env pair state (userTcpData lib env pair wake state).2 := by
  unfold userTcpData
  split
  · dsimp only
    have silenced : Moves lib env pair state { state with sock1Udp := none } :=
      Idle.moves ⟨.inl rfl, rfl, fun _ => rfl, fun _ => rfl, rfl, rfl⟩
    have detected : Moves lib env pair state
        (openUserWebsocket wake { state with sock1Udp := none }) :=
      silenced.trans (openUserWebsocket_moves _)
    generalize openUserWebsocket wake { state with sock1Udp := none } = middle at detected
    split
    · exact detected
    split
    · exact detected
    · have counted : Moves lib env pair middle { middle with
          lastPkt1 := wake.now, count1 := inc32 middle.count1 } :=
        Idle.moves ⟨.inl rfl, rfl, fun _ => rfl, fun _ => rfl, rfl, rfl⟩
      exact (detected.trans counted).trans (userBytes_moves fanOutTcp_moves _ _)
  · exact .refl

private theorem engineerTcpAccept_moves (state : LoopState P) :
    Moves lib env pair state (engineerTcpAccept env pair wake state).2 := by
  unfold engineerTcpAccept
  split
  · exact .refl
  · split
    next full =>
      exact .single (.plain (show maxComm2Links ≤ state.conn2Count ∨ _ from .inl full))
    next room =>
      split
      next taken =>
        exact .single (.plain (show _ ∨ state.freeSlot = none from .inr taken))
      next slot free => exact .single (.openTcp free (Nat.not_le.mp room))
  · exact .refl

private theorem engineerTcpSlot_moves (slot : Nat) (state : LoopState P)
    (inside : slot < maxComm2Links) :
    Moves lib env pair state (engineerTcpSlot lib env pair wake slot state).2 := by
  unfold engineerTcpSlot
  dsimp only
  split
  · exact .refl
  next live =>
    have used : (state.conn2 slot).used = true := by
      simp only [Bool.or_eq_true, Bool.not_eq_true', not_or, Bool.not_eq_false] at live
      exact live.1.2
    split
    · exact .refl
    next readable _ =>
      have detected : ∃ middle, (if (!(state.conn2 slot).tcpActive && readable.detected) = true then
          state.openWebsocket slot readable.object readable.isSSL else state) = middle ∧
          Moves lib env pair state middle ∧ (middle.conn2 slot).used = true := by
        split
        · refine ⟨_, rfl, .single (.websocket inside used), ?_⟩
          simp only [LoopState.openWebsocket, LoopState.withMav, LoopState.note,
            LoopState.modifySlot, Function.update_self, used]
        · exact ⟨state, rfl, .refl, used⟩
      obtain ⟨middle, same, acts, stillUsed⟩ := detected
      rw [same]
      split
      · exact acts.tail (.closeCounted inside stillUsed (.inl rfl))
      · split
        · exact acts
        · exact acts.tail (.closeCounted inside stillUsed (.inl rfl))
      next byte bytes _ =>
        have flagged : Idle middle (middle.modifySlot slot fun conn =>
            { conn with tcpActive := true }) := modifySlot_idle rfl rfl
        have marked : Idle middle { middle.modifySlot slot fun conn =>
            { conn with tcpActive := true } with count2 := inc32 middle.count2 } :=
          ⟨.inl rfl, rfl, flagged.used, flagged.ws, rfl, rfl⟩
        refine (acts.trans marked.moves).trans (engineerBytes_moves inside (byte :: bytes) ?_)
        rw [marked.used]
        exact stillUsed

private theorem engineerTcpData_moves (state : LoopState P) :
    Moves lib env pair state (engineerTcpData lib env pair wake state).2 :=
  eachSlot_moves engineerTcpSlot_moves state

private theorem sendStatus_moves (state : LoopState P) (packet : StatusPacket) :
    Moves lib env pair state (sendStatus lib state packet) :=
  .single (.status packet)

private theorem binlogTick_moves (state : LoopState P) :
    Moves lib env pair state (binlogTick lib pair wake state).2 := by
  have sends : ∀ (packets : List StatusPacket) (state : LoopState P),
      Moves lib env pair state (packets.foldl (sendStatus lib) state) := by
    intro packets
    induction packets with
    | nil => exact fun _ => .refl
    | cons packet packets ih =>
        exact fun state => (sendStatus_moves state packet).trans (ih (sendStatus lib state packet))
  unfold binlogTick
  split
  · have ticked : Moves lib env pair state
        { state with binlog := (state.binlog.tick wake.tickIo).2 } :=
      Idle.moves ⟨.inl rfl, rfl, fun _ => rfl, fun _ => rfl, rfl, rfl⟩
    exact ticked.trans (sends _ _)
  · exact .refl

private theorem heartbeatSnapshot_moves (state : LoopState P) :
    Moves lib env pair state (heartbeatSnapshot pair wake state).2 := by
  have saved : Moves lib env pair state { state with lastConnSave := wake.snapshotNow } :=
    Idle.moves ⟨.inl rfl, rfl, fun _ => rfl, fun _ => rfl, rfl, rfl⟩
  have plain : Event.plain { state with lastConnSave := wake.snapshotNow }
      (.snapshot (snapshotEntries pair wake state)) := trivial
  unfold heartbeatSnapshot
  by_cases due : state.lastConnSave + snapshotPeriod < wake.snapshotNow
  · rw [if_pos due]
    exact saved.tail (.plain plain)
  · rw [if_neg due]

/-- An iteration of the main loop is a sequence of moves. -/
theorem iterate_moves (state : LoopState P) :
    Moves lib env pair state (iterate lib env pair wake state).2 := by
  refine runBlocks_moves ?_ state
  unfold blocks
  simp only [List.forall_mem_cons, List.not_mem_nil, false_implies, implies_true, and_true]
  exact ⟨processDrops_moves, checkUser_moves, watchSlots_moves, selectSockets_moves,
    sweepDeadUdp_moves, userUdp_moves, engineerUdp_moves, userTcpAccept_moves, userTcpData_moves,
    engineerTcpAccept_moves, engineerTcpData_moves, binlogTick_moves, heartbeatSnapshot_moves⟩

end Blocks

/-- A session is a sequence of moves. -/
theorem run_moves {lib : Library P} {env : Environment} {pair : PortPair} (wakes : List Wakeup)
    (state : LoopState P) : Moves lib env pair state (run lib env pair wakes state).2 := by
  induction wakes generalizing state with
  | nil => exact .refl
  | cons wake wakes ih =>
      have step : Moves lib env pair state (iterate lib env pair wake state).2 :=
        iterate_moves state
      unfold run
      generalize iterate lib env pair wake state = result at step
      rcases result with ⟨_ | _ | _, middle⟩
      · exact step.trans (ih middle)
      · exact step.trans (ih middle)
      · exact step

end SupportProxy
