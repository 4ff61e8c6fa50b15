import SupportProxy.Session.Moves
import SupportProxy.Mavlink.Gate

/-! # What an iteration of the main loop can do

`Action` lists the steps a session takes as far as slots, links and the history see
them. Every move is a sequence of actions (`run_acts`), so an invariant of a session
is one case analysis on `Action`. -/

namespace SupportProxy

variable {P : Type}

/-- Nothing that slots, links or the history depend on has changed. -/
structure Unmoved (state next : LoopState P) : Prop where
  links : next.mav.links = state.mav.links
  log : next.mav.log = state.mav.log
  used : ∀ slot, (next.conn2 slot).used = (state.conn2 slot).used
  ws : ∀ slot, (next.conn2 slot).ws = (state.conn2 slot).ws
  count : next.conn2Count = state.conn2Count
  max : next.maxConn2Count = state.maxConn2Count

/-- `Action lib env pair state next`: one step of a session. -/
inductive Action (lib : Library P) (env : Environment) (pair : PortPair) :
    LoopState P → LoopState P → Prop
  | quiet {state next : LoopState P} (unmoved : Unmoved state next) :
      Action lib env pair state next
  | plain {state : LoopState P} {event : Event} (plain : event.plain state) :
      Action lib env pair state (state.note event)
  /-- an operation on the user's link -/
  | user {state : LoopState P} {mav : MavState P} (touches : Touches chanComm1 state.mav mav) :
      Action lib env pair state { state with mav := mav }
  | userWebsocket {state : LoopState P} (object : Nat) :
      Action lib env pair state { state with mav := setWs chanComm1 object state.mav }
  /-- an operation on an engineer's link that says nothing about its peer -/
  | calm {state : LoopState P} {mav : MavState P} {slot : Nat} (inside : slot < maxComm2Links)
      (touches : Touches (chanComm2 slot) state.mav mav)
      (calm : Calm (chanComm2 slot) state.mav mav) :
      Action lib env pair state { state with mav := mav }
  | receive {state : LoopState P} {slot : Nat} (bytes : List UInt8)
    (inside : slot < maxComm2Links) :
      Action lib env pair state
        { state with mav := (receiveMessage lib env (chanComm2 slot) bytes state.mav).2.2 }
  /-- an engineer's message is accepted and goes to the user -/
  | relay {state : LoopState P} {mav : MavState P} {slot : Nat} {bytes rest : List UInt8}
      {msg : Message} (inside : slot < maxComm2Links) (used : (state.conn2 slot).used = true)
      (received : receiveMessage lib env (chanComm2 slot) bytes state.mav = (some msg, rest, mav)) :
      Action lib env pair state (noteRelay pair slot msg { state with mav := mav })
  | sentUser {state : LoopState P} {transport : Transport} {msg : Message} :
      Action lib env pair state (state.note (.sent chanComm1 transport msg))
  | sent {state : LoopState P} {mav : MavState P} {slot : Nat} {transport : Transport}
      {msg : Message} (inside : slot < maxComm2Links) (used : (state.conn2 slot).used = true)
      (touches : Touches (chanComm2 slot) state.mav mav)
      (calm : Calm (chanComm2 slot) state.mav mav) (log : mav.log = state.mav.log)
      (object : transport.object = (state.mav.links (chanComm2 slot)).ws)
      (passes : (state.mav.links (chanComm2 slot)).passes msg) :
      Action lib env pair state
        (LoopState.note { state with mav := mav } (.sent (chanComm2 slot) transport msg))
  | openUdp {state : LoopState P} {slot : Nat} {peer : Peer} {now wallClock : Nat}
      (free : state.freeSlot = some slot) (room : state.maxConn2Count ≤ maxComm2Links) :
      Action lib env pair state (state.openUdp env pair slot peer now wallClock)
  | openTcp {state : LoopState P} {slot fd : Nat} {peer : Peer} {wallClock : Nat}
      (free : state.freeSlot = some slot) (room : state.conn2Count < maxComm2Links) :
      Action lib env pair state (state.openTcp env pair slot fd peer wallClock)
  | websocket {state : LoopState P} {slot object : Nat} {isSSL : Bool}
      (inside : slot < maxComm2Links) (used : (state.conn2 slot).used = true) :
      Action lib env pair state (state.openWebsocket slot object isSSL)
  | closeCounted {state : LoopState P} {slot : Nat} {reason : CloseReason}
      (inside : slot < maxComm2Links) (used : (state.conn2 slot).used = true)
      (counted : reason = .eof ∨ reason = .sendFailed) :
      Action lib env pair state (state.closeCounted reason slot)
  | closeDropped {state : LoopState P} {slot : Nat} (inside : slot < maxComm2Links)
      (used : (state.conn2 slot).used = true) :
      Action lib env pair state (state.closeDropped slot)
  | closeDead {state : LoopState P} {slot : Nat} (inside : slot < maxComm2Links)
      (used : (state.conn2 slot).used = true) :
      Action lib env pair state (state.closeDead slot)

/-- `Acts lib env pair state next`: a sequence of steps. -/
abbrev Acts (lib : Library P) (env : Environment) (pair : PortPair) :
    LoopState P → LoopState P → Prop :=
  Relation.ReflTransGen (Action lib env pair)

/-- Starting a link touches it alone. -/
theorem startLink_touches (env : Environment) (pair : PortPair) (slot : Nat) (fd : Option Nat)
    (allowWebsocket isTcp : Bool) (state : LoopState P) :
    Touches (chanComm2 slot) state.mav
      (state.startLink env pair slot fd allowWebsocket isTcp).mav := by
  have started :=
    init_touches env (chanComm2 slot) fd true allowWebsocket isTcp pair.port2 state.mav
  unfold LoopState.startLink
  generalize init env (chanComm2 slot) fd true allowWebsocket isTcp pair.port2 state.mav = mav
    at started ⊢
  exact started

/-- Setting the peer touches the link alone. -/
theorem directLink_touches (slot : Nat) (peer : Peer) (state : LoopState P) :
    Touches (chanComm2 slot) state.mav (state.directLink slot peer).mav := by
  have pointed : Touches (chanComm2 slot) state.mav (state.mav.modifyLink (chanComm2 slot)
      fun link => { link with useSendto := true, sendAddr := peer }) := .modifyLink rfl
  exact pointed

variable {lib : Library P} {env : Environment} {pair : PortPair}

/-- An idle step moves nothing. -/
theorem Idle.unmoved {state next : LoopState P} (idle : Idle state next) : Unmoved state next := by
  refine ⟨?_, ?_, idle.used, idle.ws, idle.count, idle.max⟩
  · rcases idle.mav with same | asked
    · rw [same]
    · rw [asked]
      rfl
  · rcases idle.mav with same | asked
    · rw [same]
    · rw [asked]
      rfl

private theorem send_acts {slot : Nat} (msg : Message) {state : LoopState P}
    (inside : slot < maxComm2Links) (used : (state.conn2 slot).used = true) :
    Acts lib env pair state
      { state with mav := (sendMessage lib env (chanComm2 slot) msg state.mav).2 } := by
  obtain ⟨middle, touches, calm, log, sent⟩ :=
    sendMessage_effect lib env (chanComm2 slot) msg state.mav
  rcases sent with silent | ⟨transport, noted, object, passes⟩
  · rw [silent]
    exact .single (.calm inside touches calm)
  · rw [noted]
    exact .single (.sent inside used touches calm log object passes)

private theorem sendUser_acts (msg : Message) (state : LoopState P) :
    Acts lib env pair state
      { state with mav := (sendMessage lib env chanComm1 msg state.mav).2 } := by
  obtain ⟨middle, touches, _, _, sent⟩ := sendMessage_effect lib env chanComm1 msg state.mav
  have first : Acts lib env pair state { state with mav := middle } := .single (.user touches)
  rcases sent with silent | ⟨transport, noted, _, _⟩
  · rw [silent]
    exact first
  · rw [noted]
    exact first.tail .sentUser

private theorem sendStatus_acts (state : LoopState P) (packet : StatusPacket) :
    Acts lib env pair state (sendStatus lib state packet) := by
  have packed : Touches chanComm1 state.mav (state.mav.modifyLink chanComm1
      (Link.packed lib ((state.mav.links chanComm1).currentTxSeq + 1))) := .modifyLink rfl
  refine .single (.user (packed.trans (.note ⟨rfl, ?_⟩)))
  rw [Link.transport_object, packed.ws]

private theorem openUser_acts {wake : Wakeup} (fd : Option Nat) (peer : Peer) (isTcp : Bool)
    (state : LoopState P) :
    Acts lib env pair state (openUser env pair wake fd peer isTcp state) := by
  have started : Acts lib env pair state { state with
      mav := init env chanComm1 fd pair.bidi false isTcp (conn1KeyId pair) state.mav } :=
    .single (.user (init_touches env chanComm1 fd pair.bidi false isTcp _ state.mav))
  exact started.tail (.quiet ⟨rfl, rfl, fun _ => rfl, fun _ => rfl, rfl, rfl⟩)

private theorem Move.acts {state next : LoopState P} (move : Move lib env pair state next) :
    Acts lib env pair state next := by
  cases move with
  | idle idle => exact .single (.quiet idle.unmoved)
  | plain plain => exact .single (.plain plain)
  | receive chan bytes active =>
      rcases active with rfl | ⟨slot, inside, rfl, _⟩
      · exact .single (.user (receiveMessage_touches lib env chanComm1 bytes state.mav))
      · exact .single (.receive bytes inside)
  | relay inside used received => exact .single (.relay inside used received)
  | send chan msg active =>
      rcases active with rfl | ⟨slot, inside, rfl, used⟩
      · exact sendUser_acts msg state
      · exact send_acts msg inside used
  | status packet => exact sendStatus_acts state packet
  | openUser fd peer isTcp absent => exact openUser_acts fd peer isTcp state
  | userWebsocket object => exact .single (.userWebsocket object)
  | openUdp free room => exact .single (.openUdp free room)
  | openTcp free room => exact .single (.openTcp free room)
  | websocket inside used => exact .single (.websocket inside used)
  | closeCounted inside used counted => exact .single (.closeCounted inside used counted)
  | closeDropped inside used => exact .single (.closeDropped inside used)
  | closeDead inside used => exact .single (.closeDead inside used)

/-- A session is a sequence of actions. -/
theorem run_acts {lib : Library P} {env : Environment} {pair : PortPair} (wakes : List Wakeup)
    (state : LoopState P) : Acts lib env pair state (run lib env pair wakes state).2 := by
  have moves : Moves lib env pair state (run lib env pair wakes state).2 := run_moves wakes state
  generalize (run lib env pair wakes state).2 = last at moves ⊢
  induction moves with
  | refl => exact .refl
  | tail _ move ih => exact ih.trans move.acts

/-- Noting a relayed message adds to the history. -/
theorem noteRelay_suffix {pair : PortPair} (slot : Nat) (msg : Message) (state : LoopState P) :
    state.mav.log <:+ (noteRelay pair slot msg state).mav.log := by
  rw [noteRelay, writeTlog]
  split
  · exact (List.suffix_cons _ _).trans (List.suffix_cons _ _)
  · exact List.suffix_cons _ _

/-- A history only grows. -/
theorem Action.suffix {lib : Library P} {env : Environment} {pair : PortPair}
    {state next : LoopState P} (action : Action lib env pair state next) :
    state.mav.log <:+ next.mav.log := by
  cases action with
  | quiet unmoved => exact unmoved.log ▸ List.suffix_refl _
  | plain plain => exact List.suffix_cons _ _
  | user touches => exact touches.suffix
  | userWebsocket object => exact List.suffix_refl _
  | calm inside touches calm => exact touches.suffix
  | receive bytes inside => exact (receiveMessage_touches lib env _ bytes state.mav).suffix
  | relay inside used received =>
      rename_i mav slot bytes rest msg
      have touches := receiveMessage_touches lib env (chanComm2 slot) bytes state.mav
      rw [received] at touches
      exact touches.suffix.trans (noteRelay_suffix slot msg { state with mav := mav })
  | sentUser => exact List.suffix_cons _ _
  | sent inside used touches calm log object passes =>
      exact touches.suffix.trans (List.suffix_cons _ _)
  | openUdp free room =>
      rename_i slot peer now wallClock
      have taken : state.mav.log <:+ (LoopState.countOpened slot true
          (state.modifySlot slot (Connection2.takeUdp peer now wallClock))).mav.log :=
        List.suffix_cons _ _
      have started := (startLink_touches env pair slot state.sock2Udp false false
        (LoopState.countOpened slot true
          (state.modifySlot slot (Connection2.takeUdp peer now wallClock)))).suffix
      exact (taken.trans started).trans (directLink_touches slot peer _).suffix
  | openTcp free room =>
      rename_i slot fd peer wallClock
      have taken : state.mav.log <:+ (LoopState.countOpened slot false
          (state.modifySlot slot (Connection2.takeTcp fd peer wallClock))).mav.log :=
        List.suffix_cons _ _
      exact taken.trans (startLink_touches env pair slot (some fd) true true _).suffix
  | websocket inside used => exact List.suffix_cons _ _
  | closeCounted inside used counted => exact List.suffix_cons _ _
  | closeDropped inside used => exact List.suffix_cons _ _
  | closeDead inside used => exact List.suffix_cons _ _

end SupportProxy
