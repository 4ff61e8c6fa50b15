import SupportProxy.Session.Moves
import SupportProxy.Mavlink.Gate
import Mathlib.Logic.Function.Basic

/-! # The link layer of a session

What a session does to its links, with the slots, counters and sockets left out: the
links, and which channels have a connection. Every session is a sequence of link
operations (`run_operates`), the user's link included, so what holds over every
sequence of them holds over every session. -/

namespace SupportProxy

variable {P : Type}

structure LinkLayer (P : Type) where
  mav : MavState P
  connected : Nat → Bool

/-- A channel has a connection: the user's, or the engineer's of a used slot. -/
def LoopState.connected (state : LoopState P) (chan : Nat) : Bool :=
  if chan = chanComm1 then state.haveConn1
  else decide (2 ≤ chan ∧ chan - 2 < maxComm2Links) && (state.conn2 (chan - 2)).used

def LoopState.linkLayer (state : LoopState P) : LinkLayer P := ⟨state.mav, state.connected⟩

/-- Events of the session that no link takes part in. -/
def Event.sessional : Event → Prop
  | .toUser _ _ => True
  | .websocket _ _ => True
  | .refused => True
  | .overrun => True
  | .bugExit => True
  | .tlog _ => True
  | .snapshot _ => True
  | _ => False

/-- A channel that is read from or written to: the user's, or a connected engineer's. -/
def LinkLayer.Active (layer : LinkLayer P) (chan : Nat) : Prop :=
  chan = chanComm1 ∨ ∃ slot < maxComm2Links, chan = chanComm2 slot ∧ layer.connected chan = true

/-- `Operation lib env pair before after`: one step of the link layer. -/
inductive Operation (lib : Library P) (env : Environment) (pair : PortPair) :
    LinkLayer P → LinkLayer P → Prop
  | ask {before : LinkLayer P} :
      Operation lib env pair before { before with mav := before.mav.asked }
  | session {before : LinkLayer P} {event : Event} (sessional : event.sessional) :
      Operation lib env pair before { before with mav := before.mav.note event }
  | connectUser {before : LinkLayer P} (fd : Option Nat) (isTcp : Bool)
      (absent : before.connected chanComm1 = false) :
      Operation lib env pair before
        { mav := init env chanComm1 fd pair.bidi false isTcp (conn1KeyId pair) before.mav
          connected := Function.update before.connected chanComm1 true }
  | connectEngineer {before : LinkLayer P} (slot : Nat) (udp : Bool) (fd : Option Nat)
      (allowWebsocket isTcp : Bool) (inside : slot < maxComm2Links)
      (absent : before.connected (chanComm2 slot) = false) :
      Operation lib env pair before
        { mav := init env (chanComm2 slot) fd true allowWebsocket isTcp pair.port2
            (before.mav.note (.opened slot udp))
          connected := Function.update before.connected (chanComm2 slot) true }
  | receive {before : LinkLayer P} (chan : Nat) (bytes : List UInt8) (active : before.Active chan) :
      Operation lib env pair before
        { before with mav := (receiveMessage lib env chan bytes before.mav).2.2 }
  | send {before : LinkLayer P} (chan : Nat) (msg : Message) (active : before.Active chan) :
      Operation lib env pair before
        { before with mav := (sendMessage lib env chan msg before.mav).2 }
  | status {before : LinkLayer P} (seqno : Nat) (ack : Bool) :
      Operation lib env pair before
        { before with
          mav := (before.mav.modifyLink chanComm1
              (Link.packed lib ((before.mav.links chanComm1).currentTxSeq + 1))).note
            (.sentStatus chanComm1 (before.mav.links chanComm1).transport seqno ack) }
  | setWs {before : LinkLayer P} (chan object : Nat) :
      Operation lib env pair before { before with mav := setWs chan object before.mav }
  | setSendto {before : LinkLayer P} (chan : Nat) (peer : Peer) :
      Operation lib env pair before { before with mav := setSendto chan peer before.mav }
  | disconnect {before : LinkLayer P} (slot : Nat) (reason : CloseReason)
      (inside : slot < maxComm2Links) :
      Operation lib env pair before
        { mav := before.mav.note (.closed slot reason)
          connected := Function.update before.connected (chanComm2 slot) false }

/-- `Operates lib env pair state next`: a sequence of link operations. -/
def Operates (lib : Library P) (env : Environment) (pair : PortPair)
    (state next : LoopState P) : Prop :=
  Relation.ReflTransGen (Operation lib env pair) state.linkLayer next.linkLayer

/-- An operation adds to the history. -/
theorem Operation.suffix {lib : Library P} {env : Environment} {pair : PortPair}
    {before after : LinkLayer P} (operation : Operation lib env pair before after) :
    before.mav.log <:+ after.mav.log := by
  cases operation with
  | ask => exact List.suffix_refl _
  | session sessional => exact List.suffix_cons _ _
  | connectUser fd isTcp absent => exact (init_touches env _ fd _ _ _ _ _).suffix
  | connectEngineer slot udp fd allowWebsocket isTcp inside absent =>
      have opened : before.mav.log <:+ (before.mav.note (.opened slot udp)).log :=
        List.suffix_cons _ _
      exact opened.trans (init_touches env _ fd _ _ _ _ _).suffix
  | receive chan bytes active => exact (receiveMessage_touches lib env chan bytes before.mav).suffix
  | send chan msg active =>
      obtain ⟨middle, touches, _, _, same | ⟨transport, same, _⟩⟩ :=
        sendMessage_effect lib env chan msg before.mav
      · dsimp only
        rw [same]
        exact touches.suffix
      · dsimp only
        rw [same]
        exact touches.suffix.trans (List.suffix_cons _ _)
  | status seqno ack => exact List.suffix_cons _ _
  | setWs chan object => exact List.suffix_refl _
  | setSendto chan peer => exact List.suffix_refl _
  | disconnect slot reason inside => exact List.suffix_cons _ _

/-- What every operation keeps under an assumption on the history holds at the end of every
sequence of operations whose history meets it. -/
theorem Operates.invariant {lib : Library P} {env : Environment} {pair : PortPair}
    {state next : LoopState P} (holds : LinkLayer P → Prop) (allowed : List Event → Prop)
    (operates : Operates lib env pair state next)
    (earlier : ∀ {before log : List Event}, before <:+ log → allowed log → allowed before)
    (step : ∀ {before after : LinkLayer P}, Operation lib env pair before after →
      allowed after.mav.log → holds before → holds after)
    (start : holds state.linkLayer) (meets : allowed next.mav.log) : holds next.linkLayer := by
  have last : next.mav.log = next.linkLayer.mav.log := rfl
  rw [last] at meets
  rw [Operates] at operates
  generalize next.linkLayer = final at operates meets ⊢
  induction operates with
  | refl => exact start
  | tail _ operation ih => exact step operation meets (ih (earlier operation.suffix meets))

/-- An engineer is connected while its slot is used. -/
theorem connected_slot {state : LoopState P} {slot : Nat} (inside : slot < maxComm2Links) :
    state.connected (chanComm2 slot) = (state.conn2 slot).used := by
  have lifted : 2 ≤ chanComm2 slot ∧ chanComm2 slot - 2 < maxComm2Links := by
    rw [chanComm2]
    omega
  have same : chanComm2 slot - 2 = slot := by
    rw [chanComm2]
    omega
  rw [LoopState.connected, if_neg (chanComm2_ne_comm1 slot), decide_eq_true lifted, Bool.true_and,
    same]

/-- The connections of two states agree when their flags do. -/
theorem connected_congr {state next : LoopState P} (user : next.haveConn1 = state.haveConn1)
    (used : ∀ slot, (next.conn2 slot).used = (state.conn2 slot).used) :
    next.connected = state.connected := by
  funext chan
  rw [LoopState.connected, user, used, LoopState.connected]

/-- A slot whose flag changes, and no other. -/
theorem connected_update {state next : LoopState P} {slot : Nat} {flag : Bool}
    (inside : slot < maxComm2Links) (user : next.haveConn1 = state.haveConn1)
    (own : (next.conn2 slot).used = flag)
    (others : ∀ other ≠ slot, (next.conn2 other).used = (state.conn2 other).used) :
    next.connected = Function.update state.connected (chanComm2 slot) flag := by
  funext chan
  by_cases same : chan = chanComm2 slot
  · rw [same, Function.update_self, connected_slot inside, own]
  · rw [Function.update_of_ne same, LoopState.connected, user, LoopState.connected]
    by_cases lifted : 2 ≤ chan ∧ chan - 2 < maxComm2Links
    · have different : chan - 2 ≠ slot := by
        intro equal
        rw [chanComm2] at same
        omega
      rw [others _ different]
    · rw [decide_eq_false lifted, Bool.false_and, Bool.false_and]

/-- The user's connection begins. -/
theorem connected_user {state next : LoopState P} (user : next.haveConn1 = true)
    (used : ∀ slot, (next.conn2 slot).used = (state.conn2 slot).used) :
    next.connected = Function.update state.connected chanComm1 true := by
  funext chan
  by_cases same : chan = chanComm1
  · rw [same, Function.update_self, LoopState.connected, if_pos rfl, user]
  · rw [Function.update_of_ne same, LoopState.connected, if_neg same, used, LoopState.connected,
      if_neg same]

section Blocks

variable {lib : Library P} {env : Environment} {pair : PortPair} {wake : Wakeup}

namespace Operates

private theorem refl (state : LoopState P) :
    Operates lib env pair state state := Relation.ReflTransGen.refl

private theorem trans {state middle next : LoopState P} (first : Operates lib env pair state middle)
    (second : Operates lib env pair middle next) : Operates lib env pair state next :=
  Relation.ReflTransGen.trans first second

/-- Nothing the links see has changed. -/
theorem of_same {state next : LoopState P} (mav : next.mav = state.mav)
    (user : next.haveConn1 = state.haveConn1)
    (used : ∀ slot, (next.conn2 slot).used = (state.conn2 slot).used) :
    Operates lib env pair state next := by
  have same : next.linkLayer = state.linkLayer := by
    rw [LoopState.linkLayer, mav, connected_congr user used]
    rfl
  rw [Operates, same]

private theorem of_operation {state next : LoopState P} {after : LinkLayer P}
    (operation : Operation lib env pair state.linkLayer after) (mav : next.mav = after.mav)
    (connected : next.connected = after.connected) : Operates lib env pair state next := by
  have same : next.linkLayer = after := by
    rw [LoopState.linkLayer, mav, connected]
  rw [Operates, same]
  exact .single operation

/-- An operation that leaves every connection as it is. -/
theorem of_mav {state next : LoopState P}
    (operation : Operation lib env pair state.linkLayer ⟨next.mav, state.connected⟩)
    (user : next.haveConn1 = state.haveConn1)
    (used : ∀ slot, (next.conn2 slot).used = (state.conn2 slot).used) :
    Operates lib env pair state next :=
  of_operation operation rfl (connected_congr user used)

private theorem note {state : LoopState P} {event : Event} (sessional : event.sessional) :
    Operates lib env pair state (state.note event) :=
  of_mav (.session sessional) rfl fun _ => rfl

/-- A slot is freed. -/
theorem close {state next : LoopState P} {slot : Nat} {reason : CloseReason}
    (inside : slot < maxComm2Links) (mav : next.mav = state.mav.note (.closed slot reason))
    (user : next.haveConn1 = state.haveConn1)
    (conn2 : next.conn2 = Function.update state.conn2 slot (state.conn2 slot).close) :
    Operates lib env pair state next := by
  refine of_operation (.disconnect slot reason inside) mav (connected_update inside user ?_ ?_)
  · rw [conn2, Function.update_self]
    rfl
  · intro other different
    rw [conn2, Function.update_of_ne different]

private theorem withMav_connected (state : LoopState P) (mav : MavState P) :
    (state.withMav mav).askSnapshot.connected = state.connected := rfl

private theorem taken_own (state : LoopState P) (slot : Nat) (udp : Bool)
    (take : Connection2 → Connection2) :
    ((state.modifySlot slot take).countOpened slot udp).conn2 slot = take (state.conn2 slot) :=
  Function.update_self ..

private theorem taken_other (state : LoopState P) {slot other : Nat} (udp : Bool)
    (take : Connection2 → Connection2) (different : other ≠ slot) :
    ((state.modifySlot slot take).countOpened slot udp).conn2 other = state.conn2 other :=
  Function.update_of_ne different ..

/-- A slot is taken and its link started. -/
theorem open_slot {state taken : LoopState P} {slot : Nat} {udp : Bool} (fd : Option Nat)
    (allowWebsocket isTcp : Bool) (inside : slot < maxComm2Links)
    (free : (state.conn2 slot).used = false)
    (mav : taken.mav = state.mav.note (.opened slot udp))
    (user : taken.haveConn1 = state.haveConn1) (own : (taken.conn2 slot).used = true)
    (others : ∀ other ≠ slot, (taken.conn2 other).used = (state.conn2 other).used) :
    Operates lib env pair state (taken.startLink env pair slot fd allowWebsocket isTcp) := by
  have absent : state.linkLayer.connected (chanComm2 slot) = false :=
    (connected_slot inside).trans free
  have connected := connected_update inside user own others
  have started : ∀ mav, Operation lib env pair state.linkLayer
      ⟨mav, Function.update state.connected (chanComm2 slot) true⟩ →
        Operates lib env pair state (taken.withMav mav).askSnapshot := by
    intro mav operation
    refine of_operation operation rfl ?_
    rw [withMav_connected, connected]
  rw [LoopState.startLink, mav]
  exact started _ (.connectEngineer slot udp fd allowWebsocket isTcp inside absent)

private theorem noteRelay {state : LoopState P} {slot : Nat} (msg : Message) :
    Operates lib env pair state (noteRelay pair slot msg state) := by
  have counted : Operates lib env pair state (state.modifySlot slot fun conn =>
      { conn with rxMsgs := inc32 conn.rxMsgs }) :=
    of_same rfl rfl (modifySlot_idle rfl rfl).used
  have logged : (Event.tlog msg).sessional := trivial
  have told : (Event.toUser slot msg).sessional := trivial
  rw [SupportProxy.noteRelay, writeTlog]
  split_ifs
  · exact (counted.trans (note logged)).trans (note told)
  · exact counted.trans (note told)

private theorem directLink (slot : Nat) (peer : Peer) (state : LoopState P) :
    Operates lib env pair state (state.directLink slot peer) :=
  of_mav (.setSendto (chanComm2 slot) peer) rfl fun _ => rfl

private theorem openWebsocket {slot : Nat} (object : Nat) (isSSL : Bool) (state : LoopState P) :
    Operates lib env pair state (state.openWebsocket slot object isSSL) := by
  have linked : Operates lib env pair state ((state.modifySlot slot fun conn =>
      { conn with ws := some object, wsIsSSL := isSSL }).withMav
        (SupportProxy.setWs (chanComm2 slot) object state.mav)) := by
    refine of_mav (.setWs (chanComm2 slot) object) rfl fun other => ?_
    rw [LoopState.withMav_conn2, LoopState.modifySlot]
    by_cases same : other = slot
    · subst same
      simp only [Function.update_self]
    · simp only [Function.update_of_ne same]
  have made : (Event.websocket slot object).sessional := trivial
  exact linked.trans (note made)

end Operates

private theorem LoopState.Active.linkLayer {state : LoopState P} {chan : Nat}
    (active : state.Active chan) :
    state.linkLayer.Active chan := by
  rcases active with user | ⟨slot, inside, rfl, used⟩
  · exact .inl user
  · exact .inr ⟨slot, inside, rfl, (connected_slot inside).trans used⟩

private theorem Move.operates {state next : LoopState P} (move : Move lib env pair state next) :
    Operates lib env pair state next := by
  cases move with
  | idle idle =>
      rcases idle.mav with same | asked
      · exact .of_same same idle.user idle.used
      · exact .of_mav (by rw [asked]; exact .ask) idle.user idle.used
  | plain plain =>
      rename_i event
      refine .note ?_
      cases event <;> trivial
  | receive chan bytes active =>
      exact .of_mav (.receive chan bytes active.linkLayer) rfl fun _ => rfl
  | relay inside used received =>
      rename_i mav slot bytes rest msg
      have active : state.Active (chanComm2 slot) := .inr ⟨slot, inside, rfl, used⟩
      have read : Operates lib env pair state
          { state with mav := (receiveMessage lib env (chanComm2 slot) bytes state.mav).2.2 } :=
        .of_mav (.receive (chanComm2 slot) bytes active.linkLayer) rfl fun _ => rfl
      rw [received] at read
      exact read.trans (.noteRelay msg)
  | send chan msg active => exact .of_mav (.send chan msg active.linkLayer) rfl fun _ => rfl
  | status packet => exact .of_mav (.status packet.seqno packet.ack) rfl fun _ => rfl
  | openUser fd peer isTcp absent =>
      exact .of_operation (.connectUser fd isTcp absent) rfl (connected_user rfl fun _ => rfl)
  | userWebsocket object => exact .of_mav (.setWs chanComm1 object) rfl fun _ => rfl
  | openUdp free room =>
      rename_i slot peer now wallClock
      obtain ⟨inside, unused, _⟩ := freeSlot_free free
      rw [LoopState.openUdp]
      refine Operates.trans ?_ (.directLink slot peer _)
      refine .open_slot state.sock2Udp false false inside unused rfl rfl ?_ ?_
      · rw [Operates.taken_own]
        rfl
      · intro other different
        rw [Operates.taken_other state _ _ different]
  | openTcp free room =>
      rename_i slot fd peer wallClock
      obtain ⟨inside, unused, _⟩ := freeSlot_free free
      rw [LoopState.openTcp]
      refine .open_slot (some fd) true true inside unused rfl rfl ?_ ?_
      · rw [Operates.taken_own]
        rfl
      · intro other different
        rw [Operates.taken_other state _ _ different]
  | websocket inside used =>
      rename_i slot object isSSL
      exact .openWebsocket object isSSL state
  | closeCounted inside used counted => exact .close inside rfl rfl rfl
  | closeDropped inside used => exact .close inside rfl rfl rfl
  | closeDead inside used => exact .close inside rfl rfl rfl

/-- A session is a sequence of link operations. -/
theorem run_operates (wakes : List Wakeup) (state : LoopState P) :
    Operates lib env pair state (run lib env pair wakes state).2 := by
  have moves : Moves lib env pair state (run lib env pair wakes state).2 := run_moves wakes state
  generalize (run lib env pair wakes state).2 = last at moves ⊢
  induction moves with
  | refl => exact .refl state
  | tail _ move ih => exact ih.trans move.operates

end Blocks

end SupportProxy
