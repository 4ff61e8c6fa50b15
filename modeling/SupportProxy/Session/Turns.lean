import SupportProxy.Session.MainLoop
import SupportProxy.Mavlink.News
import SupportProxy.Library.Segments
import Mathlib.Logic.Relation

/-! # The turns of a session

What the main loop does, told in turns: a message of the user with its record, its tap and
its copies for the engineers; a message of an engineer with its way to the user; a new
engineer; a snapshot; a tick of the binlog writer; and all that none of these is about.
A session is a sequence of turns (`run_turns`). -/

namespace SupportProxy

open Segments

namespace Event

/-- The binlog tap strips the message. -/
def tapped (pair : PortPair) (msg : Message) : Bool :=
  pair.binlogEnabled &&
    (decide (msg.msgid = Message.remoteLogDataBlock) ||
      decide (msg.msgid = Message.remoteLogBlockStatus))

/-- The relayed message handed to the transport of a channel. -/
def sentOn (chan : Nat) : Event → Option Message
  | .sent other _ msg => if other = chan then some msg else none
  | _ => none

/-- An event that no turn is named after. -/
def neutral : Event → Prop
  | .tlog _ => False
  | .accepted _ _ => False
  | .toUser _ _ => False
  | .sent _ _ _ => False
  | .sentStatus _ _ _ _ => False
  | .opened _ _ => False
  | .snapshot _ => False
  | _ => True

/-- A neutral event is no message sent. -/
theorem neutral.sentOn {event : Event} (neutral : event.neutral) (chan : Nat) :
    event.sentOn chan = none := by
  cases event <;> first | rfl | exact neutral.elim

end Event

/-- Events that no turn is named after. -/
def Neutral (news : List Event) : Prop := ∀ event ∈ news, event.neutral

private theorem Neutral.additive : Additive Neutral := .forall_mem _

/-- A reading that is blind for neutral events finds nothing in them. -/
theorem Neutral.filterMap {α : Type} {news : List Event} (neutral : Neutral news)
    {reading : Event → Option α} (blind : ∀ event : Event, event.neutral → reading event = none) :
    news.filterMap reading = [] :=
  List.filterMap_eq_nil_iff.mpr fun event member => blind event (neutral event member)

private theorem Neutral.added {event : Event} {before after : List Event}
    (added : after = event :: before) (neutral : event.neutral) : Grown Neutral before after :=
  ⟨[event], added, fun other member => by rwa [List.mem_singleton.mp member]⟩

/-! ## What the operations of a link add -/

variable {P : Type}

section Links

variable (lib : Library P) (env : Environment) (chan : Nat)

private theorem Warns.grown {chan : Nat} {mav next : MavState P} (warns : Warns chan mav next) :
    Grown Neutral mav.log next.log := by
  rcases warns with same | ⟨event, isWarning, added⟩
  · exact .of_eq Neutral.additive same
  · refine Neutral.added added ?_
    cases event <;> first | exact isWarning.elim | trivial

private theorem parseByte_grown (byte : UInt8) (mav : MavState P) :
    Grown Neutral mav.log (parseByte lib chan byte mav).2.log := by
  rcases parseByte_log lib chan byte mav with ⟨same, -⟩ | ⟨msg, verified, -, added⟩
  · exact .of_eq Neutral.additive same
  · exact Neutral.added added trivial

private theorem checkFrame_grown (msg : Message) (mav : MavState P) :
    Grown Neutral mav.log (checkFrame lib env chan msg mav).2.log := by
  by_cases unchecked : (mav.links chan).keyId = -1
  · have same : (checkFrame lib env chan msg mav).2 = mav := by
      rw [checkFrame]
      dsimp only
      rw [if_pos unchecked]
    exact .of_eq Neutral.additive (congrArg MavState.log same)
  · rcases checkFrame_log lib env chan msg mav unchecked with
      ⟨warns, -⟩ | ⟨-, same | ⟨-, failed | ⟨key, loaded⟩⟩⟩
    · exact warns.grown
    · exact .of_eq Neutral.additive same
    · exact Neutral.added failed trivial
    · exact Neutral.added loaded trivial

/-- `receive_message` shows the message that it returns, as its newest event. -/
theorem receiveBytes_grown (bytes : List UInt8) (mav : MavState P) :
    match receiveBytes lib env chan bytes mav with
    | (none, _, next) => Grown Neutral mav.log next.log
    | (some msg, _, next) => ∃ before, next.log = .accepted chan msg :: before ∧
        Grown Neutral mav.log before := by
  induction bytes generalizing mav with
  | nil => exact .refl Neutral.additive _
  | cons byte rest ih =>
      have parsed := parseByte_grown lib chan byte mav
      rw [receiveBytes]
      generalize parseByte lib chan byte mav = result at parsed
      rcases result with ⟨_ | msg, after⟩
      · have received := ih after
        dsimp only
        generalize receiveBytes lib env chan rest after = answer at received
        rcases answer with ⟨_ | msg, left, next⟩
        · exact parsed.trans Neutral.additive received
        · obtain ⟨before, newest, grown⟩ := received
          exact ⟨before, newest, parsed.trans Neutral.additive grown⟩
      · have checked := parsed.trans Neutral.additive (checkFrame_grown lib env chan msg after)
        dsimp only
        generalize checkFrame lib env chan msg after = answer at checked
        rcases answer with ⟨_ | _, done⟩
        · exact checked
        · exact ⟨done.log, rfl, checked⟩

private theorem sendMessage_grown (msg : Message) (mav : MavState P) :
    (sendMessage lib env chan msg mav).2.log = mav.log ∨
      ∃ transport,
        (sendMessage lib env chan msg mav).2.log = .sent chan transport msg :: mav.log := by
  obtain ⟨middle, -, -, log, same | ⟨transport, noted, -⟩⟩ :=
    sendMessage_effect lib env chan msg mav
  · exact .inl (by rw [same, log])
  · exact .inr ⟨transport, by rw [noted, ← log]; rfl⟩

private theorem init_grown (fd : Option Nat) (signingRequired allowWebsocket isTcp : Bool)
    (keyId : Int) (mav : MavState P) :
    Grown Neutral mav.log
      (init env chan fd signingRequired allowWebsocket isTcp keyId mav).log := by
  rcases init_log env chan fd signingRequired allowWebsocket isTcp keyId mav with
    started | ⟨-, key, loaded⟩
  · exact Neutral.added started trivial
  · have started : Grown Neutral mav.log (.init chan :: mav.log) := Neutral.added rfl trivial
    exact started.trans Neutral.additive (Neutral.added loaded trivial)

end Links

/-! ## The copies of one message -/

/-- Copies of one message on the engineers' channels from a slot on, at most one a slot. -/
structure Copies (msg : Message) (first : Nat) (news : List Event) : Prop where
  sends : ∀ event ∈ news, event.neutral ∨ ∃ chan transport, event = .sent chan transport msg
  user : news.filterMap (Event.sentOn chanComm1) = []
  below : ∀ slot < first, news.filterMap (Event.sentOn (chanComm2 slot)) = []
  once : ∀ slot, (news.filterMap (Event.sentOn (chanComm2 slot))).Sublist [msg]

/-- At most one copy on one channel. -/
structure Copy (msg : Message) (chan : Nat) (news : List Event) : Prop where
  sends : ∀ event ∈ news, event.neutral ∨ ∃ chan transport, event = .sent chan transport msg
  others : ∀ other ≠ chan, news.filterMap (Event.sentOn other) = []
  once : (news.filterMap (Event.sentOn chan)).Sublist [msg]

private theorem Neutral.copy {msg : Message} {chan : Nat} {news : List Event}
    (neutral : Neutral news) :
    Copy msg chan news where
  sends := fun event member => .inl (neutral event member)
  others := fun other _ => neutral.filterMap fun _ blind => blind.sentOn other
  once := by
    rw [neutral.filterMap fun _ blind => blind.sentOn chan]
    exact List.nil_sublist _

/-- A closed slot behind the copy. -/
theorem Copy.topped {msg : Message} {chan : Nat} {news : List Event} (copy : Copy msg chan news)
    {event : Event} (neutral : event.neutral) : Copy msg chan (event :: news) where
  sends := fun other member => (List.mem_cons.mp member).elim
    (fun same => .inl (same ▸ neutral)) (copy.sends other)
  others := fun other different => by
    rw [List.filterMap_cons_none (neutral.sentOn other)]
    exact copy.others other different
  once := by
    rw [List.filterMap_cons_none (neutral.sentOn chan)]
    exact copy.once

private theorem Copy.sent (msg : Message) (chan : Nat) (transport : Transport) :
    Copy msg chan [.sent chan transport msg] where
  sends := fun event member => .inr ⟨chan, transport, List.mem_singleton.mp member⟩
  others := fun other different => by
    have hidden : Event.sentOn other (.sent chan transport msg) = none := if_neg different.symm
    rw [List.filterMap_cons_none hidden, List.filterMap_nil]
  once := by
    have shown : Event.sentOn chan (.sent chan transport msg) = some msg := if_pos rfl
    rw [List.filterMap_cons_some shown, List.filterMap_nil]

private theorem Copies.nil (msg : Message) (first : Nat) : Copies msg first [] :=
  ⟨fun _ member => (List.not_mem_nil member).elim, rfl, fun _ _ => rfl,
    fun _ => List.nil_sublist _⟩

section Hidden

variable {α : Type} {msg : Message} {news : List Event} {reading : Event → Option α}
  (blind : ∀ event : Event, event.neutral → reading event = none)
  (unsent : ∀ chan transport, reading (.sent chan transport msg) = none)

include blind unsent

/-- A reading of the history that shows neither neutral events nor copies. -/
theorem hidden_of_sends
    (sends : ∀ event ∈ news, event.neutral ∨ ∃ chan transport, event = .sent chan transport msg) :
    news.filterMap reading = [] := by
  apply List.filterMap_eq_nil_iff.mpr
  intro event member
  rcases sends event member with neutral | ⟨chan, transport, rfl⟩
  · exact blind event neutral
  · exact unsent chan transport

/-- A reading that is blind for what is passed on finds nothing in it. -/
theorem Copies.hidden {first : Nat} (copies : Copies msg first news) :
    news.filterMap reading = [] := hidden_of_sends blind unsent copies.sends

/-- A reading that is blind for a sent message finds nothing in one copy. -/
theorem Copy.hidden {chan : Nat} (copy : Copy msg chan news) : news.filterMap reading = [] :=
  hidden_of_sends blind unsent copy.sends

end Hidden

private theorem Copies.append {msg : Message} {slot : Nat} {late early : List Event}
    (copies : Copies msg (slot + 1) late) (copy : Copy msg (chanComm2 slot) early) :
    Copies msg slot (late ++ early) where
  sends := fun event member => (List.mem_append.mp member).elim (copies.sends event)
    (copy.sends event)
  user := by
    rw [List.filterMap_append, copies.user, copy.others _ (chanComm2_ne_comm1 slot).symm,
      List.append_nil]
  below := by
    intro other before
    have different : other ≠ slot := by omega
    rw [List.filterMap_append, copies.below other (by omega),
      copy.others _ (chanComm2_ne different), List.append_nil]
  once := by
    intro other
    rw [List.filterMap_append]
    by_cases same : other = slot
    · rw [same, copies.below slot (Nat.lt_succ_self slot), List.nil_append]
      exact copy.once
    · rw [copy.others _ (chanComm2_ne same), List.append_nil]
      exact copies.once other

/-- The entry of a message for the tlog. -/
def tlogEvents (pair : PortPair) (msg : Message) : List Event :=
  if pair.tlogEnabled then [.tlog msg] else []


/-! ## The turns -/

/-- The binlog writer after the tap on a user's message. -/
def tap (lib : Library P) (pair : PortPair) (msg : Message) (nextN : Nat) (io : BlockIo)
    (writer : BinlogWriter) : BinlogWriter :=
  let observed := writer.observe nextN msg (lib.timeBootMs msg)
  if msg.msgid = Message.remoteLogDataBlock then
    (observed.handleBlock (pair.port2 % 2 ^ 32).toNat pair.sessionN io msg.sysid msg.compid
      (lib.dataBlock msg)).2
  else observed

/-- A slot that is still used was used before, and has counted no more. -/
structure Connection2.Kept (before after : Connection2) : Prop where
  used : after.used = true → before.used = true
  rx : after.used = true → after.rxMsgs = before.rxMsgs
  tx : after.used = true → after.txMsgs = before.txMsgs

/-- Nothing has been counted. -/
structure Steady (state next : LoopState P) : Prop where
  slots : ∀ slot, (state.conn2 slot).Kept (next.conn2 slot)
  userRx : next.mav1RxMsgs = state.mav1RxMsgs
  userTx : next.mav1TxMsgs = state.mav1TxMsgs

/-- The fan-out of a message to one slot. -/
structure FannedSlot (msg : Message) (slot : Nat) (state next : LoopState P) : Prop where
  binlog : next.binlog = state.binlog
  userRx : next.mav1RxMsgs = state.mav1RxMsgs
  userTx : next.mav1TxMsgs = state.mav1TxMsgs
  others : ∀ other ≠ slot, next.conn2 other = state.conn2 other
  rx : (next.conn2 slot).used = true →
    (state.conn2 slot).used = true ∧ (next.conn2 slot).rxMsgs = (state.conn2 slot).rxMsgs
  copy : ∃ news, next.mav.log = news ++ state.mav.log ∧ Copy msg (chanComm2 slot) news ∧
    ((next.conn2 slot).used = true →
      (next.conn2 slot).txMsgs = (state.conn2 slot).txMsgs ∧
          news.filterMap (Event.sentOn (chanComm2 slot)) = [] ∨
        (next.conn2 slot).txMsgs = inc32 (state.conn2 slot).txMsgs)

/-- The fan-out of a message to the slots from one on. A slot that is still used counted the
message, or nothing was sent to it. -/
structure Fanned (msg : Message) (first : Nat) (state next : LoopState P) : Prop where
  binlog : next.binlog = state.binlog
  userRx : next.mav1RxMsgs = state.mav1RxMsgs
  userTx : next.mav1TxMsgs = state.mav1TxMsgs
  rx : ∀ slot, (next.conn2 slot).used = true →
    (state.conn2 slot).used = true ∧ (next.conn2 slot).rxMsgs = (state.conn2 slot).rxMsgs
  before : ∀ slot < first, next.conn2 slot = state.conn2 slot
  copies : ∃ news, next.mav.log = news ++ state.mav.log ∧ Copies msg first news ∧
    ∀ slot, (next.conn2 slot).used = true →
      (next.conn2 slot).txMsgs = (state.conn2 slot).txMsgs ∧
          news.filterMap (Event.sentOn (chanComm2 slot)) = [] ∨
        (next.conn2 slot).txMsgs = inc32 (state.conn2 slot).txMsgs

/-- A user's message is recorded, tapped, and copied to the engineers. -/
structure Heard (lib : Library P) (pair : PortPair) (msg : Message) (state next : LoopState P) :
    Prop where
  binlog : pair.binlogEnabled = true → ∃ nextN io,
    next.binlog = tap lib pair msg nextN io state.binlog
  userRx : next.mav1RxMsgs = inc32 state.mav1RxMsgs
  userTx : next.mav1TxMsgs = state.mav1TxMsgs
  rx : ∀ slot, (next.conn2 slot).used = true →
    (state.conn2 slot).used = true ∧ (next.conn2 slot).rxMsgs = (state.conn2 slot).rxMsgs
  copies : ∃ news, next.mav.log =
      (news ++ tlogEvents pair msg) ++ .accepted chanComm1 msg :: state.mav.log ∧
    Copies msg 0 news ∧ (Event.tapped pair msg = true → news = []) ∧
    ∀ slot, (next.conn2 slot).used = true →
      (next.conn2 slot).txMsgs = (state.conn2 slot).txMsgs ∧
          news.filterMap (Event.sentOn (chanComm2 slot)) = [] ∨
        (next.conn2 slot).txMsgs = inc32 (state.conn2 slot).txMsgs ∧
          Event.tapped pair msg = false

/-- An engineer's message is recorded and sent to the user. -/
structure Passed (pair : PortPair) (slot : Nat) (msg : Message) (state next : LoopState P) :
    Prop where
  binlog : next.binlog = state.binlog
  userRx : next.mav1RxMsgs = state.mav1RxMsgs
  userTx : next.mav1TxMsgs = state.mav1TxMsgs ∨ next.mav1TxMsgs = inc32 state.mav1TxMsgs
  slots : ∀ other, (next.conn2 other).used = (state.conn2 other).used ∧
    (next.conn2 other).txMsgs = (state.conn2 other).txMsgs ∧
    (next.conn2 other).rxMsgs =
      if other = slot then inc32 (state.conn2 other).rxMsgs else (state.conn2 other).rxMsgs
  sent : ∃ sent, next.mav.log = (sent ++ .toUser slot msg :: tlogEvents pair msg) ++
    .accepted (chanComm2 slot) msg :: state.mav.log ∧ Copy msg chanComm1 sent

/-- A slot is taken by a new engineer. -/
structure Taken (slot : Nat) (udp : Bool) (state next : LoopState P) : Prop where
  binlog : next.binlog = state.binlog
  userRx : next.mav1RxMsgs = state.mav1RxMsgs
  userTx : next.mav1TxMsgs = state.mav1TxMsgs
  rx : (next.conn2 slot).rxMsgs = 0
  tx : (next.conn2 slot).txMsgs = 0
  others : ∀ other ≠ slot, next.conn2 other = state.conn2 other
  log : next.mav.log = .opened slot udp :: state.mav.log

/-- The packets of a tick in the history. -/
def statusEvents (transport : Transport) (packets : List StatusPacket) : List Event :=
  (packets.map fun packet => .sentStatus chanComm1 transport packet.seqno packet.ack).reverse

/-- `Turn lib pair state next`: one turn of a session. -/
inductive Turn (lib : Library P) (pair : PortPair) : LoopState P → LoopState P → Prop
  | quiet {state next : LoopState P} (binlog : next.binlog = state.binlog)
      (steady : Steady state next) (neutral : Grown Neutral state.mav.log next.mav.log) :
      Turn lib pair state next
  | heard {state next : LoopState P} (msg : Message) (heard : Heard lib pair msg state next) :
      Turn lib pair state next
  | passed {state next : LoopState P} (slot : Nat) (msg : Message)
      (passed : Passed pair slot msg state next) : Turn lib pair state next
  | taken {state next : LoopState P} (slot : Nat) (udp : Bool)
      (taken : Taken slot udp state next) : Turn lib pair state next
  | ticked {state next : LoopState P} (io : TickIo) (transport : Transport)
      (steady : Steady state next) (binlog : next.binlog = (state.binlog.tick io).2)
      (told : next.mav.log = statusEvents transport (state.binlog.tick io).1 ++ state.mav.log) :
      Turn lib pair state next
  | reported {state next : LoopState P} (wake : Wakeup) (binlog : next.binlog = state.binlog)
      (steady : Steady state next)
      (log : next.mav.log = .snapshot (snapshotEntries pair wake state) :: state.mav.log) :
      Turn lib pair state next

/-- A sequence of turns. -/
abbrev Turns (lib : Library P) (pair : PortPair) : LoopState P → LoopState P → Prop :=
  Relation.ReflTransGen (Turn lib pair)

/-- What the turns are about. -/
def LoopState.core (state : LoopState P) :
    BinlogWriter × List Event × (Nat → Connection2) × Nat × Nat :=
  (state.binlog, state.mav.log, state.conn2, state.mav1RxMsgs, state.mav1TxMsgs)

private theorem Connection2.Kept.refl (slot : Connection2) : slot.Kept slot :=
  ⟨id, fun _ => rfl, fun _ => rfl⟩

private theorem Connection2.Kept.closed (slot : Connection2) : slot.Kept slot.close :=
  ⟨fun impossible => (Bool.false_ne_true impossible).elim,
    fun impossible => (Bool.false_ne_true impossible).elim,
    fun impossible => (Bool.false_ne_true impossible).elim⟩

private theorem LoopState.modifySlot_own (state : LoopState P) (slot : Nat)
    (change : Connection2 → Connection2) :
    (state.modifySlot slot change).conn2 slot = change (state.conn2 slot) :=
  Function.update_self ..

private theorem LoopState.modifySlot_other (state : LoopState P) {slot other : Nat}
    (change : Connection2 → Connection2) (different : other ≠ slot) :
    (state.modifySlot slot change).conn2 other = state.conn2 other :=
  Function.update_of_ne different ..

namespace Steady

variable {state next : LoopState P}

private theorem of_conn2 (conn2 : next.conn2 = state.conn2)
    (userRx : next.mav1RxMsgs = state.mav1RxMsgs) (userTx : next.mav1TxMsgs = state.mav1TxMsgs) :
    Steady state next :=
  ⟨fun _ => conn2 ▸ .refl _, userRx, userTx⟩

/-- One slot is changed. -/
theorem modify {slot : Nat} {change : Connection2 → Connection2}
    (conn2 : next.conn2 = (state.modifySlot slot change).conn2)
    (kept : (state.conn2 slot).Kept (change (state.conn2 slot)))
    (userRx : next.mav1RxMsgs = state.mav1RxMsgs) (userTx : next.mav1TxMsgs = state.mav1TxMsgs) :
    Steady state next := by
  refine ⟨fun other => ?_, userRx, userTx⟩
  rw [conn2]
  by_cases own : other = slot
  · rw [own, LoopState.modifySlot_own]
    exact kept
  · rw [LoopState.modifySlot_other state change own]
    exact .refl _

end Steady

namespace Turns

variable {lib : Library P} {pair : PortPair} {state middle next : LoopState P}

private theorem quiet (binlog : next.binlog = state.binlog) (steady : Steady state next)
    (neutral : Grown Neutral state.mav.log next.mav.log) : Turns lib pair state next :=
  .single (.quiet binlog steady neutral)

/-- Only fields that no turn is about have changed. -/
theorem idle (same : next.core = state.core) : Turns lib pair state next := by
  simp only [LoopState.core, Prod.mk.injEq] at same
  obtain ⟨binlog, log, conn2, userRx, userTx⟩ := same
  exact quiet binlog (.of_conn2 conn2 userRx userTx) (.of_eq Neutral.additive log)

/-- One neutral event is added. -/
theorem note {event : Event} (binlog : next.binlog = state.binlog) (steady : Steady state next)
    (log : next.mav.log = event :: state.mav.log) (neutral : event.neutral) :
    Turns lib pair state next :=
  quiet binlog steady (Neutral.added log neutral)

end Turns

/-! ## The fan-out -/

section FanOut

variable {msg : Message} {slot : Nat} {state middle next : LoopState P}

private theorem Fanned.quiet (binlog : next.binlog = state.binlog)
    (userRx : next.mav1RxMsgs = state.mav1RxMsgs) (userTx : next.mav1TxMsgs = state.mav1TxMsgs)
    (conn2 : next.conn2 = state.conn2) {news : List Event}
    (log : next.mav.log = news ++ state.mav.log) (neutral : Neutral news) :
    Fanned msg slot state next where
  binlog := binlog
  userRx := userRx
  userTx := userTx
  rx := fun other used => by
    rw [conn2] at used ⊢
    exact ⟨used, rfl⟩
  before := fun other _ => congrFun conn2 other
  copies := by
    have none : ∀ chan, news.filterMap (Event.sentOn chan) = [] := fun chan =>
      neutral.filterMap fun _ blind => blind.sentOn chan
    refine ⟨news, log, ?_, fun other _ => .inl ⟨by rw [conn2], none _⟩⟩
    exact {
      sends := fun event member => .inl (neutral event member)
      user := none _
      below := fun other _ => none _
      once := fun other => by
        rw [none]
        exact List.nil_sublist _ }

private theorem Fanned.cons (early : FannedSlot msg slot state middle)
    (late : Fanned msg (slot + 1) middle next) : Fanned msg slot state next where
  binlog := late.binlog.trans early.binlog
  userRx := late.userRx.trans early.userRx
  userTx := late.userTx.trans early.userTx
  rx := by
    intro other used
    obtain ⟨usedBefore, rx⟩ := late.rx other used
    by_cases own : other = slot
    · rw [own] at usedBefore rx ⊢
      exact ⟨(early.rx usedBefore).1, rx.trans (early.rx usedBefore).2⟩
    · rw [early.others other own] at usedBefore rx
      exact ⟨usedBefore, rx⟩
  before := fun other below =>
    (late.before other (by omega)).trans (early.others other (by omega))
  copies := by
    obtain ⟨news, log, copy, counted⟩ := early.copy
    obtain ⟨later, lateLog, copies, lateCounted⟩ := late.copies
    refine ⟨later ++ news, ?_, copies.append copy, fun other used => ?_⟩
    · rw [lateLog, log, List.append_assoc]
    · rw [List.filterMap_append]
      by_cases own : other = slot
      · rw [own] at used ⊢
        rw [late.before slot (Nat.lt_succ_self slot)] at used ⊢
        rw [copies.below slot (Nat.lt_succ_self slot), List.nil_append]
        exact counted used
      · rw [copy.others _ (chanComm2_ne own), List.append_nil, ← early.others other own]
        exact lateCounted other used

private theorem forSlots_fanned {body : Nat → LoopState P → Flow × LoopState P}
    (fans : ∀ slot, ∀ state : LoopState P, FannedSlot msg slot state (body slot state).2)
    (fuel slot : Nat) (state : LoopState P) :
    Fanned msg slot state (forSlots body fuel slot state).2 := by
  have nothing : ∀ slot, ∀ state : LoopState P, Fanned msg slot state state := fun slot state =>
    .quiet rfl rfl rfl rfl (List.nil_append _).symm fun event member =>
      (List.not_mem_nil member).elim
  induction fuel generalizing slot state with
  | zero => exact nothing slot state
  | succ fuel ih =>
      have step := fans slot state
      have overrun : Neutral [Event.overrun] := fun event member => by
        rw [List.mem_singleton.mp member]
        trivial
      unfold forSlots
      split_ifs
      · generalize body slot state = result at step
        rcases result with ⟨_ | _ | _, middle⟩
        · exact .cons step (ih (slot + 1) middle)
        · exact .cons step (nothing (slot + 1) middle)
        · exact .cons step (nothing (slot + 1) middle)
      · exact .quiet rfl rfl rfl rfl (by exact rfl) overrun
      · exact nothing slot state

end FanOut

section Messages

variable {lib : Library P} {env : Environment} {pair : PortPair} {wake : Wakeup}

private theorem sendMessage_copy (chan : Nat) (msg : Message) (mav : MavState P) :
    Grown (Copy msg chan) mav.log (sendMessage lib env chan msg mav).2.log := by
  rcases sendMessage_grown lib env chan msg mav with same | ⟨transport, sent⟩
  · exact ⟨[], same, Neutral.additive.nil.copy⟩
  · exact ⟨_, sent, Copy.sent msg chan transport⟩

/-- A send that is counted, whatever became of it. -/
theorem sendToSlot_counted (msg : Message) (slot : Nat) {state : LoopState P}
    (used : (state.conn2 slot).used = true) :
    FannedSlot msg slot state (countTx slot (sendToSlot lib env slot msg state).2) := by
  obtain ⟨news, log, copy⟩ : Grown (Copy msg (chanComm2 slot)) state.mav.log
      (sendToSlot lib env slot msg state).2.mav.log :=
        sendMessage_copy (chanComm2 slot) msg state.mav
  have conn2 : (sendToSlot lib env slot msg state).2.conn2 = state.conn2 := rfl
  have rest : (sendToSlot lib env slot msg state).2.binlog = state.binlog ∧
      (sendToSlot lib env slot msg state).2.mav1RxMsgs = state.mav1RxMsgs ∧
      (sendToSlot lib env slot msg state).2.mav1TxMsgs = state.mav1TxMsgs := ⟨rfl, rfl, rfl⟩
  generalize (sendToSlot lib env slot msg state).2 = after at log conn2 rest
  rw [← conn2] at used
  unfold countTx
  refine ⟨rest.1, rest.2.1, rest.2.2, fun other different => ?_, fun _ => ?_, news, log, copy,
    fun _ => .inr ?_⟩
  · rw [LoopState.modifySlot_other after _ different, conn2]
  · rw [LoopState.modifySlot_own, ← conn2]
    exact ⟨used, rfl⟩
  · rw [LoopState.modifySlot_own, ← conn2]

/-- A send after which the slot is closed. -/
theorem sendToSlot_closed (msg : Message) (slot : Nat) (reason : CloseReason)
    (state : LoopState P) :
    FannedSlot msg slot state ((sendToSlot lib env slot msg state).2.closeCounted reason slot) := by
  obtain ⟨news, log, copy⟩ : Grown (Copy msg (chanComm2 slot)) state.mav.log
      (sendToSlot lib env slot msg state).2.mav.log :=
        sendMessage_copy (chanComm2 slot) msg state.mav
  have conn2 : (sendToSlot lib env slot msg state).2.conn2 = state.conn2 := rfl
  have rest : (sendToSlot lib env slot msg state).2.binlog = state.binlog ∧
      (sendToSlot lib env slot msg state).2.mav1RxMsgs = state.mav1RxMsgs ∧
      (sendToSlot lib env slot msg state).2.mav1TxMsgs = state.mav1TxMsgs := ⟨rfl, rfl, rfl⟩
  generalize (sendToSlot lib env slot msg state).2 = after at log conn2 rest
  have slots : (after.closeCounted reason slot).conn2 =
      (after.modifySlot slot Connection2.close).conn2 := rfl
  have unused : ((after.closeCounted reason slot).conn2 slot).used = false := by
    rw [slots, LoopState.modifySlot_own]
    rfl
  refine ⟨rest.1, rest.2.1, rest.2.2, fun other different => ?_, fun used => ?_,
    .closed slot reason :: news, congrArg (Event.closed slot reason :: ·) log, copy.topped trivial,
    fun used => ?_⟩
  · rw [slots, LoopState.modifySlot_other after _ different, conn2]
  · rw [unused] at used
    cases used
  · rw [unused] at used
    cases used

private theorem FannedSlot.nothing (msg : Message) (slot : Nat) (state : LoopState P) :
    FannedSlot msg slot state state :=
  ⟨rfl, rfl, rfl, fun _ _ => rfl, fun used => ⟨used, rfl⟩, [], rfl, Neutral.additive.nil.copy,
    fun _ => .inl ⟨rfl, rfl⟩⟩

private theorem sendOrClose_fanned (msg : Message) {slot : Nat} {state : LoopState P}
    (used : (state.conn2 slot).used = true) :
    FannedSlot msg slot state
      (match sendToSlot lib env slot msg state with
        | (false, state) => (Flow.next, state.closeCounted .sendFailed slot)
        | (true, state) => (Flow.next, countTx slot state)).2 := by
  have counted : FannedSlot msg slot state (countTx slot (sendToSlot lib env slot msg state).2) :=
    sendToSlot_counted msg slot used
  have closed : FannedSlot msg slot state
      ((sendToSlot lib env slot msg state).2.closeCounted .sendFailed slot) :=
    sendToSlot_closed msg slot .sendFailed state
  generalize sendToSlot lib env slot msg state = result at counted closed
  rcases result with ⟨_ | _, after⟩
  · exact closed
  · exact counted

private theorem fanOutUdp_fanned (msg : Message) (slot : Nat) (state : LoopState P) :
    FannedSlot msg slot state (fanOutUdp lib env msg slot state).2 := by
  unfold fanOutUdp
  dsimp only
  cases used : (state.conn2 slot).used with
  | false => exact .nothing msg slot state
  | true =>
      simp only [Bool.not_true, Bool.false_eq_true, ↓reduceIte]
      split
      · exact sendOrClose_fanned msg used
      split
      · exact sendToSlot_counted msg slot used
      · exact .nothing msg slot state

private theorem fanOutTcp_fanned (msg : Message) (slot : Nat) (state : LoopState P) :
    FannedSlot msg slot state (fanOutTcp lib env msg slot state).2 := by
  unfold fanOutTcp
  cases used : (state.conn2 slot).used with
  | false => exact .nothing msg slot state
  | true => exact sendOrClose_fanned msg used

/-- The fan-outs of the two user handlers. -/
def FansToSlots (fanOut : Message → Nat → LoopState P → Flow × LoopState P) : Prop :=
  ∀ msg slot, ∀ state : LoopState P, FannedSlot msg slot state (fanOut msg slot state).2

/-! ## A message of either side -/

/-- A message has been accepted, and nothing else has happened. -/
structure AcceptedOn (chan : Nat) (msg : Message) (state accepted : LoopState P) : Prop where
  binlog : accepted.binlog = state.binlog
  userRx : accepted.mav1RxMsgs = state.mav1RxMsgs
  userTx : accepted.mav1TxMsgs = state.mav1TxMsgs
  conn2 : accepted.conn2 = state.conn2
  log : accepted.mav.log = .accepted chan msg :: state.mav.log

private theorem writeTlog_log (msg : Message) (state : LoopState P) :
    (writeTlog pair msg state).mav.log = tlogEvents pair msg ++ state.mav.log := by
  unfold writeTlog tlogEvents
  split
  · rfl
  · rfl

/-- The tlog is in the history only. -/
theorem writeTlog_same (msg : Message) (state : LoopState P) :
    let logged := writeTlog pair msg state
    logged.binlog = state.binlog ∧ logged.mav1RxMsgs = state.mav1RxMsgs ∧
      logged.mav1TxMsgs = state.mav1TxMsgs ∧ logged.conn2 = state.conn2 := by
  unfold writeTlog
  split <;> exact ⟨rfl, rfl, rfl, rfl⟩

private theorem binlogHandleUserMsg_tapped (msg : Message) (state : LoopState P) :
    (binlogHandleUserMsg lib pair wake msg state).1 = Event.tapped pair msg := by
  unfold binlogHandleUserMsg Event.tapped
  cases pair.binlogEnabled with
  | false => rfl
  | true =>
      dsimp only
      by_cases block : msg.msgid = Message.remoteLogDataBlock
      · simp only [block, Bool.not_true, Bool.false_eq_true, ↓reduceIte, decide_true, Bool.true_or,
          Bool.and_self]
      · simp only [block, Bool.not_true, Bool.false_eq_true, ↓reduceIte, decide_false,
          Bool.false_or, Bool.true_and]

/-- The tap changes the writer only. -/
theorem binlogHandleUserMsg_eq (msg : Message) (state : LoopState P) :
    let after := (binlogHandleUserMsg lib pair wake msg state).2
    after.mav1RxMsgs = state.mav1RxMsgs ∧ after.mav1TxMsgs = state.mav1TxMsgs ∧
      after.conn2 = state.conn2 ∧ after.mav.log = state.mav.log ∧
      (pair.binlogEnabled = true →
        ∃ nextN io, after.binlog = tap lib pair msg nextN io state.binlog) := by
  unfold binlogHandleUserMsg
  cases pair.binlogEnabled with
  | false => exact ⟨rfl, rfl, rfl, rfl, fun impossible => (Bool.false_ne_true impossible).elim⟩
  | true =>
      dsimp only
      by_cases block : msg.msgid = Message.remoteLogDataBlock
      · simp only [block, Bool.not_true, Bool.false_eq_true, ↓reduceIte]
        refine ⟨trivial, trivial, trivial, rfl, fun _ => ⟨wake.nextSessionN state.mav.queries,
          wake.blockIo state.mav.queries, ?_⟩⟩
        rw [tap, if_pos block]
      · simp only [block, Bool.not_true, Bool.false_eq_true, ↓reduceIte]
        refine ⟨trivial, trivial, trivial, rfl, fun _ => ⟨wake.nextSessionN state.mav.queries,
          wake.blockIo state.mav.queries, ?_⟩⟩
        rw [tap, if_neg block]

private theorem eachSlot_fanned {fanOut : Message → Nat → LoopState P → Flow × LoopState P}
    (fans : FansToSlots fanOut) (msg : Message) (state : LoopState P) :
    Fanned msg 0 state (eachSlot (fanOut msg) state).2 :=
  forSlots_fanned (fans msg) 256 0 state

private theorem relayToEngineers_heard {fanOut : Message → Nat → LoopState P → Flow × LoopState P}
    (fans : FansToSlots fanOut) {msg : Message} {state accepted : LoopState P}
    (received : AcceptedOn chanComm1 msg state accepted) :
    Heard lib pair msg state (relayToEngineers lib pair wake fanOut msg accepted).2 := by
  obtain ⟨sameBinlog, sameUserRx, sameUserTx, sameSlots⟩ := @writeTlog_same P pair msg
    { accepted with mav1RxMsgs := inc32 accepted.mav1RxMsgs }
  have binlog := sameBinlog.trans received.binlog
  have userRx := sameUserRx.trans (congrArg inc32 received.userRx)
  have userTx := sameUserTx.trans received.userTx
  have conn2 := sameSlots.trans received.conn2
  have log : (writeTlog pair msg
      { accepted with mav1RxMsgs := inc32 accepted.mav1RxMsgs }).mav.log =
        tlogEvents pair msg ++ .accepted chanComm1 msg :: state.mav.log :=
    (writeTlog_log msg _).trans (congrArg (tlogEvents pair msg ++ ·) received.log)
  unfold relayToEngineers
  dsimp only
  generalize writeTlog pair msg { accepted with mav1RxMsgs := inc32 accepted.mav1RxMsgs } = logged
    at log binlog userRx userTx conn2
  have stripped : (binlogHandleUserMsg lib pair wake msg logged).1 = Event.tapped pair msg :=
    binlogHandleUserMsg_tapped msg logged
  obtain ⟨sameRx, sameTx, sameConn2, sameLog, tapped⟩ :
      let after := (binlogHandleUserMsg lib pair wake msg logged).2
      after.mav1RxMsgs = logged.mav1RxMsgs ∧ after.mav1TxMsgs = logged.mav1TxMsgs ∧
        after.conn2 = logged.conn2 ∧ after.mav.log = logged.mav.log ∧
        (pair.binlogEnabled = true → ∃ nextN io,
          after.binlog = tap lib pair msg nextN io logged.binlog) :=
            binlogHandleUserMsg_eq msg logged
  rw [userRx] at sameRx
  rw [userTx] at sameTx
  rw [conn2] at sameConn2
  rw [log] at sameLog
  rw [binlog] at tapped
  generalize binlogHandleUserMsg lib pair wake msg logged = result
    at stripped sameRx sameTx sameConn2 sameLog tapped
  rcases result with ⟨_ | _, after⟩
  · have fanned : Fanned msg 0 after (eachSlot (fanOut msg) after).2 :=
      eachSlot_fanned fans msg after
    dsimp only at stripped sameRx sameTx sameConn2 sameLog tapped ⊢
    generalize (eachSlot (fanOut msg) after).2 = next at fanned
    obtain ⟨news, nextLog, copies, counted⟩ := fanned.copies
    refine ⟨?_, fanned.userRx.trans sameRx, fanned.userTx.trans sameTx, ?_, news, ?_, copies,
      ?_, ?_⟩
    · rw [fanned.binlog]
      exact tapped
    · rw [← sameConn2]
      exact fanned.rx
    · rw [nextLog, sameLog, List.append_assoc]
    · exact fun isTapped => absurd (stripped.trans isTapped) Bool.false_ne_true
    · rw [← sameConn2]
      exact fun slot used => (counted slot used).imp_right fun more => ⟨more, stripped.symm⟩
  · dsimp only at sameRx sameTx sameConn2 sameLog tapped ⊢
    refine ⟨tapped, sameRx, sameTx, ?_, [], sameLog, Copies.nil msg 0, fun _ => rfl, ?_⟩
    · rw [sameConn2]
      exact fun slot used => ⟨used, rfl⟩
    · rw [sameConn2]
      exact fun slot _ => .inl ⟨rfl, rfl⟩

private theorem relayToUser_passed {slot : Nat} {msg : Message} {state accepted : LoopState P}
    (received : AcceptedOn (chanComm2 slot) msg state accepted) :
    Passed pair slot msg state (relayToUser lib env pair slot msg accepted).2 := by
  obtain ⟨binlog, userRx, userTx, conn2⟩ := @writeTlog_same P pair msg
    (accepted.modifySlot slot fun conn => { conn with rxMsgs := inc32 conn.rxMsgs })
  have log : (noteRelay pair slot msg accepted).mav.log =
      (.toUser slot msg :: tlogEvents pair msg) ++
        .accepted (chanComm2 slot) msg :: state.mav.log :=
    congrArg (Event.toUser slot msg :: ·) ((writeTlog_log msg _).trans
      (congrArg (tlogEvents pair msg ++ ·) received.log))
  have slots : ∀ other, ((noteRelay pair slot msg accepted).conn2 other).used =
        (state.conn2 other).used ∧
      ((noteRelay pair slot msg accepted).conn2 other).txMsgs = (state.conn2 other).txMsgs ∧
      ((noteRelay pair slot msg accepted).conn2 other).rxMsgs =
        if other = slot then inc32 (state.conn2 other).rxMsgs else (state.conn2 other).rxMsgs := by
    intro other
    have noted : (noteRelay pair slot msg accepted).conn2 =
        (accepted.modifySlot slot fun conn =>
          { conn with rxMsgs := inc32 conn.rxMsgs }).conn2 := conn2
    rw [noted, ← received.conn2]
    by_cases own : other = slot
    · rw [own, LoopState.modifySlot_own, if_pos rfl]
      exact ⟨rfl, rfl, rfl⟩
    · rw [LoopState.modifySlot_other accepted _ own, if_neg own]
      exact ⟨rfl, rfl, rfl⟩
  have rest : (noteRelay pair slot msg accepted).binlog = state.binlog ∧
      (noteRelay pair slot msg accepted).mav1RxMsgs = state.mav1RxMsgs ∧
      (noteRelay pair slot msg accepted).mav1TxMsgs = state.mav1TxMsgs :=
    ⟨binlog.trans received.binlog, userRx.trans received.userRx, userTx.trans received.userTx⟩
  unfold relayToUser
  dsimp only
  generalize noteRelay pair slot msg accepted = middle at log slots rest
  obtain ⟨news, same, copy⟩ : Grown (Copy msg chanComm1) middle.mav.log
      (sendMessage lib env chanComm1 msg middle.mav).2.log :=
        sendMessage_copy chanComm1 msg middle.mav
  generalize sendMessage lib env chanComm1 msg middle.mav = result at same
  have together : result.2.log = (news ++ .toUser slot msg :: tlogEvents pair msg) ++
      .accepted (chanComm2 slot) msg :: state.mav.log := by
    rw [same, log]
    exact (List.append_assoc ..).symm
  rcases result with ⟨_ | _, mav⟩
  · exact ⟨rest.1, rest.2.1, .inl rest.2.2, slots, news, together, copy⟩
  · exact ⟨rest.1, rest.2.1, .inr (congrArg inc32 rest.2.2), slots, news, together, copy⟩

end Messages

/-! ## The loops -/

section Loops

variable {lib : Library P} {env : Environment} {pair : PortPair} {wake : Wakeup}

private theorem forSlots_turns {body : Nat → LoopState P → Flow × LoopState P}
    (turns : ∀ slot, ∀ state : LoopState P, Turns lib pair state (body slot state).2)
    (fuel slot : Nat) (state : LoopState P) :
    Turns lib pair state (forSlots body fuel slot state).2 := by
  induction fuel generalizing slot state with
  | zero => exact .refl
  | succ fuel ih =>
      have step := turns slot state
      have steady : Steady state (state.note .overrun) := .of_conn2 rfl rfl rfl
      unfold forSlots
      split_ifs
      · generalize body slot state = result at step
        rcases result with ⟨_ | _ | _, middle⟩
        · exact step.trans (ih (slot + 1) middle)
        · exact step
        · exact step
      · exact .note rfl steady rfl trivial
      · exact .refl

private theorem eachSlot_turns {body : Nat → LoopState P → Flow × LoopState P}
    (turns : ∀ slot, ∀ state : LoopState P, Turns lib pair state (body slot state).2)
    (state : LoopState P) : Turns lib pair state (eachSlot body state).2 :=
  forSlots_turns turns 256 0 state

private theorem runBlocks_turns {blocks : List (LoopState P → Flow × LoopState P)}
    (turns : ∀ block ∈ blocks, ∀ state : LoopState P, Turns lib pair state (block state).2)
    (state : LoopState P) : Turns lib pair state (runBlocks blocks state).2 := by
  induction blocks generalizing state with
  | nil => exact .refl
  | cons block rest ih =>
      have step := turns block List.mem_cons_self state
      unfold runBlocks
      generalize block state = result at step
      rcases result with ⟨_ | _ | _, middle⟩
      · exact step.trans
          (ih (fun other member => turns other (List.mem_cons_of_mem _ member)) middle)
      · exact step
      · exact step

/-- A parse loop: every accepted message with its handling is a turn. -/
theorem parseMessages_turns {chan : Nat} {handle : Message → LoopState P → Flow × LoopState P}
    (turn : ∀ msg, ∀ state accepted : LoopState P, AcceptedOn chan msg state accepted →
      Turn lib pair state (handle msg accepted).2)
    (fuel : Nat) (bytes : List UInt8) (state : LoopState P) :
    Turns lib pair state (parseMessages lib env chan handle fuel bytes state).2 := by
  induction fuel generalizing bytes state with
  | zero => exact .refl
  | succ fuel ih =>
      unfold parseMessages
      split
      · exact .refl
      have received := receiveBytes_grown lib env chan bytes (state.mav.setBadSignature chan false)
      rw [receiveMessage]
      generalize receiveBytes lib env chan bytes (state.mav.setBadSignature chan false) = result
        at received
      rcases result with ⟨_ | msg, rest, mav⟩
      · have steady : Steady state { state with mav := mav } := .of_conn2 rfl rfl rfl
        exact .quiet rfl steady received
      · obtain ⟨before, newest, grown⟩ := received
        -- what came before the message has a state of its own
        have steady : Steady state { state with mav := { mav with log := before } } :=
          .of_conn2 rfl rfl rfl
        have quiet : Turns lib pair state { state with mav := { mav with log := before } } :=
          .quiet rfl steady grown
        have accepted : AcceptedOn chan msg { state with mav := { mav with log := before } }
            { state with mav := mav } := ⟨rfl, rfl, rfl, rfl, newest⟩
        have handled := quiet.tail (turn msg _ _ accepted)
        dsimp only
        generalize handle msg { state with mav := mav } = answer at handled
        rcases answer with ⟨_ | _ | _, after⟩
        · exact handled.trans (ih rest after)
        · exact handled
        · exact handled

private theorem userBytes_turns {fanOut : Message → Nat → LoopState P → Flow × LoopState P}
    (fans : FansToSlots fanOut) (bytes : List UInt8) (state : LoopState P) :
    Turns lib pair state (userBytes lib env pair wake fanOut bytes state).2 := by
  unfold userBytes
  split
  · exact parseMessages_turns (fun msg state accepted received =>
      .heard msg (relayToEngineers_heard fans received)) bytes.length bytes state
  · exact .refl

private theorem engineerBytes_turns (slot : Nat) (bytes : List UInt8) (state : LoopState P) :
    Turns lib pair state (engineerBytes lib env pair slot bytes state).2 := by
  unfold engineerBytes
  split
  · exact parseMessages_turns (fun msg state accepted received =>
      .passed slot msg (relayToUser_passed received)) bytes.length bytes state
  · exact .refl

end Loops

/-! ## The blocks of the loop body -/

section Blocks

variable {lib : Library P} {env : Environment} {pair : PortPair} {wake : Wakeup}

private theorem closeDropped_turns (slot : Nat) (state : LoopState P) :
    Turns lib pair state (state.closeDropped slot) := by
  have steady : Steady state (state.closeDropped slot) := .modify rfl (.closed _) rfl rfl
  exact .note rfl steady rfl trivial

private theorem closeDead_turns (slot : Nat) (state : LoopState P) :
    Turns lib pair state (state.closeDead slot) := by
  have steady : Steady state (state.closeDead slot) := .modify rfl (.closed _) rfl rfl
  exact .note rfl steady rfl trivial

private theorem closeCounted_turns (reason : CloseReason) (slot : Nat) (state : LoopState P) :
    Turns lib pair state (state.closeCounted reason slot) := by
  have steady : Steady state (state.closeCounted reason slot) := .modify rfl (.closed _) rfl rfl
  exact .note rfl steady rfl trivial

/-- A slot is changed, and neither its use nor its counters. -/
theorem modifySlot_turns {slot : Nat} {change : Connection2 → Connection2}
    {state next : LoopState P}
    (conn2 : next.conn2 = (state.modifySlot slot change).conn2)
    (kept : (state.conn2 slot).Kept (change (state.conn2 slot)))
    (binlog : next.binlog = state.binlog)
    (log : next.mav.log = state.mav.log) (userRx : next.mav1RxMsgs = state.mav1RxMsgs)
    (userTx : next.mav1TxMsgs = state.mav1TxMsgs) : Turns lib pair state next :=
  .quiet binlog (.modify conn2 kept userRx userTx) (.of_eq Neutral.additive log)

private theorem processDrops_turns (state : LoopState P) :
    Turns lib pair state (processDrops wake state).2 := by
  have dropped : ∀ (indices : List Nat) (state : LoopState P),
      Turns lib pair state (indices.foldl dropSlot state) := by
    intro indices
    induction indices with
    | nil => exact fun _ => .refl
    | cons index indices ih =>
        intro state
        refine Relation.ReflTransGen.trans ?_ (ih (dropSlot state index))
        unfold dropSlot
        split
        · exact closeDropped_turns (index - 1) state
        · exact .refl
  unfold processDrops
  split
  · split
    · exact .refl
    · exact dropped _ state
  · exact .refl

private theorem checkUser_turns (state : LoopState P) :
    Turns lib pair state (checkUser wake state).2 := by
  unfold checkUser
  split <;> exact .refl

private theorem selectSockets_turns (state : LoopState P) :
    Turns lib pair state (selectSockets wake state).2 := by
  have steady : Steady state (state.note .bugExit) := .of_conn2 rfl rfl rfl
  unfold selectSockets
  split
  · exact .refl
  · exact .refl
  · split
    · exact .note rfl steady rfl trivial
    · exact .refl

private theorem sweepDeadUdp_turns (state : LoopState P) :
    Turns lib pair state (sweepDeadUdp wake state).2 := by
  refine eachSlot_turns (fun slot state => ?_) state
  dsimp only
  split
  · exact closeDead_turns slot state
  · exact .refl

private theorem openUser_turns (fd : Option Nat) (peer : Peer) (isTcp : Bool)
    (state : LoopState P) :
    Turns lib pair state (openUser env pair wake fd peer isTcp state) := by
  have started := init_grown env chanComm1 fd pair.bidi false isTcp (conn1KeyId pair) state.mav
  have steady : Steady state (openUser env pair wake fd peer isTcp state) := .of_conn2 rfl rfl rfl
  exact .quiet rfl steady started

private theorem userUdp_turns (state : LoopState P) :
    Turns lib pair state (userUdp lib env pair wake state).2 := by
  unfold userUdp
  split
  · have closed : Turns lib pair state { state with sock1Tcp := none } :=
      .idle rfl
    have counted : Turns lib pair state { state with
        sock1Tcp := none, lastPkt1 := wake.now, count1 := inc32 state.count1 } :=
      .idle rfl
    dsimp only
    split
    · exact closed
    next peer bytes _ =>
      split
      · exact counted.trans (userBytes_turns fanOutUdp_fanned bytes _)
      · split
        · have opened : Turns lib pair state (openUser env pair wake state.sock1Udp peer false
              { state with
                  sock1Tcp := none, lastPkt1 := wake.now, count1 := inc32 state.count1 }) :=
            counted.trans (openUser_turns state.sock1Udp peer false _)
          generalize openUser env pair wake state.sock1Udp peer false
            { state with sock1Tcp := none, lastPkt1 := wake.now, count1 := inc32 state.count1 } =
            middle at opened
          exact opened.trans (userBytes_turns fanOutUdp_fanned bytes middle)
        · exact counted
  · exact .refl

private theorem engineerDatagram_turns (slot : Nat) (bytes : List UInt8) (state : LoopState P) :
    Turns lib pair state (engineerDatagram lib env pair slot bytes state).2 := by
  have parsed : Turns lib pair state (engineerBytes lib env pair slot bytes state).2 :=
    engineerBytes_turns slot bytes state
  unfold engineerDatagram
  generalize engineerBytes lib env pair slot bytes state = result at parsed
  rcases result with ⟨_ | _ | _, after⟩ <;> exact parsed

private theorem startLink_turns (slot : Nat) (fd : Option Nat) (allowWebsocket isTcp : Bool)
    (state : LoopState P) :
    Turns lib pair state (state.startLink env pair slot fd allowWebsocket isTcp) := by
  have started := init_grown env (chanComm2 slot) fd true allowWebsocket isTcp pair.port2 state.mav
  unfold LoopState.startLink
  generalize init env (chanComm2 slot) fd true allowWebsocket isTcp pair.port2 state.mav = mav
    at started ⊢
  have kept : (state.withMav mav).askSnapshot.binlog = state.binlog := by
    rw [LoopState.askSnapshot, LoopState.withMav]
  have counters : (state.withMav mav).askSnapshot.mav1RxMsgs = state.mav1RxMsgs ∧
      (state.withMav mav).askSnapshot.mav1TxMsgs = state.mav1TxMsgs := by
    rw [LoopState.askSnapshot, LoopState.withMav]
    exact ⟨rfl, rfl⟩
  have conn2 : (state.withMav mav).askSnapshot.conn2 = state.conn2 := by
    rw [LoopState.askSnapshot, LoopState.withMav]
  have log : (state.withMav mav).askSnapshot.mav.log = mav.log := by
    rw [LoopState.askSnapshot, LoopState.withMav]
  refine .quiet kept (.of_conn2 conn2 counters.1 counters.2) ?_
  rw [log]
  exact started

private theorem directLink_turns (slot : Nat) (peer : Peer) (state : LoopState P) :
    Turns lib pair state (state.directLink slot peer) := by
  have same : (state.directLink slot peer).core = state.core := rfl
  exact .idle same

/-- A new engineer takes a slot. -/
theorem countOpened_turn {slot : Nat} {udp : Bool} {change : Connection2 → Connection2}
    (state : LoopState P) (rx : ∀ conn, (change conn).rxMsgs = 0)
    (tx : ∀ conn, (change conn).txMsgs = 0) :
    Turns lib pair state ((state.modifySlot slot change).countOpened slot udp) := by
  have conn2 : ((state.modifySlot slot change).countOpened slot udp).conn2 =
      (state.modifySlot slot change).conn2 := rfl
  have taken : Taken slot udp state ((state.modifySlot slot change).countOpened slot udp) := by
    refine ⟨rfl, rfl, rfl, ?_, ?_, fun other different => ?_, rfl⟩
    · rw [conn2, LoopState.modifySlot_own]
      exact rx _
    · rw [conn2, LoopState.modifySlot_own]
      exact tx _
    · rw [conn2]
      exact LoopState.modifySlot_other state change different
  exact .single (.taken slot udp taken)

private theorem openUdp_turns (slot : Nat) (peer : Peer) (now wallClock : Nat)
    (state : LoopState P) :
    Turns lib pair state (state.openUdp env pair slot peer now wallClock) := by
  have opened : Turns lib pair state ((state.modifySlot slot
      (Connection2.takeUdp peer now wallClock)).countOpened slot true) :=
    countOpened_turn state (fun _ => rfl) fun _ => rfl
  unfold LoopState.openUdp
  generalize (state.modifySlot slot (Connection2.takeUdp peer now wallClock)).countOpened slot
    true = middle at opened
  have started :
      Turns lib pair middle (middle.startLink env pair slot state.sock2Udp false false) :=
    startLink_turns slot state.sock2Udp false false middle
  generalize middle.startLink env pair slot state.sock2Udp false false = linked at started
  exact (opened.trans started).trans (directLink_turns slot peer linked)

private theorem openTcp_turns (slot fd : Nat) (peer : Peer) (wallClock : Nat)
    (state : LoopState P) :
    Turns lib pair state (state.openTcp env pair slot fd peer wallClock) := by
  have opened : Turns lib pair state ((state.modifySlot slot
      (Connection2.takeTcp fd peer wallClock)).countOpened slot false) :=
    countOpened_turn state (fun _ => rfl) fun _ => rfl
  unfold LoopState.openTcp
  generalize (state.modifySlot slot (Connection2.takeTcp fd peer wallClock)).countOpened slot
    false = middle at opened
  exact opened.trans (startLink_turns slot (some fd) true true middle)

private theorem engineerPacket_turns (peer : Peer) (bytes : List UInt8) (state : LoopState P) :
    Turns lib pair state (engineerPacket lib env pair wake peer bytes state).2 := by
  unfold engineerPacket
  split
  next slot _ =>
    have marked : Turns lib pair state (state.modifySlot slot fun conn =>
        { conn with lastPkt := wake.now }) :=
      modifySlot_turns rfl ⟨id, fun _ => rfl, fun _ => rfl⟩ rfl rfl rfl rfl
    exact marked.trans (engineerDatagram_turns slot bytes _)
  · split
    · exact .note rfl (.of_conn2 rfl rfl rfl) rfl trivial
    · split
      · exact .refl
      next slot _ =>
        have opened : Turns lib pair state
            (state.openUdp env pair slot peer wake.now wake.wallClock) :=
          openUdp_turns slot peer wake.now wake.wallClock state
        exact opened.trans (engineerDatagram_turns slot bytes _)

private theorem engineerUdp_turns (state : LoopState P) :
    Turns lib pair state (engineerUdp lib env pair wake state).2 := by
  unfold engineerUdp
  split
  · exact .refl
  next peer bytes _ _ =>
    have counted : Turns lib pair state { state with count2 := inc32 state.count2 } :=
      .idle rfl
    exact counted.trans (engineerPacket_turns peer bytes _)
  · exact .refl

private theorem userTcpAccept_turns (state : LoopState P) :
    Turns lib pair state (userTcpAccept env pair wake state).2 := by
  unfold userTcpAccept
  split
  · have closed : Turns lib pair state { state with sock1Udp := none } :=
      .idle rfl
    dsimp only
    split
    · exact closed
    next fd peer _ =>
      have changed : Turns lib pair state { state with sock1Udp := none, sock1Tcp := some fd } :=
        .idle rfl
      have opened : Turns lib pair state (openUser env pair wake (some fd) peer true
          { state with sock1Udp := none, sock1Tcp := some fd }) :=
        changed.trans (openUser_turns (some fd) peer true _)
      generalize openUser env pair wake (some fd) peer true
        { state with sock1Udp := none, sock1Tcp := some fd } = middle at opened
      have marked : Turns lib pair middle { middle with lastPkt1 := wake.now } :=
        .idle rfl
      exact opened.trans marked
  · exact .refl

private theorem openUserWebsocket_turns (state : LoopState P) :
    Turns lib pair state (openUserWebsocket wake state) := by
  unfold openUserWebsocket
  split
  · exact .idle rfl
  · exact .refl

private theorem userTcpData_turns (state : LoopState P) :
    Turns lib pair state (userTcpData lib env pair wake state).2 := by
  unfold userTcpData
  split
  · have closed : Turns lib pair state { state with sock1Udp := none } :=
      .idle rfl
    have detected : Turns lib pair state (openUserWebsocket wake { state with sock1Udp := none }) :=
      closed.trans (openUserWebsocket_turns _)
    dsimp only
    generalize openUserWebsocket wake { state with sock1Udp := none } = middle at detected
    split
    · exact detected
    · split
      · exact detected
      · have counted : Turns lib pair middle
            { middle with lastPkt1 := wake.now, count1 := inc32 middle.count1 } :=
          .idle rfl
        exact (detected.trans counted).trans (userBytes_turns fanOutTcp_fanned _ _)
  · exact .refl

private theorem engineerTcpAccept_turns (state : LoopState P) :
    Turns lib pair state (engineerTcpAccept env pair wake state).2 := by
  have refused : Turns lib pair state (state.note .refused) :=
    .note rfl (.of_conn2 rfl rfl rfl) rfl trivial
  unfold engineerTcpAccept
  split
  · exact .refl
  · split
    · exact refused
    · split
      · exact refused
      · exact openTcp_turns _ _ _ _ state
  · exact .refl

private theorem openWebsocket_turns (slot object : Nat) (isSSL : Bool) (state : LoopState P) :
    Turns lib pair state (state.openWebsocket slot object isSSL) := by
  have conn2 : (state.openWebsocket slot object isSSL).conn2 =
      (state.modifySlot slot fun conn =>
        { conn with ws := some object, wsIsSSL := isSSL }).conn2 := rfl
  exact .note rfl (.modify conn2 ⟨id, fun _ => rfl, fun _ => rfl⟩ rfl rfl) rfl trivial

private theorem engineerTcpSlot_turns (slot : Nat) (state : LoopState P) :
    Turns lib pair state (engineerTcpSlot lib env pair wake slot state).2 := by
  unfold engineerTcpSlot
  dsimp only
  split
  · exact .refl
  · split
    · exact .refl
    next readable _ =>
      have detected : ∃ middle, (if (!(state.conn2 slot).tcpActive && readable.detected) = true then
          state.openWebsocket slot readable.object readable.isSSL else state) = middle ∧
          Turns lib pair state middle := by
        refine ⟨_, rfl, ?_⟩
        split
        · exact openWebsocket_turns slot readable.object readable.isSSL state
        · exact .refl
      obtain ⟨middle, same, turns⟩ := detected
      rw [same]
      split
      · exact turns.trans (closeCounted_turns .eof slot middle)
      · split
        · exact turns
        · exact turns.trans (closeCounted_turns .eof slot middle)
      · have marked : Turns lib pair middle { middle.modifySlot slot fun conn =>
            { conn with tcpActive := true } with count2 := inc32 middle.count2 } := by
          have conn2 : LoopState.conn2 { middle.modifySlot slot fun conn =>
              { conn with tcpActive := true } with count2 := inc32 middle.count2 } =
                (middle.modifySlot slot fun conn => { conn with tcpActive := true }).conn2 := rfl
          exact modifySlot_turns conn2 ⟨id, fun _ => rfl, fun _ => rfl⟩ rfl rfl rfl rfl
        exact (turns.trans marked).trans (engineerBytes_turns slot _ _)

/-- The packets of a tick go out on one transport. -/
theorem sendStatus_all (packets : List StatusPacket) (state : LoopState P) :
    let next := packets.foldl (sendStatus lib) state
    next.mav.log = statusEvents (state.mav.links chanComm1).transport packets ++ state.mav.log ∧
      next.binlog = state.binlog ∧ next.conn2 = state.conn2 ∧
      next.mav1RxMsgs = state.mav1RxMsgs ∧ next.mav1TxMsgs = state.mav1TxMsgs := by
  induction packets generalizing state with
  | nil => exact ⟨rfl, rfl, rfl, rfl, rfl⟩
  | cons packet packets ih =>
      obtain ⟨log, binlog, conn2, userRx, userTx⟩ := ih (sendStatus lib state packet)
      have transport : ((sendStatus lib state packet).mav.links chanComm1).transport =
          (state.mav.links chanComm1).transport := by
        have links : (sendStatus lib state packet).mav.links =
            Function.update state.mav.links chanComm1
              (Link.packed lib ((state.mav.links chanComm1).currentTxSeq + 1)
                (state.mav.links chanComm1)) := rfl
        rw [links, Function.update_self]
        rfl
      refine ⟨?_, binlog, conn2, userRx, userTx⟩
      have sent : (sendStatus lib state packet).mav.log = .sentStatus chanComm1
          (state.mav.links chanComm1).transport packet.seqno packet.ack :: state.mav.log := rfl
      rw [List.foldl_cons, log, transport, sent, statusEvents, statusEvents, List.map_cons,
        List.reverse_cons, List.append_assoc]
      rfl

private theorem binlogTick_turns (state : LoopState P) :
    Turns lib pair state (binlogTick lib pair wake state).2 := by
  unfold binlogTick
  split
  · obtain ⟨log, binlog, conn2, userRx, userTx⟩ := @sendStatus_all P lib
      (state.binlog.tick wake.tickIo).1 { state with binlog := (state.binlog.tick wake.tickIo).2 }
    exact .single (.ticked wake.tickIo _ (.of_conn2 conn2 userRx userTx) binlog log)
  · exact .refl

private theorem heartbeatSnapshot_turns (state : LoopState P) :
    Turns lib pair state (heartbeatSnapshot pair wake state).2 := by
  unfold heartbeatSnapshot
  split
  · exact .single (.reported wake rfl (.of_conn2 rfl rfl rfl) rfl)
  · exact .refl

/-- An iteration of the main loop is a sequence of turns. -/
theorem iterate_turns (state : LoopState P) :
    Turns lib pair state (iterate lib env pair wake state).2 := by
  refine runBlocks_turns ?_ state
  unfold blocks
  simp only [List.forall_mem_cons, List.not_mem_nil, false_implies, implies_true, and_true]
  exact ⟨processDrops_turns, checkUser_turns, eachSlot_turns fun _ _ => .refl, selectSockets_turns,
    sweepDeadUdp_turns, userUdp_turns, engineerUdp_turns, userTcpAccept_turns, userTcpData_turns,
    engineerTcpAccept_turns, eachSlot_turns engineerTcpSlot_turns, binlogTick_turns,
    heartbeatSnapshot_turns⟩

end Blocks

/-- **A session is a sequence of turns.** -/
theorem run_turns {lib : Library P} {env : Environment} {pair : PortPair} (wakes : List Wakeup)
    (state : LoopState P) : Turns lib pair state (run lib env pair wakes state).2 := by
  induction wakes generalizing state with
  | nil => exact .refl
  | cons wake wakes ih =>
      have step : Turns lib pair state (iterate lib env pair wake state).2 := iterate_turns state
      unfold run
      generalize iterate lib env pair wake state = result at step
      rcases result with ⟨_ | _ | _, middle⟩
      · exact step.trans (ih middle)
      · exact step.trans (ih middle)
      · exact step

end SupportProxy
