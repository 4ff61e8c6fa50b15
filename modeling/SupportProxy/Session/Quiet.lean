import SupportProxy.Session.LinkLayer
import SupportProxy.Mavlink.KeyRecord
import SupportProxy.Mavlink.Streams

/-! # Quiet operations

Only an operation that starts a connection or receives something changes what a link
believes about its peer. What all the others keep is said once (`Quiet`), so that a
proof about every operation deals with the three loud ones (`Operation.byKind`). -/

namespace SupportProxy

/-- Events of the operations that neither start a link nor receive anything. -/
def Event.outward : Event → Prop
  | .opened _ _ => True
  | .sent _ _ _ => True
  | .sentStatus _ _ _ _ => True
  | .closed _ _ => True
  | event => event.sessional

private theorem Event.outward.newestKey {event : Event} (outward : event.outward)
    (before : List Event) :
    SupportProxy.newestKey (event :: before) = SupportProxy.newestKey before := by
  cases event <;> first | rfl | exact outward.elim

variable {P : Type}

/-- No link that stays connected is told anything. -/
structure LinkLayer.Quiet (lib : Library P) (before after : LinkLayer P) : Prop where
  calm : ∀ chan, chan = chanComm1 ∨ after.connected chan = true → Calm chan before.mav after.mav
  connected : ∀ chan, after.connected chan = true → before.connected chan = true
  record : after.mav.keyRecord = before.mav.keyRecord
  streams : lib.TracksStreams → SameStreams before.mav after.mav
  log : after.mav.log = before.mav.log ∨
    ∃ event, event.outward ∧ after.mav.log = event :: before.mav.log

namespace LinkLayer.Quiet

variable {lib : Library P} {before after : LinkLayer P}

/-- Whatever is quiet keeps the record of the newest key. -/
theorem stored (quiet : before.Quiet lib after) (stored : Stored before.mav) :
    Stored after.mav := by
  refine stored.of_same quiet.record ?_
  rcases quiet.log with same | ⟨event, outward, added⟩
  · rw [same]
  · rw [added, outward.newestKey]

/-- Whatever is quiet keeps a rule that says nothing of sent messages. -/
theorem obeys (quiet : before.Quiet lib after) {rule : List Event → Event → Prop}
    (harmless : ∀ log event, Event.outward event → rule log event)
    (obeys : History.Obeys rule before.mav.log) : History.Obeys rule after.mav.log := by
  rcases quiet.log with same | ⟨event, outward, added⟩
  · rw [same]
    exact obeys
  · rw [added]
    exact ⟨harmless _ event outward, obeys⟩

/-- An event that no link is judged by. -/
theorem note {event : Event} (outward : event.outward)
    (silent : ∀ chan, ∀ trust : Trust, trust.apply chan event = trust) :
    before.Quiet lib { before with mav := before.mav.note event } :=
  ⟨fun chan _ => .note (silent chan), fun _ held => held, rfl, fun _ => .of_links rfl,
    .inr ⟨event, outward, rfl⟩⟩

/-- Nothing but a flag or a counter beside the links changes. -/
theorem of_links {mav : MavState P} (links : mav.links = before.mav.links)
    (record : mav.keyRecord = before.mav.keyRecord) (log : mav.log = before.mav.log) :
    before.Quiet lib { before with mav := mav } :=
  ⟨fun _ _ => .of_same links log, fun _ held => held, record, fun _ => .of_links links, .inl log⟩

/-- A change to one link that neither its gate nor its table of streams sees. -/
theorem modifyLink {chan : Nat} {change : Link P → Link P}
    (gate : ∀ link : Link P, (change link).gate = link.gate ∧
      (change link).gotSignedPacket = link.gotSignedPacket)
    (streams : lib.TracksStreams → (change (before.mav.links chan)).track.streams =
      (before.mav.links chan).track.streams) :
    before.Quiet lib { before with mav := before.mav.modifyLink chan change } :=
  ⟨fun _ _ => .modifyAny gate, fun _ held => held, rfl,
    fun tracks => .modifyLink (streams tracks), .inl rfl⟩

private theorem send (env : Environment) (chan : Nat) (msg : Message) :
    before.Quiet lib { before with mav := (sendMessage lib env chan msg before.mav).2 } := by
  obtain ⟨middle, touches, calm, log, sent⟩ := sendMessage_effect lib env chan msg before.mav
  have quiet : ∀ other, Calm other before.mav middle := by
    intro other
    by_cases own : other = chan
    · rw [own]
      exact calm
    · exact touches.calm own
  refine ⟨fun other _ => ?_, fun _ held => held, sendMessage_keyRecord lib env chan msg before.mav,
    fun tracks => sendMessage_streams env chan tracks msg before.mav, ?_⟩
  · dsimp only
    rcases sent with same | ⟨transport, same, _⟩
    · rw [same]
      exact quiet other
    · rw [same]
      exact (quiet other).trans (.note fun _ => rfl)
  · dsimp only
    rcases sent with same | ⟨transport, same, _⟩
    · rw [same]
      exact .inl log
    · rw [same, ← log]
      exact .inr ⟨.sent chan transport msg, trivial, rfl⟩

private theorem status (seqno : Nat) (ack : Bool) :
    before.Quiet lib { before with
      mav := (before.mav.modifyLink chanComm1
          (Link.packed lib ((before.mav.links chanComm1).currentTxSeq + 1))).note
        (.sentStatus chanComm1 (before.mav.links chanComm1).transport seqno ack) } := by
  refine ⟨fun other _ => ?_, fun _ held => held, rfl, fun tracks => ?_,
    .inr ⟨.sentStatus chanComm1 (before.mav.links chanComm1).transport seqno ack, trivial, rfl⟩⟩
  · have packed : Calm other before.mav (before.mav.modifyLink chanComm1
        (Link.packed lib ((before.mav.links chanComm1).currentTxSeq + 1))) :=
      Calm.modifyAny fun _ => ⟨rfl, rfl⟩
    exact packed.trans (.note fun _ => rfl)
  · have packed : SameStreams before.mav (before.mav.modifyLink chanComm1
        (Link.packed lib ((before.mav.links chanComm1).currentTxSeq + 1))) :=
      .modifyLink (Link.packed_streams tracks _ _)
    exact packed.trans (.of_links rfl)

/-- The link of the freed slot is no longer connected. -/
theorem disconnect (slot : Nat) (reason : CloseReason) :
    before.Quiet lib
      { mav := before.mav.note (.closed slot reason)
        connected := Function.update before.connected (chanComm2 slot) false } := by
  have apart : ∀ chan, chan = chanComm1 ∨
      Function.update before.connected (chanComm2 slot) false chan = true →
        chanComm2 slot ≠ chan := by
    rintro chan (rfl | held) same
    · exact chanComm2_ne_comm1 slot same
    · rw [← same, Function.update_self] at held
      cases held
  refine ⟨fun chan seen => .note fun trust => ?_, fun chan held => ?_, rfl,
    fun _ => .of_links rfl, .inr ⟨.closed slot reason, trivial, rfl⟩⟩
  · rw [Trust.apply, if_neg (apart chan seen)]
  · have elsewhere := (apart chan (.inr held)).symm
    dsimp only at held
    rwa [Function.update_of_ne elsewhere] at held

end LinkLayer.Quiet

/-- An operation is quiet, or it starts a connection or receives. -/
@[elab_as_elim]
theorem Operation.byKind {lib : Library P} {env : Environment} {pair : PortPair}
    {motive : (before after : LinkLayer P) → Operation lib env pair before after → Prop}
    (quiet : ∀ {before after : LinkLayer P} (operation : Operation lib env pair before after),
      before.Quiet lib after → motive before after operation)
    (connectUser : ∀ (before : LinkLayer P) (fd : Option Nat) (isTcp : Bool)
      (absent : before.connected chanComm1 = false), motive before _ (.connectUser fd isTcp absent))
    (connectEngineer : ∀ (before : LinkLayer P) (slot : Nat) (udp : Bool) (fd : Option Nat)
      (allowWebsocket isTcp : Bool) (inside : slot < maxComm2Links)
      (absent : before.connected (chanComm2 slot) = false),
      motive before _ (.connectEngineer slot udp fd allowWebsocket isTcp inside absent))
    (receive : ∀ (before : LinkLayer P) (chan : Nat) (bytes : List UInt8)
      (active : before.Active chan), motive before _ (.receive chan bytes active))
    {before after : LinkLayer P} (operation : Operation lib env pair before after) :
    motive before after operation := by
  cases operation with
  | ask => exact quiet .ask (.of_links rfl rfl rfl)
  | session sessional =>
      rename_i event
      refine quiet (.session sessional) (.note ?_ fun chan trust => ?_)
      · cases event <;> trivial
      · cases event <;> first | rfl | exact sessional.elim
  | connectUser fd isTcp absent => exact connectUser _ fd isTcp absent
  | connectEngineer slot udp fd allowWebsocket isTcp inside absent =>
      exact connectEngineer _ slot udp fd allowWebsocket isTcp inside absent
  | receive chan bytes active => exact receive _ chan bytes active
  | send chan msg active => exact quiet (.send chan msg active) (.send env chan msg)
  | status seqno ack => exact quiet (.status seqno ack) (.status seqno ack)
  | setWs chan object =>
      exact quiet (.setWs chan object) (.modifyLink (fun _ => ⟨rfl, rfl⟩) fun _ => rfl)
  | setSendto chan peer =>
      exact quiet (.setSendto chan peer) (.modifyLink (fun _ => ⟨rfl, rfl⟩) fun _ => rfl)
  | disconnect slot reason inside =>
      exact quiet (.disconnect slot reason inside) (.disconnect slot reason)

end SupportProxy
