import SupportProxy.Session.Descriptors

/-! # Who holds a descriptor

The invariant of the descriptors at the top of an iteration: every number that is held is open and
held once, a WebSocket has the number of its connection (`Owns`), and the holders are the
variables of the loop (`Tracks`). -/

namespace SupportProxy

variable {P : Type}

/-- Every number that is held is open and held once, and the copy in a WebSocket is the descriptor
of its connection. -/
structure Owns (fds : Descriptors) : Prop where
  table : fds.table.Sound
  copies : ∀ holder copy, fds.ws holder = some copy → copy = fds.table.held holder

/-- The same but for one slot, whose descriptor may be closed already. -/
structure OwnsBut (slot : Nat) (fds : Descriptors) : Prop where
  table : (fds.table.release (.conn2 slot)).Sound
  copies : ∀ holder copy, holder ≠ .conn2 slot → fds.ws holder = some copy →
    copy = fds.table.held holder

namespace Owns

variable {fds : Descriptors}

/-- A number is given to a holder that has no WebSocket. -/
theorem take (owns : Owns fds) {holder : Holder} {fd : Nat}
    (fresh : fds.table.isOpen fd = false) (bare : fds.ws holder = none) :
    Owns { fds with table := fds.table.take holder fd } := by
  refine ⟨owns.table.take holder fresh, fun other copy kept => ?_⟩
  dsimp only at kept ⊢
  have different : other ≠ holder := by
    intro same
    rw [same, bare] at kept
    exact Option.some_ne_none copy kept.symm
  rw [HandleTable.take_held, if_neg different]
  exact owns.copies other copy kept

/-- A holder that has no WebSocket closes its number. -/
theorem release (owns : Owns fds) {holder : Holder} (bare : fds.ws holder = none) :
    Owns { fds with table := fds.table.release holder } := by
  refine ⟨owns.table.release holder, fun other copy kept => ?_⟩
  dsimp only at kept ⊢
  have different : other ≠ holder := by
    intro same
    rw [same, bare] at kept
    exact Option.some_ne_none copy kept.symm
  rw [HandleTable.release_held, if_neg different]
  exact owns.copies other copy kept

/-- A new WebSocket changes no owner. -/
theorem webSocket (owns : Owns fds) (holder : Holder) :
    Owns ((DescriptorAction.webSocket holder).apply fds) := by
  refine ⟨owns.table, fun other copy kept => ?_⟩
  change Function.update fds.ws holder (some (fds.table.held holder)) other = some copy at kept
  change copy = fds.table.held other
  by_cases own : other = holder
  · rw [own, Function.update_self] at kept
    rw [own]
    exact (Option.some.inj kept).symm
  · rw [Function.update_of_ne own] at kept
    exact owns.copies other copy kept

/-- Every holder owns its number, so all but one do. -/
theorem but (owns : Owns fds) (slot : Nat) : OwnsBut slot fds :=
  ⟨owns.table.release _, fun holder copy _ => owns.copies holder copy⟩

/-- After a hard error in its WebSocket the slot is all there is to mend. -/
theorem fail (owns : Owns fds) (slot : Nat) (caller : Caller) :
    OwnsBut slot ((DescriptorAction.fail (.conn2 slot) caller).apply fds) := by
  rw [DescriptorAction.apply]
  cases copied : fds.ws (.conn2 slot) with
  | none => exact owns.but slot
  | some copy =>
      have same := owns.copies (.conn2 slot) copy copied
      cases copy with
      | none => exact owns.but slot
      | some fd =>
          refine ⟨(owns.table.shut same.symm).release, fun holder copy different kept => ?_⟩
          dsimp only at kept
          rw [Function.update_of_ne different] at kept
          exact owns.copies holder copy kept

end Owns

/-- Closing the slot mends it. -/
theorem OwnsBut.closeSlot {slot : Nat} {fds : Descriptors} (owns : OwnsBut slot fds) :
    Owns ((DescriptorAction.closeSlot slot).apply fds) := by
  refine ⟨owns.table, fun holder copy kept => ?_⟩
  change Function.update fds.ws (.conn2 slot) none holder = some copy at kept
  change copy = (fds.table.release (.conn2 slot)).held holder
  by_cases own : holder = .conn2 slot
  · rw [own, Function.update_self] at kept
    exact (Option.some_ne_none copy kept.symm).elim
  · rw [Function.update_of_ne own] at kept
    rw [HandleTable.release_held, if_neg own]
    exact owns.copies holder copy own kept

/-- The descriptors are those of the state of the loop. -/
structure Tracks (state : LoopState P) (fds : Descriptors) : Prop where
  conn2 : ∀ slot, fds.table.held (.conn2 slot) = (state.conn2 slot).sock
  tcp : fds.table.held .sock1Tcp = state.sock1Tcp
  udp : fds.table.held .sock1Udp = state.sock1Udp
  free : ∀ slot, (state.conn2 slot).used = false →
    (state.conn2 slot).sock = none ∧ (state.conn2 slot).ws = none
  slots : ∀ slot, (state.conn2 slot).ws = none → fds.ws (.conn2 slot) = none
  user : state.userWs = none → fds.ws .sock1Tcp = none
  bare : fds.ws .sock1Udp = none ∧ ∀ id, fds.ws (.file id) = none
  connected : state.userWs.isSome = true → state.haveConn1 = true ∧ state.sock1Udp = none

/-- A change of the state that the sockets do not notice. -/
structure LeavesSockets (before after : LoopState P) : Prop where
  sock : ∀ slot, (after.conn2 slot).sock = (before.conn2 slot).sock
  ws : ∀ slot, (after.conn2 slot).ws = (before.conn2 slot).ws
  used : ∀ slot, (before.conn2 slot).used = true → (after.conn2 slot).used = true
  tcp : after.sock1Tcp = before.sock1Tcp
  udp : after.sock1Udp = before.sock1Udp
  userWs : after.userWs = before.userWs
  connected : before.haveConn1 = true → after.haveConn1 = true

/-- One slot is closed, and no more. -/
structure FreesSlot (slot : Nat) (before after : LoopState P) : Prop where
  own : after.conn2 slot = (before.conn2 slot).close
  others : ∀ other, other ≠ slot → after.conn2 other = before.conn2 other
  tcp : after.sock1Tcp = before.sock1Tcp
  udp : after.sock1Udp = before.sock1Udp
  userWs : after.userWs = before.userWs
  connected : after.haveConn1 = before.haveConn1

namespace LeavesSockets

/-- Nothing has changed. -/
theorem refl (state : LoopState P) : LeavesSockets state state :=
  ⟨fun _ => rfl, fun _ => rfl, fun _ => id, rfl, rfl, rfl, id⟩

/-- One after the other. -/
theorem trans {before middle after : LoopState P} (first : LeavesSockets before middle)
    (second : LeavesSockets middle after) : LeavesSockets before after :=
  ⟨fun slot => (second.sock slot).trans (first.sock slot),
    fun slot => (second.ws slot).trans (first.ws slot),
    fun slot used => second.used slot (first.used slot used), second.tcp.trans first.tcp,
    second.udp.trans first.udp, second.userWs.trans first.userWs,
    fun connected => second.connected (first.connected connected)⟩

/-- A change of one slot that keeps its socket, its WebSocket and its use. -/
theorem modifySlot {state : LoopState P} {slot : Nat} {change : Connection2 → Connection2}
    (sock : (change (state.conn2 slot)).sock = (state.conn2 slot).sock)
    (ws : (change (state.conn2 slot)).ws = (state.conn2 slot).ws)
    (used : (state.conn2 slot).used = true → (change (state.conn2 slot)).used = true) :
    LeavesSockets state (state.modifySlot slot change) := by
  have own : (state.modifySlot slot change).conn2 slot = change (state.conn2 slot) :=
    Function.update_self ..
  have others : ∀ other, other ≠ slot →
      (state.modifySlot slot change).conn2 other = state.conn2 other :=
    fun other different => Function.update_of_ne different ..
  refine ⟨fun other => ?_, fun other => ?_, fun other => ?_, rfl, rfl, rfl, id⟩
  all_goals by_cases same : other = slot
  · rw [same, own, sock]
  · rw [others other same]
  · rw [same, own, ws]
  · rw [others other same]
  · rw [same, own]
    exact used
  · rw [others other same]
    exact id

end LeavesSockets

namespace Tracks

variable {state after : LoopState P} {fds : Descriptors}

/-- The same sockets are tracked as before. -/
theorem leaves (tracks : Tracks state fds) (same : LeavesSockets state after) :
    Tracks after fds where
  conn2 := fun slot => (tracks.conn2 slot).trans (same.sock slot).symm
  tcp := tracks.tcp.trans same.tcp.symm
  udp := tracks.udp.trans same.udp.symm
  free := by
    intro slot unused
    rw [same.sock slot, same.ws slot]
    refine tracks.free slot ((Bool.not_eq_true _).mp fun used => ?_)
    exact Bool.false_ne_true (unused.symm.trans (same.used slot used))
  slots := by
    intro slot
    rw [same.ws slot]
    exact tracks.slots slot
  user := by
    rw [same.userWs]
    exact tracks.user
  bare := tracks.bare
  connected := by
    rw [same.userWs, same.udp]
    exact fun some_ => (tracks.connected some_).imp_left same.connected

/-- A file comes or goes. -/
theorem file (tracks : Tracks state fds) (action : FileAction) :
    Tracks state ((DescriptorAction.file action).apply fds) := by
  have kept : ∀ holder, (∀ id, holder ≠ .file id) →
      ((DescriptorAction.file action).apply fds).table.held holder = fds.table.held holder := by
    intro holder different
    cases action with
    | opened id fd => exact (HandleTable.take_held ..).trans (if_neg (different id))
    | closed id => exact (HandleTable.release_held ..).trans (if_neg (different id))
  have ws : ((DescriptorAction.file action).apply fds).ws = fds.ws := by
    cases action <;> rfl
  refine ⟨fun slot => ?_, ?_, ?_, tracks.free, ?_, ?_, ?_, tracks.connected⟩
  · rw [kept _ fun _ => Holder.noConfusion]
    exact tracks.conn2 slot
  · rw [kept _ fun _ => Holder.noConfusion]
    exact tracks.tcp
  · rw [kept _ fun _ => Holder.noConfusion]
    exact tracks.udp
  all_goals rw [ws]
  · exact tracks.slots
  · exact tracks.user
  · exact tracks.bare

/-- A hard error leaves what is held as it is. -/
theorem fail (tracks : Tracks state fds) (holder : Holder) (caller : Caller) :
    Tracks state ((DescriptorAction.fail holder caller).apply fds) := by
  rw [DescriptorAction.apply]
  cases copied : fds.ws holder with
  | none => exact tracks
  | some copy =>
      cases copy with
      | none => exact tracks
      | some fd =>
          have none_ : ∀ other, fds.ws other = none →
              Function.update fds.ws holder (some none) other = none := by
            intro other bare
            rw [Function.update_of_ne, bare]
            intro same
            rw [same, copied] at bare
            exact Option.some_ne_none _ bare
          exact ⟨tracks.conn2, tracks.tcp, tracks.udp, tracks.free,
            fun slot bare => none_ _ (tracks.slots slot bare),
            fun bare => none_ _ (tracks.user bare),
            ⟨none_ _ tracks.bare.1, fun id => none_ _ (tracks.bare.2 id)⟩, tracks.connected⟩

/-- Freeing a slot is followed by closing its descriptor. -/
theorem closeSlot {slot : Nat} (tracks : Tracks state fds) (frees : FreesSlot slot state after) :
    Tracks after ((DescriptorAction.closeSlot slot).apply fds) := by
  have held : ∀ holder, holder ≠ .conn2 slot →
      ((DescriptorAction.closeSlot slot).apply fds).table.held holder = fds.table.held holder :=
    fun holder different => (HandleTable.release_held ..).trans (if_neg different)
  have ws : ∀ holder, holder ≠ .conn2 slot →
      ((DescriptorAction.closeSlot slot).apply fds).ws holder = fds.ws holder :=
    fun holder different => Function.update_of_ne different ..
  have apart : ∀ other, other ≠ slot → Holder.conn2 other ≠ .conn2 slot :=
    fun other different same => different (Holder.conn2.inj same)
  refine ⟨fun other => ?_, ?_, ?_, fun other => ?_, fun other => ?_, ?_, ?_, ?_⟩
  · by_cases own : other = slot
    · rw [own, frees.own]
      exact (HandleTable.release_held ..).trans (if_pos rfl)
    · rw [frees.others other own, held _ (apart other own)]
      exact tracks.conn2 other
  · rw [held _ Holder.noConfusion, frees.tcp]
    exact tracks.tcp
  · rw [held _ Holder.noConfusion, frees.udp]
    exact tracks.udp
  · by_cases own : other = slot
    · rw [own, frees.own]
      exact fun _ => ⟨rfl, rfl⟩
    · rw [frees.others other own]
      exact tracks.free other
  · by_cases own : other = slot
    · rw [own]
      exact fun _ => Function.update_self ..
    · rw [frees.others other own, ws _ (apart other own)]
      exact tracks.slots other
  · rw [frees.userWs, ws _ Holder.noConfusion]
    exact tracks.user
  · exact ⟨(ws _ Holder.noConfusion).trans tracks.bare.1,
      fun id => (ws _ Holder.noConfusion).trans (tracks.bare.2 id)⟩
  · rw [frees.userWs, frees.udp, frees.connected]
    exact tracks.connected

end Tracks

/-- The invariant at the top of an iteration. -/
structure Holds (state : LoopState P) (fds : Descriptors) : Prop where
  owns : Owns fds
  tracks : Tracks state fds

/-- What holds throughout an iteration gives one owner at its top. -/
theorem Holds.oneOwner {state : LoopState P} {fds : Descriptors} (holds : Holds state fds) :
    OneOwner state fds where
  user := by
    intro fd held
    rw [← holds.tracks.tcp] at held
    exact holds.owns.table.live .sock1Tcp fd held
  slots := by
    intro slot fd _ _ held
    rw [← holds.tracks.conn2] at held
    exact holds.owns.table.live (.conn2 slot) fd held
  distinct := by
    intro first second fd held also
    rw [← holds.tracks.conn2] at held also
    exact Holder.conn2.inj (holds.owns.table.distinct _ _ fd held also)
  owned := holds.owns.table.owned

end SupportProxy
