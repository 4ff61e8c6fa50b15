import SupportProxy.Session.Holders
import SupportProxy.Session.Moves
import SupportProxy.Session.Scenario

/-! # One owner for every descriptor

A piece of code keeps the owners of the descriptors apart along its trail (`KeepsOwners`), where
the system gives out no number that is open and every hard error in a WebSocket is learned of. The
rules for the loops of `main_loop` carry that from the calls to a session (`run_oneOwner`). -/

namespace SupportProxy

variable {P : Type}

/-- A piece of code keeps the invariant along its trail, where it leaves by some of the flows, no
number is given out twice and no action does harm. -/
def KeepsWhere (goes : Flow → Prop) (state : LoopState P) (trail : List DescriptorAction)
    (result : Flow × LoopState P) : Prop :=
  ∀ fds, Holds state fds → fds.Numbered trail → (∀ action ∈ trail, action.Harmless) →
    goes result.1 → Holds result.2 (fds.after trail)

private theorem KeepsWhere.rule {goes : Flow → Prop} (next : goes .next) :
    TrailRule (KeepsWhere (P := P) goes) where
  idle := fun _ _ holds _ _ _ => holds
  next := by
    intro state middle first more result own later fds holds numbered harmless running
    obtain ⟨numberedFirst, numberedMore⟩ := Descriptors.numbered_append.mp numbered
    rw [Descriptors.after_append]
    refine later _ (own fds holds numberedFirst (fun action member => ?_) next)
      numberedMore (fun action member => ?_) running
    · exact harmless action (List.mem_append_left _ member)
    · exact harmless action (List.mem_append_right _ member)

/-- It keeps the invariant unless the session ends. -/
abbrev KeepsOwners : LoopState P → List DescriptorAction → Flow × LoopState P → Prop :=
  KeepsWhere (· ≠ .stop)

/-- It keeps the invariant where it falls through. -/
abbrev KeepsNext : LoopState P → List DescriptorAction → Flow × LoopState P → Prop :=
  KeepsWhere (· = .next)

private theorem KeepsNext.rule : TrailRule (KeepsNext (P := P)) := KeepsWhere.rule rfl

namespace KeepsOwners

variable {state after : LoopState P} {trail : List DescriptorAction} {flow : Flow}

private theorem rule : TrailRule (KeepsOwners (P := P)) := KeepsWhere.rule Flow.noConfusion

private theorem falls : FallsThrough (KeepsOwners (P := P)) :=
  fun keeps fds holds numbered harmless _ => keeps fds holds numbered harmless Flow.noConfusion

private theorem next {result : Flow × LoopState P} (keeps : KeepsOwners state trail result) :
    KeepsNext state trail result := by
  intro fds holds numbered harmless falls
  refine keeps fds holds numbered harmless ?_
  rw [falls]
  exact Flow.noConfusion

private theorem stop : KeepsOwners state trail (.stop, after) :=
  fun _ _ _ _ running => (running rfl).elim

private theorem leaves (same : LeavesSockets state after) : KeepsOwners state [] (flow, after) :=
  fun _ holds _ _ _ => ⟨holds.owns, holds.tracks.leaves same⟩

/-- A piece of code behind a change that the sockets do not notice. -/
theorem of_leaves {result : Flow × LoopState P} (keeps : KeepsOwners after trail result)
    (same : LeavesSockets state after) : KeepsOwners state trail result :=
  rule.next (leaves same) keeps

/-- A piece of code before a change that the sockets do not notice. -/
theorem then_leaves {middle : LoopState P} (keeps : KeepsOwners state trail (flow, middle))
    (same : LeavesSockets middle after) : KeepsOwners state trail (flow, after) := by
  intro fds holds numbered harmless running
  have kept := keeps fds holds numbered harmless running
  exact ⟨kept.owns, kept.tracks.leaves same⟩

/-- All that is done does harm. -/
theorem harmful (same : LeavesSockets state after)
    (every : ∀ action ∈ trail, ¬action.Harmless) : KeepsOwners state trail (flow, after) := by
  intro fds holds numbered harmless running
  cases trail with
  | nil => exact leaves same fds holds numbered harmless running
  | cons action rest =>
      exact (every action List.mem_cons_self (harmless action List.mem_cons_self)).elim

private theorem files (faults : Faults) (place : Place) (state : LoopState P) :
    KeepsOwners state (filesAt faults place state) (.next, state) := by
  rw [filesAt]
  generalize faults.files place state.mav.log = actions
  induction actions with
  | nil => exact rule.idle state
  | cons action actions ih =>
      have own : KeepsOwners state [.file action] (.next, state) := by
        intro fds holds numbered _ _
        refine ⟨?_, holds.tracks.file action⟩
        cases action with
        | opened id fd => exact holds.owns.take numbered.1 (holds.tracks.bare.2 id)
        | closed id => exact holds.owns.release (holds.tracks.bare.2 id)
      exact rule.next own ih

/-- A slot that is closed, its WebSocket failing before or not. -/
theorem closeSlot {slot : Nat} (frees : FreesSlot slot state after) (failed : List DescriptorAction)
    (one : failed = [] ∨ ∃ caller, failed = [.fail (.conn2 slot) caller]) :
    KeepsOwners state (failed ++ [.closeSlot slot]) (flow, after) := by
  intro fds holds _ _ _
  rcases one with rfl | ⟨caller, rfl⟩
  · exact ⟨(holds.owns.but slot).closeSlot, holds.tracks.closeSlot frees⟩
  · exact ⟨(holds.owns.fail slot caller).closeSlot,
      (holds.tracks.fail (.conn2 slot) caller).closeSlot frees⟩

end KeepsOwners

private theorem closeCounted_frees (reason : CloseReason) (slot : Nat) (state : LoopState P) :
    FreesSlot slot state (state.closeCounted reason slot) :=
  ⟨Function.update_self .., fun _ different => Function.update_of_ne different ..,
    rfl, rfl, rfl, rfl⟩

private theorem closeDropped_frees (slot : Nat) (state : LoopState P) :
    FreesSlot slot state (state.closeDropped slot) :=
  ⟨Function.update_self .., fun _ different => Function.update_of_ne different ..,
    rfl, rfl, rfl, rfl⟩

private theorem closeDead_frees (slot : Nat) (state : LoopState P) :
    FreesSlot slot state (state.closeDead slot) :=
  ⟨Function.update_self .., fun _ different => Function.update_of_ne different ..,
    rfl, rfl, rfl, rfl⟩

private theorem freedTrail_frees {slot : Nat} {state after : LoopState P}
    (used : (state.conn2 slot).used = true) (frees : FreesSlot slot state after) :
    freedTrail slot state after = [.closeSlot slot] := by
  rw [freedTrail, used, frees.own]
  rfl

private theorem freedTrail_leaves {slot : Nat} {state after : LoopState P}
    (same : LeavesSockets state after) : freedTrail slot state after = [] := by
  rw [freedTrail]
  cases used : (state.conn2 slot).used with
  | false => rfl
  | true =>
      rw [same.used slot used]
      rfl

section Pieces

variable {lib : Library P} {env : Environment} {pair : PortPair} {wake : Wakeup} {faults : Faults}

/-- A write does nothing, or harm, or fails under its caller. -/
theorem writeTrail_cases (faults : Faults) (holder : Holder) (own : Option Nat)
    (caller : Caller) (failed : Bool) (log : List Event) (transport : Transport) :
    writeTrail faults holder own caller failed log transport = [] ∨
      (∃ closed,
        writeTrail faults holder own caller failed log transport = [.stray holder closed]) ∨
      failed = true ∧
        writeTrail faults holder own caller failed log transport = [.fail holder caller] := by
  cases transport with
  | websocket object =>
      rw [writeTrail]
      split_ifs with mine fails
      · exact .inr (.inr ⟨fails, rfl⟩)
      · exact .inl rfl
      · exact .inr (.inl ⟨_, rfl⟩)
  | sendto peer => exact .inl rfl
  | stream => exact .inl rfl

/-- A send that returns true has not failed hard. -/
theorem sendTrail_cases (lib : Library P) (env : Environment) (faults : Faults) (holder : Holder)
    (own : Option Nat) (caller : Caller) (call : MessageSend P) :
    sendTrail lib env faults holder own caller call = [] ∨
      (∃ closed, sendTrail lib env faults holder own caller call = [.stray holder closed]) ∨
      (sendMessage lib env call.chan call.msg call.mav).1 = false ∧
        sendTrail lib env faults holder own caller call = [.fail holder caller] := by
  rw [sendTrail]
  split_ifs
  · exact .inl rfl
  · refine (writeTrail_cases ..).imp id (.imp id fun fails => ⟨?_, fails.2⟩)
    exact (Bool.not_eq_true' _).mp ((Bool.and_eq_true _ _).mp fails.1).1

/-- A caller that keeps the connection is harmed by every hard error. -/
theorem writeTrail_harmful {holder : Holder} {own : Option Nat} {caller : Caller}
    (keeps : caller.leaves = false) (failed : Bool) (log : List Event)
    (transport : Transport) :
    ∀ action ∈ writeTrail faults holder own caller failed log transport, ¬action.Harmless := by
  obtain nothing | ⟨closed, strays⟩ | ⟨_, fails⟩ :=
    writeTrail_cases faults holder own caller failed log transport
  · rw [nothing]
    exact fun _ => (List.not_mem_nil · |>.elim)
  · rw [strays]
    exact List.forall_mem_singleton.mpr id
  · rw [fails]
    refine List.forall_mem_singleton.mpr fun absurd => ?_
    exact Bool.false_ne_true (keeps.symm.trans absurd)

private theorem sendTrail_harmful {holder : Holder} {own : Option Nat} {caller : Caller}
    (keeps : caller.leaves = false) (call : MessageSend P) :
    ∀ action ∈ sendTrail lib env faults holder own caller call, ¬action.Harmless := by
  rw [sendTrail]
  split_ifs
  · exact fun _ => (List.not_mem_nil · |>.elim)
  · exact writeTrail_harmful keeps _ _ _

private theorem mav_leaves (state : LoopState P) (mav : MavState P) :
    LeavesSockets state { state with mav := mav } :=
  ⟨fun _ => rfl, fun _ => rfl, fun _ => id, rfl, rfl, rfl, id⟩

private theorem countTx_leaves (slot : Nat) (state : LoopState P) :
    LeavesSockets state (countTx slot state) :=
  .modifySlot rfl rfl id

/-- A failed send to a TCP engineer closes its slot, whose WebSocket may have failed. -/
theorem sendOrClose_keeps {slot : Nat} (msg : Message) {state : LoopState P}
    (used : (state.conn2 slot).used = true) (own : Option Nat) {result : Flow × LoopState P}
    (same : (match sendToSlot lib env slot msg state with
      | (false, state) => (Flow.next, state.closeCounted .sendFailed slot)
      | (true, state) => (Flow.next, countTx slot state)) = result) :
    KeepsOwners state
      (sendTrail lib env faults (.conn2 slot) own .fanOut ⟨chanComm2 slot, msg, state.mav⟩ ++
        freedTrail slot state result.2)
      result := by
  have sent := sendTrail_cases lib env faults (.conn2 slot) own .fanOut
    ⟨chanComm2 slot, msg, state.mav⟩
  generalize sendTrail lib env faults (.conn2 slot) own .fanOut ⟨chanComm2 slot, msg, state.mav⟩ =
    trail at sent
  rw [sendToSlot_eq] at same
  dsimp only at sent
  generalize sendMessage lib env (chanComm2 slot) msg state.mav = answer at sent same
  rcases answer with ⟨_ | _, after⟩
  · have frees : FreesSlot slot state
        (({ state with mav := after } : LoopState P).closeCounted .sendFailed slot) :=
      ⟨Function.update_self .., fun _ different => Function.update_of_ne different ..,
        rfl, rfl, rfl, rfl⟩
    have freed : freedTrail slot state
        (({ state with mav := after } : LoopState P).closeCounted .sendFailed slot) =
          [.closeSlot slot] := freedTrail_frees used frees
    rw [← same, freed]
    obtain rfl | ⟨closed, rfl⟩ | ⟨_, rfl⟩ := sent
    · exact .closeSlot frees [] (.inl rfl)
    · exact fun _ _ _ harmless => (harmless _ List.mem_cons_self).elim
    · exact .closeSlot frees _ (.inr ⟨.fanOut, rfl⟩)
  · have leaves : LeavesSockets state (countTx slot { state with mav := after }) :=
      (mav_leaves state after).trans (countTx_leaves slot _)
    rw [← same, freedTrail_leaves leaves, List.append_nil]
    obtain rfl | ⟨closed, rfl⟩ | ⟨failed, _⟩ := sent
    · exact .leaves leaves
    · exact .harmful leaves (List.forall_mem_singleton.mpr id)
    · exact (Bool.false_ne_true failed.symm).elim

/-- The two fan-outs of the user handlers, with what they do to the descriptors. -/
def FanOutKeeps (fanOut : Message → Nat → LoopState P → Flow × LoopState P)
    (fds : Message → Nat → LoopState P → List DescriptorAction) : Prop :=
  ∀ msg slot state, KeepsOwners state (fds msg slot state) (fanOut msg slot state)

private theorem fanOutTcp_keeps :
    FanOutKeeps (fanOutTcp lib env) (fanOutTcpFds lib env faults) := by
  intro msg slot state
  rw [fanOutTcpFds, fanOutTcpSends, fanOutTcp]
  cases used : (state.conn2 slot).used with
  | false =>
      rw [if_neg Bool.false_ne_true, List.flatMap_nil, List.nil_append]
      rw [Bool.not_false, if_pos rfl, freedTrail_leaves (.refl state)]
      exact .leaves (.refl state)
  | true =>
      rw [if_pos rfl, List.flatMap_cons, List.flatMap_nil, List.append_nil]
      rw [Bool.not_true, if_neg Bool.false_ne_true]
      exact sendOrClose_keeps msg used _ rfl

private theorem fanOutUdp_keeps :
    FanOutKeeps (fanOutUdp lib env) (fanOutUdpFds lib env faults) := by
  intro msg slot state
  rw [fanOutUdpFds, fanOutUdpSends, fanOutUdp]
  cases used : (state.conn2 slot).used with
  | false =>
      rw [Bool.false_and, if_neg Bool.false_ne_true, List.flatMap_nil, List.nil_append]
      rw [Bool.not_false, if_pos rfl, freedTrail_leaves (.refl state)]
      exact .leaves (.refl state)
  | true =>
      rw [Bool.true_and, Bool.not_true, if_neg Bool.false_ne_true]
      cases udp : (state.conn2 slot).isUdp with
      | true =>
          have leaves : LeavesSockets state (countTx slot (sendToSlot lib env slot msg state).2) :=
            (mav_leaves state _).trans (countTx_leaves slot _)
          rw [Bool.true_or, if_pos rfl, if_pos rfl, List.flatMap_cons, List.flatMap_nil,
            List.append_nil]
          rw [Bool.not_true, Bool.false_and, if_neg Bool.false_ne_true, if_pos rfl]
          rw [freedTrail_leaves leaves, List.append_nil]
          exact .harmful leaves (sendTrail_harmful rfl _)
      | false =>
          rw [Bool.false_or, if_neg Bool.false_ne_true, Bool.not_false, Bool.true_and]
          cases (state.conn2 slot).sock with
          | none =>
              rw [Option.isSome_none, if_neg Bool.false_ne_true, if_neg Bool.false_ne_true]
              rw [if_neg Bool.false_ne_true, List.flatMap_nil, List.nil_append]
              rw [freedTrail_leaves (.refl state)]
              exact .leaves (.refl state)
          | some fd =>
              rw [Option.isSome_some, if_pos rfl, if_pos rfl, List.flatMap_cons, List.flatMap_nil,
                List.append_nil]
              exact sendOrClose_keeps msg used _ rfl

private theorem writeTlog_leaves (msg : Message) (state : LoopState P) :
    LeavesSockets state (writeTlog pair msg state) := by
  rw [writeTlog]
  split_ifs
  · exact mav_leaves state _
  · exact .refl state

private theorem binlogHandleUserMsg_leaves (msg : Message) (state : LoopState P) :
    LeavesSockets state (binlogHandleUserMsg lib pair wake msg state).2 := by
  rw [binlogHandleUserMsg]
  split_ifs <;> exact ⟨fun _ => rfl, fun _ => rfl, fun _ => id, rfl, rfl, rfl, id⟩

private theorem noteRelay_leaves (slot : Nat) (msg : Message) (state : LoopState P) :
    LeavesSockets state (noteRelay pair slot msg state) := by
  rw [noteRelay]
  have counted : LeavesSockets state
      (state.modifySlot slot fun conn => { conn with rxMsgs := inc32 conn.rxMsgs }) :=
    .modifySlot rfl rfl id
  exact (counted.trans (writeTlog_leaves msg _)).trans (mav_leaves _ _)

private theorem relayToUser_leaves (slot : Nat) (msg : Message) (state : LoopState P) :
    LeavesSockets state (relayToUser lib env pair slot msg state).2 := by
  have noted : LeavesSockets state (noteRelay pair slot msg state) :=
    noteRelay_leaves slot msg state
  rw [relayToUser]
  generalize noteRelay pair slot msg state = middle at noted
  rcases sendMessage lib env chanComm1 msg middle.mav with ⟨_ | _, after⟩
  · exact noted.trans (mav_leaves middle after)
  · exact noted.trans ⟨fun _ => rfl, fun _ => rfl, fun _ => id, rfl, rfl, rfl, id⟩

private theorem LeavesSockets.rule :
    TrailRule fun (state : LoopState P) (_ : List Unit) result => LeavesSockets state result.2 where
  idle := .refl
  next := fun first later => first.trans later

private theorem engineerBytes_leaves (slot : Nat) (bytes : List UInt8) (state : LoopState P) :
    LeavesSockets state (engineerBytes lib env pair slot bytes state).2 := by
  rw [engineerBytes]
  split_ifs
  · exact @TrailRule.parseMessages P Unit _ lib env LeavesSockets.rule (chanComm2 slot)
      (relayToUser lib env pair slot) (fun _ _ => []) (fun _ _ => [])
      (fun _ state => mav_leaves state _) (relayToUser_leaves slot) bytes.length bytes state
  · exact .refl state

private theorem relayToEngineers_keeps {fanOut : Message → Nat → LoopState P → Flow × LoopState P}
    {fds : Message → Nat → LoopState P → List DescriptorAction} (fans : FanOutKeeps fanOut fds)
    (msg : Message) (state : LoopState P) :
    KeepsOwners state (relayToEngineersFds lib pair wake faults fanOut fds msg state)
      (relayToEngineers lib pair wake fanOut msg state) := by
  rw [relayToEngineersFds, relayToEngineers]
  refine KeepsOwners.rule.next (.files faults .message state) ?_
  have counted : LeavesSockets state { state with mav1RxMsgs := inc32 state.mav1RxMsgs } :=
    ⟨fun _ => rfl, fun _ => rfl, fun _ => id, rfl, rfl, rfl, id⟩
  have logged : LeavesSockets state
      (writeTlog pair msg { state with mav1RxMsgs := inc32 state.mav1RxMsgs }) :=
    counted.trans (writeTlog_leaves msg _)
  generalize writeTlog pair msg { state with mav1RxMsgs := inc32 state.mav1RxMsgs } = middle
    at logged
  have handled : LeavesSockets state (binlogHandleUserMsg lib pair wake msg middle).2 :=
    logged.trans (binlogHandleUserMsg_leaves msg middle)
  generalize binlogHandleUserMsg lib pair wake msg middle = result at handled
  rcases result with ⟨_ | _, after⟩
  · exact (KeepsOwners.rule.forSlots KeepsOwners.falls (fans msg) (fun _ => .stop) 256 0
      after).of_leaves handled
  · exact .leaves handled

private theorem relayToUser_keeps (slot : Nat) (msg : Message) (state : LoopState P) :
    KeepsOwners state (relayToUserFds lib env pair faults .relayTcp slot msg state)
      (relayToUser lib env pair slot msg state) := by
  rw [relayToUserFds, relayToUserSends, List.flatMap_cons, List.flatMap_nil, List.append_nil]
  refine KeepsOwners.rule.next (.files faults .message state) ?_
  exact .harmful (relayToUser_leaves slot msg state) (sendTrail_harmful rfl _)

/-- The parse loop of a UDP engineer is left behind a hard error. -/
theorem relayToUser_next (slot : Nat) (msg : Message) (state : LoopState P) :
    KeepsNext state (relayToUserFds lib env pair faults .relayUdp slot msg state)
      (relayToUser lib env pair slot msg state) := by
  rw [relayToUserFds, relayToUserSends, List.flatMap_cons, List.flatMap_nil, List.append_nil]
  refine KeepsNext.rule.next (KeepsOwners.files faults .message state).next ?_
  have kept : LeavesSockets state (relayToUser lib env pair slot msg state).2 :=
    relayToUser_leaves slot msg state
  have sent := sendTrail_cases lib env faults .sock1Tcp state.userWs .relayUdp
    ⟨chanComm1, msg, (noteRelay pair slot msg state).mav⟩
  generalize sendTrail lib env faults .sock1Tcp state.userWs .relayUdp
    ⟨chanComm1, msg, (noteRelay pair slot msg state).mav⟩ = trail at sent
  rw [relayToUser] at kept ⊢
  generalize sendMessage lib env chanComm1 msg (noteRelay pair slot msg state).mav = answer
    at sent kept
  rcases answer with ⟨_ | _, after⟩
  · exact fun _ _ _ _ absurd => Flow.noConfusion absurd
  · obtain rfl | ⟨closed, rfl⟩ | ⟨failed, _⟩ := sent
    · exact (KeepsOwners.leaves kept).next
    · exact (KeepsOwners.harmful kept (List.forall_mem_singleton.mpr id)).next
    · exact (Bool.false_ne_true failed.symm).elim

/-- A warning to a peer keeps its connection. -/
theorem receive_keeps (chan : Nat) (holder : Holder) (own : LoopState P → Option Nat)
    (bytes : List UInt8) (state : LoopState P) :
    KeepsOwners state (printTrail lib env faults chan holder own bytes state)
      (.next, { state with mav := (receiveMessage lib env chan bytes state.mav).2.2 }) := by
  refine .harmful (mav_leaves state _) fun action member => ?_
  obtain ⟨event, _, listed⟩ := List.mem_flatMap.mp member
  cases event with
  | warned chan transport warning =>
      exact writeTrail_harmful rfl _ _ transport action listed
  | _ => exact (List.not_mem_nil listed).elim

private theorem userBytes_keeps {fanOut : Message → Nat → LoopState P → Flow × LoopState P}
    {fds : Message → Nat → LoopState P → List DescriptorAction} (fans : FanOutKeeps fanOut fds)
    (bytes : List UInt8) (state : LoopState P) :
    KeepsOwners state (userBytesFds lib env pair wake faults fanOut fds bytes state)
      (userBytes lib env pair wake fanOut bytes state) := by
  rw [userBytes, userBytesFds]
  split_ifs
  · exact KeepsOwners.rule.parseMessages (receive_keeps chanComm1 .sock1Tcp LoopState.userWs)
      (relayToEngineers_keeps fans) bytes.length bytes state
  · exact .leaves (.refl state)

private theorem engineerBytes_keeps (slot : Nat) (bytes : List UInt8) (state : LoopState P) :
    KeepsOwners state (engineerBytesFds lib env pair faults .relayTcp slot bytes state)
      (engineerBytes lib env pair slot bytes state) := by
  rw [engineerBytes, engineerBytesFds]
  split_ifs
  · exact KeepsOwners.rule.parseMessages
      (receive_keeps (chanComm2 slot) (.conn2 slot) fun state => (state.conn2 slot).ws)
      (relayToUser_keeps slot) bytes.length bytes state
  · exact .leaves (.refl state)

private theorem engineerBytes_next (slot : Nat) (bytes : List UInt8) (state : LoopState P) :
    KeepsNext state (engineerBytesFds lib env pair faults .relayUdp slot bytes state)
      (engineerBytes lib env pair slot bytes state) := by
  rw [engineerBytes, engineerBytesFds]
  split_ifs
  · exact KeepsNext.rule.parseMessages
      (fun bytes state => (receive_keeps (chanComm2 slot) (.conn2 slot)
        (fun state => (state.conn2 slot).ws) bytes state).next)
      (relayToUser_next slot) bytes.length bytes state
  · exact (KeepsOwners.leaves (.refl state)).next

end Pieces

section Blocks

variable {lib : Library P} {env : Environment} {pair : PortPair} {wake : Wakeup} {faults : Faults}
  {state : LoopState P}

private theorem KeepsOwners.flow {flow : Flow} {after : LoopState P} {trail : List DescriptorAction}
    (keeps : KeepsOwners state trail (.next, after)) : KeepsOwners state trail (flow, after) :=
  fun fds holds numbered harmless _ => keeps fds holds numbered harmless Flow.noConfusion

/-- `close_fd(p->sock1_tcp)`, while there are UDP users to come. -/
theorem closeTcp_keeps (udp : state.sock1Udp.isSome = true) :
    KeepsOwners state [.closeFd .sock1Tcp] (.next, { state with sock1Tcp := none }) := by
  intro fds holds _ _ _
  have bare : state.userWs = none := by
    cases some_ : state.userWs with
    | none => rfl
    | some object =>
        rw [(holds.tracks.connected (by rw [some_]; rfl)).2] at udp
        exact (Bool.false_ne_true udp).elim
  have held : ∀ holder, holder ≠ .sock1Tcp →
      (fds.table.release .sock1Tcp).held holder = fds.table.held holder :=
    fun holder different => (HandleTable.release_held ..).trans (if_neg different)
  exact ⟨holds.owns.release (holds.tracks.user bare),
    fun slot => (held _ Holder.noConfusion).trans (holds.tracks.conn2 slot),
    (HandleTable.release_held ..).trans (if_pos rfl),
    (held _ Holder.noConfusion).trans holds.tracks.udp, holds.tracks.free, holds.tracks.slots,
    holds.tracks.user, holds.tracks.bare, holds.tracks.connected⟩

/-- `close_fd(p->sock1_udp)` -/
theorem closeUdp_keeps :
    KeepsOwners state [.closeFd .sock1Udp] (.next, { state with sock1Udp := none }) := by
  intro fds holds _ _ _
  have held : ∀ holder, holder ≠ .sock1Udp →
      (fds.table.release .sock1Udp).held holder = fds.table.held holder :=
    fun holder different => (HandleTable.release_held ..).trans (if_neg different)
  exact ⟨holds.owns.release holds.tracks.bare.1,
    fun slot => (held _ Holder.noConfusion).trans (holds.tracks.conn2 slot),
    (held _ Holder.noConfusion).trans holds.tracks.tcp,
    (HandleTable.release_held ..).trans (if_pos rfl), holds.tracks.free, holds.tracks.slots,
    holds.tracks.user, holds.tracks.bare,
    fun some_ => ⟨(holds.tracks.connected some_).1, rfl⟩⟩

/-- The first TCP user takes the place of the listening socket. -/
theorem acceptUser_keeps {state : LoopState P} (absent : state.haveConn1 = false) (fd : Nat) :
    KeepsOwners state [.acceptUser fd] (.next, { state with sock1Tcp := some fd }) := by
  intro fds holds numbered _ _
  have bare : state.userWs = none := by
    cases some_ : state.userWs with
    | none => rfl
    | some object =>
        have connected := (holds.tracks.connected (by rw [some_]; rfl)).1
        exact (Bool.false_ne_true (absent.symm.trans connected)).elim
  have fresh : fds.table.isOpen fd = false := numbered.1
  have held : ∀ holder, holder ≠ .sock1Tcp →
      ((fds.table.release .sock1Tcp).take .sock1Tcp fd).held holder = fds.table.held holder := by
    intro holder different
    rw [HandleTable.take_held, if_neg different, HandleTable.release_held, if_neg different]
  exact ⟨(holds.owns.release (holds.tracks.user bare)).take
      (HandleTable.release_isOpen .sock1Tcp fresh) (holds.tracks.user bare),
    fun slot => (held _ Holder.noConfusion).trans (holds.tracks.conn2 slot),
    (HandleTable.take_held ..).trans (if_pos rfl),
    (held _ Holder.noConfusion).trans holds.tracks.udp, holds.tracks.free, holds.tracks.slots,
    holds.tracks.user, holds.tracks.bare, holds.tracks.connected⟩

private theorem startLink_leaves (slot : Nat) (fd : Option Nat) (allowWebsocket isTcp : Bool)
    (state : LoopState P) :
    LeavesSockets state (state.startLink env pair slot fd allowWebsocket isTcp) := by
  rw [LoopState.startLink]
  generalize init env (chanComm2 slot) fd true allowWebsocket isTcp pair.port2 state.mav = mav
  rw [LoopState.withMav, LoopState.askSnapshot]
  exact ⟨fun _ => rfl, fun _ => rfl, fun _ => id, rfl, rfl, rfl, id⟩

private theorem countOpened_leaves (slot : Nat) (udp : Bool) (state : LoopState P) :
    LeavesSockets state (state.countOpened slot udp) :=
  ⟨fun _ => rfl, fun _ => rfl, fun _ => id, rfl, rfl, rfl, id⟩

private theorem directLink_leaves (slot : Nat) (peer : Peer) (state : LoopState P) :
    LeavesSockets state (state.directLink slot peer) :=
  ⟨fun _ => rfl, fun _ => rfl, fun _ => id, rfl, rfl, rfl, id⟩

private theorem openTcp_leaves (slot fd : Nat) (peer : Peer) (wallClock : Nat)
    (state : LoopState P) :
    LeavesSockets (state.modifySlot slot (Connection2.takeTcp fd peer wallClock))
      (state.openTcp env pair slot fd peer wallClock) := by
  rw [LoopState.openTcp]
  exact (countOpened_leaves slot false _).trans (startLink_leaves slot (some fd) true true _)

private theorem openUdp_leaves (slot : Nat) (peer : Peer) (now wallClock : Nat)
    (state : LoopState P) :
    LeavesSockets (state.modifySlot slot (Connection2.takeUdp peer now wallClock))
      (state.openUdp env pair slot peer now wallClock) := by
  rw [LoopState.openUdp]
  exact ((countOpened_leaves slot true _).trans
    (startLink_leaves slot state.sock2Udp false false _)).trans (directLink_leaves slot peer _)

/-- A TCP engineer gets a free slot. -/
theorem accept_keeps {slot : Nat} (free : state.freeSlot = some slot) (fd : Nat) (peer : Peer)
    (wallClock : Nat) :
    KeepsOwners state [.accept slot fd] (.next, state.openTcp env pair slot fd peer wallClock) := by
  refine KeepsOwners.then_leaves ?_ (openTcp_leaves slot fd peer wallClock state)
  intro fds holds numbered _ _
  obtain ⟨_, unused, _⟩ := freeSlot_free free
  obtain ⟨_, bare⟩ := holds.tracks.free slot unused
  have own : (state.modifySlot slot (Connection2.takeTcp fd peer wallClock)).conn2 slot =
      (state.conn2 slot).takeTcp fd peer wallClock := Function.update_self ..
  have others : ∀ other, other ≠ slot →
      (state.modifySlot slot (Connection2.takeTcp fd peer wallClock)).conn2 other =
        state.conn2 other :=
    fun other different => Function.update_of_ne different ..
  have held : ∀ holder, holder ≠ .conn2 slot →
      (fds.table.take (.conn2 slot) fd).held holder = fds.table.held holder :=
    fun holder different => (HandleTable.take_held ..).trans (if_neg different)
  refine ⟨holds.owns.take numbered.1 (holds.tracks.slots slot bare), fun other => ?_,
    (held _ Holder.noConfusion).trans holds.tracks.tcp,
    (held _ Holder.noConfusion).trans holds.tracks.udp, fun other => ?_, fun other => ?_,
    holds.tracks.user, holds.tracks.bare, holds.tracks.connected⟩
  all_goals by_cases same : other = slot
  · rw [same, own]
    exact (HandleTable.take_held ..).trans (if_pos rfl)
  · rw [others other same]
    exact (held _ fun equal => same (Holder.conn2.inj equal)).trans (holds.tracks.conn2 other)
  · rw [same, own]
    exact fun absurd => (Bool.false_ne_true absurd.symm).elim
  · rw [others other same]
    exact holds.tracks.free other
  · rw [same]
    exact fun _ => holds.tracks.slots slot bare
  · rw [others other same]
    exact holds.tracks.slots other

/-- A UDP engineer gets a free slot, which holds no descriptor. -/
theorem openUdp_keeps {slot : Nat} (free : state.freeSlot = some slot) (peer : Peer)
    (now wallClock : Nat) :
    KeepsOwners state [] (.next, state.openUdp env pair slot peer now wallClock) := by
  refine KeepsOwners.then_leaves ?_ (openUdp_leaves slot peer now wallClock state)
  intro fds holds _ _ _
  obtain ⟨_, unused, _⟩ := freeSlot_free free
  have bare : (state.conn2 slot).sock = none := (holds.tracks.free slot unused).1
  exact ⟨holds.owns, holds.tracks.leaves (.modifySlot bare.symm rfl fun _ => rfl)⟩

/-- `new WebSocket(c2.sock)` -/
theorem websocket_keeps {slot : Nat} (used : (state.conn2 slot).used = true) (object : Nat)
    (isSSL : Bool) :
    KeepsOwners state [.webSocket (.conn2 slot)]
      (.next, state.openWebsocket slot object isSSL) := by
  intro fds holds _ _ _
  have own : (state.openWebsocket slot object isSSL).conn2 slot =
      { state.conn2 slot with ws := some object, wsIsSSL := isSSL } := Function.update_self ..
  have others : ∀ other, other ≠ slot →
      (state.openWebsocket slot object isSSL).conn2 other = state.conn2 other :=
    fun other different => Function.update_of_ne different ..
  have ws : ∀ holder, holder ≠ .conn2 slot →
      ((DescriptorAction.webSocket (.conn2 slot)).apply fds).ws holder = fds.ws holder :=
    fun holder different => Function.update_of_ne different ..
  refine ⟨holds.owns.webSocket _, fun other => ?_, holds.tracks.tcp, holds.tracks.udp,
    fun other => ?_, fun other => ?_, fun none_ => ?_, ⟨?_, fun id => ?_⟩, holds.tracks.connected⟩
  · by_cases same : other = slot
    · rw [same, own]
      exact holds.tracks.conn2 slot
    · rw [others other same]
      exact holds.tracks.conn2 other
  · by_cases same : other = slot
    · rw [same, own]
      exact fun unused => (Bool.false_ne_true (unused.symm.trans used)).elim
    · rw [others other same]
      exact holds.tracks.free other
  · by_cases same : other = slot
    · rw [same, own]
      exact fun absurd => (Option.some_ne_none object absurd).elim
    · rw [others other same]
      exact fun none_ => (ws _ fun equal => same (Holder.conn2.inj equal)).trans
        (holds.tracks.slots other none_)
  · exact (ws _ Holder.noConfusion).trans (holds.tracks.user none_)
  · exact (ws _ Holder.noConfusion).trans holds.tracks.bare.1
  · exact (ws _ Holder.noConfusion).trans (holds.tracks.bare.2 id)

/-- `p->ws = new WebSocket(p->sock1_tcp)` -/
theorem userWebsocket_keeps (connected : state.haveConn1 = true) (closed : state.sock1Udp = none) :
    KeepsOwners state
      (if state.count1 = 0 ∧ wake.userReadable.detected = true then [.webSocket .sock1Tcp] else [])
      (.next, openUserWebsocket wake state) := by
  rw [openUserWebsocket]
  by_cases detected : state.count1 = 0 ∧ wake.userReadable.detected = true
  · rw [if_pos detected, if_pos detected]
    intro fds holds _ _ _
    have ws : ∀ holder, holder ≠ .sock1Tcp →
        ((DescriptorAction.webSocket .sock1Tcp).apply fds).ws holder = fds.ws holder :=
      fun holder different => Function.update_of_ne different ..
    exact ⟨holds.owns.webSocket _, holds.tracks.conn2, holds.tracks.tcp, holds.tracks.udp,
      holds.tracks.free,
      fun slot none_ => (ws _ Holder.noConfusion).trans (holds.tracks.slots slot none_),
      fun absurd => (Option.some_ne_none _ absurd).elim,
      ⟨(ws _ Holder.noConfusion).trans holds.tracks.bare.1,
        fun id => (ws _ Holder.noConfusion).trans (holds.tracks.bare.2 id)⟩,
      fun _ => ⟨connected, closed⟩⟩
  · rw [if_neg detected, if_neg detected]
    exact .leaves (.refl state)

/-- A `recv` that returns bytes has not failed, or harm has been done. -/
theorem recv_keeps (holder : Holder) (own : Option Nat) (bytes : List UInt8)
    (state : LoopState P) :
    KeepsOwners state (recvTrail faults holder own (some bytes)) (.next, state) := by
  rw [recvTrail]
  split_ifs with _ absent
  · exact .leaves (.refl state)
  · exact (Bool.false_ne_true absent).elim
  · exact (Bool.false_ne_true absent).elim
  · exact .harmful (.refl state) (List.forall_mem_singleton.mpr Bool.false_ne_true)
  · exact .leaves (.refl state)

private theorem dropSlots_keeps (indices : List Nat) (state : LoopState P) :
    KeepsOwners state (dropTrail indices state) (.next, indices.foldl dropSlot state) := by
  induction indices generalizing state with
  | nil => exact .leaves (.refl state)
  | cons index indices ih =>
      refine KeepsOwners.rule.next ?_ (ih (dropSlot state index))
      rw [dropSlot]
      split_ifs with taken
      · rw [freedTrail_frees taken.2.2 (closeDropped_frees (index - 1) state)]
        exact .closeSlot (closeDropped_frees (index - 1) state) [] (.inl rfl)
      · rw [freedTrail_leaves (.refl state)]
        exact .leaves (.refl state)

private theorem processDrops_keeps (state : LoopState P) :
    KeepsOwners state (processDropsFds wake state) (processDrops wake state) := by
  rw [processDrops, processDropsFds]
  split_ifs
  · cases wake.flagged with
    | none => exact .leaves (.refl state)
    | some indices => exact (dropSlots_keeps indices state).flow
  · exact .leaves (.refl state)

private theorem checkUser_keeps (state : LoopState P) :
    KeepsOwners state [] (checkUser wake state) := by
  rw [checkUser]
  split_ifs
  · exact .stop
  · exact .leaves (.refl state)

private theorem watchSlots_keeps (state : LoopState P) :
    KeepsOwners state [] (watchSlots state) := by
  rw [← slotTrail_nil (fun _ state => (.next, state)) 256 0 state]
  exact KeepsOwners.rule.forSlots KeepsOwners.falls (fun _ state => .leaves (.refl state))
    (fun _ => .stop) 256 0 state

private theorem selectSockets_keeps (state : LoopState P) :
    KeepsOwners state [] (selectSockets wake state) := by
  rw [selectSockets]
  cases wake.select with
  | interrupted => exact .leaves (.refl state)
  | failed => exact .stop
  | ready =>
      dsimp only
      split_ifs
      · exact .stop
      · exact .leaves (.refl state)

private theorem sweepSlot_keeps (slot : Nat) (state : LoopState P) :
    KeepsOwners state (freedTrail slot state (sweepSlot wake slot state).2)
      (sweepSlot wake slot state) := by
  rw [sweepSlot]
  split_ifs with silent
  · rw [freedTrail_frees silent.1 (closeDead_frees slot state)]
    exact .closeSlot (closeDead_frees slot state) [] (.inl rfl)
  · rw [freedTrail_leaves (.refl state)]
    exact .leaves (.refl state)

private theorem sweepDeadUdp_keeps (state : LoopState P) :
    KeepsOwners state (sweepDeadUdpFds wake state) (sweepDeadUdp wake state) :=
  KeepsOwners.rule.forSlots KeepsOwners.falls sweepSlot_keeps (fun _ => .stop) 256 0 state

private theorem openUser_leaves (env : Environment) (pair : PortPair) (wake : Wakeup)
    (fd : Option Nat) (peer : Peer) (isTcp : Bool) (state : LoopState P) :
    LeavesSockets state (openUser env pair wake fd peer isTcp state) := by
  rw [openUser]
  generalize init env chanComm1 fd pair.bidi false isTcp (conn1KeyId pair) state.mav = mav
  exact ⟨fun _ => rfl, fun _ => rfl, fun _ => id, rfl, rfl, rfl, fun _ => rfl⟩

private theorem userUdp_keeps (state : LoopState P) :
    KeepsOwners state (userUdpFds lib env pair wake faults state)
      (userUdp lib env pair wake state) := by
  rw [userUdp, userUdpFds, userUdpTrail]
  cases known : state.sock1Udp with
  | none => exact .leaves (.refl state)
  | some fd =>
      cases wake.userDatagram with
      | none => exact .leaves (.refl state)
      | some datagram =>
          cases datagram with
          | none => exact .stop
          | some datagram =>
              obtain ⟨peer, bytes⟩ := datagram
              have udp : state.sock1Udp.isSome = true := by
                rw [known]
                rfl
              refine KeepsOwners.rule.next (closeTcp_keeps udp) ?_
              dsimp only
              split_ifs
              · exact (userBytes_keeps fanOutUdp_keeps bytes _).of_leaves
                  ⟨fun _ => rfl, fun _ => rfl, fun _ => id, rfl, known.symm, rfl, id⟩
              · refine ((userBytes_keeps fanOutUdp_keeps bytes _).of_leaves
                  (openUser_leaves env pair wake (some fd) peer false _)).of_leaves ?_
                exact ⟨fun _ => rfl, fun _ => rfl, fun _ => id, rfl, known.symm, rfl, id⟩
              · exact .stop

/-- A parse loop that is left early ends the session. -/
theorem engineerDatagram_keeps (slot : Nat) (bytes : List UInt8) (state : LoopState P) :
    KeepsOwners state (engineerBytesFds lib env pair faults .relayUdp slot bytes state)
      (engineerDatagram lib env pair slot bytes state) := by
  have parsed : KeepsNext state (engineerBytesFds lib env pair faults .relayUdp slot bytes state)
      (engineerBytes lib env pair slot bytes state) := engineerBytes_next slot bytes state
  rw [engineerDatagram]
  generalize engineerBytes lib env pair slot bytes state = result at parsed
  rcases result with ⟨_ | _ | _, after⟩
  · exact fun fds holds numbered harmless _ => parsed fds holds numbered harmless rfl
  · exact .stop
  · exact .stop

private theorem engineerPacket_keeps (peer : Peer) (bytes : List UInt8) (state : LoopState P) :
    KeepsOwners state
      (engineerPacketTrail env pair wake (engineerBytesFds lib env pair faults .relayUdp) peer bytes
        state)
      (engineerPacket lib env pair wake peer bytes state) := by
  rw [engineerPacket, engineerPacketTrail]
  cases udpSlot peer state with
  | some slot => exact (engineerDatagram_keeps slot bytes _).of_leaves (.modifySlot rfl rfl id)
  | none =>
      dsimp only
      split_ifs
      · exact .stop
      · cases free : state.freeSlot with
        | none => exact .leaves (.refl state)
        | some slot =>
            exact KeepsOwners.rule.next (openUdp_keeps free peer wake.now wake.wallClock)
              (engineerDatagram_keeps slot bytes _)

private theorem engineerUdp_keeps (state : LoopState P) :
    KeepsOwners state
      (engineerUdpTrail env pair wake (engineerBytesFds lib env pair faults .relayUdp) state)
      (engineerUdp lib env pair wake state) := by
  rw [engineerUdp, engineerUdpTrail]
  cases known : state.sock2Udp with
  | none => exact .leaves (.refl state)
  | some fd =>
      cases wake.engineerDatagram with
      | none => exact .leaves (.refl state)
      | some datagram =>
          cases datagram with
          | none => exact .stop
          | some datagram =>
              exact (engineerPacket_keeps datagram.1 datagram.2 _).of_leaves
                ⟨fun _ => rfl, fun _ => rfl, fun _ => id, rfl, rfl, rfl, id⟩

private theorem userTcpAccept_keeps (state : LoopState P) :
    KeepsOwners state (userTcpAcceptFds wake state) (userTcpAccept env pair wake state) := by
  rw [userTcpAccept, userTcpAcceptFds]
  split_ifs with ready
  · cases wake.userAccept with
    | none => exact .stop
    | some accepted =>
        have taken : KeepsOwners state [.closeFd .sock1Udp, .acceptUser accepted.1]
            (.next, { state with sock1Udp := none, sock1Tcp := some accepted.1 }) :=
          KeepsOwners.rule.next closeUdp_keeps
            (@acceptUser_keeps P { state with sock1Udp := none } ready.1 accepted.1)
        have opened := taken.then_leaves
          (openUser_leaves env pair wake (some accepted.1) accepted.2 true _)
        refine (opened.then_leaves ?_).flow
        exact ⟨fun _ => rfl, fun _ => rfl, fun _ => id, rfl, rfl, rfl, id⟩
  · exact .leaves (.refl state)

/-- Behind the block that accepts users, a TCP socket that is ready is a user's. -/
theorem userTcpAccept_next {after : LoopState P}
    (goes : userTcpAccept env pair wake state = (.next, after))
    (ready : after.sock1Tcp.isSome ∧ wake.userTcpReady = true) : after.haveConn1 = true := by
  rw [userTcpAccept] at goes
  split_ifs at goes with accepts
  · cases accepted : wake.userAccept with
    | none =>
        rw [accepted] at goes
        exact Flow.noConfusion (Prod.mk.inj goes).1
    | some accept =>
        rw [accepted] at goes
        exact Flow.noConfusion (Prod.mk.inj goes).1
  · rw [(Prod.mk.inj goes).2] at accepts
    exact (Bool.not_eq_false _).mp fun absent => accepts ⟨absent, ready⟩

private theorem userTcpData_keeps (state : LoopState P)
    (connected : state.sock1Tcp.isSome ∧ wake.userTcpReady = true → state.haveConn1 = true) :
    KeepsOwners state (userTcpDataFds lib env pair wake faults state)
      (userTcpData lib env pair wake state) := by
  rw [userTcpData, userTcpDataFds, userTcpTrail]
  by_cases ready : state.sock1Tcp.isSome ∧ wake.userTcpReady = true
  · rw [if_pos ready, if_pos ready, if_pos ready]
    have detected : KeepsOwners { state with sock1Udp := none }
        (if state.count1 = 0 ∧ wake.userReadable.detected = true then [.webSocket .sock1Tcp]
          else [])
        (.next, openUserWebsocket wake { state with sock1Udp := none }) :=
      userWebsocket_keeps (connected ready) rfl
    dsimp only
    generalize openUserWebsocket wake { state with sock1Udp := none } = middle at detected
    have opened := KeepsOwners.rule.next closeUdp_keeps detected
    cases wake.userReadable.received with
    | none => exact .stop
    | some bytes =>
        refine KeepsOwners.rule.next
          (KeepsOwners.rule.next opened (recv_keeps .sock1Tcp _ bytes middle)) ?_
        dsimp only
        split_ifs
        · exact .stop
        · exact (userBytes_keeps fanOutTcp_keeps bytes _).of_leaves
            ⟨fun _ => rfl, fun _ => rfl, fun _ => id, rfl, rfl, rfl, id⟩
  · rw [if_neg ready, if_neg ready]
    exact .leaves (.refl state)

private theorem engineerTcpAccept_keeps (state : LoopState P) :
    KeepsOwners state (engineerTcpAcceptFds wake state)
      (engineerTcpAccept env pair wake state) := by
  rw [engineerTcpAccept, engineerTcpAcceptFds]
  cases state.sock2Listen with
  | none => exact .leaves (.refl state)
  | some fd =>
      cases wake.engineerAccept with
      | none => exact .leaves (.refl state)
      | some accept =>
          cases accept with
          | none => exact .leaves (.refl state)
          | some accept =>
              dsimp only
              split_ifs
              · exact .leaves (mav_leaves state _)
              · cases free : state.freeSlot with
                | none => exact .leaves (mav_leaves state _)
                | some slot => exact (accept_keeps free accept.1 accept.2 wake.wallClock).flow

/-- What becomes of a TCP engineer that is not heard. -/
theorem silentEngineer_keeps {slot : Nat} {middle : LoopState P}
    (used : (state.conn2 slot).used = true) (kept : (middle.conn2 slot).used = true)
    {detected : List DescriptorAction} (opened : KeepsOwners state detected (.next, middle))
    (failed : List DescriptorAction)
    (one : failed = [] ∨ ∃ caller, failed = [.fail (.conn2 slot) caller]) :
    KeepsOwners state
      (detected ++ failed ++ freedTrail slot state (middle.closeCounted .eof slot))
      (.next, middle.closeCounted .eof slot) := by
  have frees : FreesSlot slot middle (middle.closeCounted .eof slot) :=
    closeCounted_frees .eof slot middle
  have freed : freedTrail slot state (middle.closeCounted .eof slot) = [.closeSlot slot] := by
    rw [← freedTrail_frees kept frees, freedTrail, freedTrail, used, kept]
  rw [freed, List.append_assoc]
  exact KeepsOwners.rule.next opened (.closeSlot frees failed one)

/-- A `recv` that returns -1 may have failed. -/
theorem recvTrail_none (holder : Holder) (own : Option Nat) :
    recvTrail faults holder own none = [] ∨
      ∃ caller, recvTrail faults holder own none = [.fail holder caller] := by
  rw [recvTrail]
  by_cases bare : own.isNone = true
  · rw [if_pos bare]
    exact .inl rfl
  · rw [if_neg bare, if_pos (Option.isNone_none)]
    by_cases fails : faults.recv holder = true
    · rw [if_pos fails]
      exact .inr ⟨.recv, rfl⟩
    · rw [if_neg fails]
      exact .inl rfl

/-- A slot that stays in use is not closed. -/
theorem freedTrail_used {slot : Nat} {after : LoopState P}
    (kept : (after.conn2 slot).used = true) : freedTrail slot state after = [] := by
  rw [freedTrail, kept, Bool.not_true, Bool.and_false]
  rfl

/-- The WebSocket of a TCP engineer is made where it is detected. -/
theorem detect_keeps {slot : Nat} (used : (state.conn2 slot).used = true) (readable : Readable) :
    ∃ trail middle,
      (if (!(state.conn2 slot).tcpActive && readable.detected) = true then
        [DescriptorAction.webSocket (.conn2 slot)] else []) = trail ∧
      (if (!(state.conn2 slot).tcpActive && readable.detected) = true then
        state.openWebsocket slot readable.object readable.isSSL else state) = middle ∧
      (if (!(state.conn2 slot).tcpActive && readable.detected) = true then
        some readable.object else (state.conn2 slot).ws) = (middle.conn2 slot).ws ∧
      KeepsOwners state trail (.next, middle) ∧ (middle.conn2 slot).used = true := by
  by_cases detected : (!(state.conn2 slot).tcpActive && readable.detected) = true
  · rw [if_pos detected, if_pos detected, if_pos detected]
    have own : (state.openWebsocket slot readable.object readable.isSSL).conn2 slot =
        { state.conn2 slot with ws := some readable.object, wsIsSSL := readable.isSSL } :=
      Function.update_self ..
    refine ⟨_, _, rfl, rfl, ?_, websocket_keeps used readable.object readable.isSSL, ?_⟩
    · rw [own]
    · rw [own]
      exact used
  · rw [if_neg detected, if_neg detected, if_neg detected]
    exact ⟨_, _, rfl, rfl, rfl, .leaves (.refl state), used⟩

private theorem engineerTcpSlot_keeps (slot : Nat) (state : LoopState P) :
    KeepsOwners state (engineerTcpSlotFds lib env pair wake faults slot state)
      (engineerTcpSlot lib env pair wake slot state) := by
  rw [engineerTcpSlotFds, engineerTcpTrail, engineerTcpSlot]
  dsimp only
  by_cases skipped : ((state.conn2 slot).isUdp || !(state.conn2 slot).used ||
      (state.conn2 slot).sock.isNone) = true
  · rw [if_pos skipped, if_pos skipped]
    exact .leaves (.refl state)
  rw [if_neg skipped, if_neg skipped, if_neg skipped]
  have used : (state.conn2 slot).used = true := by
    rw [Bool.not_eq_true, Bool.or_eq_false_iff, Bool.or_eq_false_iff, Bool.not_eq_false'] at skipped
    exact skipped.1.2
  cases wake.engineerReadable slot with
  | none => exact .leaves (.refl state)
  | some readable =>
      dsimp only
      obtain ⟨trail, middle, trails, after, own, opened, kept⟩ := detect_keeps used readable
      rw [trails, after, own]
      cases readable.received with
      | none =>
          rw [List.append_nil]
          exact silentEngineer_keeps used kept opened _ (recvTrail_none (.conn2 slot) _)
      | some bytes =>
          cases bytes with
          | nil =>
              dsimp only
              rw [List.append_nil]
              by_cases some_ : (middle.conn2 slot).ws.isSome = true
              · rw [if_pos some_, freedTrail_used kept, List.append_nil]
                exact KeepsOwners.rule.next opened (recv_keeps (.conn2 slot) _ [] middle)
              · rw [if_neg some_]
                refine silentEngineer_keeps used kept opened _ (.inl ?_)
                rw [recvTrail, if_pos]
                rw [Bool.not_eq_true, Option.isSome_eq_false_iff] at some_
                exact some_
          | cons byte bytes =>
              dsimp only
              generalize marked : { middle.modifySlot slot fun conn =>
                { conn with tcpActive := true } with count2 := inc32 middle.count2 } = heard
              have same : LeavesSockets middle heard := by
                have flagged : LeavesSockets middle
                    (middle.modifySlot slot fun conn => { conn with tcpActive := true }) :=
                  .modifySlot rfl rfl id
                rw [← marked]
                exact ⟨flagged.sock, flagged.ws, flagged.used, rfl, rfl, rfl, id⟩
              have still : ((engineerBytes lib env pair slot (byte :: bytes) heard).2.conn2
                  slot).used = true :=
                (engineerBytes_leaves slot (byte :: bytes) heard).used slot (same.used slot kept)
              rw [freedTrail_used still, List.append_nil]
              exact KeepsOwners.rule.next
                (KeepsOwners.rule.next opened (recv_keeps (.conn2 slot) _ (byte :: bytes) middle))
                ((engineerBytes_keeps slot (byte :: bytes) heard).of_leaves same)

private theorem binlogTick_keeps (state : LoopState P) :
    KeepsOwners state (binlogTickFds lib pair wake faults state)
      (binlogTick lib pair wake state) := by
  have told : ∀ (packets : List StatusPacket) (state : LoopState P),
      KeepsOwners state (statusTrail lib faults packets state)
        (.next, packets.foldl (sendStatus lib) state) := by
    intro packets
    induction packets with
    | nil => exact fun state => .leaves (.refl state)
    | cons packet packets ih =>
        intro state
        refine KeepsOwners.rule.next ?_ (ih (sendStatus lib state packet))
        exact .harmful (mav_leaves state _)
          (writeTrail_harmful rfl _ _ _)
  rw [binlogTick, binlogTickFds]
  split_ifs
  · exact (told _ { state with binlog := (state.binlog.tick wake.tickIo).2 }).of_leaves
      ⟨fun _ => rfl, fun _ => rfl, fun _ => id, rfl, rfl, rfl, id⟩
  · exact .leaves (.refl state)

private theorem heartbeatSnapshot_keeps (state : LoopState P) :
    KeepsOwners state [] (heartbeatSnapshot pair wake state) := by
  rw [heartbeatSnapshot]
  split_ifs
  · exact .leaves ⟨fun _ => rfl, fun _ => rfl, fun _ => id, rfl, rfl, rfl, id⟩
  · exact .leaves (.refl state)

private theorem placed_keeps (index : Nat) {trail : List DescriptorAction}
    {result : Flow × LoopState P} (keeps : KeepsOwners state trail result) :
    KeepsOwners state (filesAt faults (.block index) state ++ trail) result :=
  KeepsOwners.rule.next (.files faults (.block index) state) keeps

end Blocks

section Runs

variable {lib : Library P} {env : Environment} {pair : PortPair}

private theorem iterate_keeps (turn : Wakeup × Faults) (state : LoopState P) :
    KeepsOwners state (iterateFds lib env pair turn state) (iterate lib env pair turn.1 state) := by
  have rule : TrailRule (KeepsOwners (P := P)) := KeepsOwners.rule
  refine rule.cons (placed_keeps 0 (processDrops_keeps _)) fun _ _ => ?_
  refine rule.cons (placed_keeps 1 (checkUser_keeps _)) fun _ _ => ?_
  refine rule.cons (placed_keeps 2 (watchSlots_keeps _)) fun _ _ => ?_
  refine rule.cons (placed_keeps 3 (selectSockets_keeps _)) fun _ _ => ?_
  refine rule.cons (placed_keeps 4 (sweepDeadUdp_keeps _)) fun _ _ => ?_
  refine rule.cons (placed_keeps 5 (userUdp_keeps _)) fun _ _ => ?_
  refine rule.cons (placed_keeps 6 (engineerUdp_keeps _)) fun _ _ => ?_
  refine rule.cons (placed_keeps 7 (userTcpAccept_keeps _)) fun _ goes => ?_
  refine rule.cons (placed_keeps 8 (userTcpData_keeps _ (userTcpAccept_next goes))) fun _ _ => ?_
  refine rule.cons (placed_keeps 9 (engineerTcpAccept_keeps _)) fun _ _ => ?_
  refine rule.cons (placed_keeps 10 ?_) fun _ _ => ?_
  · exact rule.forSlots KeepsOwners.falls engineerTcpSlot_keeps (fun _ => .stop) 256 0 _
  refine rule.cons (placed_keeps 11 (binlogTick_keeps _)) fun _ _ => ?_
  refine rule.cons (placed_keeps 12 (heartbeatSnapshot_keeps _)) fun last _ => ?_
  exact rule.idle last

private theorem initial_holds (memory : Nat → Option Nat) (record : Option KeyEntry)
    (inherited : Inherited) :
    Holds (LoopState.initial lib pair memory record inherited.sockets) inherited.descriptors :=
  ⟨⟨inherited.sound, fun _ _ absurd => (Option.some_ne_none _ absurd.symm).elim⟩,
    inherited.slots, rfl, rfl, fun _ _ => ⟨rfl, rfl⟩, fun _ _ => rfl, fun _ => rfl,
    ⟨rfl, fun _ => rfl⟩, fun absurd => (Bool.false_ne_true absurd).elim⟩

end Runs

/-- In a session whose WebSockets fail hard only where the loop learns of it, and that calls no
WebSocket but those of its connections, descriptors have one owner at the top of every
iteration. -/
theorem run_oneOwner {lib : Library P} {env : Environment} {pair : PortPair}
    {memory : Nat → Option Nat} {record : Option KeyEntry} {inherited : Inherited}
    {turns : List (Wakeup × Faults)}
    (numbered : inherited.descriptors.Numbered
      (sessionFds lib env pair memory record inherited turns))
    (harmless : ∀ action ∈ sessionFds lib env pair memory record inherited turns, action.Harmless)
    {earlier : List (Wakeup × Faults)} (reached : earlier <+: turns) {flow : Flow}
    {state : LoopState P}
    (ran : run lib env pair (earlier.map Prod.fst)
      (LoopState.initial lib pair memory record inherited.sockets) = (flow, state))
    (running : flow ≠ .stop) :
    OneOwner state
      (inherited.descriptors.after (sessionFds lib env pair memory record inherited earlier)) := by
  have keeps : KeepsOwners (LoopState.initial lib pair memory record inherited.sockets)
      (sessionFds lib env pair memory record inherited earlier)
      (run lib env pair (earlier.map Prod.fst)
        (LoopState.initial lib pair memory record inherited.sockets)) :=
    KeepsOwners.rule.run KeepsOwners.falls iterate_keeps earlier _
  rw [ran] at keeps
  obtain ⟨later, split⟩ : sessionFds lib env pair memory record inherited earlier <+:
      sessionFds lib env pair memory record inherited turns :=
    runTrail_prefix lib env pair Prod.fst (iterateFds lib env pair) reached _
  rw [← split] at numbered harmless
  exact (keeps inherited.descriptors (initial_holds memory record inherited)
    (Descriptors.numbered_append.mp numbered).1
    (fun action member => harmless action (List.mem_append_left _ member)) running).oneOwner

namespace Scenario

/-- A child with its four listening sockets. -/
def inherited : Inherited where
  table := ((((HandleTable.unheld 3).take Holder.sock1Udp 3).take .sock2Udp 4).take
    .sock1Tcp 5).take .sock2Listen 6
  sound := ((((HandleTable.unheld_sound 3).take Holder.sock1Udp rfl).take Holder.sock2Udp rfl).take
    Holder.sock1Tcp rfl).take Holder.sock2Listen rfl
  slots := fun _ => rfl

def noFaults : Faults where
  recv := fun _ => false
  handshake := fun _ => false
  write := fun _ => false
  strays := fun _ => none
  files := fun _ _ => []

/-- Every write to a WebSocket fails hard. -/
def resets : Faults := { noFaults with write := fun _ => true }

/-- A TCP user connects, and is read. -/
def userAccepted (fd : Nat) : Wakeup :=
  { quiet with userTcpReady := true, userAccept := some (fd, ⟨9, 9⟩) }

def userReads (bytes : List UInt8) : Wakeup :=
  { quiet with userTcpReady := true, userReadable := ⟨false, 0, false, some bytes⟩ }

/-- A user who need not sign gets the number of the UDP socket that has just been closed, an
engineer with a WebSocket proves itself, and the connection is reset when the user's message is
sent to it. -/
def closedEngineer : List (Wakeup × Faults) :=
  [(userAccepted 3, noFaults), (engineerConnects 7, noFaults),
    (engineerReads 0 ⟨true, 9, false, some heartbeatFrame⟩, noFaults),
    (userReads systemTimeFrame, resets), (quiet, noFaults)]

def brokenPipe : Environment := { environment with sendReturn := fun _ _ => -1 }

def closedFds : List DescriptorAction :=
  sessionFds (library authentic) brokenPipe { pair with bidi := false } (fun _ => none)
    (some record) inherited closedEngineer

end Scenario

/-- A failed send in a fan-out closes the slot whose WebSocket has failed. -/
theorem run_oneOwner_engineer :
    Scenario.closedFds = [.closeFd .sock1Udp, .acceptUser 3, .accept 0 7, .webSocket (.conn2 0),
      .closeFd .sock1Udp, .fail (.conn2 0) .fanOut, .closeSlot 0] ∧
    ∀ earlier, earlier <+: Scenario.closedEngineer → ∀ flow state,
      run (Scenario.library Scenario.authentic) Scenario.brokenPipe
        { Scenario.pair with bidi := false } (earlier.map Prod.fst)
        (LoopState.initial (Scenario.library Scenario.authentic)
          { Scenario.pair with bidi := false } (fun _ => none) (some Scenario.record)
          Scenario.inherited.sockets) = (flow, state) → flow ≠ .stop →
        OneOwner state (Scenario.inherited.descriptors.after
          (sessionFds (Scenario.library Scenario.authentic) Scenario.brokenPipe
            { Scenario.pair with bidi := false } (fun _ => none) (some Scenario.record)
            Scenario.inherited earlier)) := by
  have trail : Scenario.closedFds = [.closeFd .sock1Udp, .acceptUser 3, .accept 0 7,
      .webSocket (.conn2 0), .closeFd .sock1Udp, .fail (.conn2 0) .fanOut, .closeSlot 0] := by
    decide +kernel
  refine ⟨trail, fun earlier reached flow state ran running => ?_⟩
  refine run_oneOwner ?_ ?_ reached ran running
  · change Scenario.inherited.descriptors.Numbered Scenario.closedFds
    rw [trail]
    decide +kernel
  · change ∀ action ∈ Scenario.closedFds, action.Harmless
    rw [trail]
    decide +kernel

namespace Scenario

/-- An engineer with a WebSocket sends a message that is not signed, and its connection is reset
when the warning is sent. -/
def keptEngineer : List (Wakeup × Faults) :=
  [(userDatagram systemTimeFrame, noFaults), (engineerConnects 7, noFaults),
    (engineerReads 0 ⟨true, 9, false, some systemTimeFrame⟩, resets)]

/-- A clock at which a warning is due. -/
def laterOn : Environment := { environment with now := fun _ => 3 * 1000000 }

end Scenario

/-- The slot keeps a number that is not open. -/
theorem keptEngineer_stale :
    (let fds := sessionFds (Scenario.library Scenario.authentic) Scenario.laterOn Scenario.pair
        (fun _ => none) (some Scenario.record) Scenario.inherited Scenario.keptEngineer;
      let last := run (Scenario.library Scenario.authentic) Scenario.laterOn Scenario.pair
        (Scenario.keptEngineer.map Prod.fst)
        (LoopState.initial (Scenario.library Scenario.authentic) Scenario.pair (fun _ => none)
          (some Scenario.record) Scenario.inherited.sockets);
      Scenario.inherited.descriptors.Numbered fds ∧ last.1 ≠ .stop ∧
        ¬OneOwner last.2 (Scenario.inherited.descriptors.after fds)) := by
  refine ⟨?_, ?_, fun owner => ?_⟩
  · decide +kernel
  · decide +kernel
  · have stale := owner.slots 0 7 (by decide +kernel) (by decide +kernel) (by decide +kernel)
    exact absurd stale (by decide +kernel)

end SupportProxy
