import SupportProxy.Session.MainLoop

/-! # What is recorded along a session

A trail lists in order what is recorded of the visits that the loops of `main_loop` make: slot
after slot, message after message, block after block, wakeup after wakeup, each in the state that
the loop has reached. `TrailRule` packages the inductions over these loops, for a rule that tells
what a piece of code does together with its trail. -/

namespace SupportProxy

variable {P α ω : Type}

/-- Along a loop over the slots. -/
def slotTrail (body : Nat → LoopState P → Flow × LoopState P)
    (record : Nat → LoopState P → List α) : Nat → Nat → LoopState P → List α
  | 0, _, _ => []
  | fuel + 1, slot, state =>
      if slot < state.maxConn2Count ∧ slot < maxComm2Links then
        record slot state ++
          match body slot state with
          | (.next, state) => slotTrail body record fuel (slot + 1) state
          | _ => []
      else []

/-- Nothing is recorded along a loop that records nothing. -/
theorem slotTrail_nil (body : Nat → LoopState P → Flow × LoopState P) (fuel slot : Nat)
    (state : LoopState P) : slotTrail body (fun _ _ => ([] : List α)) fuel slot state = [] := by
  induction fuel generalizing slot state with
  | zero => rfl
  | succ fuel ih =>
      rw [slotTrail]
      split_ifs
      · rw [List.nil_append]
        rcases body slot state with ⟨_ | _ | _, after⟩
        · exact ih (slot + 1) after
        · rfl
        · rfl
      · rfl

/-- Along a parse loop: what is recorded of a call of `receive_message` with the rest of the
buffer, and of the handling of its message. -/
def messageTrail (lib : Library P) (env : Environment) (chan : Nat)
    (handle : Message → LoopState P → Flow × LoopState P)
    (received : List UInt8 → LoopState P → List α) (handled : Message → LoopState P → List α) :
    Nat → List UInt8 → LoopState P → List α
  | 0, _, _ => []
  | fuel + 1, bytes, state =>
      if bytes = [] then []
      else
        received bytes state ++
          match receiveMessage lib env chan bytes state.mav with
          | (none, _, _) => []
          | (some msg, rest, mav) =>
              handled msg { state with mav := mav } ++
                match handle msg { state with mav := mav } with
                | (.next, state) =>
                    messageTrail lib env chan handle received handled fuel rest state
                | _ => []

/-- Along blocks of code, each with what it records. -/
def blockTrail : List ((LoopState P → Flow × LoopState P) × (LoopState P → List α)) →
    LoopState P → List α
  | [], _ => []
  | (block, record) :: rest, state =>
      record state ++
        match block state with
        | (.next, state) => blockTrail rest state
        | _ => []

/-- Along a session, whose turns are wakeups with whatever else is recorded from. -/
def runTrail (lib : Library P) (env : Environment) (pair : PortPair) (wakeOf : ω → Wakeup)
    (record : ω → LoopState P → List α) : List ω → LoopState P → List α
  | [], _ => []
  | turn :: turns, state =>
      record turn state ++
        match iterate lib env pair (wakeOf turn) state with
        | (.stop, _) => []
        | (_, state) => runTrail lib env pair wakeOf record turns state

/-- The trail of a part of a session is a part of its trail. -/
theorem runTrail_prefix (lib : Library P) (env : Environment) (pair : PortPair)
    (wakeOf : ω → Wakeup) (record : ω → LoopState P → List α) {earlier turns : List ω}
    (part : earlier <+: turns) (state : LoopState P) :
    runTrail lib env pair wakeOf record earlier state <+:
      runTrail lib env pair wakeOf record turns state := by
  obtain ⟨later, rfl⟩ := part
  induction earlier generalizing state with
  | nil => exact List.nil_prefix
  | cons turn earlier ih =>
      rw [List.cons_append, runTrail, runTrail]
      refine (List.prefix_append_right_inj _).mpr ?_
      rcases iterate lib env pair (wakeOf turn) state with ⟨_ | _ | _, middle⟩
      · exact ih middle
      · exact ih middle
      · exact List.nil_prefix

section Blocks

variable (env : Environment) (pair : PortPair) (wake : Wakeup)

/-- What is recorded of the user's datagram, in the state in which it is parsed. -/
def userUdpTrail (record : List UInt8 → LoopState P → List α) (state : LoopState P) : List α :=
  match state.sock1Udp, wake.userDatagram with
  | some _, some (some (peer, bytes)) =>
      let state := { state with
        sock1Tcp := none
        lastPkt1 := wake.now
        count1 := inc32 state.count1 }
      if state.haveConn1 then record bytes state
      else if wake.userConnects then
        record bytes (openUser env pair wake state.sock1Udp peer false state)
      else []
  | _, _ => []

/-- What is recorded of a datagram on the slot of its engineer, or on a free one. -/
def engineerPacketTrail (record : Nat → List UInt8 → LoopState P → List α) (peer : Peer)
    (bytes : List UInt8) (state : LoopState P) : List α :=
  match udpSlot peer state with
  | some slot =>
      record slot bytes (state.modifySlot slot fun conn => { conn with lastPkt := wake.now })
  | none =>
      if maxComm2Links < state.maxConn2Count then []
      else
        match state.freeSlot with
        | none => []
        | some slot => record slot bytes (state.openUdp env pair slot peer wake.now wake.wallClock)

def engineerUdpTrail (record : Nat → List UInt8 → LoopState P → List α) (state : LoopState P) :
    List α :=
  match state.sock2Udp, wake.engineerDatagram with
  | some _, some (some (peer, bytes)) =>
      engineerPacketTrail env pair wake record peer bytes
        { state with count2 := inc32 state.count2 }
  | _, _ => []

/-- What is recorded of the bytes of a TCP user. -/
def userTcpTrail (record : List UInt8 → LoopState P → List α) (state : LoopState P) : List α :=
  if state.sock1Tcp.isSome ∧ wake.userTcpReady = true then
    let state := openUserWebsocket wake { state with sock1Udp := none }
    match wake.userReadable.received with
    | none => []
    | some bytes =>
        if state.userWs.isNone ∧ bytes = [] then []
        else record bytes { state with lastPkt1 := wake.now, count1 := inc32 state.count1 }
  else []

/-- What is recorded of the bytes of one TCP engineer. -/
def engineerTcpTrail (record : Nat → List UInt8 → LoopState P → List α) (slot : Nat)
    (state : LoopState P) : List α :=
  let conn := state.conn2 slot
  if conn.isUdp || !conn.used || conn.sock.isNone then []
  else
    match wake.engineerReadable slot with
    | none => []
    | some readable =>
        let state := if !conn.tcpActive && readable.detected then
            state.openWebsocket slot readable.object readable.isSSL
          else state
        match readable.received with
        | some (byte :: bytes) =>
            record slot (byte :: bytes)
              { state.modifySlot slot fun conn => { conn with tcpActive := true } with
                count2 := inc32 state.count2 }
        | _ => []

end Blocks

/-- A rule of a state, a trail and a result that holds of doing nothing and of one thing after the
other. -/
structure TrailRule (rule : LoopState P → List α → Flow × LoopState P → Prop) : Prop where
  idle : ∀ state, rule state [] (.next, state)
  next : ∀ {state middle first more result}, rule state first (.next, middle) →
    rule middle more result → rule state (first ++ more) result

/-- Where a loop is left early, the code behind it goes on. -/
def FallsThrough (rule : LoopState P → List α → Flow × LoopState P → Prop) : Prop :=
  ∀ {state trail after}, rule state trail (.again, after) → rule state trail (.next, after)

namespace TrailRule

variable {rule : LoopState P → List α → Flow × LoopState P → Prop} {lib : Library P}
  {env : Environment} {pair : PortPair}

/-- Along the slots, each visited as the rule says. -/
theorem forSlots (rules : TrailRule rule) (falls : FallsThrough rule)
    {body : Nat → LoopState P → Flow × LoopState P} {record : Nat → LoopState P → List α}
    (visit : ∀ slot state, rule state (record slot state) (body slot state))
    (overrun : ∀ state, rule state [] (.stop, state.note .overrun))
    (fuel slot : Nat) (state : LoopState P) :
    rule state (slotTrail body record fuel slot state)
      (SupportProxy.forSlots body fuel slot state) := by
  induction fuel generalizing slot state with
  | zero => exact rules.idle state
  | succ fuel ih =>
      rw [slotTrail, SupportProxy.forSlots]
      by_cases visited : slot < state.maxConn2Count
      · rw [if_pos visited]
        by_cases inside : slot < maxComm2Links
        · rw [if_pos ⟨visited, inside⟩, if_pos inside]
          have own := visit slot state
          generalize body slot state = result at own
          rcases result with ⟨_ | _ | _, middle⟩
          · exact rules.next own (ih (slot + 1) middle)
          · rw [List.append_nil]
            exact falls own
          · rw [List.append_nil]
            exact own
        · rw [if_neg (fun both => inside both.2), if_neg inside]
          exact overrun state
      · rw [if_neg (fun both => visited both.1), if_neg visited]
        exact rules.idle state

/-- Along a parse loop, each call and each message handled as the rule says. -/
theorem parseMessages (rules : TrailRule rule) {chan : Nat}
    {handle : Message → LoopState P → Flow × LoopState P}
    {received : List UInt8 → LoopState P → List α} {handled : Message → LoopState P → List α}
    (receive : ∀ bytes state, rule state (received bytes state)
      (.next, { state with mav := (receiveMessage lib env chan bytes state.mav).2.2 }))
    (handles : ∀ msg state, rule state (handled msg state) (handle msg state))
    (fuel : Nat) (bytes : List UInt8) (state : LoopState P) :
    rule state (messageTrail lib env chan handle received handled fuel bytes state)
      (SupportProxy.parseMessages lib env chan handle fuel bytes state) := by
  induction fuel generalizing bytes state with
  | zero => exact rules.idle state
  | succ fuel ih =>
      rw [messageTrail, SupportProxy.parseMessages]
      by_cases empty : bytes = []
      · rw [if_pos empty, if_pos empty]
        exact rules.idle state
      rw [if_neg empty, if_neg empty]
      have heard := receive bytes state
      generalize receiveMessage lib env chan bytes state.mav = result at heard
      rcases result with ⟨_ | msg, rest, mav⟩
      · rw [List.append_nil]
        exact heard
      · have handled := handles msg { state with mav := mav }
        refine rules.next heard ?_
        dsimp only
        generalize handle msg { state with mav := mav } = answer at handled
        rcases answer with ⟨_ | _ | _, middle⟩
        · exact rules.next handled (ih rest middle)
        · rw [List.append_nil]
          exact handled
        · rw [List.append_nil]
          exact handled

/-- A block, and those behind it in the state that it leaves. -/
theorem cons (rules : TrailRule rule) {block : LoopState P → Flow × LoopState P}
    {record : LoopState P → List α}
    {rest : List ((LoopState P → Flow × LoopState P) × (LoopState P → List α))}
    {state : LoopState P} (own : rule state (record state) (block state))
    (later : ∀ middle, block state = (.next, middle) →
      rule middle (blockTrail rest middle) (SupportProxy.runBlocks (rest.map Prod.fst) middle)) :
    rule state (blockTrail ((block, record) :: rest) state)
      (SupportProxy.runBlocks (((block, record) :: rest).map Prod.fst) state) := by
  rw [blockTrail, List.map_cons, SupportProxy.runBlocks]
  dsimp only
  generalize block state = result at own later
  rcases result with ⟨_ | _ | _, middle⟩
  · exact rules.next own (later middle rfl)
  · rw [List.append_nil]
    exact own
  · rw [List.append_nil]
    exact own

/-- Along the blocks of the loop body. -/
theorem runBlocks (rules : TrailRule rule)
    {blocks : List ((LoopState P → Flow × LoopState P) × (LoopState P → List α))}
    (every : ∀ block ∈ blocks, ∀ state, rule state (block.2 state) (block.1 state))
    (state : LoopState P) :
    rule state (blockTrail blocks state) (SupportProxy.runBlocks (blocks.map Prod.fst) state) := by
  induction blocks generalizing state with
  | nil => exact rules.idle state
  | cons block rest ih =>
      exact rules.cons (every block List.mem_cons_self state) fun middle _ =>
        ih (fun other member => every other (List.mem_cons_of_mem _ member)) middle

/-- Along the iterations of a session. -/
theorem run (rules : TrailRule rule) (falls : FallsThrough rule) {wakeOf : ω → Wakeup}
    {record : ω → LoopState P → List α}
    (every : ∀ turn state,
      rule state (record turn state) (iterate lib env pair (wakeOf turn) state))
    (turns : List ω) (state : LoopState P) :
    rule state (runTrail lib env pair wakeOf record turns state)
      (SupportProxy.run lib env pair (turns.map wakeOf) state) := by
  induction turns generalizing state with
  | nil => exact rules.idle state
  | cons turn turns ih =>
      have own := every turn state
      rw [runTrail, List.map_cons, SupportProxy.run]
      generalize iterate lib env pair (wakeOf turn) state = result at own
      rcases result with ⟨_ | _ | _, middle⟩
      · exact rules.next own (ih middle)
      · exact rules.next (falls own) (ih middle)
      · rw [List.append_nil]
        exact own

end TrailRule

end SupportProxy
