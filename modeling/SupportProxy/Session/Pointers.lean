import SupportProxy.Session.SlotTable

/-! # The two copies of a WebSocket pointer

A slot keeps its WebSocket in `Connection2` and in its `MAVLink`. The first copy
is cleared by `close()`, the second one by nothing, so the two agree on a used
slot exactly when the link's copy was null whenever the slot was taken
(`run_pointers`). -/

namespace SupportProxy

/-- The pointers of one slot. -/
structure SlotPointers where
  used : Bool
  /-- `conn2[i].ws` -/
  conn : Option Nat
  /-- `conn2[i].mav.ws` -/
  link : Option Nat

namespace SlotPointers

def apply (slot : Nat) (event : Event) (pointers : SlotPointers) : SlotPointers :=
  match event with
  | .opened other _ => if other = slot then { pointers with used := true } else pointers
  | .closed other _ =>
      if other = slot then { pointers with used := false, conn := none } else pointers
  | .websocket other object =>
      if other = slot then { pointers with conn := some object, link := some object }
      else pointers
  | _ => pointers

/-- The link of a used slot holds the WebSocket of the connection in it. -/
def Agree (pointers : SlotPointers) : Prop := pointers.used = true → pointers.link = pointers.conn

end SlotPointers

/-- The pointers of a slot after a history, from the content of the link's memory. -/
def pointersOf (slot : Nat) (memory : Option Nat) (log : List Event) : SlotPointers :=
  History.replay (SlotPointers.apply slot) ⟨false, none, memory⟩ log

private theorem pointersOf_cons (slot : Nat) (memory : Option Nat) (event : Event)
    (log : List Event) :
    pointersOf slot memory (event :: log) = (pointersOf slot memory log).apply slot event := rfl

variable {slot : Nat} {memory : Option Nat} {log : List Event}

private theorem pointersOf_used : (pointersOf slot memory log).used = (tableOf log).used slot := by
  induction log with
  | nil => rfl
  | cons event before ih =>
      have same : tableOf (event :: before) = (tableOf before).apply event := rfl
      rw [pointersOf_cons, same]
      cases event with
      | opened other udp =>
          by_cases here : other = slot
          · subst here
            simp only [SlotPointers.apply, ↓reduceIte, SlotTable.apply, SlotTable.opened,
              Function.update_self]
          · simp only [SlotPointers.apply, here, ↓reduceIte, SlotTable.apply, SlotTable.opened,
              Function.update_of_ne (Ne.symm here), ih]
      | closed other reason =>
          have freed : ((tableOf before).closed other reason).used =
              Function.update (tableOf before).used other false := by
            cases reason <;> rfl
          simp only [SlotTable.apply, freed]
          by_cases here : other = slot
          · subst here
            simp only [SlotPointers.apply, ↓reduceIte, Function.update_self]
          · simp only [SlotPointers.apply, here, ↓reduceIte,
              Function.update_of_ne (Ne.symm here), ih]
      | websocket other object =>
          by_cases here : other = slot
          · simp only [SlotPointers.apply, here, ↓reduceIte, ih]
            rfl
          · simp only [SlotPointers.apply, here, ↓reduceIte, ih]
            rfl
      | _ => exact ih

/-- The link's copy is null as long as the memory was and no WebSocket was made. -/
theorem pointersOf_link_none : (pointersOf slot memory log).link = none ↔
    memory = none ∧ ∀ object, Event.websocket slot object ∉ log := by
  induction log with
  | nil =>
      simp only [pointersOf, History.replay_nil, List.not_mem_nil, not_false_eq_true,
        implies_true, and_true]
  | cons event before ih =>
      rw [pointersOf_cons]
      cases event with
      | websocket other object =>
          by_cases here : other = slot
          · subst here
            simp only [SlotPointers.apply, ↓reduceIte, reduceCtorEq, false_iff, not_and, not_forall,
              not_not]
            exact fun _ => ⟨object, List.mem_cons_self⟩
          · simp only [SlotPointers.apply, here, ↓reduceIte, ih, List.mem_cons,
              Event.websocket.injEq, Ne.symm here, false_and, false_or]
      | opened other udp =>
          have same : ((pointersOf slot memory before).apply slot (.opened other udp)).link =
              (pointersOf slot memory before).link := by
            simp only [SlotPointers.apply]
            split <;> rfl
          rw [same, ih]
          simp only [List.mem_cons, reduceCtorEq, false_or]
      | closed other reason =>
          have same : ((pointersOf slot memory before).apply slot (.closed other reason)).link =
              (pointersOf slot memory before).link := by
            simp only [SlotPointers.apply]
            split <;> rfl
          rw [same, ih]
          simp only [List.mem_cons, reduceCtorEq, false_or]
      | _ =>
          simp only [List.mem_cons, reduceCtorEq, false_or]
          exact ih

/-- A slot that is not used has no WebSocket of its own. -/
theorem pointersOf_conn_none (tabled : Tabled log)
    (unused : (pointersOf slot memory log).used = false) :
    (pointersOf slot memory log).conn = none := by
  induction log with
  | nil => rfl
  | cons event before ih =>
      rw [pointersOf_cons] at unused ⊢
      cases event with
      | opened other udp =>
          by_cases here : other = slot
          · simp only [SlotPointers.apply, here, ↓reduceIte, Bool.true_eq_false] at unused
          · simp only [SlotPointers.apply, here, ↓reduceIte] at unused ⊢
            exact ih tabled.2 unused
      | closed other reason =>
          by_cases here : other = slot
          · simp only [SlotPointers.apply, here, ↓reduceIte]
          · simp only [SlotPointers.apply, here, ↓reduceIte] at unused ⊢
            exact ih tabled.2 unused
      | websocket other object =>
          by_cases here : other = slot
          · subst here
            have used : (tableOf before).used other = true := tabled.1
            rw [← @pointersOf_used other memory before] at used
            simp only [SlotPointers.apply, ↓reduceIte, used, Bool.true_eq_false] at unused
          · simp only [SlotPointers.apply, here, ↓reduceIte] at unused ⊢
            exact ih tabled.2 unused
      | _ => exact ih tabled.2 unused

/-- The two copies always agreed on a used slot exactly when the link's copy was
null whenever the slot was taken. -/
theorem agree_iff_taken_null (tabled : Tabled log) :
    (∀ earlier, earlier <:+ log → (pointersOf slot memory earlier).Agree) ↔
      ∀ udp before, (Event.opened slot udp :: before) <:+ log →
        (pointersOf slot memory before).link = none := by
  constructor
  · intro agree udp before suffix
    have tabledHere := History.Obeys.of_suffix tabled suffix
    have free : (tableOf before).used slot = false := tabledHere.1.2.1
    rw [← @pointersOf_used slot memory before] at free
    have null := pointersOf_conn_none tabledHere.2 free
    have same := agree _ suffix
    rw [pointersOf_cons] at same
    simp only [SlotPointers.apply, ↓reduceIte, SlotPointers.Agree, true_implies] at same
    rw [same, null]
  · intro taken earlier suffix
    induction earlier with
    | nil => exact fun used => Bool.noConfusion used
    | cons event before ih =>
        have tabledHere := History.Obeys.of_suffix tabled suffix
        have agreed := ih ((List.suffix_cons _ _).trans suffix)
        rw [pointersOf_cons]
        cases event with
        | opened other udp =>
            by_cases here : other = slot
            · subst here
              have free : (tableOf before).used other = false := tabledHere.1.2.1
              rw [← @pointersOf_used other memory before] at free
              have null := pointersOf_conn_none tabledHere.2 free
              simp only [SlotPointers.apply, ↓reduceIte, SlotPointers.Agree, true_implies]
              rw [taken udp before suffix, null]
            · simp only [SlotPointers.apply, here, ↓reduceIte]
              exact agreed
        | closed other reason =>
            by_cases here : other = slot
            · simp only [SlotPointers.apply, here, ↓reduceIte, SlotPointers.Agree,
                Bool.false_eq_true, false_implies]
            · simp only [SlotPointers.apply, here, ↓reduceIte]
              exact agreed
        | websocket other object =>
            by_cases here : other = slot
            · simp only [SlotPointers.apply, here, ↓reduceIte, SlotPointers.Agree, implies_true]
            · simp only [SlotPointers.apply, here, ↓reduceIte]
              exact agreed
        | _ => exact agreed

/-- The channel and the transport of an event that sends. -/
def Event.through : Event → Option (Nat × Transport)
  | .warned chan transport _ => some (chan, transport)
  | .sent chan transport _ => some (chan, transport)
  | .sentStatus chan transport _ _ => some (chan, transport)
  | _ => none

/-- What is sent on a slot's link goes to the WebSocket of the link, if it has one. -/
def SentThrough (memory : Nat → Option Nat) : List Event → Prop :=
  History.Obeys fun before event => ∀ slot transport,
    event.through = some (chanComm2 slot, transport) →
      transport.object = (pointersOf slot (memory (chanComm2 slot)) before).link

variable {P : Type}

namespace LoopState

def pointers (state : LoopState P) (slot : Nat) : SlotPointers :=
  ⟨(state.conn2 slot).used, (state.conn2 slot).ws, (state.mav.links (chanComm2 slot)).ws⟩

/-- The history of a session describes the pointers of its slots. -/
structure PointersMatch (memory : Nat → Option Nat) (state : LoopState P) : Prop where
  pointers : ∀ slot, pointersOf slot (memory (chanComm2 slot)) state.mav.log = state.pointers slot
  sent : SentThrough memory state.mav.log

variable {initial : Nat → Option Nat}

private theorem PointersMatch.of_touches {state next : LoopState P} {chan : Nat}
    (matches' : state.PointersMatch initial) (touches : Touches chan state.mav next.mav)
    (pointers : ∀ slot, next.pointers slot = ⟨(state.conn2 slot).used, (state.conn2 slot).ws,
      (next.mav.links (chanComm2 slot)).ws⟩) : next.PointersMatch initial := by
  obtain ⟨news, log, on⟩ := touches.log
  have silent : (∀ slot, pointersOf slot (initial (chanComm2 slot)) (news ++ state.mav.log) =
      state.pointers slot) ∧ SentThrough initial (news ++ state.mav.log) := by
    clear log
    induction news with
    | nil => exact ⟨matches'.pointers, matches'.sent⟩
    | cons event news ih =>
        obtain ⟨same, sent⟩ := ih fun other member => on other (List.mem_cons_of_mem _ member)
        have here := on event List.mem_cons_self
        have neutral : ∀ slot (pointers : SlotPointers), pointers.apply slot event = pointers := by
          intro slot pointers
          cases event <;> simp only [Event.onLink] at here <;> rfl
        refine ⟨fun slot => (neutral slot _).trans (same slot), ?_, sent⟩
        intro slot transport through
        refine Eq.trans ?_ (congrArg SlotPointers.link (same slot)).symm
        cases event <;> simp only [Event.onLink] at here <;>
          simp only [Event.through, Option.some.injEq, Prod.mk.injEq, reduceCtorEq] at through
        all_goals
          obtain ⟨rfl, rfl⟩ := through
          rw [here.2, ← here.1]
          rfl
  rw [← log] at silent
  refine ⟨fun slot => ?_, silent.2⟩
  rw [silent.1 slot, pointers slot, touches.ws_eq]
  rfl

private theorem PointersMatch.of_event {state next : LoopState P} {event : Event}
    (matches' : state.PointersMatch initial) (log : next.mav.log = event :: state.mav.log)
    (sent : ∀ slot transport, event.through = some (chanComm2 slot, transport) →
      transport.object = (state.pointers slot).link)
    (pointers : ∀ slot, next.pointers slot = (state.pointers slot).apply slot event) :
    next.PointersMatch initial := by
  constructor
  · intro slot
    rw [log, pointers slot, ← matches'.pointers slot]
    rfl
  · rw [log]
    refine ⟨?_, matches'.sent⟩
    intro slot transport through
    rw [matches'.pointers slot]
    exact sent slot transport through

private theorem modifySlot_pointers {state : LoopState P} {slot : Nat}
    {change : Connection2 → Connection2}
    (used : (change (state.conn2 slot)).used = (state.conn2 slot).used)
    (ws : (change (state.conn2 slot)).ws = (state.conn2 slot).ws) (other : Nat) :
    (state.modifySlot slot change).pointers other = state.pointers other := by
  have unmoved : Unmoved state (state.modifySlot slot change) :=
    (modifySlot_idle used ws).unmoved
  unfold pointers
  rw [unmoved.used, unmoved.ws, unmoved.links]

/-- Two states with equal slots, whatever happened to the links. -/
theorem pointers_of_conn2 {state next : LoopState P} (same : next.conn2 = state.conn2)
    (slot : Nat) :
    next.pointers slot = ⟨(state.conn2 slot).used, (state.conn2 slot).ws,
      (next.mav.links (chanComm2 slot)).ws⟩ := by
  unfold pointers
  rw [same]

private theorem startLink_conn2 (env : Environment) (pair : PortPair) (slot : Nat) (fd : Option Nat)
    (allowWebsocket isTcp : Bool) (state : LoopState P) :
    (state.startLink env pair slot fd allowWebsocket isTcp).conn2 = state.conn2 := by
  rw [startLink, askSnapshot_conn2, withMav_conn2]

/-- Taking a free slot. -/
theorem PointersMatch.opened {state : LoopState P} (matches' : state.PointersMatch initial)
    (slot : Nat) (udp : Bool) {take : Connection2 → Connection2}
    (used : ∀ conn, (take conn).used = true) (ws : ∀ conn, (take conn).ws = conn.ws) :
    ((state.modifySlot slot take).countOpened slot udp).PointersMatch initial := by
  refine matches'.of_event rfl (fun _ _ through => ?_) fun other => ?_
  · simp only [Event.through, reduceCtorEq] at through
  · unfold LoopState.pointers countOpened note MavState.note modifySlot
    by_cases here : slot = other
    · subst here
      simp only [SlotPointers.apply, ↓reduceIte, Function.update_self, used, ws]
    · simp only [SlotPointers.apply, here, ↓reduceIte, Function.update_of_ne (Ne.symm here)]

/-- Freeing a slot, under each of the three rules. -/
theorem PointersMatch.closed {state next : LoopState P} {slot : Nat} {reason : CloseReason}
    (matches' : state.PointersMatch initial)
    (log : next.mav.log = .closed slot reason :: state.mav.log)
    (links : next.mav.links = state.mav.links)
    (conn2 : next.conn2 = Function.update state.conn2 slot (state.conn2 slot).close) :
    next.PointersMatch initial := by
  refine matches'.of_event log (fun _ _ through => ?_) fun other => ?_
  · simp only [Event.through, reduceCtorEq] at through
  · unfold LoopState.pointers
    rw [links, conn2]
    by_cases here : slot = other
    · subst here
      simp only [SlotPointers.apply, ↓reduceIte, Function.update_self, Connection2.close]
    · simp only [SlotPointers.apply, here, ↓reduceIte, Function.update_of_ne (Ne.symm here)]

private theorem setWs_links_ws (chan object other : Nat) (mav : MavState P) :
    ((setWs chan object mav).links other).ws =
      if other = chan then some object else (mav.links other).ws := by
  unfold setWs MavState.modifyLink
  by_cases here : other = chan
  · subst here
    simp only [Function.update_self, ↓reduceIte]
  · simp only [Function.update_of_ne here, here, ↓reduceIte]

private theorem PointersMatch.step {lib : Library P} {env : Environment} {pair : PortPair}
    {state next : LoopState P} (matches' : state.PointersMatch initial)
    (action : Action lib env pair state next) : next.PointersMatch initial := by
  cases action with
  | quiet unmoved =>
      refine ⟨fun slot => ?_, by rw [unmoved.log]; exact matches'.sent⟩
      rw [unmoved.log, matches'.pointers slot]
      unfold LoopState.pointers
      rw [unmoved.used, unmoved.ws, unmoved.links]
  | plain plain =>
      rename_i event
      refine matches'.of_event rfl (fun slot transport through => ?_) fun slot => ?_
      · cases event <;> simp only [Event.plain] at plain <;>
          simp only [Event.through, reduceCtorEq] at through
      · cases event <;> simp only [Event.plain] at plain <;> rfl
  | user touches => exact matches'.of_touches touches (pointers_of_conn2 rfl)
  | userWebsocket object =>
      refine ⟨fun slot => ?_, matches'.sent⟩
      have kept := setWs_links_ws chanComm1 object (chanComm2 slot) state.mav
      rw [if_neg (chanComm2_ne_comm1 slot)] at kept
      refine (matches'.pointers slot).trans ?_
      unfold LoopState.pointers
      rw [← kept]
  | calm inside touches calm => exact matches'.of_touches touches (pointers_of_conn2 rfl)
  | receive bytes inside =>
      exact matches'.of_touches (receiveMessage_touches lib env _ bytes state.mav)
        (pointers_of_conn2 rfl)
  | relay inside used received =>
      rename_i mav slot bytes rest msg
      have touches := receiveMessage_touches lib env (chanComm2 slot) bytes state.mav
      rw [received] at touches
      have read : PointersMatch initial { state with mav := mav } :=
        matches'.of_touches touches (pointers_of_conn2 rfl)
      have counted : PointersMatch initial (LoopState.modifySlot { state with mav := mav } slot
          fun conn => { conn with rxMsgs := inc32 conn.rxMsgs }) :=
        ⟨fun other => (read.pointers other).trans (modifySlot_pointers rfl rfl other).symm,
          read.sent⟩
      have logged : PointersMatch initial (writeTlog pair msg
          (LoopState.modifySlot { state with mav := mav } slot fun conn =>
            { conn with rxMsgs := inc32 conn.rxMsgs })) := by
        unfold writeTlog
        split
        · refine counted.of_event rfl (fun _ _ through => ?_) fun _ => rfl
          simp only [Event.through, reduceCtorEq] at through
        · exact counted
      refine logged.of_event rfl (fun _ _ through => ?_) fun _ => rfl
      simp only [Event.through, reduceCtorEq] at through
  | sentUser =>
      refine matches'.of_event rfl (fun slot transport through => ?_) fun _ => rfl
      simp only [Event.through, Option.some.injEq, Prod.mk.injEq, chanComm1, chanComm2] at through
      omega
  | sent inside used touches calm log object passes =>
      rename_i mav slot transport msg
      have quiet : PointersMatch initial { state with mav := mav } :=
        matches'.of_touches touches (pointers_of_conn2 rfl)
      refine quiet.of_event rfl (fun other carrier through => ?_) fun _ => rfl
      simp only [Event.through, Option.some.injEq, Prod.mk.injEq, chanComm2,
        Nat.add_left_cancel_iff] at through
      obtain ⟨rfl, rfl⟩ := through
      exact object.trans (touches.ws_eq _).symm
  | openUdp free room =>
      rename_i slot peer now wallClock
      have taken : PointersMatch initial (LoopState.countOpened slot true
          (state.modifySlot slot (Connection2.takeUdp peer now wallClock))) :=
        matches'.opened slot true (fun _ => rfl) fun _ => rfl
      have started :=
        taken.of_touches (startLink_touches env pair slot state.sock2Udp false false _)
        (pointers_of_conn2 (startLink_conn2 env pair slot state.sock2Udp false false _))
      exact started.of_touches (directLink_touches slot peer _) (pointers_of_conn2 rfl)
  | openTcp free room =>
      rename_i slot fd peer wallClock
      have taken : PointersMatch initial (LoopState.countOpened slot false
          (state.modifySlot slot (Connection2.takeTcp fd peer wallClock))) :=
        matches'.opened slot false (fun _ => rfl) fun _ => rfl
      exact taken.of_touches (startLink_touches env pair slot (some fd) true true _)
        (pointers_of_conn2 (startLink_conn2 env pair slot (some fd) true true _))
  | websocket inside used =>
      rename_i slot object isSSL
      refine matches'.of_event rfl (fun _ _ through => ?_) fun other => ?_
      · simp only [Event.through, reduceCtorEq] at through
      · have linked := setWs_links_ws (chanComm2 slot) object (chanComm2 other) state.mav
        rw [openWebsocket]
        unfold LoopState.pointers note withMav modifySlot MavState.note
        dsimp only
        rw [linked]
        by_cases here : slot = other
        · subst here
          simp only [SlotPointers.apply, ↓reduceIte, Function.update_self]
        · have apart := chanComm2_ne (Ne.symm here)
          simp only [SlotPointers.apply, here, ↓reduceIte, Function.update_of_ne (Ne.symm here),
            apart]
  | closeCounted inside used counted => exact matches'.closed rfl rfl rfl
  | closeDropped inside used => exact matches'.closed rfl rfl rfl
  | closeDead inside used => exact matches'.closed rfl rfl rfl

private theorem PointersMatch.acts {lib : Library P} {env : Environment} {pair : PortPair}
    {state next : LoopState P} (matches' : state.PointersMatch initial)
    (acts : Acts lib env pair state next) : next.PointersMatch initial := by
  induction acts with
  | refl => exact matches'
  | tail _ action ih => exact ih.step action

end LoopState

/-- In every session and for every slot, the link's WebSocket pointer was the one
of the connection in the slot whenever the slot was used, and what was sent on
the link went there, exactly when the pointer was null whenever the slot was
taken: the link's memory held null and no earlier connection in the slot was a
WebSocket. -/
theorem run_pointers {lib : Library P} {env : Environment} {pair : PortPair}
    {memory : Nat → Option Nat} {record : Option KeyEntry}
    {sockets : Option Nat × Option Nat × Option Nat × Option Nat} (wakes : List Wakeup)
    (slot : Nat) :
    let state := (run lib env pair wakes (LoopState.initial lib pair memory record sockets)).2
    pointersOf slot (memory (chanComm2 slot)) state.mav.log = state.pointers slot ∧
      (((∀ earlier, earlier <:+ state.mav.log →
          (pointersOf slot (memory (chanComm2 slot)) earlier).Agree) ∧
        ∀ event before transport, (event :: before) <:+ state.mav.log →
          event.through = some (chanComm2 slot, transport) →
            (pointersOf slot (memory (chanComm2 slot)) before).used = true →
              transport.object = (pointersOf slot (memory (chanComm2 slot)) before).conn) ↔
        ∀ udp before, (Event.opened slot udp :: before) <:+ state.mav.log →
          memory (chanComm2 slot) = none ∧ ∀ object, Event.websocket slot object ∉ before) := by
  have tabled : (run lib env pair wakes
    (LoopState.initial lib pair memory record sockets)).2.TableMatches := run_table wakes
  have started : (LoopState.initial lib pair memory record sockets).PointersMatch memory :=
    ⟨fun _ => rfl, trivial⟩
  have described : (run lib env pair wakes
      (LoopState.initial lib pair memory record sockets)).2.PointersMatch memory :=
    started.acts (run_acts wakes _)
  generalize (run lib env pair wakes (LoopState.initial lib pair memory record sockets)).2 = state
    at tabled described
  have agreement : (∀ earlier, earlier <:+ state.mav.log →
      (pointersOf slot (memory (chanComm2 slot)) earlier).Agree) ↔ _ :=
    agree_iff_taken_null tabled.tabled
  simp only [pointersOf_link_none] at agreement
  refine ⟨described.pointers slot, ?_⟩
  rw [← agreement]
  constructor
  · exact fun both => both.1
  · intro agree
    refine ⟨agree, ?_⟩
    intro event before transport suffix through used
    have sent := (History.Obeys.of_suffix described.sent suffix).1 slot transport through
    rw [sent]
    exact agree before ((List.suffix_cons _ _).trans suffix) used

/-- A WebSocket engineer leaves slot 0 and a raw TCP engineer takes it: the link of
the new one still holds the WebSocket of the old one. -/
theorem dangling_after_websocket :
    ¬ ((Scenario.session (fun _ _ => false) none [Scenario.engineerConnects 10,
        Scenario.engineerReads 0 ⟨true, 7, false, some []⟩,
        Scenario.engineerReads 0 ⟨false, 0, false, none⟩,
        Scenario.engineerConnects 11]).pointers 0).Agree := by
  intro agree
  have same := agree (by decide)
  revert same
  decide

end SupportProxy
