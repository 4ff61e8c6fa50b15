import SupportProxy.Session.Actions
import SupportProxy.Session.Scenario
import SupportProxy.Library.Occupancy

/-! # The table of engineer slots

`SlotTable` is the abstract table: which slots are used, and the two counters.
It is moved by the events of a history alone, and a session keeps its own table
equal to the one its history describes (`run_table`). The two invariants of the
table are then facts about histories: no used slot is beyond `max_conn2_count`
exactly when no counted close strands one (`run_noOrphan`), and `conn2_count` is
the number of used slots exactly when no silent UDP engineer was swept
(`run_slotCount`). -/

namespace SupportProxy

structure SlotTable where
  used : Nat → Bool
  count : Nat
  max : Nat

namespace SlotTable

def empty : SlotTable := ⟨fun _ => false, 0, 0⟩

def opened (slot : Nat) (table : SlotTable) : SlotTable :=
  ⟨Function.update table.used slot true, inc8 table.count, Nat.max table.max (inc8 table.count)⟩

/-- The end-of-file and failed-send rule. -/
def counted (slot : Nat) (table : SlotTable) : SlotTable :=
  ⟨Function.update table.used slot false, dec8 table.count,
    if table.count = table.max then dec8 table.max else table.max⟩

/-- The rule of `process_drops`. -/
def dropped (slot : Nat) (table : SlotTable) : SlotTable :=
  ⟨Function.update table.used slot false,
    if 0 < table.count then dec8 table.count else table.count,
    if 0 < table.max ∧ slot + 1 = table.max then dec8 table.max else table.max⟩

/-- The rule of the sweep. -/
def dead (slot : Nat) (table : SlotTable) : SlotTable :=
  { table with used := Function.update table.used slot false }

def closed (slot : Nat) : CloseReason → SlotTable → SlotTable
  | .eof, table => table.counted slot
  | .sendFailed, table => table.counted slot
  | .dropped, table => table.dropped slot
  | .dead, table => table.dead slot

def apply (event : Event) (table : SlotTable) : SlotTable :=
  match event with
  | .opened slot _ => table.opened slot
  | .closed slot reason => table.closed slot reason
  | _ => table

/-- The first free slot is taken, a used one is freed, and the events that
report a full or broken table happen in one. -/
def Admits (table : SlotTable) : Event → Prop
  | .opened slot udp =>
      slot < maxComm2Links ∧ table.used slot = false ∧
        (∀ earlier < slot, table.used earlier = true) ∧
        (if udp then table.max ≤ maxComm2Links else table.count < maxComm2Links)
  | .closed slot _ => slot < maxComm2Links ∧ table.used slot = true
  | .websocket slot _ => table.used slot = true
  | .refused => maxComm2Links ≤ table.count ∨ ∀ slot < maxComm2Links, table.used slot = true
  | .overrun => maxComm2Links < table.max
  | .bugExit => maxComm2Links < table.max
  | _ => True

/-- The number of used slots. -/
def busy (table : SlotTable) : Nat := (Occupancy.occupied maxComm2Links table.used).card

/-- Every used slot is below `max_conn2_count`. -/
def NoOrphan (table : SlotTable) : Prop := ∀ slot, table.used slot = true → slot < table.max

/-- A counted close leaves the last slot in use beyond the new `max_conn2_count`. -/
def Strands (table : SlotTable) (slot : Nat) (reason : CloseReason) : Prop :=
  (reason = .eof ∨ reason = .sendFailed) ∧ table.count = table.max ∧ slot + 1 ≠ table.max ∧
    0 < table.max ∧ table.used (table.max - 1) = true

/-- What every history keeps of the counters, with the number of dead closes. -/
structure Counters (table : SlotTable) (deadCloses : Nat) : Prop where
  inside : ∀ slot, table.used slot = true → slot < maxComm2Links
  count : table.count = table.busy + deadCloses
  le : table.count ≤ table.max
  bound : table.max ≤ maxComm2Links + 1

private theorem Counters.of_opened {table : SlotTable} {deadCloses slot : Nat} {udp : Bool}
    (counters : table.Counters deadCloses) (admits : table.Admits (.opened slot udp)) :
    (table.opened slot).Counters deadCloses := by
  obtain ⟨inside, free, _, room⟩ := admits
  have count := counters.count
  have le := counters.le
  have bound := counters.bound
  have taken := Occupancy.card_take inside free
  have small : table.count ≤ maxComm2Links := by
    cases udp with
    | true => exact le.trans room
    | false => exact Nat.le_of_lt room
  have grown : inc8 table.count = table.count + 1 := by
    unfold inc8
    unfold maxComm2Links at small
    omega
  constructor
  · intro other used
    by_cases same : other = slot
    · rw [same]
      exact inside
    · simp only [opened, Function.update_of_ne same] at used
      exact counters.inside other used
  · simp only [opened, busy, taken, grown]
    unfold busy at count
    omega
  · simp only [opened, grown]
    exact Nat.le_max_right _ _
  · simp only [opened, grown]
    exact Nat.max_le.mpr ⟨bound, by omega⟩

private theorem Counters.of_closed {table : SlotTable} {deadCloses slot : Nat}
    {reason : CloseReason}
    (counters : table.Counters deadCloses) (admits : table.Admits (.closed slot reason)) :
    (table.closed slot reason).Counters
    (if reason = .dead then deadCloses + 1 else deadCloses) := by
  obtain ⟨inside, used⟩ := admits
  have count := counters.count
  have le := counters.le
  have bound := counters.bound
  have released := Occupancy.card_release inside used
  unfold busy at count
  have kept : ∀ other, Function.update table.used slot false other = true →
      other < maxComm2Links := by
    intro other used
    by_cases same : other = slot
    · rw [same]
      exact inside
    · rw [Function.update_of_ne same] at used
      exact counters.inside other used
  have lowered : dec8 table.count = table.count - 1 ∧ dec8 table.max = table.max - 1 := by
    unfold dec8
    unfold maxComm2Links at bound
    omega
  have positive : 0 < table.count ∧ 0 < table.max := by omega
  cases reason with
  | dead =>
      refine ⟨kept, ?_, le, bound⟩
      simp only [closed, dead, busy, ↓reduceIte]
      omega
  | dropped =>
      refine ⟨kept, ?_, ?_, ?_⟩
      · simp only [closed, dropped, busy, positive, ↓reduceIte, lowered, reduceCtorEq]
        omega
      · simp only [closed, dropped, positive, ↓reduceIte, lowered, true_and]
        split <;> omega
      · simp only [closed, dropped, positive, lowered, true_and]
        split <;> omega
  | eof =>
      refine ⟨kept, ?_, ?_, ?_⟩
      · simp only [closed, counted, busy, ↓reduceIte, lowered, reduceCtorEq]
        omega
      · simp only [closed, counted, lowered]
        split <;> omega
      · simp only [closed, counted, lowered]
        split <;> omega
  | sendFailed =>
      refine ⟨kept, ?_, ?_, ?_⟩
      · simp only [closed, counted, busy, ↓reduceIte, lowered, reduceCtorEq]
        omega
      · simp only [closed, counted, lowered]
        split <;> omega
      · simp only [closed, counted, lowered]
        split <;> omega

/-- A new engineer never lands beyond `max_conn2_count`. -/
theorem NoOrphan.of_opened {table : SlotTable} {deadCloses slot : Nat} {udp : Bool}
    (noOrphan : table.NoOrphan) (counters : table.Counters deadCloses)
    (admits : table.Admits (.opened slot udp)) : (table.opened slot).NoOrphan := by
  have counted := (counters.of_opened admits).count
  have le := (counters.of_opened admits).le
  obtain ⟨inside, free, before, _⟩ := admits
  have first := Occupancy.first_free_le inside before
  have taken := Occupancy.card_take inside free
  intro other used
  by_cases same : other = slot
  · subst same
    simp only [busy, opened, taken] at counted le ⊢
    omega
  · simp only [opened, Function.update_of_ne same] at used ⊢
    exact Nat.lt_of_lt_of_le (noOrphan other used) (Nat.le_max_left _ _)

/-- A close strands the last slot or leaves no orphan. -/
theorem noOrphan_closed_iff {table : SlotTable} {deadCloses slot : Nat} {reason : CloseReason}
    (noOrphan : table.NoOrphan) (counters : table.Counters deadCloses)
    (admits : table.Admits (.closed slot reason)) :
    (table.closed slot reason).NoOrphan ↔ ¬ table.Strands slot reason := by
  obtain ⟨inside, used⟩ := admits
  have below := noOrphan slot used
  have bound := counters.bound
  have lowered : dec8 table.max = table.max - 1 := by
    unfold dec8
    unfold maxComm2Links at bound
    omega
  -- the other slots stay below a bound lowered by one unless one of them was the last
  have others : ∀ other, Function.update table.used slot false other = true →
      other ≠ slot ∧ table.used other = true ∧ other < table.max := by
    intro other still
    by_cases same : other = slot
    · rw [same, Function.update_self] at still
      exact Bool.noConfusion still
    · rw [Function.update_of_ne same] at still
      exact ⟨same, still, noOrphan other still⟩
  have counting : (table.counted slot).NoOrphan ↔
      ¬ (table.count = table.max ∧ slot + 1 ≠ table.max ∧ 0 < table.max ∧
        table.used (table.max - 1) = true) := by
    constructor
    · rintro kept ⟨full, notLast, positive, last⟩
      have different : table.max - 1 ≠ slot := by omega
      have orphan := kept (table.max - 1) (by
        simp only [counted, Function.update_of_ne different, last])
      simp only [counted, full, ↓reduceIte, lowered] at orphan
      omega
    · intro safe other still
      obtain ⟨different, otherUsed, otherBelow⟩ := others other still
      simp only [counted, lowered]
      split
      next full =>
        by_contra beyond
        have last : other = table.max - 1 := by omega
        exact safe ⟨full, by omega, by omega, by rw [← last]; exact otherUsed⟩
      next => exact otherBelow
  cases reason with
  | dead =>
      simp only [closed, Strands, reduceCtorEq, or_self, false_and, not_false_eq_true, iff_true]
      exact fun other still => (others other still).2.2
  | dropped =>
      simp only [closed, Strands, reduceCtorEq, or_self, false_and, not_false_eq_true, iff_true]
      intro other still
      obtain ⟨different, _, otherBelow⟩ := others other still
      simp only [dropped, lowered]
      split <;> omega
  | eof => simpa only [closed, Strands, reduceCtorEq, or_false, true_and] using counting
  | sendFailed => simpa only [closed, Strands, reduceCtorEq, false_or, true_and] using counting

end SlotTable

/-- The slot table a history describes. -/
def tableOf (log : List Event) : SlotTable := History.replay SlotTable.apply .empty log

/-- Slots are taken and freed as the source does. -/
def Tabled (log : List Event) : Prop :=
  History.Guarded SlotTable.apply .empty SlotTable.Admits log

def isDeadClose : Event → Bool
  | .closed _ .dead => true
  | _ => false

private theorem tableOf_counters {log : List Event} (tabled : Tabled log) :
    (tableOf log).Counters (log.countP isDeadClose) := by
  induction log with
  | nil =>
      have none : Occupancy.occupied maxComm2Links (fun _ => false) = ∅ :=
        Finset.filter_eq_empty_iff.mpr fun _ _ => Bool.false_ne_true
      refine ⟨fun _ used => Bool.noConfusion used, ?_, Nat.le_refl 0, Nat.zero_le _⟩
      simp only [tableOf, History.replay_nil, SlotTable.empty, SlotTable.busy, none,
        Finset.card_empty, List.countP_nil]
  | cons event before ih =>
      have counters := ih tabled.2
      have admits : (tableOf before).Admits event := tabled.1
      have same : tableOf (event :: before) = (tableOf before).apply event := rfl
      rw [same, List.countP_cons]
      cases event with
      | opened slot udp => exact counters.of_opened admits
      | closed slot reason =>
          have closes := counters.of_closed admits
          cases reason <;> exact closes
      | _ => exact counters

/-- Without dead closes, `max_conn2_count` stays within the table. -/
theorem tableOf_max_le {log : List Event} (tabled : Tabled log)
    (swept : log.countP isDeadClose = 0) : (tableOf log).max ≤ maxComm2Links := by
  induction log with
  | nil => exact Nat.zero_le _
  | cons event before ih =>
      rw [List.countP_cons] at swept
      have sweptBefore : before.countP isDeadClose = 0 := by omega
      have bound := ih tabled.2 sweptBefore
      have counters := tableOf_counters tabled.2
      have admits : (tableOf before).Admits event := tabled.1
      have same : tableOf (event :: before) = (tableOf before).apply event := rfl
      rw [same]
      cases event with
      | opened slot udp =>
          have opens := counters.of_opened admits
          have full := Occupancy.card_occupied_le maxComm2Links ((tableOf before).opened slot).used
          have count := opens.count
          rw [sweptBefore] at count
          unfold SlotTable.busy at count
          simp only [SlotTable.apply, SlotTable.opened] at count full ⊢
          exact Nat.max_le.mpr ⟨bound, by omega⟩
      | closed slot reason =>
          have lowered : dec8 (tableOf before).max ≤ maxComm2Links ∨ (tableOf before).max = 0 := by
            unfold dec8
            unfold maxComm2Links at bound ⊢
            omega
          have le := counters.le
          have count := counters.count
          have used := Occupancy.card_release admits.1 admits.2
          unfold SlotTable.busy at count
          cases reason with
          | dead => exact bound
          | dropped =>
              simp only [SlotTable.apply, SlotTable.closed, SlotTable.dropped]
              split <;> omega
          | eof =>
              simp only [SlotTable.apply, SlotTable.closed, SlotTable.counted]
              split <;> omega
          | sendFailed =>
              simp only [SlotTable.apply, SlotTable.closed, SlotTable.counted]
              split <;> omega
      | _ => exact bound

private theorem countP_isDeadClose {log : List Event} :
    log.countP isDeadClose = 0 ↔ ∀ slot, Event.closed slot .dead ∉ log := by
  rw [List.countP_eq_zero]
  constructor
  · intro none slot member
    exact none _ member rfl
  · intro none event member dead
    cases event with
    | closed slot reason =>
        cases reason with
        | dead => exact none slot member
        | eof => exact Bool.noConfusion dead
        | sendFailed => exact Bool.noConfusion dead
        | dropped => exact Bool.noConfusion dead
    | _ => exact Bool.noConfusion dead

/-- No slot was ever stranded exactly when no close stranded one. -/
theorem noOrphan_iff_obeys {log : List Event} (tabled : Tabled log) :
    (∀ earlier, earlier <:+ log → (tableOf earlier).NoOrphan) ↔
      ∀ slot reason before, (Event.closed slot reason :: before) <:+ log →
        ¬ (tableOf before).Strands slot reason := by
  constructor
  · intro noOrphans slot reason before suffix
    have tabledHere := History.Obeys.of_suffix tabled suffix
    have earlier := noOrphans before ((List.suffix_cons _ _).trans suffix)
    exact (SlotTable.noOrphan_closed_iff earlier (tableOf_counters tabledHere.2) tabledHere.1).mp
      (noOrphans _ suffix)
  · intro safe earlier suffix
    have tabledHere := History.Obeys.of_suffix tabled suffix
    induction earlier with
    | nil => exact fun _ used => Bool.noConfusion used
    | cons event before ih =>
        have noOrphan := ih ((List.suffix_cons _ _).trans suffix) tabledHere.2
        have counters := tableOf_counters tabledHere.2
        have admits : (tableOf before).Admits event := tabledHere.1
        have same : tableOf (event :: before) = (tableOf before).apply event := rfl
        rw [same]
        cases event with
        | opened slot udp => exact noOrphan.of_opened counters admits
        | closed slot reason =>
            exact (SlotTable.noOrphan_closed_iff noOrphan counters admits).mpr
              (safe slot reason before suffix)
        | _ => exact noOrphan

variable {P : Type}

namespace LoopState

/-- The slot table of a session. -/
def table (state : LoopState P) : SlotTable :=
  ⟨fun slot => (state.conn2 slot).used, state.conn2Count, state.maxConn2Count⟩

private theorem modifySlot_used (state : LoopState P) (slot : Nat)
    (change : Connection2 → Connection2) :
    (fun other => ((state.modifySlot slot change).conn2 other).used) =
      Function.update (fun other => (state.conn2 other).used) slot
        (change (state.conn2 slot)).used := by
  funext other
  by_cases same : other = slot
  · subst same
    simp only [modifySlot, Function.update_self]
  · simp only [modifySlot, Function.update_of_ne same]

private theorem modifySlot_table {state : LoopState P} {slot : Nat}
    {change : Connection2 → Connection2}
    (used : (change (state.conn2 slot)).used = (state.conn2 slot).used) :
    (state.modifySlot slot change).table = state.table := by
  have same := modifySlot_used state slot change
  rw [used, Function.update_eq_self] at same
  unfold table
  rw [same]
  rfl

private theorem note_table (state : LoopState P) (event : Event) :
    (state.note event).table = state.table :=
  rfl

private theorem withMav_table (state : LoopState P) (mav : MavState P) :
    (state.withMav mav).table = state.table := rfl

private theorem askSnapshot_table (state : LoopState P) :
    state.askSnapshot.table = state.table := rfl

private theorem startLink_table (env : Environment) (pair : PortPair) (slot : Nat) (fd : Option Nat)
    (allowWebsocket isTcp : Bool) (state : LoopState P) :
    (state.startLink env pair slot fd allowWebsocket isTcp).table = state.table := by
  rw [startLink, askSnapshot_table, withMav_table]

/-- The history of a session describes its table. -/
structure TableMatches (state : LoopState P) : Prop where
  table : tableOf state.mav.log = state.table
  tabled : Tabled state.mav.log

/-- Link operations leave the table and what the history says of it. -/
theorem TableMatches.of_touches {state next : LoopState P} {chan : Nat}
    (matches' : state.TableMatches) (touches : Touches chan state.mav next.mav)
    (table : next.table = state.table) : next.TableMatches := by
  obtain ⟨news, log, on⟩ := touches.log
  have silent : tableOf (news ++ state.mav.log) = tableOf state.mav.log ∧
      Tabled (news ++ state.mav.log) := by
    clear log
    induction news with
    | nil => exact ⟨rfl, matches'.tabled⟩
    | cons event news ih =>
        obtain ⟨same, tabled⟩ := ih fun other member => on other (List.mem_cons_of_mem _ member)
        have here := on event List.mem_cons_self
        have neutral : ∀ table : SlotTable, table.apply event = table ∧ table.Admits event := by
          intro table
          cases event <;> simp only [Event.onLink] at here <;> exact ⟨rfl, trivial⟩
        exact ⟨(neutral _).1.trans same, (neutral _).2, tabled⟩
  rw [← log] at silent
  exact ⟨silent.1.trans (matches'.table.trans table.symm), silent.2⟩

/-- An event that moves the table as the session moves its own. -/
theorem TableMatches.of_event {state next : LoopState P} {event : Event}
    (matches' : state.TableMatches) (log : next.mav.log = event :: state.mav.log)
    (admits : state.table.Admits event) (table : next.table = state.table.apply event) :
    next.TableMatches := by
  have described := matches'.table
  constructor
  · rw [log, table, ← described]
    rfl
  · rw [log]
    refine ⟨?_, matches'.tabled⟩
    rw [← described] at admits
    exact admits

private theorem TableMatches.step {lib : Library P} {env : Environment} {pair : PortPair}
    {state next : LoopState P} (matches' : state.TableMatches)
    (action : Action lib env pair state next) : next.TableMatches := by
  cases action with
  | quiet unmoved =>
      have table : next.table = state.table := by
        unfold LoopState.table
        rw [unmoved.count, unmoved.max]
        congr 1
        exact funext unmoved.used
      exact ⟨by rw [unmoved.log, table]; exact matches'.table, by
        rw [unmoved.log]; exact matches'.tabled⟩
  | plain plain =>
      rename_i event
      refine matches'.of_event rfl ?_ ?_
      · cases event <;> simp only [Event.plain] at plain
        case tlog => trivial
        case snapshot => trivial
        case refused =>
            rcases plain with full | none
            · exact .inl full
            · exact .inr (freeSlot_none none)
        case overrun => exact plain
        case bugExit => exact plain
      · cases event <;> simp only [Event.plain] at plain <;> rfl
  | user touches => exact matches'.of_touches touches rfl
  | userWebsocket object => exact ⟨matches'.table, matches'.tabled⟩
  | calm inside touches calm => exact matches'.of_touches touches rfl
  | receive bytes inside =>
      exact matches'.of_touches (receiveMessage_touches lib env _ bytes state.mav) rfl
  | relay inside used received =>
      rename_i mav slot bytes rest msg
      have touches := receiveMessage_touches lib env (chanComm2 slot) bytes state.mav
      rw [received] at touches
      have read : TableMatches { state with mav := mav } := matches'.of_touches touches rfl
      have counted : TableMatches (LoopState.modifySlot { state with mav := mav } slot fun conn =>
          { conn with rxMsgs := inc32 conn.rxMsgs }) :=
        ⟨read.table.trans (modifySlot_table rfl).symm, read.tabled⟩
      have logged : TableMatches (writeTlog pair msg (LoopState.modifySlot { state with mav := mav }
          slot fun conn => { conn with rxMsgs := inc32 conn.rxMsgs })) := by
        unfold writeTlog
        split
        · exact counted.of_event rfl trivial rfl
        · exact counted
      exact logged.of_event rfl trivial rfl
  | sentUser => exact matches'.of_event rfl trivial rfl
  | sent inside used touches calm log object passes =>
      rename_i mav slot transport msg
      have quiet : TableMatches { state with mav := mav } := matches'.of_touches touches rfl
      exact quiet.of_event rfl trivial rfl
  | openUdp free room =>
      rename_i slot peer now wallClock
      obtain ⟨inside, unused, before⟩ := freeSlot_free free
      have taken : TableMatches (LoopState.countOpened slot true
          (state.modifySlot slot (Connection2.takeUdp peer now wallClock))) := by
        refine matches'.of_event rfl ⟨inside, unused, before, room⟩ ?_
        simp only [LoopState.table, LoopState.countOpened, LoopState.note, modifySlot_used]
        rfl
      have started :=
        taken.of_touches (startLink_touches env pair slot state.sock2Udp false false _)
        (startLink_table env pair slot state.sock2Udp false false _)
      exact started.of_touches (directLink_touches slot peer _) (withMav_table _ _)
  | openTcp free room =>
      rename_i slot fd peer wallClock
      obtain ⟨inside, unused, before⟩ := freeSlot_free free
      have taken : TableMatches (LoopState.countOpened slot false
          (state.modifySlot slot (Connection2.takeTcp fd peer wallClock))) := by
        refine matches'.of_event rfl ⟨inside, unused, before, room⟩ ?_
        simp only [LoopState.table, LoopState.countOpened, LoopState.note, modifySlot_used]
        rfl
      exact taken.of_touches (startLink_touches env pair slot (some fd) true true _)
        (startLink_table env pair slot (some fd) true true _)
  | websocket inside used =>
      rename_i slot object isSSL
      refine matches'.of_event rfl used ?_
      rw [openWebsocket, note_table, withMav_table, modifySlot_table rfl]
      rfl
  | closeCounted inside used counted =>
      rename_i slot reason
      refine matches'.of_event rfl ⟨inside, used⟩ ?_
      rcases counted with rfl | rfl
      · simp only [LoopState.table, LoopState.closeCounted, LoopState.note, modifySlot_used]
        rfl
      · simp only [LoopState.table, LoopState.closeCounted, LoopState.note, modifySlot_used]
        rfl
  | closeDropped inside used =>
      rename_i slot
      refine matches'.of_event rfl ⟨inside, used⟩ ?_
      simp only [LoopState.table, LoopState.closeDropped, LoopState.note, modifySlot_used]
      rfl
  | closeDead inside used =>
      rename_i slot
      refine matches'.of_event rfl ⟨inside, used⟩ ?_
      simp only [LoopState.table, LoopState.closeDead, LoopState.note, modifySlot_used]
      rfl

private theorem TableMatches.initial (lib : Library P) (pair : PortPair) (memory : Nat → Option Nat)
    (record : Option KeyEntry) (sockets : Option Nat × Option Nat × Option Nat × Option Nat) :
    (LoopState.initial lib pair memory record sockets).TableMatches := ⟨rfl, trivial⟩

end LoopState

private theorem LoopState.TableMatches.acts {lib : Library P} {env : Environment} {pair : PortPair}
    {state next : LoopState P} (matches' : state.TableMatches)
    (acts : Acts lib env pair state next) : next.TableMatches := by
  induction acts with
  | refl => exact matches'
  | tail _ action ih => exact ih.step action

section Sessions

variable {lib : Library P} {env : Environment} {pair : PortPair} {memory : Nat → Option Nat}
  {record : Option KeyEntry} {sockets : Option Nat × Option Nat × Option Nat × Option Nat}

/-- The table of a session is the one its history describes. -/
theorem run_table (wakes : List Wakeup) :
    (run lib env pair wakes
      (LoopState.initial lib pair memory record sockets)).2.TableMatches :=
  (LoopState.TableMatches.initial lib pair memory record sockets).acts (run_acts wakes _)

/-- In every session, no state ever had a used slot beyond `max_conn2_count`
exactly when no close by end of file or failed send happened with
`conn2_count = max_conn2_count` and the last slot in use by another engineer. -/
theorem run_noOrphan (wakes : List Wakeup) :
    let state := (run lib env pair wakes (LoopState.initial lib pair memory record sockets)).2
    tableOf state.mav.log = state.table ∧
      ((∀ earlier, earlier <:+ state.mav.log → (tableOf earlier).NoOrphan) ↔
        ∀ slot reason before, (Event.closed slot reason :: before) <:+ state.mav.log →
          ¬ (tableOf before).Strands slot reason) := by
  have described : (run lib env pair wakes
    (LoopState.initial lib pair memory record sockets)).2.TableMatches := run_table wakes
  exact ⟨described.table, noOrphan_iff_obeys described.tabled⟩

/-- Two TCP engineers connect and the first one leaves: the second one's slot is
still used and beyond `max_conn2_count`. -/
theorem stranded_by_eof :
    ¬ ∀ slot, ((Scenario.session (fun _ _ => false) none [Scenario.engineerConnects 10,
        Scenario.engineerConnects 11, Scenario.engineerLeaves 0]).conn2 slot).used = true →
      slot < (Scenario.session (fun _ _ => false) none [Scenario.engineerConnects 10,
        Scenario.engineerConnects 11, Scenario.engineerLeaves 0]).maxConn2Count := by
  intro noOrphan
  have below := noOrphan 1 (by decide)
  revert below
  decide

/-- In every session, the slot count is right, a refusal means a full table and
the session never ends at the BUG branch, exactly when the sweep of silent UDP
engineers never closed a slot. -/
theorem run_slotCount (wakes : List Wakeup) :
    let state := (run lib env pair wakes (LoopState.initial lib pair memory record sockets)).2
    (state.conn2Count = state.table.busy ∧
      (∀ before, (Event.refused :: before) <:+ state.mav.log →
        ∀ slot < maxComm2Links, (tableOf before).used slot = true) ∧
      Event.bugExit ∉ state.mav.log ∧ Event.overrun ∉ state.mav.log) ↔
      ∀ slot, Event.closed slot .dead ∉ state.mav.log := by
  have described : (run lib env pair wakes
    (LoopState.initial lib pair memory record sockets)).2.TableMatches := run_table wakes
  generalize (run lib env pair wakes (LoopState.initial lib pair memory record sockets)).2 = state
    at described
  have counters := tableOf_counters described.tabled
  have count := counters.count
  rw [described.table] at count
  dsimp only
  rw [← countP_isDeadClose]
  constructor
  · rintro ⟨exact, _⟩
    have same : state.conn2Count = state.table.busy + state.mav.log.countP isDeadClose := count
    omega
  · intro swept
    have sweptAt : ∀ earlier, earlier <:+ state.mav.log → earlier.countP isDeadClose = 0 := by
      intro earlier suffix
      have fewer : earlier.countP isDeadClose ≤ state.mav.log.countP isDeadClose :=
        suffix.sublist.countP_le
      omega
    have within : ∀ event before, (event :: before) <:+ state.mav.log →
        (tableOf before).Admits event ∧ (tableOf before).max ≤ maxComm2Links ∧
          (tableOf before).count = (tableOf before).busy := by
      intro event before suffix
      have tabledHere := History.Obeys.of_suffix described.tabled suffix
      have sweptHere := sweptAt before ((List.suffix_cons _ _).trans suffix)
      have counted := (tableOf_counters tabledHere.2).count
      rw [sweptHere] at counted
      exact ⟨tabledHere.1, tableOf_max_le tabledHere.2 sweptHere, counted⟩
    refine ⟨?_, ?_, ?_, ?_⟩
    · rw [swept] at count
      exact count
    · intro before suffix
      obtain ⟨admits, _, counted⟩ := within _ before suffix
      rcases admits with full | full
      · rw [counted] at full
        exact Occupancy.all_used_of_card full
      · exact full
    · intro member
      obtain ⟨before, suffix⟩ := History.exists_suffix_of_mem member
      obtain ⟨beyond, bound, _⟩ := within _ before suffix
      exact Nat.not_lt.mpr bound beyond
    · intro member
      obtain ⟨before, suffix⟩ := History.exists_suffix_of_mem member
      obtain ⟨beyond, bound, _⟩ := within _ before suffix
      exact Nat.not_lt.mpr bound beyond

/-- A UDP engineer falls silent for more than 10 s: the sweep frees its slot and
`conn2_count` stays at one. -/
theorem miscounted_by_sweep :
    (Scenario.session (fun _ _ => false) none [Scenario.engineerDatagram ⟨1, 1⟩ [],
        { Scenario.quiet with now := 10000001 }]).conn2Count ≠
      (Scenario.session (fun _ _ => false) none [Scenario.engineerDatagram ⟨1, 1⟩ [],
        { Scenario.quiet with now := 10000001 }]).table.busy := by
  have unused : ∀ slot < maxComm2Links,
      ((Scenario.session (fun _ _ => false) none [Scenario.engineerDatagram ⟨1, 1⟩ [],
        { Scenario.quiet with now := 10000001 }]).conn2 slot).used = false := by decide +kernel
  have empty : (Scenario.session (fun _ _ => false) none [Scenario.engineerDatagram ⟨1, 1⟩ [],
      { Scenario.quiet with now := 10000001 }]).table.busy = 0 := by
    refine Finset.card_eq_zero.mpr (Finset.filter_eq_empty_iff.mpr ?_)
    intro slot member
    rw [Bool.not_eq_true]
    exact unused slot (Finset.mem_range.mp member)
  rw [empty]
  decide

end Sessions

end SupportProxy
