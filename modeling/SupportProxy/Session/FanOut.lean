import SupportProxy.Session.SlotTable

/-! # The fan-out of a user message

The loops of the UDP and the TCP user handler that hand one message to the
engineers, for any table of slots, any counters and any answers of
`send_message`. Both loops lower `max_conn2_count`, their own bound, when a send
fails. The fan-outs of the main loop are runs of them (`eachSlot_fanOut`).

A fan-out calls `send_message` once on every slot in use exactly when no failed
send pulls the bound below a later one (`reaches_iff`), and the two handlers
leave the same table exactly when they reach no slot that they treat differently
(`agree_iff`). -/

namespace SupportProxy

/-- The slots and their counters during a fan-out, and the slots that
`send_message` was called on, the newest first. -/
structure FanOut where
  conn2 : Nat → Connection2
  conn2Count : Nat
  maxConn2Count : Nat
  calls : List Nat

/-- The handlers of user data. -/
inductive UserHandler
  | udp | tcp
deriving DecidableEq

namespace FanOut

def modifySlot (state : FanOut) (slot : Nat) (change : Connection2 → Connection2) : FanOut :=
  { state with conn2 := Function.update state.conn2 slot (change (state.conn2 slot)) }

/-- `c2.mav.send_message(msg)` -/
def send (slot : Nat) (state : FanOut) : FanOut := { state with calls := slot :: state.calls }

/-- The branch of a failed send. -/
def closeCounted (slot : Nat) (state : FanOut) : FanOut :=
  { state.modifySlot slot Connection2.close with
    maxConn2Count :=
      if state.conn2Count = state.maxConn2Count then dec8 state.maxConn2Count
      else state.maxConn2Count
    conn2Count := dec8 state.conn2Count }

/-- `c2.tx_msgs++` -/
def countTx (slot : Nat) (state : FanOut) : FanOut :=
  state.modifySlot slot fun conn => { conn with txMsgs := inc32 conn.txMsgs }

section Loops

variable (answers : Nat → Bool)

/-- The loop body of the UDP user handler. -/
def turnUdp (slot : Nat) (state : FanOut) : FanOut :=
  let conn := state.conn2 slot
  if !conn.used then state
  else if !conn.isUdp && conn.sock.isSome then
    if !answers slot then (state.send slot).closeCounted slot
    else (state.send slot).countTx slot
  else if conn.isUdp then (state.send slot).countTx slot
  else state

/-- The loop body of the TCP user handler. -/
def turnTcp (slot : Nat) (state : FanOut) : FanOut :=
  if !(state.conn2 slot).used then state
  else if !answers slot then (state.send slot).closeCounted slot
  else (state.send slot).countTx slot

def turn : UserHandler → Nat → FanOut → FanOut
  | .udp => turnUdp answers
  | .tcp => turnTcp answers

/-- The loop over `max_conn2_count`, from a slot on; it ends at the end of the
array. -/
def turns (handler : UserHandler) : Nat → Nat → FanOut → FanOut
  | 0, _, state => state
  | fuel + 1, slot, state =>
      if slot < state.maxConn2Count then
        if slot < maxComm2Links then turns handler fuel (slot + 1) (turn answers handler slot state)
        else state
      else state

/-- The fan-out of one message. -/
def run (handler : UserHandler) (state : FanOut) : FanOut := turns answers handler 256 0 state

end Loops

end FanOut

namespace UserHandler

/-- The handler calls `send_message` on a slot. -/
def serves : UserHandler → Connection2 → Bool
  | .udp, conn => conn.used && (conn.isUdp || conn.sock.isSome)
  | .tcp, conn => conn.used

/-- The handler closes a slot when the send fails. -/
def closes : UserHandler → Connection2 → Bool
  | .udp, conn => conn.used && (!conn.isUdp && conn.sock.isSome)
  | .tcp, conn => conn.used

private theorem serves_of_closes {handler : UserHandler} {conn : Connection2}
    (closes : handler.closes conn = true) : handler.serves conn = true := by
  cases handler with
  | tcp => exact closes
  | udp =>
      simp only [UserHandler.closes, Bool.and_eq_true] at closes
      simp only [serves, closes, Bool.or_true, Bool.and_self]

end UserHandler

namespace FanOut

/-- The slots before `slot` that a handler closes. -/
def failures (handler : UserHandler) (answers : Nat → Bool) (state : FanOut) (slot : Nat) : Nat :=
  (List.range slot).countP fun earlier => handler.closes (state.conn2 earlier) && !answers earlier

/-- The failed sends it takes to make the two counters equal, from where on they
fall together. -/
def slack (state : FanOut) : Nat := (state.conn2Count + 256 - state.maxConn2Count) % 256

/-- The failed sends before a slot leave it below the bound. -/
def Reached (handler : UserHandler) (answers : Nat → Bool) (state : FanOut) (slot : Nat) : Prop :=
  slot + (state.failures handler answers slot - state.slack) < state.maxConn2Count

instance (handler : UserHandler) (answers : Nat → Bool) (state : FanOut) (slot : Nat) :
    Decidable (state.Reached handler answers slot) := inferInstanceAs (Decidable (_ < _))

/-- The counters are in the range of `uint8_t`. -/
def Counted (state : FanOut) : Prop := state.conn2Count < 256 ∧ state.maxConn2Count < 256

variable {handler : UserHandler} {answers : Nat → Bool}

/-- What one turn does, for both handlers. -/
theorem turn_eq (handler : UserHandler) (answers : Nat → Bool) (slot : Nat) (state : FanOut) :
    turn answers handler slot state =
      if handler.serves (state.conn2 slot) = true then
        if handler.closes (state.conn2 slot) = true ∧ answers slot = false then
          (state.send slot).closeCounted slot
        else (state.send slot).countTx slot
      else state := by
  cases handler with
  | udp =>
      simp only [turn, turnUdp, UserHandler.serves, UserHandler.closes]
      by_cases used : (state.conn2 slot).used = true <;>
        by_cases udp : (state.conn2 slot).isUdp = true <;>
        by_cases socket : (state.conn2 slot).sock.isSome = true <;>
        by_cases answered : answers slot = true <;>
        simp [used, udp, socket, answered]
  | tcp =>
      simp only [turn, turnTcp, UserHandler.serves, UserHandler.closes]
      by_cases used : (state.conn2 slot).used = true <;>
        by_cases answered : answers slot = true <;> simp [used, answered]

/-- A turn leaves the other slots alone. -/
theorem turn_conn2 {slot other : Nat} (different : other ≠ slot) (state : FanOut) :
    (turn answers handler slot state).conn2 other = state.conn2 other := by
  rw [turn_eq]
  split
  · split
    · exact Function.update_of_ne different _ _
    · exact Function.update_of_ne different _ _
  · rfl

private theorem turns_conn2 {fuel slot other : Nat} (before : other < slot) (state : FanOut) :
    (turns answers handler fuel slot state).conn2 other = state.conn2 other := by
  induction fuel generalizing slot state with
  | zero => rfl
  | succ fuel ih =>
      have kept : (turn answers handler slot state).conn2 other = state.conn2 other :=
        turn_conn2 before.ne state
      unfold turns
      split
      · split
        · rw [ih (Nat.lt_succ_of_lt before), kept]
        · rfl
      · rfl

private theorem failures_succ (handler : UserHandler) (answers : Nat → Bool) (state : FanOut)
    (slot : Nat) :
    state.failures handler answers (slot + 1) =
      state.failures handler answers slot +
        if (handler.closes (state.conn2 slot) && !answers slot) = true then 1 else 0 := by
  unfold failures
  rw [List.range_succ, List.countP_append, List.countP_singleton]

private theorem failures_le (handler : UserHandler) (answers : Nat → Bool) (state : FanOut)
    (slot : Nat) :
    state.failures handler answers slot ≤ slot := by
  have counted := List.countP_le_length (l := List.range slot)
    (p := fun earlier => handler.closes (state.conn2 earlier) && !answers earlier)
  rw [List.length_range] at counted
  exact counted

private theorem failures_mono (handler : UserHandler) (answers : Nat → Bool) (state : FanOut)
    {slot later : Nat} (le : slot ≤ later) :
    state.failures handler answers slot ≤ state.failures handler answers later := by
  induction le with
  | refl => exact Nat.le_refl _
  | step _ ih =>
      rw [failures_succ]
      omega

/-- A fan-out that began in `start`, before its turn at a slot. -/
structure Before (handler : UserHandler) (answers : Nat → Bool) (start : FanOut) (slot : Nat)
    (state : FanOut) : Prop where
  ahead : ∀ other, slot ≤ other → state.conn2 other = start.conn2 other
  count : state.conn2Count =
    (start.conn2Count + 256 - start.failures handler answers slot) % 256
  bound : state.maxConn2Count =
    start.maxConn2Count - (start.failures handler answers slot - start.slack)

private theorem Before.start {start : FanOut} (counted : start.Counted) :
    Before handler answers start 0 start := by
  refine ⟨fun _ _ => rfl, ?_, ?_⟩
  · have none : start.failures handler answers 0 = 0 := rfl
    have small := counted.1
    omega
  · have none : start.failures handler answers 0 = 0 := rfl
    omega

/-- A turn moves the counters by a failed send of the slot. -/
theorem turn_counts (handler : UserHandler) (answers : Nat → Bool) (slot : Nat) (state : FanOut) :
    (turn answers handler slot state).conn2Count =
        (if (handler.closes (state.conn2 slot) && !answers slot) = true then
          dec8 state.conn2Count else state.conn2Count) ∧
      (turn answers handler slot state).maxConn2Count =
        if (handler.closes (state.conn2 slot) && !answers slot) = true ∧
            state.conn2Count = state.maxConn2Count then
          dec8 state.maxConn2Count else state.maxConn2Count := by
  rw [turn_eq]
  by_cases closes : handler.closes (state.conn2 slot) = true
  · rw [if_pos (UserHandler.serves_of_closes closes)]
    by_cases answered : answers slot = true
    · simp [closes, answered, countTx, modifySlot, send]
    · rw [if_pos ⟨closes, Bool.eq_false_of_not_eq_true answered⟩]
      simp only [closes, answered, Bool.not_false, Bool.and_self, ↓reduceIte, true_and]
      exact ⟨rfl, rfl⟩
  · simp only [closes, Bool.false_and, Bool.false_eq_true, false_and, ↓reduceIte]
    split
    · exact ⟨rfl, rfl⟩
    · exact ⟨rfl, rfl⟩

/-- The counters of the next turn: the bound falls from the moment on that the
counters are equal. -/
theorem Before.turn {start state : FanOut} {slot : Nat} (counted : start.Counted)
    (before : Before handler answers start slot state) (inside : slot < maxComm2Links)
    (below : slot < state.maxConn2Count) :
    Before handler answers start (slot + 1) (FanOut.turn answers handler slot state) := by
  have few := failures_le handler answers start slot
  have next := failures_succ handler answers start slot
  obtain ⟨count, bound⟩ := turn_counts handler answers slot state
  rw [before.ahead slot (Nat.le_refl slot)] at count bound
  obtain ⟨countSmall, maxSmall⟩ := counted
  have countHere := before.count
  have boundHere := before.bound
  unfold slack at boundHere
  unfold maxComm2Links at inside
  refine ⟨?_, ?_, ?_⟩
  · intro other ahead
    rw [turn_conn2 (Nat.ne_of_gt ahead)]
    exact before.ahead other (Nat.le_of_succ_le ahead)
  · rw [count]
    by_cases failed : (handler.closes (start.conn2 slot) && !answers slot) = true
    · rw [if_pos failed] at next ⊢
      unfold dec8
      omega
    · rw [if_neg failed] at next ⊢
      omega
  · rw [bound]
    unfold slack
    by_cases failed : (handler.closes (start.conn2 slot) && !answers slot) = true
    · rw [if_pos failed] at next
      by_cases equal : state.conn2Count = state.maxConn2Count
      · rw [if_pos ⟨failed, equal⟩]
        unfold dec8
        omega
      · rw [if_neg fun both => equal both.2]
        omega
    · rw [if_neg failed] at next
      rw [if_neg fun both => failed both.1]
      omega

/-- The loop goes on at a slot that the failed sends before it leave below the bound. -/
theorem Before.reached_iff {start state : FanOut} {slot : Nat}
    (before : Before handler answers start slot state) :
    start.Reached handler answers slot ↔ slot < state.maxConn2Count := by
  unfold Reached
  rw [before.bound]
  omega

/-- A slot is reached only if every earlier one is. -/
theorem Reached.of_le {start : FanOut} {slot later : Nat}
    (reached : start.Reached handler answers later) (le : slot ≤ later) :
    start.Reached handler answers slot := by
  have fewer := failures_mono handler answers start le
  unfold Reached at reached ⊢
  omega

private theorem turn_calls (slot : Nat) (state : FanOut) :
    (turn answers handler slot state).calls =
      if handler.serves (state.conn2 slot) = true then slot :: state.calls else state.calls := by
  rw [turn_eq]
  split
  · split
    · rfl
    · rfl
  · rfl

/-- The rest of a fan-out calls `send_message` once on each slot it serves and
reaches. -/
theorem turns_calls {start : FanOut} (counted : start.Counted) {fuel slot : Nat} {state : FanOut}
    (before : Before handler answers start slot state) (enough : maxComm2Links ≤ slot + fuel)
    (target : Nat) :
    (turns answers handler fuel slot state).calls.count target =
      state.calls.count target +
        if slot ≤ target ∧ target < maxComm2Links ∧ handler.serves (start.conn2 target) = true ∧
          start.Reached handler answers target then 1 else 0 := by
  induction fuel generalizing slot state with
  | zero =>
      rw [if_neg fun inside => by omega]
      rfl
  | succ fuel ih =>
      unfold turns
      by_cases below : slot < state.maxConn2Count
      · rw [if_pos below]
        by_cases inside : slot < maxComm2Links
        · rw [if_pos inside, ih (before.turn counted inside below) (by omega), turn_calls,
            before.ahead slot (Nat.le_refl slot)]
          by_cases same : target = slot
          · subst same
            have reached := before.reached_iff.mpr below
            by_cases serves : handler.serves (start.conn2 target) = true
            · rw [if_pos serves, if_neg fun all => Nat.not_succ_le_self target all.1,
                if_pos ⟨Nat.le_refl target, inside, serves, reached⟩, List.count_cons_self]
            · rw [if_neg serves, if_neg fun all => serves all.2.2.1,
                if_neg fun all => serves all.2.2.1]
          · have kept : (if handler.serves (start.conn2 slot) = true then slot :: state.calls
                else state.calls).count target = state.calls.count target := by
              split
              · exact List.count_cons_of_ne (Ne.symm same)
              · rfl
            have later : slot + 1 ≤ target ↔ slot ≤ target := by omega
            rw [kept]
            simp only [later]
        · rw [if_neg inside, if_neg fun all => by omega]
          rfl
      · rw [if_neg below, if_neg fun all =>
          below (before.reached_iff.mp (all.2.2.2.of_le all.1))]
        rfl

/-- A fan-out about to begin. -/
def start (conn2 : Nat → Connection2) (conn2Count maxConn2Count : UInt8) : FanOut :=
  ⟨conn2, conn2Count.toNat, maxConn2Count.toNat, []⟩

section Runs

variable (handler : UserHandler) (answers : Nat → Bool) (conn2 : Nat → Connection2)
  (conn2Count maxConn2Count : UInt8)

private theorem start_counted : (start conn2 conn2Count maxConn2Count).Counted :=
  ⟨conn2Count.toNat_lt, maxConn2Count.toNat_lt⟩

/-- A fan-out calls `send_message` once on each slot it serves and reaches. -/
theorem run_calls {slot : Nat} (inside : slot < maxComm2Links) :
    (run answers handler (start conn2 conn2Count maxConn2Count)).calls.count slot =
      if handler.serves (conn2 slot) = true ∧
        (start conn2 conn2Count maxConn2Count).Reached handler answers slot then 1 else 0 := by
  have counted := start_counted conn2 conn2Count maxConn2Count
  have enough : maxComm2Links ≤ 0 + 256 := by simp [maxComm2Links]
  have begun : Before handler answers _ 0 _ := .start counted
  have calls := turns_calls counted begun enough slot
  simp only [Nat.zero_le, inside, true_and] at calls
  rw [run, calls]
  exact Nat.zero_add _

/-- For every table, any counters and any answers, a fan-out calls `send_message`
exactly once on every slot in use if and only if the handler serves each of them
and the failed sends before it leave it below the bound. -/
theorem reaches_iff :
    (∀ slot < maxComm2Links, (conn2 slot).used = true →
        (run answers handler (start conn2 conn2Count maxConn2Count)).calls.count slot = 1) ↔
      ∀ slot < maxComm2Links, (conn2 slot).used = true →
        handler.serves (conn2 slot) = true ∧
          (start conn2 conn2Count maxConn2Count).Reached handler answers slot := by
  constructor
  · intro once slot inside used
    have called := once slot inside used
    rw [run_calls handler answers conn2 conn2Count maxConn2Count inside] at called
    by_contra missed
    rw [if_neg missed] at called
    exact Nat.zero_ne_one called
  · intro all slot inside used
    rw [run_calls handler answers conn2 conn2Count maxConn2Count inside,
      if_pos (all slot inside used)]

end Runs

/-- Two TCP engineers, in the first two slots. -/
def twoEngineers (slot : Nat) : Connection2 :=
  if slot < 2 then { Connection2.fresh with used := true, sock := some (10 + slot) }
  else Connection2.fresh

/-- The send to the first of two engineers fails: both handlers lower the bound
to the slot of the second one and leave it out. -/
theorem missed_after_failure :
    (∀ slot < maxComm2Links, (twoEngineers slot).used = true → slot < (2 : UInt8).toNat) ∧
      ∀ handler, ¬ ∀ slot < maxComm2Links, (twoEngineers slot).used = true →
        (run (fun slot => slot != 0) handler (start twoEngineers 2 2)).calls.count slot = 1 := by
  constructor
  · intro slot _ used
    by_contra beyond
    have unused : twoEngineers slot = Connection2.fresh := if_neg beyond
    rw [unused] at used
    exact Bool.noConfusion used
  · intro handler once
    have called := once 1 (by simp [maxComm2Links]) rfl
    cases handler <;> exact Nat.zero_ne_one called

/-- The handlers treat a slot differently: a failed send to a UDP engineer, or a
TCP engineer without a socket. -/
def Differs (answers : Nat → Bool) (conn : Connection2) (slot : Nat) : Prop :=
  if conn.isUdp = true then answers slot = false else conn.sock = none

/-- Two tables have the same slots open, with the same counters. -/
structure Agree (first second : FanOut) : Prop where
  used : ∀ slot < maxComm2Links, (first.conn2 slot).used = (second.conn2 slot).used
  txMsgs : ∀ slot < maxComm2Links, (first.conn2 slot).txMsgs = (second.conn2 slot).txMsgs
  count : first.conn2Count = second.conn2Count
  bound : first.maxConn2Count = second.maxConn2Count

private theorem Agree.refl (state : FanOut) : Agree state state :=
  ⟨fun _ _ => rfl, fun _ _ => rfl, rfl, rfl⟩

private theorem inc32_ne (count : Nat) : inc32 count ≠ count := by
  unfold inc32
  omega

/-- The turns of the two handlers are the same at a slot they do not treat
differently. -/
theorem turn_same {slot : Nat} {state : FanOut}
    (same : (state.conn2 slot).used = true → ¬ Differs answers (state.conn2 slot) slot) :
    turn answers .udp slot state = turn answers .tcp slot state := by
  simp only [turn, turnUdp, turnTcp]
  by_cases used : (state.conn2 slot).used = true
  · have alike := same used
    unfold Differs at alike
    by_cases udp : (state.conn2 slot).isUdp = true
    · rw [if_pos udp] at alike
      simp [used, udp, alike]
    · rw [if_neg udp] at alike
      simp [used, udp, Option.isSome_iff_ne_none.mpr alike]
  · simp [used]

/-- A slot treated differently stays open after the one turn, and is closed or
counted by the other. -/
theorem turn_differs {slot : Nat} {state : FanOut} (used : (state.conn2 slot).used = true)
    (differs : Differs answers (state.conn2 slot) slot) :
    ((turn answers .udp slot state).conn2 slot).used ≠
        ((turn answers .tcp slot state).conn2 slot).used ∨
      ((turn answers .udp slot state).conn2 slot).txMsgs ≠
        ((turn answers .tcp slot state).conn2 slot).txMsgs := by
  simp only [turn, turnUdp, turnTcp]
  unfold Differs at differs
  by_cases udp : (state.conn2 slot).isUdp = true
  · rw [if_pos udp] at differs
    left
    simp [used, udp, differs, countTx, closeCounted, modifySlot, send, Connection2.close]
  · rw [if_neg udp] at differs
    by_cases answered : answers slot = true
    · right
      simp [used, udp, differs, answered, countTx, modifySlot, send, (inc32_ne _).symm]
    · left
      simp [used, udp, differs, answered, closeCounted, modifySlot, Connection2.close]

/-- From a common state on, the two loops agree exactly when they reach no slot
that they treat differently. -/
theorem turns_agree_iff {begun : FanOut} (counted : begun.Counted) {fuel slot : Nat}
    {state : FanOut} (before : Before .udp answers begun slot state)
    (enough : maxComm2Links ≤ slot + fuel) :
    Agree (turns answers .udp fuel slot state) (turns answers .tcp fuel slot state) ↔
      ∀ later, slot ≤ later → later < maxComm2Links → (begun.conn2 later).used = true →
        begun.Reached .udp answers later → ¬ Differs answers (begun.conn2 later) later := by
  induction fuel generalizing slot state with
  | zero => exact ⟨fun _ later le inside => by omega, fun _ => .refl state⟩
  | succ fuel ih =>
      unfold turns
      by_cases below : slot < state.maxConn2Count
      · rw [if_pos below, if_pos below]
        by_cases inside : slot < maxComm2Links
        · rw [if_pos inside, if_pos inside]
          have conn := before.ahead slot (Nat.le_refl slot)
          by_cases differs : (begun.conn2 slot).used = true ∧
              Differs answers (begun.conn2 slot) slot
          · refine ⟨fun agree => ?_, fun none => ?_⟩
            · have used := agree.used slot inside
              have txMsgs := agree.txMsgs slot inside
              rw [turns_conn2 (Nat.lt_succ_self slot), turns_conn2 (Nat.lt_succ_self slot)] at used
              rw [turns_conn2 (Nat.lt_succ_self slot), turns_conn2 (Nat.lt_succ_self slot)]
                at txMsgs
              rw [← conn] at differs
              rcases turn_differs differs.1 differs.2 with other | other
              · exact (other used).elim
              · exact (other txMsgs).elim
            · exact (none slot (Nat.le_refl slot) inside differs.1
                (before.reached_iff.mpr below) differs.2).elim
          · have alike : turn answers .udp slot state = turn answers .tcp slot state :=
              turn_same fun used difference => by
                rw [conn] at used difference
                exact differs ⟨used, difference⟩
            rw [← alike, ih (before.turn counted inside below) (by omega)]
            refine ⟨fun none later le => ?_, fun none later le => none later (by omega)⟩
            rcases Nat.eq_or_lt_of_le le with same | ahead
            · subst same
              exact fun _ used _ difference => differs ⟨used, difference⟩
            · exact none later ahead
        · rw [if_neg inside, if_neg inside]
          exact ⟨fun _ later le within => by omega, fun _ => .refl state⟩
      · rw [if_neg below, if_neg below]
        exact ⟨fun _ later le _ _ reached =>
          (below (before.reached_iff.mp (reached.of_le le))).elim, fun _ => .refl state⟩

/-- For every table, any counters and any answers, the two handlers leave the
same slots open with the same counters if and only if the fan-out reaches no
failed send to a UDP engineer and no TCP engineer without a socket. -/
theorem agree_iff (answers : Nat → Bool) (conn2 : Nat → Connection2)
    (conn2Count maxConn2Count : UInt8) :
    Agree (run answers .udp (start conn2 conn2Count maxConn2Count))
        (run answers .tcp (start conn2 conn2Count maxConn2Count)) ↔
      ∀ slot < maxComm2Links, (conn2 slot).used = true →
        (start conn2 conn2Count maxConn2Count).Reached .udp answers slot →
          ¬ Differs answers (conn2 slot) slot := by
  have counted := start_counted conn2 conn2Count maxConn2Count
  have enough : maxComm2Links ≤ 0 + 256 := by simp [maxComm2Links]
  unfold run
  rw [turns_agree_iff counted (.start counted) enough]
  exact ⟨fun none slot => none slot (Nat.zero_le slot), fun none slot _ => none slot⟩

/-- One UDP engineer. -/
def udpEngineer (slot : Nat) : Connection2 :=
  if slot = 0 then { Connection2.fresh with used := true, isUdp := true } else Connection2.fresh

/-- The send to a UDP engineer fails: the UDP handler counts the message and
keeps the slot, the TCP handler closes it. -/
theorem disagree_on_udp :
    ¬ Agree (run (fun _ => false) .udp (start udpEngineer 1 1))
      (run (fun _ => false) .tcp (start udpEngineer 1 1)) := by
  intro agree
  have used := agree.used 0 (by simp [maxComm2Links])
  exact Bool.noConfusion used

end FanOut

/-! ## The fan-outs of the main loop -/

variable {P : Type}

/-- The loop body of a handler in the main loop. -/
def UserHandler.fanOut (lib : Library P) (env : Environment) :
    UserHandler → Message → Nat → LoopState P → Flow × LoopState P
  | .udp => fanOutUdp lib env
  | .tcp => fanOutTcp lib env

/-- The table and the counters of a session, before a fan-out. -/
def LoopState.fanOut (state : LoopState P) : FanOut :=
  ⟨state.conn2, state.conn2Count, state.maxConn2Count, []⟩

/-- Nothing but the events of a fan-out's own bookkeeping. -/
def Noted (mav next : MavState P) : Prop :=
  ∃ events, next = { mav with log := events ++ mav.log } ∧
    ∀ event ∈ events, event = .overrun ∨ ∃ slot, event = .closed slot .sendFailed

private theorem Noted.refl (mav : MavState P) : Noted mav mav :=
  ⟨[], rfl, fun _ member => (List.not_mem_nil member).elim⟩

private theorem Noted.note {mav next : MavState P} {event : Event} (noted : Noted mav next)
    (own : event = .overrun ∨ ∃ slot, event = .closed slot .sendFailed) :
    Noted mav (next.note event) := by
  obtain ⟨events, rfl, owns⟩ := noted
  refine ⟨event :: events, rfl, fun other member => ?_⟩
  rcases List.mem_cons.mp member with rfl | earlier
  · exact own
  · exact owns other earlier

section Simulation

variable (lib : Library P) (env : Environment) (msg : Message)

/-- The calls of `send_message`, the newest first, take the links from one state
to the next and have the given answers. -/
def Sends (answers : Nat → Bool) : List Nat → MavState P → MavState P → Prop
  | [], mav, next => Noted mav next
  | slot :: earlier, mav, next =>
      ∃ middle, Sends answers earlier mav middle ∧
        (sendMessage lib env (chanComm2 slot) msg middle).1 = answers slot ∧
        Noted (sendMessage lib env (chanComm2 slot) msg middle).2 next

/-- A session in the middle of a fan-out. -/
structure Follows (answers : Nat → Bool) (mav : MavState P) (fanOut : FanOut)
    (state : LoopState P) : Prop where
  conn2 : state.conn2 = fanOut.conn2
  count : state.conn2Count = fanOut.conn2Count
  bound : state.maxConn2Count = fanOut.maxConn2Count
  sends : Sends lib env msg answers fanOut.calls mav state.mav

variable {lib env msg} {answers known : Nat → Bool} {mav : MavState P}

private theorem Sends.note {calls : List Nat} {next : MavState P} {event : Event}
    (sends : Sends lib env msg answers calls mav next)
    (own : event = .overrun ∨ ∃ slot, event = .closed slot .sendFailed) :
    Sends lib env msg answers calls mav (next.note event) := by
  cases calls with
  | nil => exact Noted.note sends own
  | cons slot earlier =>
      obtain ⟨middle, before, answered, noted⟩ := sends
      exact ⟨middle, before, answered, noted.note own⟩

private theorem Sends.congr {calls : List Nat} {next : MavState P}
    (sends : Sends lib env msg known calls mav next)
    (agree : ∀ slot ∈ calls, answers slot = known slot) :
    Sends lib env msg answers calls mav next := by
  induction calls generalizing next with
  | nil => exact sends
  | cons slot earlier ih =>
      obtain ⟨middle, before, answered, noted⟩ := sends
      refine ⟨middle, ih before fun other member => agree other (List.mem_cons_of_mem _ member), ?_,
        noted⟩
      rw [agree slot List.mem_cons_self]
      exact answered

/-- What one turn of the main loop does, for both handlers. -/
theorem fanOut_eq (handler : UserHandler) (slot : Nat) (state : LoopState P) :
    handler.fanOut lib env msg slot state =
      (.next,
        if handler.serves (state.conn2 slot) = true then
          if handler.closes (state.conn2 slot) = true ∧
              (sendToSlot lib env slot msg state).1 = false then
            (sendToSlot lib env slot msg state).2.closeCounted .sendFailed slot
          else countTx slot (sendToSlot lib env slot msg state).2
        else state) := by
  generalize sent : sendToSlot lib env slot msg state = result
  obtain ⟨answer, after⟩ := result
  cases handler with
  | udp =>
      simp only [UserHandler.fanOut, fanOutUdp, sent, UserHandler.serves, UserHandler.closes]
      by_cases used : (state.conn2 slot).used = true <;>
        by_cases udp : (state.conn2 slot).isUdp = true <;>
        by_cases socket : (state.conn2 slot).sock.isSome = true <;>
        cases answer <;> simp [used, udp, socket]
  | tcp =>
      simp only [UserHandler.fanOut, fanOutTcp, sent, UserHandler.serves, UserHandler.closes]
      by_cases used : (state.conn2 slot).used = true <;> cases answer <;> simp [used]

/-- One turn, with the answer it gets. -/
theorem Follows.turn {fanOut : FanOut} {state : LoopState P} {slot : Nat}
    (follows : Follows lib env msg known mav fanOut state) (handler : UserHandler)
    (fresh : ∀ called ∈ fanOut.calls, called < slot)
    (answer : answers slot = (sendToSlot lib env slot msg state).1)
    (same : ∀ earlier < slot, answers earlier = known earlier) :
    Follows lib env msg answers mav (FanOut.turn answers handler slot fanOut)
      (handler.fanOut lib env msg slot state).2 := by
  obtain ⟨conn2, count, bound, sends⟩ := follows
  have earlier : Sends lib env msg answers fanOut.calls mav state.mav :=
    sends.congr fun called member => same called (fresh called member)
  have called : Sends lib env msg answers (slot :: fanOut.calls) mav
      (sendToSlot lib env slot msg state).2.mav :=
    ⟨state.mav, earlier, answer.symm, .refl _⟩
  rw [fanOut_eq, FanOut.turn_eq, ← answer, conn2]
  split
  · split
    · refine ⟨?_, ?_, ?_, called.note (.inr ⟨slot, rfl⟩)⟩
      · simp only [LoopState.closeCounted, LoopState.note, LoopState.modifySlot, sendToSlot,
          FanOut.closeCounted, FanOut.modifySlot, FanOut.send, conn2]
      · simp only [LoopState.closeCounted, LoopState.note, LoopState.modifySlot, sendToSlot,
          FanOut.closeCounted, FanOut.modifySlot, FanOut.send, count]
      · simp only [LoopState.closeCounted, LoopState.note, LoopState.modifySlot, sendToSlot,
          FanOut.closeCounted, FanOut.modifySlot, FanOut.send, count, bound]
        rfl
    · refine ⟨?_, count, bound, called⟩
      simp only [countTx, LoopState.modifySlot, sendToSlot, FanOut.countTx, FanOut.modifySlot,
        FanOut.send, conn2]
  · exact ⟨conn2, count, bound, earlier⟩

private theorem forSlots_follows (handler : UserHandler) (fuel slot : Nat) {fanOut : FanOut}
    {state : LoopState P} (follows : Follows lib env msg known mav fanOut state)
    (fresh : ∀ called ∈ fanOut.calls, called < slot) :
    ∃ answers, (∀ earlier < slot, answers earlier = known earlier) ∧
      Follows lib env msg answers mav (FanOut.turns answers handler fuel slot fanOut)
        (forSlots (handler.fanOut lib env msg) fuel slot state).2 := by
  induction fuel generalizing known fanOut state slot with
  | zero => exact ⟨known, fun _ _ => rfl, follows⟩
  | succ fuel ih =>
      unfold forSlots
      by_cases below : slot < state.maxConn2Count
      · by_cases inside : slot < maxComm2Links
        · rw [if_pos below, if_pos inside]
          -- the answer of this turn is fixed first, those of the later turns follow
          have learnt : ∀ earlier < slot,
              Function.update known slot (sendToSlot lib env slot msg state).1 earlier =
                known earlier := fun earlier before => Function.update_of_ne before.ne _ _
          have turned := follows.turn handler fresh (Function.update_self slot _ known) learnt
          have called : ∀ called ∈ (FanOut.turn (Function.update known slot
              (sendToSlot lib env slot msg state).1) handler slot fanOut).calls,
              called < slot + 1 := by
            intro called member
            rw [FanOut.turn_calls] at member
            split at member
            · rcases List.mem_cons.mp member with rfl | old
              · exact Nat.lt_succ_self _
              · exact Nat.lt_succ_of_lt (fresh called old)
            · exact Nat.lt_succ_of_lt (fresh called member)
          obtain ⟨answers, agree, rest⟩ := ih (slot + 1) turned called
          have here : FanOut.turn answers handler slot fanOut =
              FanOut.turn (Function.update known slot (sendToSlot lib env slot msg state).1)
                handler slot fanOut := by
            rw [FanOut.turn_eq, FanOut.turn_eq, agree slot (Nat.lt_succ_self slot)]
          refine ⟨answers, fun earlier before => ?_, ?_⟩
          · rw [agree earlier (Nat.lt_succ_of_lt before), learnt earlier before]
          · have next : (handler.fanOut lib env msg slot state).1 = .next := by rw [fanOut_eq]
            generalize handler.fanOut lib env msg slot state = result at rest next
            obtain ⟨flow, after⟩ := result
            simp only at next
            subst next
            rw [FanOut.turns, if_pos (by rw [← follows.bound]; exact below), if_pos inside, here]
            exact rest
        · rw [if_pos below, if_neg inside]
          refine ⟨known, fun _ _ => rfl, ?_⟩
          rw [FanOut.turns, if_pos (by rw [← follows.bound]; exact below), if_neg inside]
          exact ⟨follows.conn2, follows.count, follows.bound, follows.sends.note (.inl rfl)⟩
      · rw [if_neg below]
        refine ⟨known, fun _ _ => rfl, ?_⟩
        rw [FanOut.turns, if_neg (by rw [← follows.bound]; exact below)]
        exact follows

/-- A fan-out of the main loop is the fan-out of its table for the answers that
`send_message` gives. -/
theorem eachSlot_fanOut (handler : UserHandler) (state : LoopState P) :
    ∃ answers, Follows lib env msg answers state.mav (FanOut.run answers handler state.fanOut)
      (eachSlot (handler.fanOut lib env msg) state).2 := by
  have begun : Follows lib env msg (fun _ => true) state.mav state.fanOut state :=
    ⟨rfl, rfl, rfl, .refl _⟩
  obtain ⟨answers, _, follows⟩ := forSlots_follows handler 256 0 begun
    fun _ member => (List.not_mem_nil member).elim
  exact ⟨answers, follows⟩

/-- A message that the binlog tap does not strip goes through the fan-out of the
table the handler found. -/
theorem relayToEngineers_fanOut (pair : PortPair) (wake : Wakeup) (handler : UserHandler)
    (state : LoopState P)
    (passed : (binlogHandleUserMsg lib pair wake msg
      (writeTlog pair msg { state with mav1RxMsgs := inc32 state.mav1RxMsgs })).1 = false) :
    ∃ answers begun, Follows lib env msg answers begun
      (FanOut.run answers handler state.fanOut)
      (relayToEngineers lib pair wake (handler.fanOut lib env) msg state).2 := by
  have table : (binlogHandleUserMsg lib pair wake msg
      (writeTlog pair msg { state with mav1RxMsgs := inc32 state.mav1RxMsgs })).2.fanOut =
        state.fanOut := by
    unfold binlogHandleUserMsg writeTlog
    split_ifs <;> rfl
  simp only [relayToEngineers]
  generalize binlogHandleUserMsg lib pair wake msg
    (writeTlog pair msg { state with mav1RxMsgs := inc32 state.mav1RxMsgs }) = tapped
    at passed table
  obtain ⟨stripped, after⟩ := tapped
  simp only at passed table
  subst passed
  obtain ⟨answers, follows⟩ : ∃ answers, Follows lib env msg answers after.mav _ _ :=
    eachSlot_fanOut handler after
  rw [table] at follows
  exact ⟨answers, after.mav, follows⟩

end Simulation

end SupportProxy
