import SupportProxy.Session.Turns
import SupportProxy.Library.History

/-! # The counters that a session reports

Every snapshot of the live connections carries the message counters of each connection. In
every turn they keep to what the history shows of the connection (`Counted`), so every
snapshot is accurate, whatever connections have used the slot before. -/

namespace SupportProxy

open Segments

/-! ## What is counted -/

namespace Event

/-- The slot is taken by a new engineer. -/
def opens (slot : Nat) : Event → Bool
  | .opened other _ => decide (other = slot)
  | _ => false

def receivedOn (chan : Nat) : Event → Bool
  | .accepted other _ => decide (other = chan)
  | _ => false

/-- A message of the user that is meant for the engineers. -/
def offered (pair : PortPair) : Event → Bool
  | .accepted chan msg => decide (chan = chanComm1) && !tapped pair msg
  | _ => false

def passedOn : Event → Bool
  | .toUser _ _ => true
  | _ => false

/-- An event that no counter and no snapshot is about. -/
def uncounted : Event → Prop
  | .accepted _ _ => False
  | .toUser _ _ => False
  | .opened _ _ => False
  | .snapshot _ => False
  | _ => True

end Event

/-- The part of a history since the slot was last taken. -/
def sinceOpened (slot : Nat) (log : List Event) : List Event :=
  log.takeWhile fun event => !event.opens slot

def sentCount (chan : Nat) (log : List Event) : Nat := (log.filterMap (Event.sentOn chan)).length

/-- The counters of an engineer's connection: the messages accepted from it, and those counted
as sent to it, which are no fewer than were handed to its transport and no more than the user
has sent since. -/
structure Counts (pair : PortPair) (slot : Nat) (log : List Event) (rx tx : Nat) : Prop where
  rx : rx = (sinceOpened slot log).countP (Event.receivedOn (chanComm2 slot)) % 2 ^ 32
  tx : ∃ count, tx = count % 2 ^ 32 ∧ sentCount (chanComm2 slot) (sinceOpened slot log) ≤ count ∧
    count ≤ (sinceOpened slot log).countP (Event.offered pair)

/-- The counters of the user's connection. -/
structure UserCounts (log : List Event) (rx tx : Nat) : Prop where
  rx : rx = log.countP (Event.receivedOn chanComm1) % 2 ^ 32
  tx : ∃ count, tx = count % 2 ^ 32 ∧ count ≤ log.countP Event.passedOn

/-- A snapshot reports every connection as the history shows it. -/
def Accurate (pair : PortPair) (before : List Event) : Event → Prop
  | .snapshot entries => ∀ entry ∈ entries,
      entry.isUser = true ∧ UserCounts before entry.rxMsgs entry.txMsgs ∨
        entry.isUser = false ∧ ∃ slot, entry.connIndex = slot + 1 ∧
          Counts pair slot before entry.rxMsgs entry.txMsgs
  | _ => True

variable {P : Type} {lib : Library P} {env : Environment} {pair : PortPair}

/-- The counters keep to the history. -/
structure Counted (pair : PortPair) (state : LoopState P) : Prop where
  slots : ∀ slot, (state.conn2 slot).used = true →
    Counts pair slot state.mav.log (state.conn2 slot).rxMsgs (state.conn2 slot).txMsgs
  user : UserCounts state.mav.log state.mav1RxMsgs state.mav1TxMsgs
  accurate : History.Obeys (Accurate pair) state.mav.log

/-! ## Events that are not counted -/

section Uncounted

variable {event : Event}

private theorem Event.neutral.uncounted (neutral : event.neutral) : event.uncounted := by
  cases event <;> trivial

private theorem Event.uncounted.opens (uncounted : event.uncounted) (slot : Nat) :
    event.opens slot = false := by
  cases event <;> first | rfl | exact uncounted.elim

private theorem Event.uncounted.receivedOn (uncounted : event.uncounted) (chan : Nat) :
    event.receivedOn chan = false := by
  cases event <;> first | rfl | exact uncounted.elim

private theorem Event.uncounted.accurate (uncounted : event.uncounted) (before : List Event) :
    Accurate pair before event := by
  cases event <;> trivial

end Uncounted

def Uncounted (news : List Event) : Prop := ∀ event ∈ news, event.uncounted

section News

variable {news log : List Event}

private theorem Neutral.uncounted (neutral : Neutral news) : Uncounted news :=
  fun event member => (neutral event member).uncounted

private theorem Uncounted.append {other : List Event} (first : Uncounted news)
    (second : Uncounted other) :
    Uncounted (news ++ other) :=
  fun event member => (List.mem_append.mp member).elim (first event) (second event)

private theorem uncounted_sends {msg : Message}
    (sends : ∀ event ∈ news, event.neutral ∨ ∃ chan transport, event = .sent chan transport msg) :
    Uncounted news := by
  intro event member
  rcases sends event member with neutral | ⟨chan, transport, rfl⟩
  · exact neutral.uncounted
  · trivial

private theorem uncounted_tlog (msg : Message) : Uncounted (tlogEvents pair msg) := by
  unfold tlogEvents
  split
  · exact fun event member => by
      rw [List.mem_singleton.mp member]
      trivial
  · exact fun event member => (List.not_mem_nil member).elim

private theorem uncounted_status (transport : Transport) (packets : List StatusPacket) :
    Uncounted (statusEvents transport packets) := by
  intro event member
  obtain ⟨packet, -, rfl⟩ := List.mem_map.mp (List.mem_reverse.mp member)
  trivial

/-- Nothing of a reading that shows no uncounted event. -/
theorem Uncounted.countP (uncounted : Uncounted news) {reading : Event → Bool}
    (blind : ∀ event : Event, event.uncounted → reading event = false) : news.countP reading = 0 :=
  List.countP_eq_zero.mpr fun event member => by
    rw [blind event (uncounted event member)]
    exact Bool.false_ne_true

private theorem Uncounted.obeys (uncounted : Uncounted news)
    (obeys : History.Obeys (Accurate pair) log) :
    History.Obeys (Accurate pair) (news ++ log) := by
  induction news with
  | nil => exact obeys
  | cons event rest ih =>
      exact ⟨(uncounted event List.mem_cons_self).accurate _,
        ih fun other member => uncounted other (List.mem_cons_of_mem _ member)⟩

private theorem sinceOpened_append {slot : Nat} (kept : ∀ event ∈ news, event.opens slot = false) :
    sinceOpened slot (news ++ log) = news ++ sinceOpened slot log :=
  List.takeWhile_append_of_pos fun event member => by
    rw [kept event member]
    rfl

private theorem sentCount_append (chan : Nat) (first second : List Event) :
    sentCount chan (first ++ second) = sentCount chan first + sentCount chan second := by
  rw [sentCount, List.filterMap_append, List.length_append, sentCount, sentCount]

end News

private theorem inc32_mod (count : Nat) : inc32 (count % 2 ^ 32) = (count + 1) % 2 ^ 32 := by
  rw [inc32, Nat.mod_add_mod]

/-! ## A counter and its history -/

section Growth

variable {slot rx tx nextRx nextTx : Nat} {news log : List Event}

/-- The connection goes on: each counter keeps to what is added. -/
theorem Counts.grow (counts : Counts pair slot log rx tx)
    (kept : ∀ event ∈ news, event.opens slot = false)
    (received : nextRx = rx ∧ news.countP (Event.receivedOn (chanComm2 slot)) = 0 ∨
      nextRx = inc32 rx ∧ news.countP (Event.receivedOn (chanComm2 slot)) = 1)
    (sent : nextTx = tx ∧ sentCount (chanComm2 slot) news = 0 ∨
      nextTx = inc32 tx ∧ sentCount (chanComm2 slot) news ≤ 1 ∧
        1 ≤ news.countP (Event.offered pair)) :
    Counts pair slot (news ++ log) nextRx nextTx := by
  obtain ⟨count, isCount, atLeast, atMost⟩ := counts.tx
  constructor
  · rw [sinceOpened_append kept, List.countP_append]
    rcases received with ⟨same, none⟩ | ⟨more, one⟩
    · rw [same, none, Nat.zero_add]
      exact counts.rx
    · rw [more, one, counts.rx, inc32_mod, Nat.add_comm]
  · rw [sinceOpened_append kept, List.countP_append, sentCount_append]
    rcases sent with ⟨same, none⟩ | ⟨more, once, offered⟩
    · exact ⟨count, same.trans isCount, by omega, by omega⟩
    · refine ⟨count + 1, ?_, by omega, by omega⟩
      rw [more, isCount, inc32_mod]

private theorem UserCounts.grow (counts : UserCounts log rx tx)
    (received : nextRx = rx ∧ news.countP (Event.receivedOn chanComm1) = 0 ∨
      nextRx = inc32 rx ∧ news.countP (Event.receivedOn chanComm1) = 1)
    (sent : nextTx = tx ∨ nextTx = inc32 tx ∧ 1 ≤ news.countP Event.passedOn) :
    UserCounts (news ++ log) nextRx nextTx := by
  obtain ⟨count, isCount, atMost⟩ := counts.tx
  constructor
  · rw [List.countP_append]
    rcases received with ⟨same, none⟩ | ⟨more, one⟩
    · rw [same, none, Nat.zero_add]
      exact counts.rx
    · rw [more, one, counts.rx, inc32_mod, Nat.add_comm]
  · rw [List.countP_append]
    rcases sent with same | ⟨more, passed⟩
    · exact ⟨count, same.trans isCount, by omega⟩
    · refine ⟨count + 1, ?_, by omega⟩
      rw [more, isCount, inc32_mod]

end Growth

/-! ## What a turn counts -/

namespace Counted

variable {state next : LoopState P}

/-- Nothing is counted. -/
theorem steady (counted : Counted pair state) (steady : Steady state next) {news : List Event}
    (log : next.mav.log = news ++ state.mav.log) (uncounted : Uncounted news)
    (unsent : ∀ slot, sentCount (chanComm2 slot) news = 0) : Counted pair next where
  slots := by
    intro slot used
    have kept := steady.slots slot
    rw [log]
    exact (counted.slots slot (kept.used used)).grow
      (fun event member => (uncounted event member).opens slot)
      (.inl ⟨kept.rx used, uncounted.countP fun _ blind => blind.receivedOn _⟩)
      (.inl ⟨kept.tx used, unsent slot⟩)
  user := by
    rw [log]
    exact counted.user.grow
      (.inl ⟨steady.userRx, uncounted.countP fun _ blind => blind.receivedOn _⟩)
      (.inl steady.userTx)
  accurate := by
    rw [log]
    exact uncounted.obeys counted.accurate

private theorem heard (counted : Counted pair state) {msg : Message}
    (heard : Heard lib pair msg state next) : Counted pair next := by
  obtain ⟨news, log, copies, stripped, sent⟩ := heard.copies
  have silent : Uncounted (news ++ tlogEvents pair msg) :=
    (uncounted_sends copies.sends).append (uncounted_tlog msg)
  have added : next.mav.log = ((news ++ tlogEvents pair msg) ++ [.accepted chanComm1 msg]) ++
      state.mav.log := by
    rw [log, List.append_assoc _ [_]]
    rfl
  have own : Event.receivedOn chanComm1 (.accepted chanComm1 msg) = true := by
    rw [Event.receivedOn, decide_eq_true_eq]
  constructor
  · intro slot used
    obtain ⟨usedBefore, rx⟩ := heard.rx slot used
    have other : Event.receivedOn (chanComm2 slot) (.accepted chanComm1 msg) = false := by
      refine decide_eq_false ?_
      rw [chanComm1, chanComm2]
      omega
    rw [added]
    refine (counted.slots slot usedBefore).grow ?_ (.inl ⟨rx, ?_⟩) ?_
    · intro event member
      rcases List.mem_append.mp member with early | last
      · exact (silent event early).opens slot
      · rw [List.mem_singleton.mp last]
        rfl
    · rw [List.countP_append, silent.countP fun _ blind => blind.receivedOn _,
        List.countP_singleton, other]
      rfl
    · have onlyCopies : sentCount (chanComm2 slot)
          ((news ++ tlogEvents pair msg) ++ [.accepted chanComm1 msg]) =
            (news.filterMap (Event.sentOn (chanComm2 slot))).length := by
        have tlog : (tlogEvents pair msg).filterMap (Event.sentOn (chanComm2 slot)) = [] := by
          unfold tlogEvents
          split <;> rfl
        rw [sentCount_append, sentCount_append, sentCount, sentCount, tlog]
        rfl
      rw [onlyCopies]
      rcases sent slot used with ⟨same, none⟩ | ⟨more, untapped⟩
      · rw [none]
        exact .inl ⟨same, rfl⟩
      · have offered : Event.offered pair (.accepted chanComm1 msg) = true := by
          rw [Event.offered, untapped, decide_eq_true rfl]
          rfl
        refine .inr ⟨more, (copies.once slot).length_le, ?_⟩
        rw [List.countP_append, List.countP_singleton, if_pos offered]
        exact Nat.le_add_left _ _
  · rw [added]
    refine counted.user.grow (.inr ⟨heard.userRx, ?_⟩) (.inl heard.userTx)
    rw [List.countP_append, silent.countP fun _ blind => blind.receivedOn _, List.countP_singleton,
      if_pos own]
  · rw [log]
    exact silent.obeys ⟨trivial, counted.accurate⟩

private theorem passed (counted : Counted pair state) {slot : Nat} {msg : Message}
    (passed : Passed pair slot msg state next) : Counted pair next := by
  obtain ⟨sent, log, copy⟩ := passed.sent
  have silent : Uncounted sent := uncounted_sends copy.sends
  have recorded : Uncounted (tlogEvents pair msg) := uncounted_tlog msg
  have added : next.mav.log = (sent ++ ([.toUser slot msg] ++ (tlogEvents pair msg ++
      [.accepted (chanComm2 slot) msg]))) ++ state.mav.log := by
    rw [log]
    simp only [List.append_assoc, List.cons_append, List.nil_append]
  constructor
  · intro other used
    obtain ⟨sameUse, tx, rx⟩ := passed.slots other
    rw [sameUse] at used
    rw [added]
    refine (counted.slots other used).grow ?_ ?_ (.inl ⟨tx, ?_⟩)
    · intro event member
      simp only [List.mem_append, List.mem_singleton] at member
      rcases member with early | rfl | late | rfl
      · exact (silent event early).opens other
      · rfl
      · exact (recorded event late).opens other
      · rfl
    · have counts : List.countP (Event.receivedOn (chanComm2 other))
          (sent ++ ([.toUser slot msg] ++ (tlogEvents pair msg ++
            [.accepted (chanComm2 slot) msg]))) =
          [Event.accepted (chanComm2 slot) msg].countP (Event.receivedOn (chanComm2 other)) := by
        rw [List.countP_append, List.countP_append, List.countP_append,
          silent.countP fun _ blind => blind.receivedOn _,
          recorded.countP fun _ blind => blind.receivedOn _, Nat.zero_add, Nat.zero_add]
        exact Nat.zero_add _
      rw [counts, List.countP_singleton]
      by_cases own : other = slot
      · have shown :
            Event.receivedOn (chanComm2 other) (.accepted (chanComm2 slot) msg) = true := by
          rw [own]
          exact decide_eq_true rfl
        rw [if_pos own] at rx
        exact .inr ⟨rx, if_pos shown⟩
      · have hidden :
            ¬Event.receivedOn (chanComm2 other) (.accepted (chanComm2 slot) msg) = true := by
          rw [Event.receivedOn, decide_eq_true_eq]
          exact (chanComm2_ne own).symm
        rw [if_neg own] at rx
        exact .inl ⟨rx, if_neg hidden⟩
    · have different := chanComm2_ne_comm1 other
      have tlog : (tlogEvents pair msg).filterMap (Event.sentOn (chanComm2 other)) = [] := by
        unfold tlogEvents
        split <;> rfl
      rw [sentCount_append, sentCount_append, sentCount_append, sentCount, copy.others _ different,
        sentCount, sentCount, tlog]
      rfl
  · rw [added]
    refine counted.user.grow (.inl ⟨passed.userRx, ?_⟩)
      (passed.userTx.imp_right fun more => ⟨more, ?_⟩)
    · have hidden : ¬Event.receivedOn chanComm1 (.accepted (chanComm2 slot) msg) = true := by
        rw [Event.receivedOn, decide_eq_true_eq, chanComm1, chanComm2]
        omega
      rw [List.countP_append, List.countP_append, List.countP_append,
        silent.countP fun _ blind => blind.receivedOn _,
        recorded.countP fun _ blind => blind.receivedOn _, List.countP_singleton,
        List.countP_singleton, if_neg hidden]
      rfl
    · have shown : Event.passedOn (.toUser slot msg) = true := rfl
      rw [List.countP_append, List.countP_append, List.countP_singleton, if_pos shown]
      omega
  · rw [log]
    have noted : Uncounted (tlogEvents pair msg) := uncounted_tlog msg
    have inner : History.Obeys (Accurate pair) (.toUser slot msg :: (tlogEvents pair msg ++
        .accepted (chanComm2 slot) msg :: state.mav.log)) :=
      ⟨trivial, noted.obeys ⟨trivial, counted.accurate⟩⟩
    rw [List.append_assoc]
    exact silent.obeys inner

private theorem taken (counted : Counted pair state) {slot : Nat} {udp : Bool}
    (taken : Taken slot udp state next) : Counted pair next := by
  have added : next.mav.log = [.opened slot udp] ++ state.mav.log := taken.log
  constructor
  · intro other used
    by_cases own : other = slot
    · have fresh : sinceOpened slot next.mav.log = [] := by
        have opens : (!Event.opens slot (.opened slot udp)) = false := by
          rw [Event.opens, decide_eq_true rfl]
          rfl
        rw [taken.log]
        exact List.takeWhile_cons_of_neg (by rw [opens]; exact Bool.false_ne_true)
      rw [own, taken.rx, taken.tx]
      constructor
      · rw [fresh]
        rfl
      · rw [fresh]
        exact ⟨0, rfl, Nat.le_refl _, Nat.le_refl _⟩
    · rw [taken.others other own] at used ⊢
      rw [added]
      refine (counted.slots other used).grow ?_ (.inl ⟨rfl, rfl⟩) (.inl ⟨rfl, rfl⟩)
      intro event member
      rw [List.mem_singleton.mp member]
      exact decide_eq_false (Ne.symm own)
  · rw [added]
    exact counted.user.grow (.inl ⟨taken.userRx, rfl⟩) (.inl taken.userTx)
  · rw [taken.log]
    exact ⟨trivial, counted.accurate⟩

private theorem snapshot (counted : Counted pair state) (wake : Wakeup) :
    Accurate pair state.mav.log (.snapshot (snapshotEntries pair wake state)) := by
  intro entry member
  rcases List.mem_append.mp member with user | engineers
  · split_ifs at user
    · rw [List.mem_singleton.mp user]
      exact .inl ⟨rfl, counted.user⟩
    · exact (List.not_mem_nil user).elim
  · obtain ⟨slot, isUsed, rfl⟩ := List.mem_map.mp engineers
    exact .inr ⟨rfl, slot, rfl, counted.slots slot (List.mem_filter.mp isUsed).2⟩

private theorem turn (counted : Counted pair state) (turn : Turn lib pair state next) :
    Counted pair next := by
  cases turn with
  | quiet binlog steady neutral =>
      obtain ⟨news, log, neutral⟩ := neutral
      refine counted.steady steady log neutral.uncounted fun slot => ?_
      rw [sentCount, neutral.filterMap fun _ blind => blind.sentOn _]
      rfl
  | heard msg heard => exact counted.heard heard
  | passed slot msg passed => exact counted.passed passed
  | taken slot udp taken => exact counted.taken taken
  | ticked io transport steady binlog told =>
      refine counted.steady steady told (uncounted_status transport _) fun slot => ?_
      have none : (statusEvents transport (state.binlog.tick io).1).filterMap
          (Event.sentOn (chanComm2 slot)) = [] := by
        refine List.filterMap_eq_nil_iff.mpr fun event member => ?_
        obtain ⟨packet, -, rfl⟩ := List.mem_map.mp (List.mem_reverse.mp member)
        rfl
      rw [sentCount, none]
      rfl
  | reported wake binlog steady log =>
      have accurate := counted.snapshot wake
      have added : next.mav.log = [.snapshot (snapshotEntries pair wake state)] ++ state.mav.log :=
        log
      have own : ∀ event ∈ [Event.snapshot (snapshotEntries pair wake state)],
          event = .snapshot (snapshotEntries pair wake state) :=
        fun event member => List.mem_singleton.mp member
      generalize snapshotEntries pair wake state = entries at accurate added own
      constructor
      · intro slot used
        have kept := steady.slots slot
        rw [added]
        refine (counted.slots slot (kept.used used)).grow (fun event member => ?_)
          (.inl ⟨kept.rx used, rfl⟩) (.inl ⟨kept.tx used, rfl⟩)
        rw [own event member]
        rfl
      · rw [added]
        exact counted.user.grow (.inl ⟨steady.userRx, rfl⟩) (.inl steady.userTx)
      · rw [added]
        exact ⟨accurate, counted.accurate⟩

private theorem turns (counted : Counted pair state) (turns : Turns lib pair state next) :
    Counted pair next := by
  induction turns with
  | refl => exact counted
  | tail _ turn ih => exact ih.turn turn

end Counted

private theorem counted_initial {memory : Nat → Option Nat} {record : Option KeyEntry}
    {sockets : Option Nat × Option Nat × Option Nat × Option Nat} :
    Counted pair (LoopState.initial lib pair memory record sockets) where
  slots := fun _ used => (Bool.false_ne_true used).elim
  user := ⟨rfl, 0, rfl, Nat.le_refl _⟩
  accurate := trivial

/-- **Every snapshot is accurate.** In every session, whatever connections have used a slot,
each snapshot reports of each connection the number of messages accepted from it since it was
opened, and as sent to it no fewer than went to its transport and no more than the user sent
since; the counters are those numbers modulo 2^32. -/
theorem run_reports {memory : Nat → Option Nat} {record : Option KeyEntry}
    {sockets : Option Nat × Option Nat × Option Nat × Option Nat} (wakes : List Wakeup) :
    History.Obeys (Accurate pair) (run lib env pair wakes
      (LoopState.initial lib pair memory record sockets)).2.mav.log := by
  have counted : Counted pair (run lib env pair wakes
      (LoopState.initial lib pair memory record sockets)).2 :=
    counted_initial.turns (run_turns wakes _)
  exact counted.accurate

end SupportProxy
