import SupportProxy.Parent.FailedFork
import SupportProxy.Parent.Sockets

/-! # The event loop of the parent

`main` and `wait_connection`. Whatever `epoll_wait`, `fork` and `waitpid` return, a run of the
loop is a run of the parent's actions (`run_eventLoop`), in which a child is forked only for an
entry that waits. The epoll set is built anew after a reload only: an entry whose child has been
reaped since listens on sockets that are not in it. -/

namespace SupportProxy

open Keydb

/-- An entry that `wait_connection` does not pass over. -/
def ListenPort.waits (p : ListenPort) : Bool := decide (p.pid = 0) && !p.removed

/-- `rebuild_epoll_set`: the descriptors it registers. -/
def rebuildEpollSet (ports : List ListenPort) : List Nat :=
  (ports.filter ListenPort.waits).flatMap ListenPort.held

/-- The entry that an event is for. -/
def findWaiting (fd : Nat) (ports : List ListenPort) : Option ListenPort :=
  ports.find? fun p => p.waits && p.held.contains fd

/-- An event with its descriptor, and what `fork` returns if it is called for it. -/
def serveEvent (parent : Parent) (event : Nat × Int) : Parent :=
  match findWaiting event.1 parent.ports with
  | some p => handleConnection p.port2 event.2 parent
  | none => parent

/-- The loop over the events of one `epoll_wait`. -/
def serveEvents (events : List (Nat × Int)) (parent : Parent) : Parent :=
  events.foldl serveEvent parent

/-- `now - last_reload > 5` -/
def reloadInterval : Nat := 5 * 1000000

/-- What `epoll_wait` returns, with what the calls made thereupon return. -/
inductive EpollReturn
  /-- -1 with `EINTR` -/
  | interrupted
  /-- -1 with another error -/
  | failed
  /-- 0, the children that `waitpid` returns, the time and the database where it opens -/
  | timeout (waited : List (Int × Int)) (now : Nat) (db : Option (List (List UInt8 × List UInt8)))
  | ready (events : List (Nat × Int))

/-- The state of `wait_connection`. -/
structure EventLoop where
  parent : Parent
  /-- what the current epoll set was built from -/
  epollSet : List Nat
  lastReload : Nat
  running : Bool
  /-- the port2 of the entries whose child was reaped since the set was built -/
  reaped : List Int

section Loop

variable (answers : Nat → Option Nat)

/-- The entries that `check_children` takes a child from. -/
def reapedPorts : List (Int × Int) → Parent → List Int
  | [], _ => []
  | waited :: rest, parent =>
      (if waited.1 = parent.cleanupChildPid then []
        else ((parent.ports.find? fun p => decide (p.pid = waited.1)).map
          ListenPort.port2).toList) ++ reapedPorts rest (reapChild answers parent waited)

/-- `check_children` in the loop. -/
def EventLoop.check (waited : List (Int × Int)) (loop : EventLoop) : EventLoop :=
  { loop with
    parent := checkChildren answers waited loop.parent
    reaped := reapedPorts answers waited loop.parent ++ loop.reaped }

/-- `reload_ports` in the loop, which exits where the database does not open, and the new epoll
set. -/
def EventLoop.reload (now : Nat) :
    Option (List (List UInt8 × List UInt8)) → EventLoop → EventLoop
  | none, loop => { loop with lastReload := now, running := false }
  | some db, loop =>
      let parent := reloadPorts answers db loop.parent
      { loop with
        parent := parent
        epollSet := rebuildEpollSet parent.ports
        lastReload := now
        reaped := [] }

/-- The body of the loop. -/
def EventLoop.wake : EpollReturn → EventLoop → EventLoop
  | .interrupted, loop => loop
  | .failed, loop => { loop with running := false }
  | .timeout waited now db, loop =>
      let loop := loop.check answers waited
      if loop.lastReload + reloadInterval < now then loop.reload answers now db else loop
  | .ready events, loop => { loop with parent := serveEvents events loop.parent }

inductive LoopEvent
  /-- a child exits by itself -/
  | exit (pid : Int)
  | wake (result : EpollReturn)

def LoopEvent.apply : LoopEvent → EventLoop → EventLoop
  | .exit pid, loop => { loop with parent := (ParentAction.exit pid).apply answers loop.parent }
  | .wake result, loop => if loop.running then loop.wake answers result else loop

/-- `main` up to the loop: the database, and what `fork` returns for the cleanup child. -/
def EventLoop.start (db : List (List UInt8 × List UInt8)) (cleaner : Int) (now : Nat) :
    EventLoop :=
  let parent := forkCleanupChild cleaner (traverse answers db Parent.initial)
  ⟨parent, rebuildEpollSet parent.ports, now, true, []⟩

end Loop

/-- `fork` fails or returns a new pid, whenever an event leads to it. -/
def Serves : List (Nat × Int) → Parent → Prop
  | [], _ => True
  | event :: rest, parent =>
      ((findWaiting event.1 parent.ports).isSome = true → parent.world.Forks event.2) ∧
        Serves rest (serveEvent parent event)

/-- What the system calls can return. -/
def LoopEvent.Possible (answers : Nat → Option Nat) (loop : EventLoop) : LoopEvent → Prop
  | .exit _ => True
  | .wake .interrupted => True
  | .wake .failed => True
  | .wake (.timeout waited _ db) =>
      Reaps answers waited loop.parent ∧ ∀ records, db = some records →
        (records.map Prod.fst).Nodup
  | .wake (.ready events) => Serves events loop.parent

/-- `fork` does not fail in `handle_connection`. -/
def LoopEvent.Forked : LoopEvent → Prop
  | .wake (.ready events) => ∀ event ∈ events, 0 < event.2
  | _ => True

section Functions

variable {answers : Nat → Option Nat}

private theorem findWaiting_some {fd : Nat} {ports : List ListenPort} {p : ListenPort}
    (found : findWaiting fd ports = some p) :
    p ∈ ports ∧ p.waits = true ∧ fd ∈ p.held := by
  have holds : (p.waits && p.held.contains fd) = true := by
    have matched := List.find?_some found
    exact matched
  rw [Bool.and_eq_true, List.contains_iff_mem] at holds
  exact ⟨List.mem_of_find?_eq_some found, holds⟩

private theorem ListenPort.waits_iff {p : ListenPort} :
    p.waits = true ↔ p.pid = 0 ∧ p.removed = false := by
  rw [ListenPort.waits, Bool.and_eq_true, decide_eq_true_eq, Bool.not_eq_true']

/-- An entry with a descriptor listens. -/
theorem ListenPort.listens_of_held {p : ListenPort} {fd : Nat} (held : fd ∈ p.held) :
    p.listens = true := by
  have isSome : ∀ {sock : Option Listener}, fd ∈ Listener.held sock → sock.isSome = true := by
    intro sock member
    rw [Listener.held, Option.mem_toList, Option.map_eq_some_iff] at member
    obtain ⟨listener, open_, -⟩ := member
    rw [open_]
    rfl
  rw [ListenPort.held, List.mem_append, List.mem_append, List.mem_append] at held
  rw [ListenPort.listens]
  rcases held with ((udp1 | udp2) | tcp1) | listen2
  · rw [isSome udp1, Bool.true_or, Bool.true_or, Bool.true_or]
  · rw [isSome udp2, Bool.or_true, Bool.true_or, Bool.true_or]
  · rw [isSome tcp1, Bool.or_true, Bool.true_or]
  · rw [isSome listen2, Bool.or_true]

private theorem ListenPort.Closed.held {p : ListenPort} (closed : p.Closed) : p.held = [] := by
  rw [ListenPort.held, closed.udp1, closed.udp2, closed.tcp1, closed.listen2]
  rfl

/-- The state is one that a run of the parent's actions leaves. -/
def Reached (answers : Nat → Option Nat) (forked : Prop) (parent : Parent) : Prop :=
  ∃ actions, ParentRun answers actions ∧ parent = Parent.after answers actions ∧
    (forked → ∀ action ∈ actions, action.Forked)

private theorem Reached.act {forked : Prop} {parent : Parent}
    (reached : Reached answers forked parent)
    (action : ParentAction) (possible : action.Possible answers parent)
    (succeeds : forked → action.Forked) : Reached answers forked (action.apply answers parent) := by
  obtain ⟨actions, run, rfl, all⟩ := reached
  refine ⟨action :: actions, ⟨possible, run⟩, rfl, fun holds => ?_⟩
  exact List.forall_mem_cons.mpr ⟨succeeds holds, all holds⟩

private theorem Reached.reconciled {parent : Parent} (reached : Reached answers True parent) :
    parent.Reconciled := by
  obtain ⟨actions, run, rfl, all⟩ := reached
  exact run.reconciled (all trivial)

/-- The events of one `epoll_wait` are connections of waiting entries. -/
theorem Reached.serveEvents {forked : Prop} {events : List (Nat × Int)} {parent : Parent}
    (reached : Reached answers forked parent) (serves : Serves events parent)
    (succeed : forked → ∀ event ∈ events, 0 < event.2) :
    Reached answers forked (SupportProxy.serveEvents events parent) := by
  induction events generalizing parent with
  | nil => exact reached
  | cons event rest ih =>
      refine ih ?_ serves.2 fun holds other member =>
        succeed holds other (List.mem_cons_of_mem _ member)
      have forks := serves.1
      rw [serveEvent]
      cases found : findWaiting event.1 parent.ports with
      | none => exact reached
      | some p =>
          obtain ⟨listed, waits, held⟩ := findWaiting_some found
          obtain ⟨idle, present⟩ := ListenPort.waits_iff.mp waits
          rw [found] at forks
          have connects : (ParentAction.connect p.port2 event.2).Possible answers parent :=
            ⟨⟨p, listed, rfl, idle, present, ListenPort.listens_of_held held⟩, forks rfl⟩
          exact reached.act _ connects fun holds => succeed holds event List.mem_cons_self

private theorem Reached.apply {forked : Prop} {loop : EventLoop}
    (reached : Reached answers forked loop.parent) {event : LoopEvent}
    (possible : event.Possible answers loop) (succeeds : forked → event.Forked) :
    Reached answers forked (event.apply answers loop).parent := by
  cases event with
  | exit pid => exact reached.act (.exit pid) trivial fun _ => trivial
  | wake result =>
      rw [LoopEvent.apply]
      split_ifs with running
      · cases result with
        | interrupted => exact reached
        | failed => exact reached
        | ready events => exact reached.serveEvents possible succeeds
        | timeout waited now db =>
            obtain ⟨reaps, unique⟩ := possible
            have checked : Reached answers forked (loop.check answers waited).parent :=
              reached.act (.check waited) reaps fun _ => trivial
            rw [EventLoop.wake]
            split_ifs with due
            · cases db with
              | none => exact checked
              | some records =>
                  exact checked.act (.reload records) (unique records rfl)
                    fun _ => trivial
            · exact checked
      · exact reached

private theorem traverse_cleanup (answers : Nat → Option Nat) (db : List (List UInt8 × List UInt8))
    (parent : Parent) :
    (traverse answers db parent).cleanupChildPid = parent.cleanupChildPid := by
  induction db generalizing parent with
  | nil => rfl
  | cons record rest ih =>
      refine (ih _).trans ?_
      rw [handleRecord]
      split_ifs
      · rfl
      · rw [upsertPort]
        cases parent.ports.find? fun p => decide (p.port2 = portOf record.1) <;> rfl

private theorem reached_start {db : List (List UInt8 × List UInt8)} {cleaner : Int} (now : Nat)
    (forked : Prop) (unique : (db.map Prod.fst).Nodup) (forks : cleaner = -1 ∨ 0 < cleaner) :
    Reached answers forked (EventLoop.start answers db cleaner now).parent := by
  have initial : Reached answers forked Parent.initial :=
    ⟨[], trivial, rfl, fun _ action absurd => (List.not_mem_nil absurd).elim⟩
  have loaded : Reached answers forked (traverse answers db Parent.initial) :=
    initial.act (.load db) unique fun _ => trivial
  have pids := (traverse_marks answers db Parent.initial).pids
  refine loaded.act (.forkCleanup cleaner)
    ⟨traverse_cleanup answers db Parent.initial, forks.imp_right fun positive => ⟨positive, ?_⟩⟩
    fun _ => trivial
  intro child member
  have known := List.mem_map_of_mem (f := Child.pid) member
  rw [pids] at known
  exact (List.not_mem_nil known).elim

/-- The states of the loop: the newest event first. -/
abbrev EventLoop.after (answers : Nat → Option Nat) (start : EventLoop)
    (history : List LoopEvent) : EventLoop :=
  History.replay (LoopEvent.apply answers) start history

/-- A run of the loop. -/
abbrev LoopRun (answers : Nat → Option Nat) (start : EventLoop) : List LoopEvent → Prop :=
  History.Guarded (LoopEvent.apply answers) start (LoopEvent.Possible answers)

private theorem Reached.after {start : EventLoop} {history : List LoopEvent}
    (reached : Reached answers True start.parent) (run : LoopRun answers start history)
    (forked : ∀ event ∈ history, event.Forked) :
    Reached answers True (EventLoop.after answers start history).parent := by
  induction history with
  | nil => exact reached
  | cons event before ih =>
      have earlier := ih run.2 fun other member => forked other (List.mem_cons_of_mem _ member)
      exact earlier.apply run.1 fun _ => forked event List.mem_cons_self

/-- The sockets of a waiting entry are in the epoll set, unless its child was reaped since the
set was built. -/
def EventLoop.Covered (loop : EventLoop) : Prop :=
  ∀ p ∈ loop.parent.ports, p.waits = true → ∀ fd ∈ p.held,
    fd ∈ loop.epollSet ∨ p.port2 ∈ loop.reaped

private theorem mem_rebuildEpollSet {ports : List ListenPort} {fd : Nat} :
    fd ∈ rebuildEpollSet ports ↔ ∃ p ∈ ports, p.waits = true ∧ fd ∈ p.held := by
  rw [rebuildEpollSet, List.mem_flatMap]
  simp only [List.mem_filter, and_assoc]

/-- An entry is as before, or its child has been reaped. -/
theorem mem_checkChildren {waited : List (Int × Int)} {parent : Parent} {q : ListenPort}
    (listed : q ∈ (checkChildren answers waited parent).ports) :
    q ∈ parent.ports ∨ q.port2 ∈ reapedPorts answers waited parent := by
  induction waited generalizing parent with
  | nil => exact .inl listed
  | cons first rest ih =>
      rw [reapedPorts, List.mem_append]
      rcases ih listed with before | later
      · by_cases cleaner : first.1 = parent.cleanupChildPid
        · rw [reapChild_cleaner cleaner, forkCleanupChild] at before
          split_ifs at before
          · exact .inl before
          · exact .inl before
        · rw [if_neg cleaner]
          cases found : parent.ports.find? fun p => decide (p.pid = first.1) with
          | none =>
              rw [reapChild_unknown cleaner found] at before
              exact .inl before
          | some p =>
              rw [reapChild_entry cleaner found] at before
              rcases FirstMatch.mem_of_mem_replace before with new | old
              · refine .inr (.inl ?_)
                have port2 : q.port2 = p.port2 := by
                  rw [new, childExited]
                  dsimp only
                  split_ifs <;> rfl
                rw [port2]
                exact List.mem_cons_self
              · exact .inl old
      · exact .inr (.inr later)

private theorem serveEvent_mem {event : Nat × Int} {parent : Parent} {q : ListenPort}
    (listed : q ∈ (serveEvent parent event).ports) : q ∈ parent.ports ∨ q.Closed := by
  rw [serveEvent] at listed
  cases found : findWaiting event.1 parent.ports with
  | none =>
      rw [found] at listed
      exact .inl listed
  | some p =>
      rw [found] at listed
      dsimp only at listed
      rw [handleConnection] at listed
      cases first : parent.ports.find? fun other => decide (other.port2 = p.port2) with
      | none =>
          rw [first] at listed
          exact .inl listed
      | some other =>
          rw [first] at listed
          rcases FirstMatch.mem_of_mem_replace listed with new | old
          · rw [new]
            exact .inr (closeSockets_closed _)
          · exact .inl old

private theorem serveEvents_mem {events : List (Nat × Int)} {parent : Parent} {q : ListenPort}
    (listed : q ∈ (serveEvents events parent).ports) : q ∈ parent.ports ∨ q.Closed := by
  induction events generalizing parent with
  | nil => exact .inl listed
  | cons event rest ih =>
      rcases ih listed with before | closed
      · exact serveEvent_mem before
      · exact .inr closed

private theorem EventLoop.Covered.check {loop : EventLoop} (covered : loop.Covered)
    (waited : List (Int × Int)) : (loop.check answers waited).Covered := by
  intro p listed waits fd held
  rcases mem_checkChildren listed with before | reaped
  · exact (covered p before waits fd held).imp_right (List.mem_append_right _)
  · exact .inr (List.mem_append_left _ reaped)

private theorem EventLoop.Covered.apply {loop : EventLoop} (covered : loop.Covered)
    (event : LoopEvent) :
    (event.apply answers loop).Covered := by
  cases event with
  | exit pid => exact covered
  | wake result =>
      rw [LoopEvent.apply]
      split_ifs with running
      · cases result with
        | interrupted => exact covered
        | failed => exact covered
        | ready events =>
            intro p listed waits fd held
            rcases serveEvents_mem listed with before | closed
            · exact covered p before waits fd held
            · rw [closed.held] at held
              exact (List.not_mem_nil held).elim
        | timeout waited now db =>
            rw [EventLoop.wake]
            split_ifs with due
            · cases db with
              | none => exact covered.check waited
              | some records =>
                  exact fun p listed waits fd held =>
                    .inl (mem_rebuildEpollSet.mpr ⟨p, listed, waits, held⟩)
            · exact covered.check waited
      · exact covered

/-- The children that the events of one `epoll_wait` start. -/
theorem serveEvents_started {events : List (Nat × Int)} {parent : Parent}
    (unique : (parent.ports.map ListenPort.port2).Nodup)
    (forked : ∀ event ∈ events, 0 < event.2) :
    ∃ started, (serveEvents events parent).world.children = started ++ parent.world.children ∧
      ∀ child ∈ started, ∃ p ∈ parent.ports, p.waits = true ∧
        child.pair = some (p.port1, p.port2) ∧
          ∃ event ∈ events, event.1 ∈ p.held ∧ event.2 = child.pid := by
  induction events generalizing parent with
  | nil => exact ⟨[], rfl, fun child absurd => (List.not_mem_nil absurd).elim⟩
  | cons event rest ih =>
      have positive := forked event List.mem_cons_self
      have others : ∀ other ∈ rest, 0 < other.2 :=
        fun other member => forked other (List.mem_cons_of_mem _ member)
      rw [serveEvents, List.foldl_cons]
      cases found : findWaiting event.1 parent.ports with
      | none =>
          have same : serveEvent parent event = parent := by
            rw [serveEvent, found]
          rw [same]
          obtain ⟨started, children, all⟩ := ih unique others
          refine ⟨started, children, fun child member => ?_⟩
          obtain ⟨p, listed, waits, pair, other, inside, both⟩ := all child member
          exact ⟨p, listed, waits, pair, other, List.mem_cons_of_mem _ inside, both⟩
      | some p =>
          obtain ⟨listed, waits, held⟩ := findWaiting_some found
          obtain ⟨q, first, known, port2⟩ := FirstMatch.find?_key listed (rfl : p.port2 = p.port2)
          have own : q = p := List.inj_on_of_nodup_map unique known listed port2
          subst own
          have served : serveEvent parent event = { parent with
              ports := FirstMatch.replace (fun other => decide (other.port2 = q.port2))
                (closeSockets { q with pid := event.2 }) parent.ports
              world := { parent.world with
                children := ⟨event.2, some (q.port1, q.port2), false, false⟩ ::
                  parent.world.children } } := by
            rw [serveEvent, found]
            dsimp only
            rw [handleConnection, first]
            dsimp only
            rw [if_pos positive]
          have keys : (serveEvent parent event).ports.map ListenPort.port2 =
              parent.ports.map ListenPort.port2 := by
            rw [served]
            exact FirstMatch.map_replace first rfl
          obtain ⟨started, children, all⟩ := ih (keys ▸ unique) others
          refine ⟨started ++ [⟨event.2, some (q.port1, q.port2), false, false⟩], ?_, ?_⟩
          · rw [List.append_assoc, List.singleton_append]
            refine children.trans ?_
            rw [served]
          · intro child member
            rcases List.mem_append.mp member with later | own
            · obtain ⟨other, inside, alsoWaits, pair, later, inRest, both⟩ := all child later
              rw [served] at inside
              rcases FirstMatch.mem_of_mem_replace inside with new | old
              · rw [new, ListenPort.waits_iff] at alsoWaits
                have zero : event.2 = 0 := alsoWaits.1
                omega
              · exact ⟨other, old, alsoWaits, pair, later, List.mem_cons_of_mem _ inRest, both⟩
            · rw [List.mem_singleton.mp own]
              exact ⟨q, listed, waits, rfl, event, List.mem_cons_self, held, rfl⟩

/-- **The event loop.** In every state of a run of `wait_connection` in which no fork of a
session fails, the parent is as a run of its actions leaves it: a pair has one child at most,
and a descriptor is open only for an entry without a child, and in the epoll set unless that
entry's child was reaped since the set was built. The events of one `epoll_wait` reap nothing,
and each child they start is for an entry that waited and has the descriptor of its event. -/
theorem run_eventLoop {db : List (List UInt8 × List UInt8)} {cleaner : Int} {now : Nat}
    {history : List LoopEvent} (unique : (db.map Prod.fst).Nodup)
    (forks : cleaner = -1 ∨ 0 < cleaner)
    (run : LoopRun answers (EventLoop.start answers db cleaner now) history)
    (forked : ∀ event ∈ history, event.Forked) :
    let loop := EventLoop.after answers (EventLoop.start answers db cleaner now) history
    (∃ actions, ParentRun answers actions ∧ loop.parent = Parent.after answers actions ∧
      ∀ action ∈ actions, action.Forked) ∧
    (∀ first ∈ loop.parent.world.children, ∀ second ∈ loop.parent.world.children,
      first.pair.isSome = true → first.pair.map Prod.snd = second.pair.map Prod.snd →
        first = second) ∧
    (∀ p ∈ loop.parent.ports, ∀ fd ∈ p.held,
      p.waits = true ∧ (fd ∈ loop.epollSet ∨ p.port2 ∈ loop.reaped)) ∧
    ∀ events : List (Nat × Int), (∀ event ∈ events, 0 < event.2) →
      ∃ started, (serveEvents events loop.parent).world.children =
          started ++ loop.parent.world.children ∧
        ∀ child ∈ started, ∃ p ∈ loop.parent.ports, p.waits = true ∧
          child.pair = some (p.port1, p.port2) ∧
            ∃ event ∈ events, event.1 ∈ p.held ∧ event.2 = child.pid := by
  have reached := (reached_start now True unique forks).after run forked
  have reconciled := reached.reconciled
  have covered : (EventLoop.after answers (EventLoop.start answers db cleaner now)
      history).Covered := by
    refine run.invariant (fun p listed waits fd held => ?_) fun loop event before _ =>
      before.apply event
    exact .inl (mem_rebuildEpollSet.mpr ⟨p, listed, waits, held⟩)
  refine ⟨?_, ?_, ?_, fun events positive => serveEvents_started reconciled.unique positive⟩
  · obtain ⟨actions, actionRun, same, all⟩ := reached
    exact ⟨actions, actionRun, same, all trivial⟩
  · intro first firstIn second secondIn isPair same
    obtain ⟨⟨port1, port2⟩, pair⟩ := Option.isSome_iff_exists.mp isPair
    rw [pair] at same
    obtain ⟨⟨otherPort1, otherPort2⟩, otherPair, samePort⟩ := Option.map_eq_some_iff.mp same.symm
    obtain ⟨p, listed, isPort, pid⟩ := reconciled.forked first firstIn port1 port2 pair
    obtain ⟨q, otherListed, otherIsPort, otherPid⟩ :=
      reconciled.forked second secondIn otherPort1 otherPort2 otherPair
    have one : p = q := List.inj_on_of_nodup_map reconciled.unique listed otherListed
      (isPort.trans (samePort.symm.trans otherIsPort.symm))
    exact reconciled.child_unique firstIn secondIn (pid.symm.trans (one ▸ otherPid))
  · intro p listed fd held
    have waits : p.waits = true := by
      by_contra busy
      have closed : p.Closed := by
        refine (reconciled.entries p listed).closed ?_
        rw [ListenPort.waits_iff, not_and_or, Bool.not_eq_false] at busy
        exact busy
      rw [closed.held] at held
      exact List.not_mem_nil held
    exact ⟨waits, covered p listed waits fd held⟩

end Functions

/-- A UDP packet and a TCP connection for one pair, in one `epoll_wait`. -/
def bothTransports : List LoopEvent := [.wake (.ready [(0, 7), (2, 8)])]

/-- Both transports of a pair are ready, and one child is started. -/
theorem run_eventLoop_bothTransports :
    (EventLoop.after some (EventLoop.start some [sampleRecord] 5 0)
        bothTransports).parent.world.children.map Child.pid = [7, 5] ∧
      ∃ actions, ParentRun some actions ∧
        (EventLoop.after some (EventLoop.start some [sampleRecord] 5 0)
          bothTransports).parent = Parent.after some actions ∧
            ∀ action ∈ actions, action.Forked := by
  have run : LoopRun some (EventLoop.start some [sampleRecord] 5 0) bothTransports := by
    refine ⟨⟨fun _ => .inr ⟨by decide, ?_⟩, ?_, trivial⟩, trivial⟩
    · decide +kernel
    · decide +kernel
  have forked : ∀ event ∈ bothTransports, event.Forked := by
    intro event member
    rw [List.mem_singleton.mp member]
    intro ready listed
    rcases List.mem_cons.mp listed with rfl | second
    · exact Int.natCast_pos.mpr (Nat.succ_pos 6)
    · rw [List.mem_singleton.mp second]
      exact Int.natCast_pos.mpr (Nat.succ_pos 7)
  have unique : ([sampleRecord].map Prod.fst).Nodup := List.nodup_singleton _
  exact ⟨by decide +kernel, (run_eventLoop unique (.inr (Int.natCast_pos.mpr (Nat.succ_pos 4)))
    run forked).1⟩

end SupportProxy
