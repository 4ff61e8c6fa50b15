import SupportProxy.Parent.Ports

/-! # The port list and the children

Entry and world are kept apart: `Entry` is what holds of one entry beside the children there
are, `Outcome` what a function of one entry does, and `Reconciled` the invariant of the list,
which every function of the parent keeps as long as no fork of a session fails. -/

namespace SupportProxy

open Keydb

namespace ListenPort

/-- No listening socket is open. -/
structure Closed (p : ListenPort) : Prop where
  udp1 : p.sock1Udp = none
  udp2 : p.sock2Udp = none
  tcp1 : p.sock1Tcp = none
  listen2 : p.sock2Listen = none

/-- Every open listening socket is bound to a port of the entry. -/
structure Bound (p : ListenPort) : Prop where
  udp1 : ∀ listener, p.sock1Udp = some listener → listener.port = p.port1
  udp2 : ∀ listener, p.sock2Udp = some listener → listener.port = p.port2
  tcp1 : ∀ listener, p.sock1Tcp = some listener → listener.port = p.port1
  listen2 : ∀ listener, p.sock2Listen = some listener → listener.port = p.port2

private theorem Closed.bound {p : ListenPort} (closed : p.Closed) : p.Bound := by
  have absent : ∀ {sock : Option Listener} {port : Int}, sock = none →
      ∀ listener, sock = some listener → listener.port = port := by
    intro sock port none listener some
    rw [none] at some
    cases some
  exact ⟨absent closed.udp1, absent closed.udp2, absent closed.tcp1, absent closed.listen2⟩

end ListenPort

/-- No socket is open after `close_sockets`. -/
theorem closeSockets_closed (p : ListenPort) : (closeSockets p).Closed := ⟨rfl, rfl, rfl, rfl⟩

/-- Children keep their pids and pairs, and a SIGTERM is not taken back. -/
def World.Marks (before after : World) : Prop :=
  ∃ mark : Child → Child, after.children = before.children.map mark ∧
    ∀ child, (mark child).pid = child.pid ∧ (mark child).pair = child.pair ∧
      (child.terminated = true → (mark child).terminated = true)

namespace World.Marks

variable {before middle after : World}

/-- The same children. -/
theorem of_children (same : after.children = before.children) : before.Marks after :=
  ⟨id, by rw [same, List.map_id], fun _ => ⟨rfl, rfl, id⟩⟩

/-- One after the other. -/
theorem trans (first : before.Marks middle) (second : middle.Marks after) : before.Marks after := by
  obtain ⟨early, earlyChildren, earlyKeeps⟩ := first
  obtain ⟨late, lateChildren, lateKeeps⟩ := second
  refine ⟨late ∘ early, by rw [lateChildren, earlyChildren, List.map_map], fun child => ?_⟩
  obtain ⟨pid, pair, told⟩ := earlyKeeps child
  obtain ⟨latePid, latePair, lateTold⟩ := lateKeeps (early child)
  exact ⟨latePid.trans pid, latePair.trans pair, fun was => lateTold (told was)⟩

/-- A kill at most marks a child. -/
theorem kill (target : Int) (world : World) : world.Marks (world.kill target) := by
  refine ⟨Child.terminate target, rfl, fun child => ?_⟩
  rw [Child.terminate]
  split_ifs
  · exact ⟨rfl, rfl, fun _ => rfl⟩
  · exact ⟨rfl, rfl, id⟩

/-- Marking keeps the children and their pids. -/
theorem pids (marks : before.Marks after) :
    after.children.map Child.pid = before.children.map Child.pid := by
  obtain ⟨mark, children, keeps⟩ := marks
  rw [children, List.map_map]
  exact List.map_congr_left fun child _ => (keeps child).1

/-- A child after the marks is one of before. -/
theorem origin (marks : before.Marks after) {child : Child} (member : child ∈ after.children) :
    ∃ original ∈ before.children, child.pid = original.pid ∧ child.pair = original.pair ∧
      (original.terminated = true → child.terminated = true) := by
  obtain ⟨mark, children, keeps⟩ := marks
  rw [children] at member
  obtain ⟨original, inside, rfl⟩ := List.mem_map.mp member
  exact ⟨original, inside, keeps original⟩

/-- A child of before is still there. -/
theorem image (marks : before.Marks after) {child : Child} (member : child ∈ before.children) :
    ∃ marked ∈ after.children, marked.pid = child.pid ∧ marked.pair = child.pair := by
  obtain ⟨mark, children, keeps⟩ := marks
  refine ⟨mark child, ?_, (keeps child).1, (keeps child).2.1⟩
  rw [children]
  exact List.mem_map_of_mem member

end World.Marks

/-- Pids are positive and unique, and every signal went to a child. -/
structure World.Sound (world : World) : Prop where
  unique : (world.children.map Child.pid).Nodup
  positive : ∀ child ∈ world.children, 0 < child.pid
  signals : ∀ target children, .kill target children ∈ world.log → target ∈ children

/-- An entry beside the children. -/
structure Entry (world : World) (p : ListenPort) : Prop where
  closed : p.pid ≠ 0 ∨ p.removed = true → p.Closed
  bound : p.Bound
  owned : p.pid ≠ 0 → ∃ child ∈ world.children, child.pid = p.pid ∧
    ∃ port1, child.pair = some (port1, p.port2)
  told : ∀ child ∈ world.children, child.pid = p.pid → ∀ port1,
    child.pair = some (port1, p.port2) → p.removed = true ∨ p.port1 ≠ port1 →
      child.terminated = true

private theorem Entry.marked {before after : World} {p : ListenPort} (entry : Entry before p)
    (marks : before.Marks after) : Entry after p := by
  refine ⟨entry.closed, entry.bound, fun running => ?_, ?_⟩
  · obtain ⟨child, member, pid, port1, pair⟩ := entry.owned running
    obtain ⟨marked, inside, samePid, samePair⟩ := marks.image member
    exact ⟨marked, inside, samePid.trans pid, port1, samePair.trans pair⟩
  · intro child member pid port1 pair astray
    obtain ⟨original, inside, samePid, samePair, told⟩ := marks.origin member
    refine told (entry.told original inside (samePid.symm.trans pid) port1 ?_ astray)
    exact samePair.symm.trans pair

/-- What a function of one entry does. -/
structure Outcome (p : ListenPort) (world : World) (result : ListenPort × World) : Prop where
  port2 : result.1.port2 = p.port2
  pid : result.1.pid = p.pid
  marks : world.Marks result.2
  sound : result.2.Sound
  entry : Entry result.2 result.1

private theorem World.Sound.congr {before after : World} (sound : before.Sound)
    (children : after.children = before.children)
    (signals : ∀ target pids, .kill target pids ∈ after.log → target ∈ pids) : after.Sound :=
  ⟨by rw [children]; exact sound.unique, by rw [children]; exact sound.positive, signals⟩

/-- A signal to a child. -/
theorem World.Sound.kill {world : World} (sound : world.Sound) {target : Int}
    (child : target ∈ world.children.map Child.pid) : (world.kill target).Sound := by
  have marks := World.Marks.kill target world
  refine ⟨by rw [marks.pids]; exact sound.unique, fun marked member => ?_,
    fun other pids logged => ?_⟩
  · obtain ⟨original, inside, pid, _⟩ := marks.origin member
    rw [pid]
    exact sound.positive original inside
  · rcases List.mem_cons.mp logged with own | earlier
    · obtain ⟨rfl, rfl⟩ := ParentEvent.kill.inj own
      exact child
    · exact sound.signals other pids earlier

section Functions

variable {answers : Nat → Option Nat}

private theorem openSocket_bound {port : Int} {sock : Option Listener} (world : World)
    (bound : ∀ listener, sock = some listener → listener.port = port) :
    ∀ listener, (openSocket answers port sock world).1 = some listener → listener.port = port := by
  intro listener opened
  cases sock with
  | some open_ => exact bound listener opened
  | none =>
      rw [openSocket] at opened
      obtain ⟨fd, _, rfl⟩ := Option.map_eq_some_iff.mp opened
      rfl

private theorem openSocket_world (answers : Nat → Option Nat) (port : Int) (sock : Option Listener)
    (world : World) :
    (openSocket answers port sock world).2.children = world.children ∧
      (openSocket answers port sock world).2.log = world.log := by
  cases sock with
  | some listener => exact ⟨rfl, rfl⟩
  | none => exact ⟨rfl, rfl⟩

/-- Opening sockets starts no child and ends none. -/
theorem openSockets_world (answers : Nat → Option Nat) (p : ListenPort) (world : World) :
    (openSockets answers p world).2.children = world.children ∧
      (openSockets answers p world).2.log = world.log := by
  have first := openSocket_world answers p.port1 p.sock1Udp world
  have second := openSocket_world answers p.port2 p.sock2Udp
    (openSocket answers p.port1 p.sock1Udp world).2
  have third := openSocket_world answers p.port1 p.sock1Tcp
    (openSocket answers p.port2 p.sock2Udp (openSocket answers p.port1 p.sock1Udp world).2).2
  have fourth := openSocket_world answers p.port2 p.sock2Listen
    (openSocket answers p.port1 p.sock1Tcp
      (openSocket answers p.port2 p.sock2Udp (openSocket answers p.port1 p.sock1Udp world).2).2).2
  exact ⟨fourth.1.trans (third.1.trans (second.1.trans first.1)),
    fourth.2.trans (third.2.trans (second.2.trans first.2))⟩

private theorem openSockets_bound {p : ListenPort} (world : World) (bound : p.Bound) :
    (openSockets answers p world).1.Bound :=
  ⟨openSocket_bound _ bound.udp1, openSocket_bound _ bound.udp2, openSocket_bound _ bound.tcp1,
    openSocket_bound _ bound.listen2⟩

/-- An idle entry may open its sockets. -/
theorem openSockets_outcome (answers : Nat → Option Nat) (p : ListenPort) {world : World}
    (sound : world.Sound)
    (idle : p.pid = 0) (present : p.removed = false) (bound : p.Bound) :
    Outcome p world (openSockets answers p world) := by
  obtain ⟨children, log⟩ := openSockets_world answers p world
  refine ⟨rfl, rfl, .of_children children, sound.congr children (by rw [log]; exact sound.signals),
    ⟨?_, openSockets_bound world bound, fun running => (running idle).elim, ?_⟩⟩
  · rintro (running | gone)
    · exact (running idle).elim
    · exact (Bool.false_ne_true (present.symm.trans gone)).elim
  · intro child member pid
    rw [children] at member
    have positive := sound.positive child member
    have zero : child.pid = 0 := pid.trans idle
    omega

/-- A child that is told to end has been told. -/
theorem World.kill_told {world : World} {child : Child} {target : Int}
    (member : child ∈ (world.kill target).children) (pid : child.pid = target) :
    child.terminated = true := by
  obtain ⟨original, _, rfl⟩ := List.mem_map.mp member
  rw [Child.terminate] at pid ⊢
  by_cases hit : target = -1 ∨ original.pid = target
  · rw [if_pos hit]
  · rw [if_neg hit] at pid
    exact (hit (.inr pid)).elim

private theorem Entry.child {world : World} {p : ListenPort} (entry : Entry world p)
    (running : p.pid ≠ 0) :
    p.pid ∈ world.children.map Child.pid := by
  obtain ⟨child, member, pid, _⟩ := entry.owned running
  rw [← pid]
  exact List.mem_map_of_mem member

private theorem upsertEntry_outcome (port1 : Int) (flags : Nat) (fcSysid : UInt8) {p : ListenPort}
    {world : World} (sound : world.Sound) (entry : Entry world p) :
    Outcome p world (upsertEntry answers port1 flags fcSysid p world) := by
  rw [upsertEntry]
  dsimp only
  by_cases gone : p.removed = true
  · -- it comes back, and waits for the child there may be
    rw [if_pos gone]
    obtain ⟨udp1, udp2, tcp1, listen2⟩ := entry.closed (.inr gone)
    have closed : ({ p with
        seen := true, removed := false, port1 := port1, flags := flags, fcSysid := fcSysid } :
          ListenPort).Closed := ⟨udp1, udp2, tcp1, listen2⟩
    split_ifs with idle
    · obtain ⟨port2, pid, marks, sound, opened⟩ := openSockets_outcome answers { p with
          seen := true, removed := false, port1 := port1, flags := flags, fcSysid := fcSysid }
        sound idle rfl closed.bound
      exact ⟨port2, pid, marks, sound, opened⟩
    · refine ⟨rfl, rfl, .of_children rfl, sound, ⟨fun _ => closed, closed.bound, entry.owned, ?_⟩⟩
      intro child member pid old pair _
      exact entry.told child member pid old pair (.inl gone)
  · rw [if_neg gone]
    have present : p.removed = false := (Bool.not_eq_true _).mp gone
    by_cases moved : p.port1 ≠ port1
    · rw [if_pos moved]
      have closed : ({ closeSockets { p with seen := true } with
          port1 := port1, flags := flags, fcSysid := fcSysid } : ListenPort).Closed :=
        ⟨rfl, rfl, rfl, rfl⟩
      by_cases idle : p.pid = 0
      · have still : (closeSockets { p with seen := true }).pid = 0 := idle
        rw [if_neg (not_not_intro still), if_pos still]
        obtain ⟨port2, pid, marks, sound, opened⟩ := openSockets_outcome answers
          { closeSockets { p with seen := true } with
            port1 := port1, flags := flags, fcSysid := fcSysid }
          sound idle present closed.bound
        exact ⟨port2, pid, marks, sound, opened⟩
      · have running : (closeSockets { p with seen := true }).pid ≠ 0 := idle
        rw [if_pos running, if_neg running]
        have marks : world.Marks (world.kill p.pid) := .kill p.pid world
        have moved := entry.marked marks
        refine ⟨rfl, rfl, marks, sound.kill (entry.child idle),
          ⟨fun _ => closed, closed.bound, moved.owned, ?_⟩⟩
        intro child member pid _ _ _
        exact World.kill_told member pid
    · rw [if_neg moved]
      obtain ⟨udp1, udp2, tcp1, listen2⟩ := entry.bound
      refine ⟨rfl, rfl, .of_children rfl, sound, ⟨?_, ⟨udp1, udp2, tcp1, listen2⟩, entry.owned,
        entry.told⟩⟩
      intro busy
      obtain ⟨udp1, udp2, tcp1, listen2⟩ := entry.closed busy
      exact ⟨udp1, udp2, tcp1, listen2⟩

private theorem World.Sound.connRemove {world : World} (sound : world.Sound) (port2 : Int) :
    (world.connRemove port2).Sound := by
  refine sound.congr rfl fun target pids logged => ?_
  exact sound.signals target pids ((List.mem_cons.mp logged).resolve_left ParentEvent.noConfusion)

private theorem retire_outcome {p : ListenPort} {world : World} (sound : world.Sound)
    (entry : Entry world p) : Outcome p world (retire p world) := by
  rw [retire]
  by_cases goes : (!p.seen && !p.removed) = true
  · rw [if_pos goes]
    dsimp only
    have closed : (closeSockets { p with removed := true }).Closed := closeSockets_closed _
    by_cases idle : p.pid = 0
    · have still : (closeSockets { p with removed := true }).pid = 0 := idle
      rw [if_neg (not_not_intro still)]
      refine ⟨rfl, rfl, .of_children rfl, sound.connRemove p.port2,
        ⟨fun _ => closed, closed.bound, entry.owned, ?_⟩⟩
      intro child member pid
      have positive := sound.positive child member
      have zero : child.pid = 0 := pid.trans idle
      omega
    · have running : (closeSockets { p with removed := true }).pid ≠ 0 := idle
      rw [if_pos running]
      have marks : world.Marks ((world.kill p.pid).connRemove p.port2) :=
        World.Marks.trans (.kill p.pid world) (.of_children rfl)
      refine ⟨rfl, rfl, marks, (sound.kill (entry.child idle)).connRemove p.port2,
        ⟨fun _ => closed, closed.bound, (entry.marked marks).owned, ?_⟩⟩
      intro child member pid _ _ _
      exact World.kill_told member pid
  · rw [if_neg goes]
    exact ⟨rfl, rfl, .of_children rfl, sound, entry⟩

private theorem reopen_outcome {p : ListenPort} {world : World} (sound : world.Sound)
    (entry : Entry world p) : Outcome p world (reopen answers p world) := by
  rw [reopen]
  split_ifs with opens
  · exact openSockets_outcome answers p sound opens.1 opens.2 entry.bound
  · exact ⟨rfl, rfl, .of_children rfl, sound, entry⟩

/-- The invariant of the parent. -/
structure Parent.Reconciled (parent : Parent) : Prop where
  unique : (parent.ports.map ListenPort.port2).Nodup
  sound : parent.world.Sound
  entries : ∀ p ∈ parent.ports, Entry parent.world p
  forked : ∀ child ∈ parent.world.children, ∀ port1 port2, child.pair = some (port1, port2) →
    ∃ p ∈ parent.ports, p.port2 = port2 ∧ p.pid = child.pid
  cleanup : parent.cleanupChildPid = 0 ∨ ∃ child ∈ parent.world.children,
    child.pid = parent.cleanupChildPid ∧ child.pair = none

/-- The parent begins reconciled. -/
theorem Parent.initial_reconciled : Parent.initial.Reconciled := by
  refine ⟨List.nodup_nil, ⟨List.nodup_nil, ?_, ?_⟩, ?_, ?_, .inl rfl⟩
  · exact fun child member => (List.not_mem_nil member).elim
  · exact fun target pids member => (List.not_mem_nil member).elim
  · exact fun p member => (List.not_mem_nil member).elim
  · exact fun child member => (List.not_mem_nil member).elim

namespace Parent.Reconciled

variable {parent : Parent}

/-- The cleanup child outlives marks. -/
theorem cleanup_marked {world : World} (reconciled : parent.Reconciled)
    (marks : parent.world.Marks world) : parent.cleanupChildPid = 0 ∨
      ∃ child ∈ world.children, child.pid = parent.cleanupChildPid ∧ child.pair = none := by
  refine reconciled.cleanup.imp_right ?_
  rintro ⟨child, member, pid, pair⟩
  obtain ⟨marked, inside, samePid, samePair⟩ := marks.image member
  exact ⟨marked, inside, samePid.trans pid, samePair.trans pair⟩

/-- An entry of the list is written. -/
theorem update {port2 : Int} {p : ListenPort} {result : ListenPort × World}
    (reconciled : parent.Reconciled)
    (first : parent.ports.find? (fun p => decide (p.port2 = port2)) = some p)
    (outcome : Outcome p parent.world result) :
    Reconciled { parent with
      ports := FirstMatch.replace (fun p => decide (p.port2 = port2)) result.1 parent.ports
      world := result.2 } := by
  have inside := List.mem_of_find?_eq_some first
  refine ⟨?_, outcome.sound, fun q member => ?_, fun child member port1 other pair => ?_,
    reconciled.cleanup_marked outcome.marks⟩
  · rw [FirstMatch.map_replace first outcome.port2]
    exact reconciled.unique
  · rcases FirstMatch.mem_of_mem_replace member with same | old
    · rw [same]
      exact outcome.entry
    · exact (reconciled.entries q old).marked outcome.marks
  · obtain ⟨original, known, samePid, samePair, _⟩ := outcome.marks.origin member
    obtain ⟨q, listed, qPort, qPid⟩ :=
      reconciled.forked original known port1 other (samePair.symm.trans pair)
    by_cases own : q.port2 = p.port2
    · have same : q = p := List.inj_on_of_nodup_map reconciled.unique listed inside own
      subst same
      exact ⟨result.1, FirstMatch.mem_replace first, outcome.port2.trans qPort,
        outcome.pid.trans (qPid.trans samePid.symm)⟩
    · exact ⟨q, FirstMatch.mem_replace_of_ne first listed own, qPort, qPid.trans samePid.symm⟩

/-- An entry is added for a port2 that had none. -/
theorem add {p : ListenPort} {result : ListenPort × World} (reconciled : parent.Reconciled)
    (absent : ∀ q ∈ parent.ports, q.port2 ≠ p.port2) (outcome : Outcome p parent.world result) :
    Reconciled { parent with ports := result.1 :: parent.ports, world := result.2 } := by
  refine ⟨?_, outcome.sound, fun q member => ?_, fun child member port1 other pair => ?_,
    reconciled.cleanup_marked outcome.marks⟩
  · rw [List.map_cons, List.nodup_cons, outcome.port2]
    refine ⟨fun known => ?_, reconciled.unique⟩
    obtain ⟨q, listed, same⟩ := List.mem_map.mp known
    exact absent q listed same
  · rcases List.mem_cons.mp member with same | old
    · rw [same]
      exact outcome.entry
    · exact (reconciled.entries q old).marked outcome.marks
  · obtain ⟨original, known, samePid, samePair, _⟩ := outcome.marks.origin member
    obtain ⟨q, listed, qPort, qPid⟩ :=
      reconciled.forked original known port1 other (samePair.symm.trans pair)
    exact ⟨q, List.mem_cons_of_mem _ listed, qPort, qPid.trans samePid.symm⟩

private theorem newEntry_outcome {world : World} (sound : world.Sound) (port1 port2 : Int)
    (flags : Nat) (fcSysid : UInt8) : Outcome (newEntry port1 port2 flags fcSysid) world
      (openSockets answers (newEntry port1 port2 flags fcSysid) world) := by
  have closed : (newEntry port1 port2 flags fcSysid).Closed := ⟨rfl, rfl, rfl, rfl⟩
  exact openSockets_outcome answers _ sound rfl rfl closed.bound

/-- `upsert_port` keeps the parent reconciled. -/
theorem upsertPort (reconciled : parent.Reconciled) (port1 port2 : Int) (flags : Nat)
    (fcSysid : UInt8) :
    (SupportProxy.upsertPort answers port1 port2 flags fcSysid parent).Reconciled := by
  rw [SupportProxy.upsertPort]
  cases first : parent.ports.find? fun p => decide (p.port2 = port2) with
  | some p =>
      exact reconciled.update first (upsertEntry_outcome port1 flags fcSysid reconciled.sound
        (reconciled.entries p (List.mem_of_find?_eq_some first)))
  | none =>
      refine reconciled.add (fun q listed same => ?_)
        (newEntry_outcome reconciled.sound port1 port2 flags fcSysid)
      exact List.find?_eq_none.mp first q listed (decide_eq_true same)

/-- The traversal keeps the parent reconciled. -/
theorem traverse (reconciled : parent.Reconciled) (db : List (List UInt8 × List UInt8)) :
    (SupportProxy.traverse answers db parent).Reconciled := by
  induction db generalizing parent with
  | nil => exact reconciled
  | cons record rest ih =>
      refine ih ?_
      rw [handleRecord]
      split_ifs
      · exact reconciled
      · exact reconciled.upsertPort _ _ _ _

/-- A loop over the entries does to each what its body does. -/
theorem forPorts_outcomes {body : ListenPort → World → ListenPort × World}
    (outcomes : ∀ {p : ListenPort} {world : World}, world.Sound → Entry world p →
      Outcome p world (body p world))
    (ports : List ListenPort) {world : World} (sound : world.Sound)
    (entries : ∀ p ∈ ports, Entry world p) :
    (SupportProxy.forPorts body ports world).1.map (fun p => (p.port2, p.pid)) =
        ports.map (fun p => (p.port2, p.pid)) ∧
      world.Marks (SupportProxy.forPorts body ports world).2 ∧
      (SupportProxy.forPorts body ports world).2.Sound ∧
      ∀ p ∈ (SupportProxy.forPorts body ports world).1,
        Entry (SupportProxy.forPorts body ports world).2 p := by
  induction ports generalizing world with
  | nil => exact ⟨rfl, .of_children rfl, sound, fun p member => (List.not_mem_nil member).elim⟩
  | cons p rest ih =>
      rw [SupportProxy.forPorts]
      have own := outcomes sound (entries p List.mem_cons_self)
      generalize body p world = result at own
      obtain ⟨keys, marks, later, others⟩ := ih own.sound fun q member =>
        (entries q (List.mem_cons_of_mem p member)).marked own.marks
      refine ⟨?_, own.marks.trans marks, later, fun q member => ?_⟩
      · rw [List.map_cons, List.map_cons, own.port2, own.pid, keys]
      · rcases List.mem_cons.mp member with same | behind
        · rw [same]
          exact own.entry.marked marks
        · exact others q behind

private theorem forPorts {body : ListenPort → World → ListenPort × World}
    (reconciled : parent.Reconciled)
    (outcomes : ∀ {p : ListenPort} {world : World}, world.Sound → Entry world p →
      Outcome p world (body p world)) : (parent.forPorts body).Reconciled := by
  obtain ⟨keys, marks, sound, entries⟩ :=
    forPorts_outcomes outcomes parent.ports reconciled.sound reconciled.entries
  have ports : (parent.forPorts body).ports.map ListenPort.port2 =
      parent.ports.map ListenPort.port2 := by
    have first := congrArg (List.map Prod.fst) keys
    rw [List.map_map, List.map_map] at first
    exact first
  refine ⟨by rw [ports]; exact reconciled.unique, sound, entries,
    fun child member port1 other pair => ?_, reconciled.cleanup_marked marks⟩
  obtain ⟨original, known, samePid, samePair, _⟩ := marks.origin member
  obtain ⟨q, listed, qPort, qPid⟩ :=
    reconciled.forked original known port1 other (samePair.symm.trans pair)
  have key : (q.port2, q.pid) ∈ parent.ports.map fun p => (p.port2, p.pid) :=
    List.mem_map_of_mem listed
  rw [← keys] at key
  obtain ⟨p, inside, same⟩ := List.mem_map.mp key
  obtain ⟨samePort, samePid'⟩ := Prod.mk.inj same
  exact ⟨p, inside, samePort.trans qPort, samePid'.trans (qPid.trans samePid.symm)⟩

/-- The marks of `seen` say nothing to the invariant. -/
theorem unsee (reconciled : parent.Reconciled) :
    Reconciled { parent with ports := parent.ports.map fun p => { p with seen := false } } := by
  refine ⟨?_, reconciled.sound, fun p member => ?_, fun child member port1 other pair => ?_,
    reconciled.cleanup⟩
  · rw [List.map_map]
    exact reconciled.unique
  · obtain ⟨q, listed, rfl⟩ := List.mem_map.mp member
    obtain ⟨closed, bound, owned, told⟩ := reconciled.entries q listed
    refine ⟨fun busy => ?_, ?_, owned, told⟩
    · obtain ⟨udp1, udp2, tcp1, listen2⟩ := closed busy
      exact ⟨udp1, udp2, tcp1, listen2⟩
    · obtain ⟨udp1, udp2, tcp1, listen2⟩ := bound
      exact ⟨udp1, udp2, tcp1, listen2⟩
  · obtain ⟨q, listed, qPort, qPid⟩ := reconciled.forked child member port1 other pair
    exact ⟨_, List.mem_map_of_mem listed, qPort, qPid⟩

/-- `reload_ports` keeps the parent reconciled. -/
theorem reloadPorts (reconciled : parent.Reconciled) (db : List (List UInt8 × List UInt8)) :
    (SupportProxy.reloadPorts answers db parent).Reconciled := by
  rw [SupportProxy.reloadPorts]
  exact ((reconciled.unsee.traverse db).forPorts retire_outcome).forPorts reopen_outcome

/-- A child is forked for an idle entry. -/
theorem handleConnection (reconciled : parent.Reconciled) {port2 pid : Int}
    (idle : ∃ p ∈ parent.ports, p.port2 = port2 ∧ p.pid = 0 ∧ p.removed = false)
    (positive : 0 < pid) (fresh : ∀ child ∈ parent.world.children, child.pid ≠ pid) :
    (SupportProxy.handleConnection port2 pid parent).Reconciled := by
  obtain ⟨p, inside, samePort, stopped, present⟩ := idle
  obtain ⟨q, first, listed, qPort⟩ := FirstMatch.find?_key inside samePort
  have same : q = p :=
    List.inj_on_of_nodup_map reconciled.unique listed inside (qPort.trans samePort.symm)
  subst same
  rw [SupportProxy.handleConnection, first]
  dsimp only
  rw [if_pos positive]
  refine ⟨?_, ⟨?_, ?_, reconciled.sound.signals⟩, fun other member => ?_,
    fun child member port1 other pair => ?_, ?_⟩
  · have ports : (FirstMatch.replace (fun p => decide (p.port2 = port2))
        (closeSockets { q with pid := pid }) parent.ports).map ListenPort.port2 =
          parent.ports.map ListenPort.port2 := FirstMatch.map_replace first rfl
    dsimp only
    rw [ports]
    exact reconciled.unique
  · rw [List.map_cons, List.nodup_cons]
    refine ⟨fun known => ?_, reconciled.sound.unique⟩
    obtain ⟨child, member, samePid⟩ := List.mem_map.mp known
    exact fresh child member samePid
  · intro child member
    rcases List.mem_cons.mp member with new | old
    · rw [new]
      exact positive
    · exact reconciled.sound.positive child old
  · rcases FirstMatch.mem_of_mem_replace member with new | old
    · rw [new]
      have closed := closeSockets_closed { q with pid := pid }
      refine ⟨fun _ => closed, closed.bound, fun _ => ?_, ?_⟩
      · exact ⟨_, List.mem_cons_self, rfl, q.port1, rfl⟩
      · intro child member samePid port1 pair astray
        rcases List.mem_cons.mp member with new | old
        · rw [new] at pair
          rcases astray with gone | moved
          · exact (Bool.false_ne_true (present.symm.trans gone)).elim
          · exact (moved (Prod.mk.inj (Option.some.inj pair)).1).elim
        · exact (fresh child old samePid).elim
    · obtain ⟨closed, bound, owned, told⟩ := reconciled.entries other old
      refine ⟨closed, bound, fun running => ?_, ?_⟩
      · obtain ⟨child, known, rest⟩ := owned running
        exact ⟨child, List.mem_cons_of_mem _ known, rest⟩
      · intro child member samePid port1 pair astray
        rcases List.mem_cons.mp member with new | known
        · rw [new] at samePid
          have running : other.pid ≠ 0 := by
            rw [← samePid]
            exact Int.ne_of_gt positive
          obtain ⟨owner, known, ownerPid, _⟩ := owned running
          exact (fresh owner known (ownerPid.trans samePid.symm)).elim
        · exact told child known samePid port1 pair astray
  · rcases List.mem_cons.mp member with new | old
    · rw [new] at pair ⊢
      exact ⟨_, FirstMatch.mem_replace first, (Prod.mk.inj (Option.some.inj pair)).2, rfl⟩
    · obtain ⟨owner, known, ownerPort, ownerPid⟩ := reconciled.forked child old port1 other pair
      by_cases own : owner.port2 = q.port2
      · have same : owner = q := List.inj_on_of_nodup_map reconciled.unique known listed own
        rw [same, stopped] at ownerPid
        have alive := reconciled.sound.positive child old
        omega
      · exact ⟨owner, FirstMatch.mem_replace_of_ne first known own, ownerPort, ownerPid⟩
  · refine reconciled.cleanup.imp_right ?_
    rintro ⟨child, known, rest⟩
    exact ⟨child, List.mem_cons_of_mem _ known, rest⟩

/-- A new cleanup child keeps the parent reconciled. -/
theorem forkCleanupChild (reconciled : parent.Reconciled) {pid : Int}
    (forks : parent.world.Forks pid) :
    (SupportProxy.forkCleanupChild pid parent).Reconciled := by
  rw [SupportProxy.forkCleanupChild]
  split_ifs with failed
  · exact reconciled
  obtain ⟨positive, fresh⟩ := forks.resolve_left (by omega)
  refine ⟨reconciled.unique, ⟨?_, ?_, reconciled.sound.signals⟩, fun p member => ?_,
    fun child member port1 other pair => ?_, .inr ⟨_, List.mem_cons_self, rfl, rfl⟩⟩
  · rw [List.map_cons, List.nodup_cons]
    refine ⟨fun known => ?_, reconciled.sound.unique⟩
    obtain ⟨child, member, samePid⟩ := List.mem_map.mp known
    exact fresh child member samePid
  · intro child member
    rcases List.mem_cons.mp member with new | old
    · rw [new]
      exact positive
    · exact reconciled.sound.positive child old
  · obtain ⟨closed, bound, owned, told⟩ := reconciled.entries p member
    refine ⟨closed, bound, fun running => ?_, ?_⟩
    · obtain ⟨child, known, rest⟩ := owned running
      exact ⟨child, List.mem_cons_of_mem _ known, rest⟩
    · intro child inside samePid port1 pair astray
      rcases List.mem_cons.mp inside with new | known
      · rw [new] at pair
        cases pair
      · exact told child known samePid port1 pair astray
  · rcases List.mem_cons.mp member with new | old
    · rw [new] at pair
      cases pair
    · exact reconciled.forked child old port1 other pair

/-- The exit of a child keeps the parent reconciled. -/
theorem exit (reconciled : parent.Reconciled) (pid : Int) :
    ((ParentAction.exit pid).apply answers parent).Reconciled := by
  have marks : parent.world.Marks { parent.world with
      children := parent.world.children.map fun child =>
        if child.pid = pid then { child with exited := true } else child } := by
    refine ⟨_, rfl, fun child => ?_⟩
    split_ifs
    · exact ⟨rfl, rfl, id⟩
    · exact ⟨rfl, rfl, id⟩
  refine ⟨reconciled.unique, ⟨?_, fun child member => ?_, reconciled.sound.signals⟩,
    fun p member => (reconciled.entries p member).marked marks,
    fun child member port1 other pair => ?_, reconciled.cleanup_marked marks⟩
  · have pids := marks.pids
    rw [ParentAction.apply]
    rw [pids]
    exact reconciled.sound.unique
  · obtain ⟨original, known, samePid, _⟩ := marks.origin member
    rw [samePid]
    exact reconciled.sound.positive original known
  · obtain ⟨original, known, samePid, samePair, _⟩ := marks.origin member
    obtain ⟨p, listed, port, own⟩ :=
      reconciled.forked original known port1 other (samePair.symm.trans pair)
    exact ⟨p, listed, port, own.trans samePid.symm⟩

end Parent.Reconciled

/-- A child has been reaped. -/
def World.forget (pid : Int) (world : World) : World :=
  { world with children := world.children.filter fun child => child.pid != pid }

/-! The three turns of the loop in `check_children`. -/

/-- A reaped cleanup child is replaced. -/
theorem reapChild_cleaner {parent : Parent} {waited : Int × Int}
    (cleaner : waited.1 = parent.cleanupChildPid) :
    reapChild answers parent waited = forkCleanupChild waited.2
      { parent with cleanupChildPid := 0, world := parent.world.forget waited.1 } :=
  if_pos cleaner

/-- A reaped child of no entry is forgotten. -/
theorem reapChild_unknown {parent : Parent} {waited : Int × Int}
    (other : waited.1 ≠ parent.cleanupChildPid)
    (unknown : parent.ports.find? (fun p => decide (p.pid = waited.1)) = none) :
    reapChild answers parent waited = { parent with world := parent.world.forget waited.1 } := by
  unfold reapChild
  dsimp only
  rw [if_neg other, unknown]
  rfl

/-- A reaped child of an entry makes it listen again. -/
theorem reapChild_entry {parent : Parent} {waited : Int × Int} {p : ListenPort}
    (other : waited.1 ≠ parent.cleanupChildPid)
    (first : parent.ports.find? (fun p => decide (p.pid = waited.1)) = some p) :
    reapChild answers parent waited =
      { parent with
        ports := FirstMatch.replace (fun p => decide (p.pid = waited.1))
          (childExited answers p (parent.world.forget waited.1)).1 parent.ports
        world := (childExited answers p (parent.world.forget waited.1)).2 } := by
  unfold reapChild
  dsimp only
  rw [if_neg other, first]
  rfl

private theorem World.mem_forget {world : World} {pid : Int} {child : Child} :
    child ∈ (world.forget pid).children ↔ child ∈ world.children ∧ child.pid ≠ pid := by
  rw [World.forget, List.mem_filter, bne_iff_ne]

private theorem World.Sound.forget {world : World} (sound : world.Sound) (pid : Int) :
    (world.forget pid).Sound :=
  ⟨sound.unique.sublist (List.filter_sublist.map _),
    fun child member => sound.positive child (World.mem_forget.mp member).1, sound.signals⟩

/-- An entry of another child. -/
theorem Entry.forget {world : World} {p : ListenPort} {pid : Int} (entry : Entry world p)
    (other : p.pid ≠ pid) : Entry (world.forget pid) p := by
  refine ⟨entry.closed, entry.bound, fun running => ?_, fun child member => ?_⟩
  · obtain ⟨child, member, own, rest⟩ := entry.owned running
    refine ⟨child, World.mem_forget.mpr ⟨member, ?_⟩, own, rest⟩
    rw [own]
    exact other
  · exact entry.told child (World.mem_forget.mp member).1

namespace Parent.Reconciled

variable {parent : Parent}

/-- Children are known by their pids. -/
theorem child_unique (reconciled : parent.Reconciled) {first second : Child}
    (firstIn : first ∈ parent.world.children) (secondIn : second ∈ parent.world.children)
    (same : first.pid = second.pid) : first = second :=
  List.inj_on_of_nodup_map reconciled.sound.unique firstIn secondIn same

/-- Two entries do not share a child. -/
theorem entry_unique (reconciled : parent.Reconciled) {first second : ListenPort}
    (firstIn : first ∈ parent.ports) (secondIn : second ∈ parent.ports) (running : first.pid ≠ 0)
    (same : first.pid = second.pid) : first = second := by
  obtain ⟨child, member, pid, port1, pair⟩ := (reconciled.entries first firstIn).owned running
  obtain ⟨other, otherIn, otherPid, otherPort1, otherPair⟩ :=
    (reconciled.entries second secondIn).owned (same ▸ running)
  have one : child = other :=
    reconciled.child_unique member otherIn (pid.trans (same.trans otherPid.symm))
  rw [one, otherPair] at pair
  have port2 := (Prod.mk.inj (Option.some.inj pair)).2
  exact List.inj_on_of_nodup_map reconciled.unique firstIn secondIn port2.symm

/-- The cleanup child is no entry's child. -/
theorem cleanup_apart (reconciled : parent.Reconciled) {p : ListenPort} (listed : p ∈ parent.ports)
    (running : p.pid ≠ 0) : p.pid ≠ parent.cleanupChildPid := by
  intro same
  obtain ⟨child, member, pid, port1, pair⟩ := (reconciled.entries p listed).owned running
  rcases reconciled.cleanup with none | ⟨cleaner, cleanerIn, cleanerPid, cleanerPair⟩
  · exact running (same.trans none)
  · have one : child = cleaner :=
      reconciled.child_unique member cleanerIn (pid.trans (same.trans cleanerPid.symm))
    rw [one, cleanerPair] at pair
    cases pair

/-- The state behind `waitpid`, where no entry has the child. -/
theorem forget (reconciled : parent.Reconciled) {pid : Int}
    (apart : ∀ p ∈ parent.ports, p.pid ≠ pid) {cleanupPid : Int}
    (cleanup : cleanupPid = 0 ∨ cleanupPid = parent.cleanupChildPid ∧ cleanupPid ≠ pid) :
    Reconciled { parent with
      cleanupChildPid := cleanupPid, world := parent.world.forget pid } := by
  refine ⟨reconciled.unique, reconciled.sound.forget pid,
    fun p listed => (reconciled.entries p listed).forget (apart p listed),
    fun child member port1 other pair =>
      reconciled.forked child (World.mem_forget.mp member).1 port1 other pair, ?_⟩
  rcases cleanup with none | ⟨same, other⟩
  · exact .inl none
  · rw [same] at other
    rw [same]
    refine reconciled.cleanup.imp_right ?_
    rintro ⟨child, member, own, pair⟩
    refine ⟨child, World.mem_forget.mpr ⟨member, ?_⟩, own, pair⟩
    rw [own]
    exact other

private theorem reapChild (reconciled : parent.Reconciled) {waited : Int × Int}
    (child : ∃ child ∈ parent.world.children, child.pid = waited.1)
    (forks : (parent.world.forget waited.1).Forks waited.2) :
    (SupportProxy.reapChild answers parent waited).Reconciled := by
  have alive : 0 < waited.1 := by
    obtain ⟨child, member, own⟩ := child
    rw [← own]
    exact reconciled.sound.positive child member
  by_cases cleaner : waited.1 = parent.cleanupChildPid
  · rw [reapChild_cleaner cleaner]
    have apart : ∀ p ∈ parent.ports, p.pid ≠ waited.1 := by
      intro p listed same
      refine reconciled.cleanup_apart listed ?_ (same.trans cleaner)
      omega
    exact (reconciled.forget apart (.inl rfl)).forkCleanupChild forks
  cases first : parent.ports.find? fun p => decide (p.pid = waited.1) with
  | none =>
      rw [reapChild_unknown cleaner first]
      have apart : ∀ p ∈ parent.ports, p.pid ≠ waited.1 := by
        intro p listed same
        exact List.find?_eq_none.mp first p listed (decide_eq_true same)
      exact reconciled.forget apart (.inr ⟨rfl, fun same => cleaner same.symm⟩)
  | some p =>
      rw [reapChild_entry cleaner first]
      have listed := List.mem_of_find?_eq_some first
      have own : p.pid = waited.1 := by
        have holds := List.find?_some first
        exact of_decide_eq_true holds
      have running : p.pid ≠ 0 := by omega
      have entry := reconciled.entries p listed
      -- the entry without its child, its sockets opened again unless it was removed
      have exited : ∃ sound : (childExited answers p (parent.world.forget waited.1)).2.Sound,
          (childExited answers p (parent.world.forget waited.1)).2.children =
              (parent.world.forget waited.1).children ∧
            (childExited answers p (parent.world.forget waited.1)).1.port2 = p.port2 ∧
            Entry (childExited answers p (parent.world.forget waited.1)).2
              (childExited answers p (parent.world.forget waited.1)).1 := by
        have sound := (reconciled.sound.forget waited.1).connRemove p.port2
        have closed : ({ p with pid := 0 } : ListenPort).Closed := by
          obtain ⟨udp1, udp2, tcp1, listen2⟩ := entry.closed (.inl running)
          exact ⟨udp1, udp2, tcp1, listen2⟩
        rw [childExited]
        by_cases gone : p.removed = true
        · have kept : ¬(!p.removed) = true := by
            rw [gone]
            exact Bool.false_ne_true
          rw [if_neg kept]
          refine ⟨sound, rfl, rfl, fun _ => closed, closed.bound,
            fun absurd => (absurd rfl).elim, ?_⟩
          intro child member pid
          have positive := sound.positive child member
          have zero : child.pid = 0 := pid
          omega
        · have present : (!p.removed) = true := by
            rw [Bool.not_eq_true']
            exact (Bool.not_eq_true _).mp gone
          rw [if_pos present]
          have opened := openSockets_outcome answers { p with pid := 0 } sound rfl
            ((Bool.not_eq_true _).mp gone) closed.bound
          exact ⟨opened.sound, (openSockets_world answers _ _).1, rfl, opened.entry⟩
      obtain ⟨sound, children, port2, restored⟩ := exited
      have marks : (parent.world.forget waited.1).Marks
          (childExited answers p (parent.world.forget waited.1)).2 := .of_children children
      refine ⟨?_, sound, fun q member => ?_, fun child member port1 other pair => ?_, ?_⟩
      · rw [FirstMatch.map_replace first port2]
        exact reconciled.unique
      · rcases FirstMatch.ne_of_mem_replace reconciled.unique first port2 member with
          new | ⟨old, different⟩
        · rw [new]
          exact restored
        · refine ((reconciled.entries q old).forget fun same => different ?_).marked marks
          rw [reconciled.entry_unique listed old running (own.trans same.symm)]
      · have member : child ∈
            (childExited answers p (parent.world.forget waited.1)).2.children := member
        rw [children] at member
        obtain ⟨known, survives⟩ := World.mem_forget.mp member
        obtain ⟨q, old, qPort, qPid⟩ := reconciled.forked child known port1 other pair
        have apart : q.port2 ≠ p.port2 := by
          intro same
          have one : q = p := List.inj_on_of_nodup_map reconciled.unique old listed same
          rw [one, own] at qPid
          exact survives qPid.symm
        exact ⟨q, FirstMatch.mem_replace_of_ne first old apart, qPort, qPid⟩
      · refine reconciled.cleanup.imp_right ?_
        rintro ⟨cleaner', known, cleanerPid, pair⟩
        obtain ⟨marked, inside, samePid, samePair⟩ := marks.image (World.mem_forget.mpr ⟨known, by
          rw [cleanerPid]
          exact fun same => cleaner same.symm⟩)
        exact ⟨marked, inside, samePid.trans cleanerPid, samePair.trans pair⟩

/-- `check_children` keeps the parent reconciled. -/
theorem checkChildren (reconciled : parent.Reconciled) {waited : List (Int × Int)}
    (reaps : Reaps answers waited parent) :
    (SupportProxy.checkChildren answers waited parent).Reconciled := by
  induction waited generalizing parent with
  | nil => exact reconciled
  | cons first rest ih =>
      obtain ⟨⟨child, member, pid, _⟩, forks, others⟩ := reaps
      exact ih (reconciled.reapChild ⟨child, member, pid⟩ forks) others

end Parent.Reconciled

end Functions

end SupportProxy
