import Mathlib.Algebra.Order.BigOperators.Group.List
import SupportProxy.Parent.Ports
import SupportProxy.Library.History

/-! # The sockets of the parent

The functions that open and close the listening sockets, over whatever world their
system calls act on. At `Parent`'s world they are the functions of the port list
(`reloadPorts_plain`); here the world is the set of open descriptors, with what
`socket`, `bind` and `listen` returned in every call of `open_socket_in_udp` and
`open_socket_in_tcp`.

The open descriptors are the ones in the port list exactly as long as no `bind` and
no `listen` has failed (`run_sockets`). -/

namespace SupportProxy

open Keydb

/-- What the functions of the port list call. -/
structure PortCalls (ω : Type) where
  openUdp : Int → ω → Option Nat × ω
  openTcp : Int → ω → Option Nat × ω
  close : Nat → ω → ω
  kill : Int → ω → ω
  connRemove : Int → ω → ω

/-- The port list and the world its functions act on. -/
structure PortList (ω : Type) where
  ports : List ListenPort
  world : ω

namespace PortCalls

variable {ω : Type} (calls : PortCalls ω)

/-- `close_socket` -/
def closeSocket (sock : Option Listener) (world : ω) : Option Listener × ω :=
  match sock with
  | some listener => (none, calls.close listener.fd world)
  | none => (none, world)

/-- `close_sockets` -/
def closeSockets (p : ListenPort) (world : ω) : ListenPort × ω :=
  let (sock1Udp, world) := calls.closeSocket p.sock1Udp world
  let (sock2Udp, world) := calls.closeSocket p.sock2Udp world
  let (sock1Tcp, world) := calls.closeSocket p.sock1Tcp world
  let (sock2Listen, world) := calls.closeSocket p.sock2Listen world
  ({ p with
      sock1Udp := sock1Udp
      sock2Udp := sock2Udp
      sock1Tcp := sock1Tcp
      sock2Listen := sock2Listen }, world)

/-- One of the four blocks of `open_sockets`. -/
def openSocket (opener : Int → ω → Option Nat × ω) (port : Int) (sock : Option Listener)
    (world : ω) : Option Listener × ω :=
  match sock with
  | some listener => (some listener, world)
  | none =>
      let (fd, world) := opener port world
      (fd.map fun fd => ⟨fd, port⟩, world)

/-- `open_sockets` -/
def openSockets (p : ListenPort) (world : ω) : ListenPort × ω :=
  let (sock1Udp, world) := openSocket calls.openUdp p.port1 p.sock1Udp world
  let (sock2Udp, world) := openSocket calls.openUdp p.port2 p.sock2Udp world
  let (sock1Tcp, world) := openSocket calls.openTcp p.port1 p.sock1Tcp world
  let (sock2Listen, world) := openSocket calls.openTcp p.port2 p.sock2Listen world
  ({ p with
      sock1Udp := sock1Udp
      sock2Udp := sock2Udp
      sock1Tcp := sock1Tcp
      sock2Listen := sock2Listen }, world)

/-- The entry that `upsert_port` finds for a port2. -/
def upsertEntry (port1 : Int) (flags : Nat) (fcSysid : UInt8) (p : ListenPort) (world : ω) :
    ListenPort × ω :=
  let p := { p with seen := true }
  if p.removed then
    let p := { p with removed := false, port1 := port1, flags := flags, fcSysid := fcSysid }
    if p.pid = 0 then calls.openSockets p world else (p, world)
  else if p.port1 ≠ port1 then
    let (p, world) := calls.closeSockets p world
    let world := if p.pid ≠ 0 then calls.kill p.pid world else world
    let p := { p with port1 := port1, flags := flags, fcSysid := fcSysid }
    if p.pid = 0 then calls.openSockets p world else (p, world)
  else ({ p with flags := flags, fcSysid := fcSysid }, world)

/-- A function applied to the entry of a port2. -/
def withEntry (port2 : Int) (body : ListenPort → ω → ListenPort × ω) (list : PortList ω) :
    PortList ω :=
  match list.ports.find? fun p => decide (p.port2 = port2) with
  | some p =>
      let (p, world) := body p list.world
      ⟨FirstMatch.replace (fun p => decide (p.port2 = port2)) p list.ports, world⟩
  | none => list

/-- `upsert_port` -/
def upsertPort (port1 port2 : Int) (flags : Nat) (fcSysid : UInt8) (list : PortList ω) :
    PortList ω :=
  match list.ports.find? fun p => decide (p.port2 = port2) with
  | some _ => withEntry port2 (calls.upsertEntry port1 flags fcSysid) list
  | none =>
      let (p, world) := calls.openSockets (newEntry port1 port2 flags fcSysid) list.world
      ⟨p :: list.ports, world⟩

/-- `handle_record` -/
def handleRecord (list : PortList ω) (record : List UInt8 × List UInt8) : PortList ω :=
  if !accepts record then list
  else
    calls.upsertPort (Field.port1.signed record.2) (portOf record.1)
      (Field.flags.unsigned record.2) (UInt8.ofNat (Field.fcSysid.unsigned record.2)) list

/-- `tdb_traverse(db, handle_record, nullptr)` -/
def traverse (db : List (List UInt8 × List UInt8)) (list : PortList ω) : PortList ω :=
  db.foldl calls.handleRecord list

/-- A loop over all entries that changes the entry it is at. -/
def forPorts (body : ListenPort → ω → ListenPort × ω) : List ListenPort → ω → PortList ω
  | [], world => ⟨[], world⟩
  | p :: rest, world =>
      let (p, world) := body p world
      let after := forPorts body rest world
      ⟨p :: after.ports, after.world⟩

/-- An entry that is gone from keys.tdb. -/
def retire (p : ListenPort) (world : ω) : ListenPort × ω :=
  if !p.seen && !p.removed then
    let (p, world) := calls.closeSockets { p with removed := true } world
    let world := if p.pid ≠ 0 then calls.kill p.pid world else world
    (p, calls.connRemove p.port2 world)
  else (p, world)

/-- See if any sockets need opening. -/
def reopen (p : ListenPort) (world : ω) : ListenPort × ω :=
  if p.pid = 0 ∧ p.removed = false then calls.openSockets p world else (p, world)

/-- `reload_ports` -/
def reloadPorts (db : List (List UInt8 × List UInt8)) (list : PortList ω) : PortList ω :=
  let traversed :=
    calls.traverse db { list with ports := list.ports.map fun p => { p with seen := false } }
  let retired := forPorts calls.retire traversed.ports traversed.world
  forPorts calls.reopen retired.ports retired.world

end PortCalls

/-! ## The functions of the port list -/

/-- The calls at the world of `Parent`, which does not follow descriptors. -/
def plainCalls (answers : Nat → Option Nat) : PortCalls World where
  openUdp _ world := (answers world.queries, { world with queries := world.queries + 1 })
  openTcp _ world := (answers world.queries, { world with queries := world.queries + 1 })
  close _ world := world
  kill := World.kill
  connRemove := World.connRemove

section Plain

variable {answers : Nat → Option Nat}

private theorem closeSockets_plain (p : ListenPort) (world : World) :
    (plainCalls answers).closeSockets p world = (closeSockets p, world) := by
  have closed : ∀ sock, (plainCalls answers).closeSocket sock world = (none, world) := by
    intro sock
    cases sock <;> rfl
  simp only [PortCalls.closeSockets, closed, closeSockets]

private theorem openSocket_plain (port : Int) (sock : Option Listener) (world : World) :
    PortCalls.openSocket (plainCalls answers).openUdp port sock world =
        openSocket answers port sock world ∧
      PortCalls.openSocket (plainCalls answers).openTcp port sock world =
        openSocket answers port sock world := by
  cases sock <;> exact ⟨rfl, rfl⟩

private theorem openSockets_plain (p : ListenPort) (world : World) :
    (plainCalls answers).openSockets p world = openSockets answers p world := by
  simp only [PortCalls.openSockets, openSocket_plain, openSockets]

private theorem upsertEntry_plain (port1 : Int) (flags : Nat) (fcSysid : UInt8) (p : ListenPort)
    (world : World) :
    (plainCalls answers).upsertEntry port1 flags fcSysid p world =
      upsertEntry answers port1 flags fcSysid p world := by
  simp only [PortCalls.upsertEntry, closeSockets_plain, openSockets_plain, upsertEntry]
  rfl

private theorem handleRecord_plain (parent : Parent) (record : List UInt8 × List UInt8) :
    (plainCalls answers).handleRecord ⟨parent.ports, parent.world⟩ record =
      ⟨(handleRecord answers parent record).ports, (handleRecord answers parent record).world⟩ := by
  unfold PortCalls.handleRecord handleRecord
  split
  · rfl
  · unfold PortCalls.upsertPort PortCalls.withEntry upsertPort
    cases parent.ports.find? fun p => decide (p.port2 = portOf record.1) with
    | some p => simp only [upsertEntry_plain]
    | none => simp only [openSockets_plain]

private theorem traverse_plain (db : List (List UInt8 × List UInt8)) (parent : Parent) :
    (plainCalls answers).traverse db ⟨parent.ports, parent.world⟩ =
      ⟨(traverse answers db parent).ports, (traverse answers db parent).world⟩ := by
  unfold PortCalls.traverse traverse
  induction db generalizing parent with
  | nil => rfl
  | cons record rest ih =>
      rw [List.foldl_cons, List.foldl_cons, handleRecord_plain, ih]

private theorem forPorts_plain (body : ListenPort → World → ListenPort × World)
    (ports : List ListenPort) (world : World) :
    PortCalls.forPorts body ports world =
      ⟨(forPorts body ports world).1, (forPorts body ports world).2⟩ := by
  induction ports generalizing world with
  | nil => rfl
  | cons p rest ih => simp only [PortCalls.forPorts, forPorts, ih]

/-- Where descriptors are not followed, the functions are those of the port list. -/
theorem reloadPorts_plain (db : List (List UInt8 × List UInt8)) (parent : Parent) :
    (plainCalls answers).reloadPorts db ⟨parent.ports, parent.world⟩ =
      ⟨(reloadPorts answers db parent).ports, (reloadPorts answers db parent).world⟩ := by
  have retires : (plainCalls answers).retire = retire := by
    funext p world
    simp only [PortCalls.retire, closeSockets_plain, retire]
    rfl
  have reopens : (plainCalls answers).reopen = reopen answers := by
    funext p world
    simp only [PortCalls.reopen, openSockets_plain, reopen]
  have traversed : (plainCalls answers).traverse db ⟨parent.ports.map fun p =>
      { p with seen := false }, parent.world⟩ = _ :=
    traverse_plain db { parent with ports := parent.ports.map fun p => { p with seen := false } }
  simp only [PortCalls.reloadPorts, traversed, retires, reopens, forPorts_plain, reloadPorts,
    Parent.forPorts]

end Plain

/-! ## The descriptors -/

inductive SocketKind
  | udp | tcp
deriving DecidableEq

/-- What the system answers in one call of `open_socket_in_udp` or
`open_socket_in_tcp`: the result of `socket`, and whether `bind` and `listen` succeed. -/
structure SocketAnswer where
  socket : Option Nat
  bind : Bool
  listen : Bool

/-- The system, asked for the n-th time with some descriptors open. `socket` never returns
a descriptor that is open. -/
structure SocketSystem where
  answer : Nat → List Nat → SocketAnswer
  fresh : ∀ asked opened fd, (answer asked opened).socket = some fd → fd ∉ opened

/-- The open descriptors of listening sockets, and the answers so far, the newest first. -/
structure SocketWorld where
  opened : List Nat
  log : List (SocketKind × SocketAnswer)

namespace SocketWorld

variable (system : SocketSystem)

def ask (kind : SocketKind) (world : SocketWorld) : SocketAnswer × SocketWorld :=
  let answer := system.answer world.log.length world.opened
  (answer, { world with log := (kind, answer) :: world.log })

/-- `open_socket_in_udp` -/
def openSocketInUdp (world : SocketWorld) : Option Nat × SocketWorld :=
  let (answer, world) := world.ask system .udp
  match answer.socket with
  | none => (none, world)
  | some res =>
      let world := { world with opened := res :: world.opened }
      if !answer.bind then (none, world) else (some res, world)

/-- `open_socket_in_tcp` -/
def openSocketInTcp (world : SocketWorld) : Option Nat × SocketWorld :=
  let (answer, world) := world.ask system .tcp
  match answer.socket with
  | none => (none, world)
  | some res =>
      let world := { world with opened := res :: world.opened }
      if !answer.bind then (none, world)
      else if !answer.listen then (none, world)
      else (some res, world)

/-- `close` -/
def close (fd : Nat) (world : SocketWorld) : SocketWorld :=
  { world with opened := world.opened.erase fd }

/-- The calls with their descriptors. -/
def calls : PortCalls SocketWorld where
  openUdp _ := openSocketInUdp system
  openTcp _ := openSocketInTcp system
  close := close
  kill _ world := world
  connRemove _ world := world

end SocketWorld

/-- What the parent calls next. Forks and exits of children set the pid of an entry. -/
inductive SocketAction
  | openSockets (port2 : Int)
  | closeSockets (port2 : Int)
  | reload (db : List (List UInt8 × List UInt8))
  | setPid (port2 pid : Int)

def SocketAction.apply (system : SocketSystem) :
    SocketAction → PortList SocketWorld → PortList SocketWorld
  | .openSockets port2, list =>
      PortCalls.withEntry port2 (SocketWorld.calls system).openSockets list
  | .closeSockets port2, list =>
      PortCalls.withEntry port2 (SocketWorld.calls system).closeSockets list
  | .reload db, list => (SocketWorld.calls system).reloadPorts db list
  | .setPid port2 pid, list =>
      PortCalls.withEntry port2 (fun p world => ({ p with pid := pid }, world)) list

/-- The states of the parent: the newest action first. -/
abbrev PortList.after (system : SocketSystem) (history : List SocketAction) :
    PortList SocketWorld :=
  History.replay (SocketAction.apply system) ⟨[], ⟨[], []⟩⟩ history

/-- `bind` or `listen` failed on a socket that had been created. -/
def SocketAnswer.Fails (kind : SocketKind) (answer : SocketAnswer) : Prop :=
  answer.socket.isSome = true ∧
    (answer.bind = false ∨ kind = .tcp ∧ answer.listen = false)

instance (kind : SocketKind) (answer : SocketAnswer) : Decidable (answer.Fails kind) :=
  inferInstanceAs (Decidable (_ ∧ _))

/-- The descriptor in a field. -/
def Listener.held (sock : Option Listener) : List Nat := (sock.map Listener.fd).toList

/-- The descriptors in the four fields of an entry. -/
def ListenPort.held (p : ListenPort) : List Nat :=
  Listener.held p.sock1Udp ++ Listener.held p.sock2Udp ++ Listener.held p.sock1Tcp ++
    Listener.held p.sock2Listen

/-- The descriptors in the port list. -/
def PortList.held {ω : Type} (list : PortList ω) : List Nat := list.ports.flatMap ListenPort.held

/-- The descriptors of failed calls. -/
def SocketWorld.leaked (world : SocketWorld) : List Nat :=
  world.log.flatMap fun call => if call.2.Fails call.1 then call.2.socket.toList else []

/-- Every open descriptor is held or leaked, once. -/
structure SocketWorld.Balanced (held : List Nat) (world : SocketWorld) : Prop where
  count : ∀ fd, world.opened.count fd = held.count fd + world.leaked.count fd
  nodup : world.opened.Nodup

namespace SocketWorld

variable {system : SocketSystem} {world : SocketWorld} {held : List Nat}

private theorem Balanced.of_count {other : List Nat} (balanced : world.Balanced held)
    (same : ∀ fd, other.count fd = held.count fd) : world.Balanced other :=
  ⟨fun fd => by rw [balanced.count fd, same fd], balanced.nodup⟩

private theorem Balanced.close {fd : Nat} (balanced : world.Balanced (held ++ [fd])) :
    (world.close fd).Balanced held := by
  refine ⟨fun other => ?_, balanced.nodup.erase fd⟩
  have counted := balanced.count other
  have here := balanced.count fd
  have leaks : (world.close fd).leaked = world.leaked := rfl
  rw [List.count_append, List.count_singleton] at counted
  rw [leaks, SocketWorld.close, List.count_erase]
  split at counted
  · rename_i same
    rw [if_pos same]
    omega
  · rename_i different
    rw [if_neg different]
    omega

/-- The world after a call that got an answer. -/
def told (kind : SocketKind) (answer : SocketAnswer) (world : SocketWorld) : SocketWorld :=
  ⟨answer.socket.toList ++ world.opened, (kind, answer) :: world.log⟩

private theorem openSocketInUdp_eq (system : SocketSystem) (world : SocketWorld) :
    openSocketInUdp system world =
      let answer := system.answer world.log.length world.opened
      (if answer.Fails .udp then none else answer.socket, world.told .udp answer) := by
  unfold openSocketInUdp ask told
  generalize system.answer world.log.length world.opened = answer
  obtain ⟨_ | fd, bind, listen⟩ := answer
  · simp [SocketAnswer.Fails]
  · cases bind <;> simp [SocketAnswer.Fails]

private theorem openSocketInTcp_eq (system : SocketSystem) (world : SocketWorld) :
    openSocketInTcp system world =
      let answer := system.answer world.log.length world.opened
      (if answer.Fails .tcp then none else answer.socket, world.told .tcp answer) := by
  unfold openSocketInTcp ask told
  generalize system.answer world.log.length world.opened = answer
  obtain ⟨_ | fd, bind, listen⟩ := answer
  · simp [SocketAnswer.Fails]
  · cases bind <;> cases listen <;> simp [SocketAnswer.Fails]

/-- A call adds its descriptor to those held, or to those leaked when it fails. -/
theorem Balanced.told (balanced : world.Balanced held) (kind : SocketKind)
    {answer : SocketAnswer} (fresh : ∀ fd, answer.socket = some fd → fd ∉ world.opened) :
    (world.told kind answer).Balanced
      (held ++ (if answer.Fails kind then none else answer.socket).toList) := by
  constructor
  · intro fd
    have counted := balanced.count fd
    have leaks : (world.told kind answer).leaked =
        (if answer.Fails kind then answer.socket.toList else []) ++ world.leaked := by
      rw [leaked, SocketWorld.told, List.flatMap_cons]
      rfl
    rw [leaks, SocketWorld.told, List.count_append, List.count_append, List.count_append, counted]
    by_cases fails : answer.Fails kind
    · rw [if_pos fails, if_pos fails, Option.toList_none, List.count_nil]
      omega
    · rw [if_neg fails, if_neg fails, List.count_nil]
      omega
  · cases got : answer.socket with
    | none =>
        rw [SocketWorld.told, got]
        exact balanced.nodup
    | some fd =>
        rw [SocketWorld.told, got]
        exact List.nodup_cons.mpr ⟨fresh fd got, balanced.nodup⟩

/-- The two functions that open sockets. -/
def Opens (opener : Int → SocketWorld → Option Nat × SocketWorld) : Prop :=
  ∀ port world held, SocketWorld.Balanced held world →
    (opener port world).2.Balanced (held ++ (opener port world).1.toList)

private theorem openUdp_opens (system : SocketSystem) : Opens (calls system).openUdp := by
  intro port world held balanced
  change (openSocketInUdp system world).2.Balanced
    (held ++ (openSocketInUdp system world).1.toList)
  rw [openSocketInUdp_eq]
  exact balanced.told .udp (system.fresh _ _)

private theorem openTcp_opens (system : SocketSystem) : Opens (calls system).openTcp := by
  intro port world held balanced
  change (openSocketInTcp system world).2.Balanced
    (held ++ (openSocketInTcp system world).1.toList)
  rw [openSocketInTcp_eq]
  exact balanced.told .tcp (system.fresh _ _)

/-- A function of a field keeps the balance. -/
def KeepsField (body : Option Listener → SocketWorld → Option Listener × SocketWorld) : Prop :=
  ∀ sock world held, SocketWorld.Balanced (held ++ Listener.held sock) world →
    (body sock world).2.Balanced (held ++ Listener.held (body sock world).1)

private theorem Opens.openSocket {opener : Int → SocketWorld → Option Nat × SocketWorld}
    (opens : Opens opener) (port : Int) : KeepsField (PortCalls.openSocket opener port) := by
  intro sock world held balanced
  cases sock with
  | some listener => exact balanced
  | none =>
      have opened := opens port world held (balanced.of_count fun fd => by
        rw [List.count_append]
        rfl)
      have same : ∀ got : Option Nat,
          Listener.held (got.map fun fd => ⟨fd, port⟩) = got.toList := by
        intro got
        cases got <;> rfl
      simp only [PortCalls.openSocket, same]
      exact opened

private theorem closeSocket_keeps (system : SocketSystem) :
    KeepsField (calls system).closeSocket := by
  intro sock world held balanced
  cases sock with
  | none => exact balanced
  | some listener =>
      have closed : (world.close listener.fd).Balanced held := balanced.close
      exact closed.of_count fun fd => by
        rw [List.count_append]
        rfl

/-- A function of an entry keeps the balance. -/
def Keeps (body : ListenPort → SocketWorld → ListenPort × SocketWorld) : Prop :=
  ∀ p world held, SocketWorld.Balanced (held ++ p.held) world →
    (body p world).2.Balanced (held ++ (body p world).1.held)

/-- One field after the other. -/
theorem Balanced.fields {first second third fourth :
      Option Listener → SocketWorld → Option Listener × SocketWorld}
    (keepsFirst : KeepsField first) (keepsSecond : KeepsField second)
    (keepsThird : KeepsField third) (keepsFourth : KeepsField fourth) (p : ListenPort)
    (balanced : world.Balanced (held ++ p.held)) :
    let one := first p.sock1Udp world
    let two := second p.sock2Udp one.2
    let three := third p.sock1Tcp two.2
    let four := fourth p.sock2Listen three.2
    four.2.Balanced (held ++ (Listener.held one.1 ++ Listener.held two.1 ++
      Listener.held three.1 ++ Listener.held four.1)) := by
  intro one two three four
  have begun := keepsFirst p.sock1Udp world (held ++ Listener.held p.sock2Udp ++
    Listener.held p.sock1Tcp ++ Listener.held p.sock2Listen) (balanced.of_count fun fd => by
      simp only [ListenPort.held, List.count_append]
      omega)
  have next := keepsSecond p.sock2Udp one.2 (held ++ Listener.held one.1 ++
    Listener.held p.sock1Tcp ++ Listener.held p.sock2Listen) (begun.of_count fun fd => by
      simp only [List.count_append, one]
      omega)
  have after := keepsThird p.sock1Tcp two.2 (held ++ Listener.held one.1 ++
    Listener.held two.1 ++ Listener.held p.sock2Listen) (next.of_count fun fd => by
      simp only [List.count_append, two]
      omega)
  have last := keepsFourth p.sock2Listen three.2 (held ++ Listener.held one.1 ++
    Listener.held two.1 ++ Listener.held three.1) (after.of_count fun fd => by
      simp only [List.count_append, three]
      omega)
  exact last.of_count fun fd => by
    simp only [List.count_append, four]
    omega

private theorem closeSockets_keeps (system : SocketSystem) : Keeps (calls system).closeSockets := by
  intro p world held balanced
  have closes := closeSocket_keeps system
  exact balanced.fields closes closes closes closes p

private theorem openSockets_keeps (system : SocketSystem) : Keeps (calls system).openSockets := by
  intro p world held balanced
  exact balanced.fields ((openUdp_opens system).openSocket p.port1)
    ((openUdp_opens system).openSocket p.port2) ((openTcp_opens system).openSocket p.port1)
    ((openTcp_opens system).openSocket p.port2) p

private theorem upsertEntry_keeps (system : SocketSystem) (port1 : Int) (flags : Nat)
    (fcSysid : UInt8) :
    Keeps ((calls system).upsertEntry port1 flags fcSysid) := by
  intro p world held balanced
  rw [PortCalls.upsertEntry]
  dsimp only
  split
  · split
    · exact openSockets_keeps system _ _ _ balanced
    · exact balanced
  · split
    · have closed := closeSockets_keeps system { p with seen := true } world held balanced
      have told : ∀ told : Prop, [Decidable told] → (if told then
          (calls system).kill ((calls system).closeSockets { p with seen := true } world).1.pid
            ((calls system).closeSockets { p with seen := true } world).2
          else ((calls system).closeSockets { p with seen := true } world).2) =
            ((calls system).closeSockets { p with seen := true } world).2 := by
        intro told _
        split <;> rfl
      rw [told]
      split
      · exact openSockets_keeps system _ _ _ closed
      · exact closed
    · exact balanced

private theorem retire_keeps (system : SocketSystem) : Keeps (calls system).retire := by
  intro p world held balanced
  rw [PortCalls.retire]
  split
  · have closed := closeSockets_keeps system { p with removed := true } world held balanced
    dsimp only
    split
    · exact closed
    · exact closed
  · exact balanced

private theorem reopen_keeps (system : SocketSystem) : Keeps (calls system).reopen := by
  intro p world held balanced
  rw [PortCalls.reopen]
  split
  · exact openSockets_keeps system p world held balanced
  · exact balanced

end SocketWorld

namespace PortList

/-- The balance of the whole list. -/
def Balanced (list : PortList SocketWorld) : Prop := list.world.Balanced list.held

variable {system : SocketSystem} {list : PortList SocketWorld}

private theorem Balanced.withEntry (balanced : list.Balanced) (port2 : Int)
    {body : ListenPort → SocketWorld → ListenPort × SocketWorld}
    (keeps : SocketWorld.Keeps body) : (PortCalls.withEntry port2 body list).Balanced := by
  rw [PortCalls.withEntry]
  cases first : list.ports.find? fun p => decide (p.port2 = port2) with
  | none => exact balanced
  | some p =>
      obtain ⟨before, after, split, replaced⟩ := FirstMatch.replace_eq_append first
      have apart : ∀ entry : ListenPort, ∀ fd,
          ((before ++ entry :: after).flatMap ListenPort.held).count fd =
            (before.flatMap ListenPort.held ++ after.flatMap ListenPort.held ++
              entry.held).count fd := by
        intro entry fd
        simp only [List.flatMap_append, List.flatMap_cons, List.count_append]
        omega
      have begun : list.world.Balanced (before.flatMap ListenPort.held ++
          after.flatMap ListenPort.held ++ p.held) :=
        SocketWorld.Balanced.of_count balanced fun fd => by rw [held, split, apart]
      have next := (keeps p list.world _ begun).of_count (apart (body p list.world).1)
      rw [← replaced] at next
      exact next

private theorem Balanced.upsertPort (balanced : list.Balanced) (port1 port2 : Int) (flags : Nat)
    (fcSysid : UInt8) :
    ((SocketWorld.calls system).upsertPort port1 port2 flags fcSysid list).Balanced := by
  rw [PortCalls.upsertPort]
  cases list.ports.find? fun p => decide (p.port2 = port2) with
  | some p =>
      exact balanced.withEntry port2 (SocketWorld.upsertEntry_keeps system port1 flags fcSysid)
  | none =>
      have opened := SocketWorld.openSockets_keeps system (newEntry port1 port2 flags fcSysid)
        list.world list.held (SocketWorld.Balanced.of_count balanced fun fd => by
          rw [List.count_append]
          rfl)
      exact opened.of_count fun fd => by
        rw [held, List.flatMap_cons, List.count_append, List.count_append, held, Nat.add_comm]

private theorem Balanced.traverse (balanced : list.Balanced) (db : List (List UInt8 × List UInt8)) :
    ((SocketWorld.calls system).traverse db list).Balanced := by
  unfold PortCalls.traverse
  induction db generalizing list with
  | nil => exact balanced
  | cons record rest ih =>
      refine ih ?_
      unfold PortCalls.handleRecord
      split
      · exact balanced
      · exact balanced.upsertPort _ _ _ _

private theorem forPorts_balanced {body : ListenPort → SocketWorld → ListenPort × SocketWorld}
    (keeps : SocketWorld.Keeps body) (ports : List ListenPort) {world : SocketWorld}
    (others : List Nat) (balanced : world.Balanced (others ++ ports.flatMap ListenPort.held)) :
    (PortCalls.forPorts body ports world).world.Balanced
      (others ++ (PortCalls.forPorts body ports world).held) := by
  induction ports generalizing world others with
  | nil => exact balanced
  | cons p rest ih =>
      have here := keeps p world (others ++ rest.flatMap ListenPort.held)
        (balanced.of_count fun fd => by
          simp only [List.flatMap_cons, List.count_append]
          omega)
      have moved : (body p world).2.Balanced (others ++ (body p world).1.held ++
          rest.flatMap ListenPort.held) := here.of_count fun fd => by
        simp only [List.count_append]
        omega
      have behind := ih _ moved
      exact behind.of_count fun fd => by
        simp only [PortCalls.forPorts, held, List.flatMap_cons, List.count_append]
        omega

private theorem Balanced.forPorts (balanced : list.Balanced)
    {body : ListenPort → SocketWorld → ListenPort × SocketWorld} (keeps : SocketWorld.Keeps body) :
    (PortCalls.forPorts body list.ports list.world).Balanced :=
  forPorts_balanced keeps list.ports [] balanced

private theorem Balanced.reloadPorts (balanced : list.Balanced)
    (db : List (List UInt8 × List UInt8)) :
    ((SocketWorld.calls system).reloadPorts db list).Balanced := by
  have unseen : ({ list with ports := list.ports.map fun p => { p with seen := false } } :
      PortList SocketWorld).Balanced :=
    SocketWorld.Balanced.of_count balanced fun fd => by
      rw [held, List.flatMap_map]
      rfl
  exact ((unseen.traverse db).forPorts (SocketWorld.retire_keeps system)).forPorts
    (SocketWorld.reopen_keeps system)

private theorem Balanced.apply (balanced : list.Balanced) (action : SocketAction) :
    (action.apply system list).Balanced := by
  cases action with
  | openSockets port2 => exact balanced.withEntry port2 (SocketWorld.openSockets_keeps system)
  | closeSockets port2 => exact balanced.withEntry port2 (SocketWorld.closeSockets_keeps system)
  | reload db => exact balanced.reloadPorts db
  | setPid port2 pid => exact balanced.withEntry port2 fun _ _ _ same => same

private theorem after_balanced (system : SocketSystem) (history : List SocketAction) :
    (PortList.after system history).Balanced := by
  induction history with
  | nil => exact ⟨fun _ => rfl, List.nodup_nil⟩
  | cons action before ih => exact ih.apply action

/-- What is open is what is held exactly when nothing has leaked. -/
theorem Balanced.exact_iff (balanced : list.Balanced) :
    (∀ fd, fd ∈ list.world.opened ↔ fd ∈ list.held) ↔
      ∀ call ∈ list.world.log, ¬ call.2.Fails call.1 := by
  constructor
  · intro exact call member fails
    obtain ⟨fd, created⟩ := Option.isSome_iff_exists.mp fails.1
    have leaks : fd ∈ list.world.leaked := by
      refine List.mem_flatMap.mpr ⟨call, member, ?_⟩
      rw [if_pos fails, created]
      exact List.mem_singleton_self fd
    have some := List.one_le_count_iff.mpr leaks
    have once := List.nodup_iff_count_le_one.mp balanced.nodup fd
    have counted := balanced.count fd
    have absent : fd ∉ list.held := List.count_eq_zero.mp (by omega)
    have opened : fd ∈ list.world.opened := List.one_le_count_iff.mp (by omega)
    exact absent ((exact fd).mp opened)
  · intro none fd
    have leaked : list.world.leaked = [] :=
      List.flatMap_eq_nil_iff.mpr fun call member => if_neg (none call member)
    have counted := balanced.count fd
    rw [leaked, List.count_nil, Nat.add_zero] at counted
    rw [← List.one_le_count_iff, ← List.one_le_count_iff, counted]

/-- After every sequence of calls, the open descriptors are the ones in the port list if and
only if no `bind` and no `listen` has failed on a socket so far. -/
theorem run_sockets (system : SocketSystem) (history : List SocketAction) :
    (∀ fd, fd ∈ (PortList.after system history).world.opened ↔
        fd ∈ (PortList.after system history).held) ↔
      ∀ call ∈ (PortList.after system history).world.log, ¬ call.2.Fails call.1 :=
  (after_balanced system history).exact_iff

/-- The port1 of a pair is in use elsewhere: its first `bind` fails, all else succeeds. -/
def busyPort : SocketSystem where
  answer asked opened := ⟨some (opened.sum + 3), decide (asked ≠ 0), true⟩
  fresh := by
    intro asked opened fd got member
    rw [← Option.some.inj got] at member
    have bound := List.single_le_sum (fun other _ => Nat.zero_le other) _ member
    omega

/-- One reload finds a new record whose UDP port cannot be bound: the descriptor stays open
and no field holds it. -/
theorem leaked_by_bind :
    ¬ ∀ fd, fd ∈ (PortList.after busyPort
          [.reload [([0x21, 0x4e, 0, 0], List.replicate minSize 0)]]).world.opened ↔
        fd ∈ (PortList.after busyPort
          [.reload [([0x21, 0x4e, 0, 0], List.replicate minSize 0)]]).held := by
  intro exact
  have opened : 3 ∈ (PortList.after busyPort
      [.reload [([0x21, 0x4e, 0, 0], List.replicate minSize 0)]]).world.opened := by
    decide +kernel
  have held := (exact 3).mp opened
  revert held
  decide +kernel

end PortList

end SupportProxy
