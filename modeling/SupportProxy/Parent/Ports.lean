import SupportProxy.Keydb.Record
import SupportProxy.Library.FirstMatch

/-! # The parent process

The list of port pairs of `supportproxy.cpp` with the functions that keep it in step with
keys.tdb and with the children. Each action of the parent is a function of its state; what
`fork`, `waitpid` and the database answer stands in the action, and what the socket calls
answer is numbered by `World.queries`. -/

namespace SupportProxy

open Keydb

/-- An open listening socket with the port it was opened for. -/
structure Listener where
  fd : Nat
  port : Int
deriving DecidableEq

/-- `struct listen_port`, less the WebSocket of the child. -/
structure ListenPort where
  port1 : Int
  port2 : Int
  sock1Udp : Option Listener
  sock2Udp : Option Listener
  sock1Tcp : Option Listener
  sock2Listen : Option Listener
  pid : Int
  flags : Nat
  fcSysid : UInt8
  seen : Bool
  removed : Bool
deriving DecidableEq

/-- A child that has not been reaped: a session with the port1 and port2 it was forked with, or
the log cleanup worker. -/
structure Child where
  pid : Int
  pair : Option (Int × Int)
  exited : Bool
  /-- SIGTERM has been sent to it -/
  terminated : Bool
deriving DecidableEq

/-- What the parent does to others. -/
inductive ParentEvent
  /-- `kill(target, SIGTERM)`, with the children there were -/
  | kill (target : Int) (children : List Int)
  /-- `conn_remove_port2` -/
  | connRemove (port2 : Int)
deriving DecidableEq

/-- What lies outside of the port list. -/
structure World where
  children : List Child
  queries : Nat
  log : List ParentEvent

structure Parent where
  /-- `ports`, the newest entry first -/
  ports : List ListenPort
  cleanupChildPid : Int
  world : World

def Parent.initial : Parent := ⟨[], 0, ⟨[], 0, []⟩⟩

/-- SIGTERM to a child; the target -1 is every process. -/
def Child.terminate (target : Int) (child : Child) : Child :=
  if target = -1 ∨ child.pid = target then { child with terminated := true } else child

/-- `kill(target, SIGTERM)` -/
def World.kill (target : Int) (world : World) : World :=
  { world with
    children := world.children.map (Child.terminate target)
    log := .kill target (world.children.map Child.pid) :: world.log }

/-- `conn_remove_port2` -/
def World.connRemove (port2 : Int) (world : World) : World :=
  { world with log := .connRemove port2 :: world.log }

section Sockets

variable (answers : Nat → Option Nat)

/-- One of the four blocks of `open_sockets`. -/
def openSocket (port : Int) (sock : Option Listener) (world : World) : Option Listener × World :=
  match sock with
  | some listener => (some listener, world)
  | none =>
      ((answers world.queries).map fun fd => ⟨fd, port⟩,
        { world with queries := world.queries + 1 })

/-- `open_sockets` -/
def openSockets (p : ListenPort) (world : World) : ListenPort × World :=
  let (sock1Udp, world) := openSocket answers p.port1 p.sock1Udp world
  let (sock2Udp, world) := openSocket answers p.port2 p.sock2Udp world
  let (sock1Tcp, world) := openSocket answers p.port1 p.sock1Tcp world
  let (sock2Listen, world) := openSocket answers p.port2 p.sock2Listen world
  ({ p with
      sock1Udp := sock1Udp
      sock2Udp := sock2Udp
      sock1Tcp := sock1Tcp
      sock2Listen := sock2Listen }, world)

/-- `close_sockets` -/
def closeSockets (p : ListenPort) : ListenPort :=
  { p with sock1Udp := none, sock2Udp := none, sock1Tcp := none, sock2Listen := none }

/-- The entry that `upsert_port` finds for a port2. -/
def upsertEntry (port1 : Int) (flags : Nat) (fcSysid : UInt8) (p : ListenPort) (world : World) :
    ListenPort × World :=
  let p := { p with seen := true }
  if p.removed then
    let p := { p with removed := false, port1 := port1, flags := flags, fcSysid := fcSysid }
    if p.pid = 0 then openSockets answers p world else (p, world)
  else if p.port1 ≠ port1 then
    let p := closeSockets p
    let world := if p.pid ≠ 0 then world.kill p.pid else world
    let p := { p with port1 := port1, flags := flags, fcSysid := fcSysid }
    if p.pid = 0 then openSockets answers p world else (p, world)
  else ({ p with flags := flags, fcSysid := fcSysid }, world)

/-- The entry that `upsert_port` adds for a new port2. -/
def newEntry (port1 port2 : Int) (flags : Nat) (fcSysid : UInt8) : ListenPort :=
  ⟨port1, port2, none, none, none, none, 0, flags, fcSysid, true, false⟩

/-- `upsert_port` -/
def upsertPort (port1 port2 : Int) (flags : Nat) (fcSysid : UInt8) (parent : Parent) : Parent :=
  match parent.ports.find? fun p => decide (p.port2 = port2) with
  | some p =>
      let (p, world) := upsertEntry answers port1 flags fcSysid p parent.world
      { parent with
        ports := FirstMatch.replace (fun p => decide (p.port2 = port2)) p parent.ports
        world := world }
  | none =>
      let (p, world) := openSockets answers (newEntry port1 port2 flags fcSysid) parent.world
      { parent with ports := p :: parent.ports, world := world }

/-- `handle_record` goes on with a record of the right sizes. -/
def accepts (record : List UInt8 × List UInt8) : Bool :=
  !(record.1.length != 4 || decide (record.2.length < minSize))

/-- `handle_record` -/
def handleRecord (parent : Parent) (record : List UInt8 × List UInt8) : Parent :=
  if !accepts record then parent
  else
    upsertPort answers (Field.port1.signed record.2) (portOf record.1)
      (Field.flags.unsigned record.2) (UInt8.ofNat (Field.fcSysid.unsigned record.2)) parent

/-- `tdb_traverse(db, handle_record, nullptr)` -/
def traverse (db : List (List UInt8 × List UInt8)) (parent : Parent) : Parent :=
  db.foldl (handleRecord answers) parent

/-- A loop over all entries that changes the entry it is at. -/
def forPorts (body : ListenPort → World → ListenPort × World) :
    List ListenPort → World → List ListenPort × World
  | [], world => ([], world)
  | p :: rest, world =>
      let (p, world) := body p world
      let (rest, world) := forPorts body rest world
      (p :: rest, world)

def Parent.forPorts (body : ListenPort → World → ListenPort × World) (parent : Parent) : Parent :=
  let (ports, world) := SupportProxy.forPorts body parent.ports parent.world
  { parent with ports := ports, world := world }

/-- An entry that is gone from keys.tdb. -/
def retire (p : ListenPort) (world : World) : ListenPort × World :=
  if !p.seen && !p.removed then
    let p := closeSockets { p with removed := true }
    let world := if p.pid ≠ 0 then world.kill p.pid else world
    (p, world.connRemove p.port2)
  else (p, world)

/-- See if any sockets need opening. -/
def reopen (p : ListenPort) (world : World) : ListenPort × World :=
  if p.pid = 0 ∧ p.removed = false then openSockets answers p world else (p, world)

/-- `reload_ports` -/
def reloadPorts (db : List (List UInt8 × List UInt8)) (parent : Parent) : Parent :=
  let parent := { parent with ports := parent.ports.map fun p => { p with seen := false } }
  ((traverse answers db parent).forPorts retire).forPorts (reopen answers)

/-- `handle_connection` for the entry of a port2; `pid` is what `fork` returns. -/
def handleConnection (port2 pid : Int) (parent : Parent) : Parent :=
  match parent.ports.find? fun p => decide (p.port2 = port2) with
  | none => parent
  | some p =>
      { parent with
        ports := FirstMatch.replace (fun p => decide (p.port2 = port2))
          (closeSockets { p with pid := pid }) parent.ports
        world :=
          if 0 < pid then
            { parent.world with
              children := ⟨pid, some (p.port1, p.port2), false, false⟩ :: parent.world.children }
          else parent.world }

/-- `fork_cleanup_child`; `pid` is what `fork` returns. -/
def forkCleanupChild (pid : Int) (parent : Parent) : Parent :=
  if pid < 0 then parent
  else
    { parent with
      cleanupChildPid := pid
      world := { parent.world with
          children := ⟨pid, none, false, false⟩ :: parent.world.children } }

/-- The entry of a child that has been reaped. -/
def childExited (p : ListenPort) (world : World) : ListenPort × World :=
  let p := { p with pid := 0 }
  let world := world.connRemove p.port2
  if !p.removed then openSockets answers p world else (p, world)

/-- One turn of the loop in `check_children`: what `waitpid` returns, and `fork` for a new
cleanup child. -/
def reapChild (parent : Parent) (waited : Int × Int) : Parent :=
  let parent := { parent with
    world := { parent.world with
      children := parent.world.children.filter fun child => child.pid != waited.1 } }
  if waited.1 = parent.cleanupChildPid then
    forkCleanupChild waited.2 { parent with cleanupChildPid := 0 }
  else
    match parent.ports.find? fun p => decide (p.pid = waited.1) with
    | some p =>
        let (p, world) := childExited answers p parent.world
        { parent with
          ports := FirstMatch.replace (fun p => decide (p.pid = waited.1)) p parent.ports
          world := world }
    | none => parent

/-- `check_children` -/
def checkChildren (waited : List (Int × Int)) (parent : Parent) : Parent :=
  waited.foldl (reapChild answers) parent

/-- What happens to the parent next. -/
inductive ParentAction
  /-- the traverse in `main` -/
  | load (db : List (List UInt8 × List UInt8))
  | reload (db : List (List UInt8 × List UInt8))
  /-- a connection on an entry's sockets, and what `fork` returns -/
  | connect (port2 pid : Int)
  | forkCleanup (pid : Int)
  /-- a child exits by itself -/
  | exit (pid : Int)
  | check (waited : List (Int × Int))

def ParentAction.apply : ParentAction → Parent → Parent
  | .load db, parent => traverse answers db parent
  | .reload db, parent => reloadPorts answers db parent
  | .connect port2 pid, parent => handleConnection port2 pid parent
  | .forkCleanup pid, parent => forkCleanupChild pid parent
  | .exit pid, parent =>
      { parent with
        world := { parent.world with
          children := parent.world.children.map fun child =>
            if child.pid = pid then { child with exited := true } else child } }
  | .check waited, parent => checkChildren answers waited parent

end Sockets

/-- `fork` fails, or returns a pid that no child has. -/
def World.Forks (world : World) (pid : Int) : Prop :=
  pid = -1 ∨ 0 < pid ∧ ∀ child ∈ world.children, child.pid ≠ pid

/-- `waitpid` returns children that have exited. -/
def Reaps (answers : Nat → Option Nat) : List (Int × Int) → Parent → Prop
  | [], _ => True
  | waited :: rest, parent =>
      (∃ child ∈ parent.world.children, child.pid = waited.1 ∧ child.exited = true) ∧
        { parent.world with
          children := parent.world.children.filter fun child =>
            child.pid != waited.1 }.Forks waited.2 ∧
        Reaps answers rest (reapChild answers parent waited)

/-- A listening socket of the entry is open. -/
def ListenPort.listens (p : ListenPort) : Bool :=
  p.sock1Udp.isSome || p.sock2Udp.isSome || p.sock1Tcp.isSome || p.sock2Listen.isSome

/-- What the system calls can answer in a state of the parent. -/
def ParentAction.Possible (answers : Nat → Option Nat) (parent : Parent) : ParentAction → Prop
  | .load db => (db.map Prod.fst).Nodup
  | .reload db => (db.map Prod.fst).Nodup
  | .connect port2 pid =>
      (∃ p ∈ parent.ports, p.port2 = port2 ∧ p.pid = 0 ∧ p.removed = false ∧ p.listens = true) ∧
        parent.world.Forks pid
  | .forkCleanup pid => parent.cleanupChildPid = 0 ∧ parent.world.Forks pid
  | .exit _ => True
  | .check waited => Reaps answers waited parent

instance (world : World) (pid : Int) : Decidable (world.Forks pid) :=
  inferInstanceAs (Decidable (_ ∨ _ ∧ _))

instance Reaps.decidable (answers : Nat → Option Nat) :
    (waited : List (Int × Int)) → (parent : Parent) → Decidable (Reaps answers waited parent)
  | [], _ => isTrue trivial
  | waited :: rest, parent =>
      have := Reaps.decidable answers rest (reapChild answers parent waited)
      inferInstanceAs (Decidable (_ ∧ _ ∧ _))

instance (answers : Nat → Option Nat) (parent : Parent) :
    (action : ParentAction) → Decidable (action.Possible answers parent)
  | .load _ => inferInstanceAs (Decidable (List.Nodup _))
  | .reload _ => inferInstanceAs (Decidable (List.Nodup _))
  | .connect _ _ => inferInstanceAs (Decidable (_ ∧ _))
  | .forkCleanup _ => inferInstanceAs (Decidable (_ ∧ _))
  | .exit _ => isTrue trivial
  | .check waited => inferInstanceAs (Decidable (Reaps answers waited parent))

end SupportProxy
