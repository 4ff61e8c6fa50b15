import SupportProxy.Binlog.Steps

/-! # The log directory of a port pair

The children of one port pair, one at a time, keep their session files under
`logs/<port2>/<date>/`. A child takes its session number from today's directory
when it starts, opens its `.tlog` and `.bin` files when there is something to
write, and takes a new number at a reboot of the vehicle. -/

namespace SupportProxy

/-- A block handed to the writer: the boot of the vehicle it was sent in, and its source. -/
structure LogEntry where
  boot : Nat
  sysid : UInt8
  compid : UInt8
  block : DataBlock

/-- A running child: `session_n`, the two writers, and what the open `.bin` file has been
through. `floor` is the boot whose SYSTEM_TIME was last taken for a reboot. -/
structure LogChild where
  sessionN : Nat
  tlog : Option SessionPath
  writer : BinlogWriter
  floor : Nat
  /-- blocks of which some bytes were written to the open file -/
  written : List LogEntry
  /-- blocks that were written to it in full -/
  stored : List LogEntry
  /-- acknowledgements and NACKs sent for it -/
  packets : List StatusPacket

/-- The session files of a port pair; a `.tlog` file is kept with the child that created it. -/
structure LogStore where
  port2 : Nat
  date : Nat
  bins : List SessionPath
  tlogs : List (SessionPath × Nat)
  forks : Nat
  child : Option LogChild
  /-- existing `.bin` files that a reboot rotation has closed -/
  closed : List SessionPath
  /-- existing `.bin` files that a later open has truncated -/
  overwritten : List SessionPath
  /-- `.tlog` files of an earlier child that a later child has opened -/
  continued : List SessionPath

/-- What happens to the log directory. `listed` is the result of `opendir` in
`next_session_n`. -/
inductive LogEvent
  /-- the local date moves on -/
  | midnight (days : Nat)
  | fork (listed : Bool) (fcSysid : UInt8)
  | exit
  /-- `ensure_tlog_open`; `opens` is the result of `mkpath_0700` and `fopen` -/
  | openTlog (opens : Bool)
  | block (io : BlockIo) (entry : LogEntry)
  | observe (listed : Bool) (boot : Nat) (msg : Message) (timeBootMs : Nat)
  | tick (io : TickIo)
  /-- the cleanup worker removes a file -/
  | unlinkBin (path : SessionPath)
  | unlinkTlog (path : SessionPath)

/-- The loop of `next_session_n` over the numbers in the directory. -/
def highestSessionN (entries : List Nat) : Nat :=
  entries.foldl (fun highest n => if highest < n then n else highest) 0

/-- `next_session_n`; none for a directory that could not be opened. -/
def nextSessionN : Option (List Nat) → Nat
  | none => 1
  | some entries => (highestSessionN entries + 1) % 2 ^ 32

namespace LogChild

def initial (sessionN : Nat) (fcSysid : UInt8) : LogChild :=
  ⟨sessionN, none, BinlogWriter.initial fcSysid, 0, [], [], []⟩

/-- The child after a block came to one of the exits of `handle_block`. -/
def settle (entry : LogEntry) (child : LogChild) : BlockResult × BinlogWriter → LogChild
  | (.stored, writer) =>
      { child with
        writer := writer
        written := entry :: child.written
        stored := entry :: child.stored }
  | (.shortWrite, writer) => { child with writer := writer, written := entry :: child.written }
  | (_, writer) => { child with writer := writer }

/-- The child with its file closed by a rotation. -/
def rotated (boot : Nat) (writer : BinlogWriter) (child : LogChild) : LogChild :=
  { child with
    writer := writer
    floor := max child.floor boot
    written := []
    stored := []
    packets := [] }

/-- The path of the open `.bin` file. -/
def binPath (child : LogChild) : Option SessionPath := child.writer.fp.map SessionFile.path

end LogChild

namespace LogStore

def initial (port2 date : Nat) : LogStore := ⟨port2, date, [], [], 0, none, [], [], []⟩

/-- The numbers of the session files in today's directory. -/
def entries (store : LogStore) : List Nat :=
  ((store.bins ++ store.tlogs.map Prod.fst).filter fun path =>
    path.port2 = store.port2 ∧ path.date = store.date).map SessionPath.n

/-- `next_session_n(port2, "logs")` -/
def nextN (store : LogStore) (listed : Bool) : Nat :=
  nextSessionN (if listed then some store.entries else none)

/-- `fopen(path, "wb+")` -/
def openBin (store : LogStore) (path : SessionPath) : LogStore :=
  if path ∈ store.bins then { store with overwritten := path :: store.overwritten }
  else { store with bins := path :: store.bins }

/-- `fopen(path, "ab")` -/
def openTlog (store : LogStore) (path : SessionPath) : LogStore :=
  match store.tlogs.find? fun tlog => tlog.1 = path with
  | none => { store with tlogs := (path, store.forks) :: store.tlogs }
  | some (_, creator) =>
      if creator < store.forks then { store with continued := path :: store.continued } else store

/-- The step of a store with a child. -/
def childStep (child : LogChild) : LogEvent → LogStore → LogStore
  | .openTlog opens, store =>
      let path := ⟨store.port2, store.date, child.sessionN⟩
      if child.tlog.isNone ∧ opens = true then
        { store.openTlog path with child := some { child with tlog := some path } }
      else store
  | .block io entry, store =>
      let outcome :=
        child.writer.handleBlock store.port2 child.sessionN { io with date := store.date }
        entry.sysid entry.compid entry.block
      let next := child.settle entry outcome
      let store := match child.binPath, next.binPath with
        | none, some path => store.openBin path
        | _, _ => store
      { store with child := some next }
  | .observe listed boot msg timeBootMs, store =>
      let writer := child.writer.observe (store.nextN listed) msg timeBootMs
      match child.binPath, writer.fp with
      | some path, none =>
          { store with
            closed := if path ∈ store.bins then path :: store.closed else store.closed
            child := some (child.rotated boot writer) }
      | _, _ => { store with child := some { child with writer := writer } }
  | .tick io, store =>
      let (packets, writer) := child.writer.tick io
      { store with child := some { child with
          writer := writer
          packets := packets.filter (fun packet => packet.seqno ≠ remoteLogDataBlockStart) ++
            child.packets } }
  | _, store => store

def apply (event : LogEvent) (store : LogStore) : LogStore :=
  match event, store.child with
  | .midnight days, _ => { store with date := store.date + days }
  | .unlinkBin path, _ =>
      { store with
        bins := store.bins.filter (· ≠ path)
        closed := store.closed.filter (· ≠ path) }
  | .unlinkTlog path, _ => { store with tlogs := store.tlogs.filter fun tlog => tlog.1 ≠ path }
  | .exit, _ => { store with child := none }
  | .fork listed fcSysid, none =>
      { store with
        forks := store.forks + 1
        child := some (LogChild.initial (store.nextN listed) fcSysid) }
  | event, some child => store.childStep child event
  | _, none => store

/-- The log directory after a history, the newest event first. -/
def after (port2 date : Nat) : List LogEvent → LogStore :=
  History.replay apply (initial port2 date)

end LogStore

end SupportProxy
