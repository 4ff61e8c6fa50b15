import SupportProxy.Session.MainLoop
import SupportProxy.Mavlink.Framing

/-! # Small sessions

A session in which nothing happens, and the wakeups that add one event to it.
Concrete runs of the main loop are written with them. -/

namespace SupportProxy.Scenario

/-- Every call succeeds, the clock stands still and the key record stays as it is. -/
def environment : Environment where
  now := fun _ => 0
  keyRecord := fun _ record => record
  dbOpens := fun _ => true
  dbCommits := fun _ => true
  socketDead := fun _ => false
  writableBytes := fun _ => 100000
  sendReturn := fun _ size => size

def pair : PortPair := ⟨5000, true, false, false, 0, 1, 77⟩

def library (authentic : SecretKey → Message → Bool) : Library (List UInt8) :=
  Framing.library authentic fun _ _ => [0, 0, 0, 0, 0, 0]

/-- Nothing is ready. -/
def quiet : Wakeup where
  dropsPending := false
  flagged := none
  top := 0
  now := 0
  snapshotNow := 0
  wallClock := 0
  select := .ready
  userDatagram := none
  userConnects := true
  engineerDatagram := none
  userTcpReady := false
  userAccept := none
  userReadable := ⟨false, 0, false, none⟩
  engineerAccept := none
  engineerReadable := fun _ => none
  blockIo := fun _ => ⟨0, true, 0, 0, true, 200, 0⟩
  nextSessionN := fun _ => 1
  tickIo := ⟨0, true, fun _ => true, []⟩

/-- A TCP engineer connects. -/
def engineerConnects (fd : Nat) : Wakeup :=
  { quiet with engineerAccept := some (some (fd, ⟨fd, fd⟩)) }

/-- A TCP engineer of a slot is readable. -/
def engineerReads (slot : Nat) (readable : Readable) : Wakeup :=
  { quiet with engineerReadable := fun other => if other = slot then some readable else none }

/-- A TCP engineer of a slot closes its connection. -/
def engineerLeaves (slot : Nat) : Wakeup := engineerReads slot ⟨false, 0, false, some []⟩

/-- A datagram from a UDP engineer. -/
def engineerDatagram (peer : Peer) (bytes : List UInt8) : Wakeup :=
  { quiet with engineerDatagram := some (some (peer, bytes)) }

/-- A datagram from the user. -/
def userDatagram (bytes : List UInt8) : Wakeup :=
  { quiet with userDatagram := some (some (⟨9, 9⟩, bytes)) }

/-- The state after a run from the start of a session with a key record. -/
def sessionIn (env : Environment) (pair : PortPair) (authentic : SecretKey → Message → Bool)
    (record : Option KeyEntry) (wakes : List Wakeup) : LoopState (List UInt8) :=
  (run (library authentic) env pair wakes
    (LoopState.initial (library authentic) pair (fun _ => none) record
      (some 1, some 2, some 3, some 4))).2

def session (authentic : SecretKey → Message → Bool) (record : Option KeyEntry)
    (wakes : List Wakeup) : LoopState (List UInt8) :=
  sessionIn environment pair authentic record wakes

/-- A support key, with the timestamp it is stored with. -/
def key : SecretKey := Vector.ofFn fun index => UInt8.ofNat (index.val + 1)

def record : KeyEntry := ⟨100000, key⟩

/-- A HEARTBEAT and a SETUP_SIGNING signed with the key, and an unsigned SYSTEM_TIME. -/
def heartbeatFrame : List UInt8 :=
  [253, 9, 1, 0, 1, 255, 190, 0, 0, 0, 0, 0, 0, 0, 6, 8, 0, 4, 3, 202, 62, 0, 100, 0, 0, 0, 0, 0,
    142, 51, 111, 245, 113, 59]

def setupFrame : List UInt8 :=
  [253, 42, 1, 0, 2, 255, 190, 0, 1, 0, 7, 0, 0, 0, 0, 0, 0, 0, 1, 1, 101, 102, 103, 104, 105, 106,
    107, 108, 109, 110, 111, 112, 113, 114, 115, 116, 117, 118, 119, 120, 121, 122, 123, 124, 125,
    126, 127, 128, 129, 130, 131, 132, 89, 192, 0, 101, 0, 0, 0, 0, 0, 245, 131, 204, 8, 150, 31]

def systemTimeFrame : List UInt8 :=
  [253, 12, 0, 0, 3, 1, 1, 2, 0, 0, 0, 0, 0, 0, 0, 0, 0, 0, 5, 0, 0, 0, 156, 132]

/-- The signatures of the two signed frames are the ones their bytes hash to. -/
def authentic (secret : SecretKey) (msg : Message) : Bool :=
  decide (secret = key) &&
    (decide (msg = Framing.decode heartbeatFrame) || decide (msg = Framing.decode setupFrame))

end SupportProxy.Scenario
