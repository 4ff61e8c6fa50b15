import SupportProxy.Library.SparseArray
import SupportProxy.Mavlink.Message
import Mathlib.Data.UInt
import Mathlib.Logic.Function.Basic

/-! # The binary-log writer

`BinlogWriter` of `binlog.cpp`. Log blocks of 200 bytes are stored at offset
`seqno * 200` of the session file, acknowledged, and missing ones below the
highest seqno are asked for again. Times are in microseconds. -/

namespace SupportProxy

/-- `BLOCK_BYTES` -/
def blockBytes : Nat := 200

/-- `MAX_FORWARD_JUMP_BYTES` -/
def maxForwardJumpBytes : Nat := 100 * 1024 * 1024

/-- `MAX_PER_PORT2_BYTES` -/
def maxPerPort2Bytes : Nat := 1024 * 1024 * 1024

/-- `MAX_NACKS_PER_TICK` -/
def maxNacksPerTick : Nat := 10

/-- `NACK_REPEAT_S` -/
def nackRepeat : Nat := 100 * 1000

/-- `NACK_GIVEUP_S` -/
def nackGiveup : Nat := 60 * 1000000

/-- `NACK_GIVEUP_BLOCKS` -/
def nackGiveupBlocks : Nat := 200

/-- `START_REPEAT_S` -/
def startRepeat : Nat := 1000000

/-- `START_KEEPALIVE_S` -/
def startKeepalive : Nat := 5 * 1000000

/-- `REBOOT_TIME_BACKWARD_MS` -/
def rebootTimeBackwardMs : Nat := 10000

/-- `MAV_REMOTE_LOG_DATA_BLOCK_START` -/
def remoteLogDataBlockStart : Nat := 2147483646

/-- `MAV_COMP_ID_AUTOPILOT1` -/
def compIdAutopilot1 : UInt8 := 1

structure NackState where
  firstSeen : Nat
  /-- 0 for never sent -/
  lastSent : Nat
deriving DecidableEq

/-- `logs/<port2>/<date>/session<n>.bin`, the date as a day number. -/
structure SessionPath where
  port2 : Nat
  date : Nat
  n : Nat
deriving DecidableEq

structure SessionFile where
  path : SessionPath
  bytes : SparseArray UInt8

structure BinlogWriter where
  fp : Option SessionFile
  seenBitmap : SparseArray (BitVec 8)
  highestSeen : Nat
  anyBlockSeen : Bool
  lastStartSent : Nat
  targetSystem : UInt8
  targetComponent : UInt8
  pendingAcks : List Nat
  nackState : Nat → Option NackState
  port2 : Nat
  currentFileSize : Nat
  otherSessionsBytes : Nat
  writesSinceQuotaRefresh : Nat
  fcSysidFilter : UInt8
  lastSystemTimeBootMs : Nat
  pendingSessionN : Nat

/-- What the file system and the clock answer during one `handle_block`. -/
structure BlockIo where
  date : Nat
  opens : Bool
  /-- sizes of the other session files, at the open and at a later refresh -/
  othersAtOpen : Nat
  othersLater : Nat
  seeks : Bool
  /-- the result of `fwrite` -/
  wrote : Nat
  now : Nat

/-- The exits of `handle_block`. -/
inductive BlockResult
  | gated | openFailed | jumpCap | quota | seekFailed | shortWrite | stored
deriving DecidableEq

/-- A `REMOTE_LOG_BLOCK_STATUS` handed to `send_buf`. -/
structure StatusPacket where
  targetSystem : UInt8
  targetComponent : UInt8
  seqno : Nat
  ack : Bool
deriving DecidableEq

/-- What the transport and the clock answer during one `tick`. -/
structure TickIo where
  now : Nat
  startSends : Bool
  nackSends : Nat → Bool
  /-- the iteration order of `nack_state` -/
  order : List Nat

namespace BinlogWriter

/-- A writer as constructed, with `set_fc_sysid_filter`. -/
def initial (fcSysid : UInt8) : BinlogWriter where
  fp := none
  seenBitmap := SparseArray.empty
  highestSeen := 0
  anyBlockSeen := false
  lastStartSent := 0
  targetSystem := 0
  targetComponent := 0
  pendingAcks := []
  nackState := fun _ => none
  port2 := 0
  currentFileSize := 0
  otherSessionsBytes := 0
  writesSinceQuotaRefresh := 0
  fcSysidFilter := fcSysid
  lastSystemTimeBootMs := 0
  pendingSessionN := 0

/-- `refresh_other_sessions_bytes`, given the total it finds on disk. -/
def refreshOtherSessionsBytes (writer : BinlogWriter) (found : Nat) : BinlogWriter :=
  { writer with otherSessionsBytes := if writer.port2 = 0 then 0 else found }

/-- `BinlogWriter::open` with no file open: `fopen(path, "wb+")` truncates. -/
def openFile (writer : BinlogWriter) (port2 n : Nat) (io : BlockIo) : Option BinlogWriter :=
  if io.opens then
    some { ({ writer with
      fp := some ⟨⟨port2, io.date, n⟩, SparseArray.empty⟩
      port2 := port2
      currentFileSize := 0 }).refreshOtherSessionsBytes io.othersAtOpen with
      writesSinceQuotaRefresh := 0 }
  else none

/-- `seqno_seen` -/
def seqnoSeen (writer : BinlogWriter) (seqno : Nat) : Bool := writer.seenBitmap.testBit seqno

/-- `mark_seqno_seen`, growing the bitmap in chunks of 64 KiB. -/
def markSeqnoSeen (writer : BinlogWriter) (seqno : Nat) : BinlogWriter :=
  { writer with
    seenBitmap :=
      if inside : seqno / 8 < writer.seenBitmap.size then writer.seenBitmap.setBit seqno inside
      else (writer.seenBitmap.grow ((seqno / 8 + 1 + 65535) / 65536 * 65536)).setBit seqno (by
        rw [SparseArray.grow_size]
        omega) }

/-- The strict-start gate with the lazy open. -/
def ensureOpen (writer : BinlogWriter) (port2 sessionN : Nat) (io : BlockIo) (seqno : Nat) :
    Except BlockResult BinlogWriter :=
  if writer.fp.isSome then .ok writer
  else if seqno ≠ 0 then .error .gated
  else
    match writer.openFile port2
        (if writer.pendingSessionN ≠ 0 then writer.pendingSessionN else sessionN) io with
    | none => .error .openFailed
    | some opened => .ok { opened with pendingSessionN := 0 }

/-- The size of the file after the block. -/
def prospectiveSize (writer : BinlogWriter) (seqno : Nat) : Nat :=
  max writer.currentFileSize (seqno * blockBytes + blockBytes)

/-- Latch the vehicle on the first block. -/
def latchTarget (writer : BinlogWriter) (sysid compid : UInt8) : BinlogWriter :=
  if writer.anyBlockSeen then writer
  else { writer with targetSystem := sysid, targetComponent := compid, anyBlockSeen := true }

/-- `fwrite` of the block at `offset`, of which `wrote` bytes get to the file. -/
def writeBlock (writer : BinlogWriter) (offset wrote : Nat) (data : Vector UInt8 200) :
    BinlogWriter :=
  { writer with fp := writer.fp.map fun file =>
      { file with bytes := file.bytes.write offset (data.toList.take wrote) } }

/-- The body of the loop in `queue_gap_nacks`. -/
def noticeGap (now : Nat) (writer : BinlogWriter) (seqno : Nat) : BinlogWriter :=
  if writer.seqnoSeen seqno then writer
  else if (writer.nackState seqno).isSome then writer
  else { writer with nackState := Function.update writer.nackState seqno (some ⟨now, 0⟩) }

/-- `queue_gap_nacks` -/
def queueGapNacks (writer : BinlogWriter) (prevHighest newSeqno now : Nat) : BinlogWriter :=
  let first := (prevHighest + 1) % 2 ^ 32
  (List.range' first (newSeqno - first)).foldl (noticeGap now) writer

/-- The periodic re-scan of the directory. -/
def countWrite (writer : BinlogWriter) (io : BlockIo) : BinlogWriter :=
  if 10000 ≤ writer.writesSinceQuotaRefresh + 1 then
    { writer.refreshOtherSessionsBytes io.othersLater with writesSinceQuotaRefresh := 0 }
  else { writer with writesSinceQuotaRefresh := writer.writesSinceQuotaRefresh + 1 }

/-- The bookkeeping of `handle_block` for a block that is fully on disk. -/
def recordBlock (writer : BinlogWriter) (io : BlockIo) (seqno : Nat) : BinlogWriter :=
  let writer := ({ writer with currentFileSize := writer.prospectiveSize seqno }).countWrite io
  let wasSeen := writer.seqnoSeen seqno
  let writer := writer.markSeqnoSeen seqno
  let writer := { writer with nackState := Function.update writer.nackState seqno none }
  let writer :=
    if writer.anyBlockSeen && decide ((writer.highestSeen + 1) % 2 ^ 32 < seqno)
        && !(decide (writer.highestSeen = 0) && !wasSeen && decide (seqno = 0)) then
      writer.queueGapNacks writer.highestSeen seqno io.now
    else writer
  let writer :=
    if writer.highestSeen ≤ seqno then { writer with highestSeen := seqno } else writer
  { writer with pendingAcks := writer.pendingAcks ++ [seqno] }

/-- `handle_block` once the file is open. -/
def acceptBlock (writer : BinlogWriter) (io : BlockIo) (sysid compid : UInt8) (block : DataBlock) :
    BlockResult × BinlogWriter :=
  let prospective := writer.prospectiveSize block.seqno
  if maxForwardJumpBytes < prospective - writer.currentFileSize then (.jumpCap, writer)
  else if maxPerPort2Bytes < writer.otherSessionsBytes + prospective then (.quota, writer)
  else
    let writer := writer.latchTarget sysid compid
    if !io.seeks then (.seekFailed, writer)
    else
      let written := writer.writeBlock (block.seqno * blockBytes) io.wrote block.data
      if io.wrote < blockBytes then (.shortWrite, written)
      else (.stored, written.recordBlock io block.seqno)

/-- `BinlogWriter::handle_block` -/
def handleBlock (writer : BinlogWriter) (port2 sessionN : Nat) (io : BlockIo)
    (sysid compid : UInt8) (block : DataBlock) : BlockResult × BinlogWriter :=
  match writer.ensureOpen port2 sessionN io block.seqno with
  | .error result => (result, writer)
  | .ok writer => writer.acceptBlock io sysid compid block

/-- Either give-up rule of `drop_stale_nack_state`. -/
def gaveUp (writer : BinlogWriter) (now seqno : Nat) (state : NackState) : Bool :=
  decide (state.firstSeen + nackGiveup < now) ||
    decide (seqno ≤ writer.highestSeen ∧ nackGiveupBlocks < writer.highestSeen - seqno)

/-- `drop_stale_nack_state` -/
def dropStaleNackState (writer : BinlogWriter) (now : Nat) : BinlogWriter :=
  { writer with nackState := fun seqno =>
      (writer.nackState seqno).filter fun state =>
        !(writer.seqnoSeen seqno || writer.gaveUp now seqno state) }

def statusPacket (writer : BinlogWriter) (seqno : Nat) (ack : Bool) : StatusPacket :=
  ⟨writer.targetSystem, writer.targetComponent, seqno, ack⟩

/-- `send_start_packet` every `interval` -/
def sendStart (writer : BinlogWriter) (io : TickIo) (interval : Nat) :
    List StatusPacket × BinlogWriter :=
  if writer.lastStartSent + interval ≤ io.now then
    ([writer.statusPacket remoteLogDataBlockStart true],
      if io.startSends then { writer with lastStartSent := io.now } else writer)
  else ([], writer)

/-- The NACK loop of `tick` over the keys of `nack_state` in the order given;
seqnos that are not keys are passed over. -/
def sendNacks (io : TickIo) : List Nat → Nat → BinlogWriter → List StatusPacket × BinlogWriter
  | [], _, writer => ([], writer)
  | seqno :: rest, budget, writer =>
      if budget = 0 then ([], writer)
      else
        match writer.nackState seqno with
        | none => sendNacks io rest budget writer
        | some state =>
            if state.lastSent ≠ 0 ∧ io.now < state.lastSent + nackRepeat then
              sendNacks io rest budget writer
            else
              let packet := writer.statusPacket seqno false
              let (later, writer) :=
                if io.nackSends seqno then
                  sendNacks io rest (budget - 1) { writer with
                    nackState := Function.update writer.nackState seqno
                      (some { state with lastSent := io.now }) }
                else sendNacks io rest budget writer
              (packet :: later, writer)

/-- `BinlogWriter::tick`: the packets handed to the transport. -/
def tick (writer : BinlogWriter) (io : TickIo) : List StatusPacket × BinlogWriter :=
  if !writer.anyBlockSeen then writer.sendStart io startRepeat
  else
    let (starts, writer) := writer.sendStart io startKeepalive
    if writer.fp.isNone then (starts, writer)
    else
      let acks := writer.pendingAcks.map fun seqno => writer.statusPacket seqno true
      let writer := ({ writer with pendingAcks := [] }).dropStaleNackState io.now
      let (nacks, writer) := sendNacks io io.order maxNacksPerTick writer
      (starts ++ acks ++ nacks, writer)

/-- `rotate_for_reboot`, given the result of `next_session_n`. -/
def rotateForReboot (writer : BinlogWriter) (nextN : Nat) : BinlogWriter :=
  { writer with
    fp := none
    seenBitmap := SparseArray.empty
    highestSeen := 0
    pendingAcks := []
    nackState := fun _ => none
    lastStartSent := 0
    lastSystemTimeBootMs := 0
    pendingSessionN := nextN }

/-- `observe` for a SYSTEM_TIME: whether it rotates. -/
def rebootSeen (writer : BinlogWriter) (timeBootMs : Nat) : Bool :=
  decide (writer.lastSystemTimeBootMs ≠ 0) &&
    decide ((timeBootMs + rebootTimeBackwardMs) % 2 ^ 32 ≤ writer.lastSystemTimeBootMs) &&
    writer.fp.isSome

/-- `BinlogWriter::observe` with the decoded `time_boot_ms`. -/
def observe (writer : BinlogWriter) (nextN : Nat) (msg : Message) (timeBootMs : Nat) :
    BinlogWriter :=
  if msg.msgid ≠ Message.systemTime then writer
  else if msg.compid ≠ compIdAutopilot1 then writer
  else if writer.fcSysidFilter ≠ 0 ∧ msg.sysid ≠ writer.fcSysidFilter then writer
  else
    let writer := if writer.rebootSeen timeBootMs then writer.rotateForReboot nextN else writer
    { writer with lastSystemTimeBootMs := timeBootMs }

end BinlogWriter

end SupportProxy
