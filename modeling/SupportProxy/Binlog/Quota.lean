import SupportProxy.Binlog.Growth
import SupportProxy.Binlog.StartGate

/-! # A block beyond the quota

The bytes of the other sessions are counted at the open and after every 10000th
block that is stored. A block beyond the quota is not stored, so a count that is out
of date stays so for as long as it stops every block. -/

namespace SupportProxy.Capture

open BinlogWriter

/-- From now on the other session files have `others` bytes, and the open file can be written. -/
structure Answers (others : Nat) (io : BlockIo) : Prop where
  opening : io.othersAtOpen = others
  later : io.othersLater = others
  seeks : io.seeks = true
  wrote : io.wrote = blockBytes

/-- A block as `handle_block` gets it from the vehicle. -/
structure Offer where
  port2 : Nat
  sessionN : Nat
  sysid : UInt8
  compid : UInt8
  block : DataBlock

namespace Offer

variable (offer : Offer)

def call (io : BlockIo) : WriterCall :=
  .handleBlock offer.port2 offer.sessionN io offer.sysid offer.compid offer.block

/-- The first `count` further calls with the block, the newest first. -/
def calls (ios : Nat → BlockIo) : Nat → List WriterCall
  | 0 => []
  | count + 1 => offer.call (ios count) :: calls ios count

/-- The block is written, and the next `tick` acknowledges it. -/
def Lands (io : BlockIo) (capture : Capture) : Prop :=
  let outcome := capture.writer.handleBlock offer.port2 offer.sessionN io offer.sysid offer.compid
    offer.block
  outcome.1 = .stored ∧
    ∀ tickIo, outcome.2.statusPacket offer.block.seqno true ∈ (outcome.2.tick tickIo).1

end Offer

variable {capture : Capture} {offer : Offer}

/-- What is full stays full. -/
theorem offer_rejected (isOpen : capture.writer.fp.isSome = true)
    (jump : capture.writer.prospectiveSize offer.block.seqno - capture.writer.currentFileSize ≤
      maxForwardJumpBytes)
    (full : maxPerPort2Bytes <
      capture.writer.otherSessionsBytes + capture.writer.prospectiveSize offer.block.seqno)
    (io : BlockIo) :
    capture.writer.handleBlock offer.port2 offer.sessionN io offer.sysid offer.compid offer.block =
      (.quota, capture.writer) := by
  rw [handleBlock_open isOpen, acceptBlock]
  dsimp only
  rw [if_neg (Nat.not_lt.mpr jump), if_pos full]

private theorem offers_rejected {fcSysid : UInt8} {before : List WriterCall}
    (isOpen : (after fcSysid before).writer.fp.isSome = true)
    (jump : (after fcSysid before).writer.prospectiveSize offer.block.seqno -
      (after fcSysid before).writer.currentFileSize ≤ maxForwardJumpBytes)
    (full : maxPerPort2Bytes < (after fcSysid before).writer.otherSessionsBytes +
      (after fcSysid before).writer.prospectiveSize offer.block.seqno)
    (ios : Nat → BlockIo) (count : Nat) :
    after fcSysid (offer.calls ios count ++ before) = after fcSysid before := by
  induction count with
  | zero => rfl
  | succ count ih =>
      have again : after fcSysid (offer.calls ios (count + 1) ++ before) =
          apply (offer.call (ios count)) (after fcSysid (offer.calls ios count ++ before)) := rfl
      rw [again, ih, Offer.call, apply, offer_rejected isOpen jump full]
      rfl

/-- A block within both caps is stored at once. -/
theorem offer_lands (isOpen : capture.writer.fp.isSome = true)
    (fits : capture.writer.Fits offer.block.seqno) {others : Nat} {io : BlockIo}
    (answers : Answers others io) : offer.Lands io capture := by
  rw [Offer.Lands, handleBlock_open isOpen]
  obtain ⟨latched, latchedFp, -⟩ := latchTarget_eq capture.writer offer.sysid offer.compid
  rcases acceptBlock_cases capture.writer io offer.sysid offer.compid offer.block with
    ⟨rejected, -⟩ | ⟨-, ⟨fails, -⟩ | ⟨-, short, -⟩ | ⟨-, -, result⟩⟩
  · exact (rejected fits).elim
  · rw [answers.seeks] at fails
    cases fails
  · rw [answers.wrote] at short
    exact (Nat.lt_irrefl _ short).elim
  · rw [result]
    dsimp only
    refine ⟨rfl, fun tickIo => ?_⟩
    have file := recordBlock_sameFile ((capture.writer.latchTarget offer.sysid
      offer.compid).writeBlock (offer.block.seqno * blockBytes) io.wrote offer.block.data) io
        offer.block.seqno
    have recorded := recordBlock_recorded ((capture.writer.latchTarget offer.sysid
      offer.compid).writeBlock (offer.block.seqno * blockBytes) io.wrote offer.block.data) io
        offer.block.seqno
    have streams : (((capture.writer.latchTarget offer.sysid offer.compid).writeBlock
        (offer.block.seqno * blockBytes) io.wrote offer.block.data).recordBlock io
          offer.block.seqno).streaming = true := by
      rw [streaming, file.latched, file.fp, writeBlock, Option.isSome_map, latchedFp, isOpen,
        Bool.and_true]
      exact latched
    obtain ⟨starts, nacks, packets, -⟩ := tick_streaming streams tickIo
    rw [packets, recorded.pending]
    exact List.mem_append_left _ (List.mem_append_right _ (List.mem_map.mpr
      ⟨offer.block.seqno, List.mem_append_right _ List.mem_cons_self, rfl⟩))

/-- The next block after `firstBlock`. -/
def nextOffer : Offer := ⟨5000, 1, 1, 1, secondBlock⟩

/-- Block 0 fills what the other sessions leave of the quota. -/
def filled : List WriterCall :=
  [.handleBlock 5000 1 { goodIo with othersAtOpen := maxPerPort2Bytes - 200 } 1 1 firstBlock]

private theorem goodIo_answers : Answers 0 goodIo := ⟨rfl, rfl, rfl, rfl⟩

end SupportProxy.Capture
