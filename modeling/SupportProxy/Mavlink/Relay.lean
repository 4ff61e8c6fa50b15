import SupportProxy.Mavlink.Delivery

/-! # What a relayed message says at its destination

`send_message` finalises a message again on each link, with the lengths this
build knows for its id. The bytes it hands over parse back to the message that
was accepted, but for what a payload holds past the known length. -/

namespace SupportProxy

variable {P : Type}

/-- The message whose frame a parser without a key completes with the last of these bytes. -/
def Library.parseFrom (lib : Library P) : P → SigningTrack → List UInt8 → Option Message
  | _, _, [] => none
  | parser, track, byte :: rest =>
      let parsed := lib.parseChar parser none track byte
      match rest, parsed.frame with
      | [], frame => frame
      | _ :: _, some _ => none
      | _ :: _, none => lib.parseFrom parsed.parser parsed.track rest

/-- What a fresh parser reads. -/
def Library.parse (lib : Library P) (bytes : List UInt8) : Option Message :=
  lib.parseFrom lib.parser SigningTrack.zero bytes

/-- A finalised message that fits the header, with a signature exactly where it is flagged. -/
structure Message.Complete (msg : Message) : Prop where
  msgid : msg.msgid < 2 ^ 24
  payload : msg.payload.length < 256
  flags : msg.incompatFlags = 0 ∧ msg.signature = [] ∨
    msg.incompatFlags = Message.iflagSigned ∧ msg.signature.length = 13

/-- A message as `mavlink_finalize_message_buffer` leaves it. -/
def Message.finalised (msg : Message) (seq : UInt8) (maxLen : Nat) (signature : List UInt8) :
    Message :=
  { msg with
    seq := seq
    incompatFlags := if signature = [] then 0 else Message.iflagSigned
    payload := msg.trimPayload maxLen
    signature := signature }

/-- The library's part in relaying; `serialise` is `mavlink_msg_to_send_buffer` on a
finalised message. -/
structure Library.Relays (lib : Library P) (serialise : Message → List UInt8) : Prop where
  /-- the lengths of the generated table are bytes -/
  maxLength : ∀ msgid, lib.maxLength msgid < 256
  /-- the id of a parsed frame has three bytes -/
  msgid : ∀ parser signing track byte msg,
    (lib.parseChar parser signing track byte).frame = some msg → msg.msgid < 2 ^ 24
  /-- the checksum is computed again, and on a signing link the signature -/
  finalises : ∀ msg seq signing, ∃ signature,
    lib.sendBuffer msg seq signing (lib.minLength msg.msgid) (lib.maxLength msg.msgid)
        (lib.crcExtra msg.msgid) =
      serialise (msg.finalised seq (lib.maxLength msg.msgid) signature) ∧
        signature.length = if signing.isSome then 13 else 0
  /-- a finalised message parses back, whatever its length -/
  parses : ∀ msg, lib.Knows msg.msgid → msg.Complete → lib.parse (serialise msg) = some msg

/-- The bytes parse back to the message, up to trailing zeros of its payload; the signature
and its flag are free. -/
def Library.Carries (lib : Library P) (bytes : List UInt8) (msg : Message) : Prop :=
  ∃ back, lib.parse bytes = some back ∧ back.msgid = msg.msgid ∧ back.sysid = msg.sysid ∧
    back.compid = msg.compid ∧ back.seq = msg.seq ∧ Padding.Same 0 back.payload msg.payload

section Operations

variable (lib : Library P) (env : Environment)

/-- The buffer that `send_message` hands to `send_data`, where it gets there. -/
def transmitted (chan : Nat) (msg : Message) (mav : MavState P) : Option (List UInt8) :=
  match probeSocket env chan mav with
  | (some _, _) => none
  | (none, mav) =>
      match markSigned env chan msg mav with
      | (none, _) => none
      | (some marked, mav) =>
          let minLen := lib.minLength marked.msgid
          let maxLen := lib.maxLength marked.msgid
          if minLen = 0 ∧ maxLen = 0 then none
          else
            let link := mav.links chan
            let signs := link.statusSigning && link.signing.signOutgoing
            let buffer := lib.sendBuffer marked msg.seq
              (if signs then some (link.signing, link.track) else none) minLen maxLen
              (lib.crcExtra marked.msgid)
            if buffer = [] then none else some buffer

end Operations

section Results

variable {lib : Library P} {env : Environment} {chan : Nat}

/-- Marking a message changes its signing flag only. -/
theorem markSigned_marked {msg marked : Message} {mav after : MavState P}
    (result : markSigned env chan msg mav = (some marked, after)) :
    ∃ flags, marked = { msg with incompatFlags := flags } := by
  rw [markSigned] at result
  dsimp only at result
  by_cases unsigned : (mav.links chan).keyId = -1
  · rw [if_pos unsigned] at result
    exact ⟨_, (Option.some.inj (Prod.mk.inj result).1).symm⟩
  · rw [if_neg unsigned] at result
    by_cases held : (!(mav.links chan).gotSignedPacket && msg.msgid != Message.heartbeat) = true
    · rw [if_pos held] at result
      cases (Prod.mk.inj result).1
    · rw [if_neg held] at result
      exact ⟨_, (Option.some.inj (Prod.mk.inj result).1).symm⟩

private theorem markSigned_log {msg : Message} {mav after : MavState P} {marked : Option Message}
    (result : markSigned env chan msg mav = (marked, after)) : after.log = mav.log := by
  have effect := (markSigned_effect env chan msg mav).2.2.1
  rw [result] at effect
  exact effect

private theorem probeSocket_log {mav after : MavState P} {answer : Option Bool}
    (result : probeSocket env chan mav = (answer, after)) : after.log = mav.log := by
  rw [probeSocket] at result
  split_ifs at result <;> exact (congrArg MavState.log (Prod.mk.inj result).2).symm

/-- `transmitted` is the buffer behind the send that `send_message` logs and the result it
returns. -/
theorem sendMessage_transmitted (lib : Library P) (env : Environment) (chan : Nat) (msg : Message)
    (mav : MavState P) :
    match transmitted lib env chan msg mav with
    | none => (sendMessage lib env chan msg mav).2.log = mav.log
    | some buffer => ∃ transport query,
        (sendMessage lib env chan msg mav).2.log = .sent chan transport msg :: mav.log ∧
        (sendMessage lib env chan msg mav).1 =
          decide (env.sendReturn query buffer.length = buffer.length) := by
  rw [transmitted, sendMessage]
  cases probed : probeSocket env chan mav with
  | mk answer ready =>
      have quiet := probeSocket_log probed
      cases answer with
      | some answer => exact quiet
      | none =>
          dsimp only
          cases result : markSigned env chan msg ready with
          | mk marked after =>
              have silent := (markSigned_log result).trans quiet
              cases marked with
              | none => exact silent
              | some marked =>
                  dsimp only
                  rw [transmit]
                  dsimp only
                  generalize lib.sendBuffer _ _ _ _ _ _ = buffer
                  by_cases unknown : lib.minLength marked.msgid = 0 ∧ lib.maxLength marked.msgid = 0
                  · rw [if_pos unknown, if_pos unknown]
                    exact silent
                  rw [if_neg unknown, if_neg unknown]
                  by_cases empty : buffer = []
                  · rw [if_pos empty, if_pos empty]
                    exact silent
                  · rw [if_neg empty, if_neg empty]
                    exact ⟨_, after.queries, congrArg _ silent, rfl⟩

/-- What is transmitted is the accepted message, finalised for the destination. -/
theorem transmitted_finalised {serialise : Message → List UInt8} (relays : lib.Relays serialise)
    {msg : Message} {mav : MavState P} {buffer : List UInt8}
    (sent : transmitted lib env chan msg mav = some buffer) :
    lib.Knows msg.msgid ∧ ∃ signature,
      (signature = [] ∨ signature.length = 13) ∧
      buffer = serialise (msg.finalised msg.seq (lib.maxLength msg.msgid) signature) := by
  rw [transmitted] at sent
  cases probed : probeSocket env chan mav with
  | mk answer ready =>
      rw [probed] at sent
      cases answer with
      | some answer => cases sent
      | none =>
          dsimp only at sent
          cases result : markSigned env chan msg ready with
          | mk marked after =>
              rw [result] at sent
              cases marked with
              | none => cases sent
              | some marked =>
                  obtain ⟨flags, rfl⟩ := markSigned_marked result
                  dsimp only at sent
                  by_cases unknown : lib.minLength msg.msgid = 0 ∧ lib.maxLength msg.msgid = 0
                  · rw [if_pos unknown] at sent
                    cases sent
                  rw [if_neg unknown] at sent
                  generalize (if ((after.links chan).statusSigning &&
                    (after.links chan).signing.signOutgoing) = true then
                      some ((after.links chan).signing, (after.links chan).track) else none) =
                    signing at sent
                  obtain ⟨signature, written, length⟩ := relays.finalises
                    { msg with incompatFlags := flags } msg.seq signing
                  split at sent
                  · cases sent
                  refine ⟨unknown, signature, ?_, (Option.some.inj sent).symm.trans written⟩
                  split_ifs at length
                  · exact .inr length
                  · exact .inl (List.length_eq_zero_iff.mp length)

private theorem Message.finalised_complete {msg : Message} {seq : UInt8} {maxLen : Nat}
    {signature : List UInt8} (msgid : msg.msgid < 2 ^ 24) (small : maxLen < 256)
    (signed : signature = [] ∨ signature.length = 13) :
    (msg.finalised seq maxLen signature).Complete := by
  refine ⟨msgid, ?_, ?_⟩
  · refine (Padding.trim_length_le _).trans_lt ?_
    exact (List.length_take_le _ _).trans_lt small
  · rcases signed with rfl | length
    · exact .inl ⟨rfl, rfl⟩
    · refine .inr ⟨if_neg fun empty : signature = [] => ?_, length⟩
      rw [empty] at length
      cases length

/-- Trimming keeps a payload, up to trailing zeros, exactly when only zeros are past the
known length. -/
theorem Message.trimPayload_same_iff (maxLen : Nat) (msg : Message) :
    Padding.Same 0 (msg.trimPayload maxLen) msg.payload ↔
      ∀ byte ∈ msg.payload.drop maxLen, byte = 0 := by
  have trimmed : Padding.Same 0 (msg.trimPayload maxLen)
      ((Padding.fill 0 maxLen msg.payload).take maxLen) := Padding.same_trim _
  have filled : Padding.Same 0 (Padding.fill 0 maxLen msg.payload) msg.payload :=
    Padding.same_fill _ _
  rw [← Padding.drop_fill_iff maxLen maxLen msg.payload, ← Padding.same_take_iff]
  exact ⟨fun same => trimmed.symm.trans (same.trans filled.symm),
    fun same => trimmed.trans (same.trans filled)⟩

/-- A message that a link accepts came from a call of the parser. -/
theorem receiveMessage_parsed {source : Nat} {bytes : List UInt8} {before : MavState P}
    {msg : Message} (accepted : (receiveMessage lib env source bytes before).1 = some msg) :
    ∃ parser signing track byte, (lib.parseChar parser signing track byte).frame = some msg := by
  rw [receiveMessage] at accepted
  generalize before.setBadSignature source false = mav at accepted
  induction bytes generalizing mav with
  | nil => cases accepted
  | cons byte rest ih =>
      rw [receiveBytes] at accepted
      cases parsed : parseByte lib source byte mav with
      | mk frame after =>
          rw [parsed] at accepted
          cases frame with
          | none => exact ih after accepted
          | some found =>
              dsimp only at accepted
              have complete : (lib.parseChar (mav.links source).parser (mav.links source).signingOf
                  (mav.links source).track byte).frame = some found := by
                rw [parseByte] at parsed
                dsimp only at parsed
                split at parsed
                next => cases (Prod.mk.inj parsed).1
                next same => rw [same, (Prod.mk.inj parsed).1]
              cases checked : checkFrame lib env source found after with
              | mk passed last =>
                  rw [checked] at accepted
                  cases passed with
                  | false => cases accepted
                  | true => exact ⟨_, _, _, byte, (Option.some.inj accepted) ▸ complete⟩

/-- The bytes that `send_message` hands over for an accepted message carry the message
exactly when its payload has only zeros past the length this build knows. -/
theorem sendMessage_carries_iff {serialise : Message → List UInt8} (relays : lib.Relays serialise)
    {arrival : Environment} {source : Nat} {bytes : List UInt8} {before mav : MavState P}
    {msg : Message} {buffer : List UInt8}
    (accepted : (receiveMessage lib arrival source bytes before).1 = some msg)
    (sent : transmitted lib env chan msg mav = some buffer) :
    lib.Carries buffer msg ↔ ∀ byte ∈ msg.payload.drop (lib.maxLength msg.msgid), byte = 0 := by
  obtain ⟨parser, signing, track, byte, complete⟩ := receiveMessage_parsed accepted
  obtain ⟨known, signature, signed, rfl⟩ := transmitted_finalised relays sent
  have whole : (msg.finalised msg.seq (lib.maxLength msg.msgid) signature).Complete :=
    Message.finalised_complete (relays.msgid parser signing track byte msg complete)
      (relays.maxLength _) signed
  have back := relays.parses (msg.finalised msg.seq (lib.maxLength msg.msgid) signature) known whole
  rw [← Message.trimPayload_same_iff]
  constructor
  · rintro ⟨other, parsed, -, -, -, -, same⟩
    obtain rfl := Option.some.inj (back.symm.trans parsed)
    exact same
  · intro same
    exact ⟨_, back, rfl, rfl, rfl, rfl, same⟩

end Results

namespace Framing

variable {authentic : SecretKey → Message → Bool} {tag : SecretKey → List UInt8 → List UInt8}

/-- The frame of a finalised message. -/
def serialise (msg : Message) : List UInt8 :=
  encode msg msg.seq (UInt8.ofNat msg.incompatFlags.toNat) (dialect msg.msgid).1 ++ msg.signature

private theorem leBytes_length (width number : Nat) : (leBytes width number).length = width := by
  induction width generalizing number with
  | zero => rfl
  | succ width ih => rw [leBytes, List.length_cons, ih]

private theorem leNat_cons (byte : UInt8) (rest : List UInt8) :
    leNat (byte :: rest) = byte.toNat + 256 * leNat rest := rfl

private theorem leNat_leBytes (width number : Nat) :
    leNat (leBytes width number) = number % 256 ^ width := by
  induction width generalizing number with
  | zero => rw [leBytes, leNat, List.foldr_nil, pow_zero, Nat.mod_one]
  | succ width ih =>
      have low : (UInt8.ofNat number).toNat = number % 256 := UInt8.toNat_ofNat' ..
      rw [leBytes, leNat_cons, ih, low, pow_succ', Nat.mod_mul]

private theorem leNat_lt (bytes : List UInt8) : leNat bytes < 256 ^ bytes.length := by
  induction bytes with
  | nil => exact Nat.one_pos
  | cons byte rest ih =>
      have small : byte.toNat < 256 := byte.toNat_lt
      rw [leNat_cons, List.length_cons, pow_succ]
      omega

private theorem crc_lt (bytes : List UInt8) : crc bytes < 65536 := by
  induction bytes using List.reverseRecOn with
  | nil => simp [crc]
  | append_singleton front last ih =>
      rw [crc, List.foldl_append]
      exact Nat.mod_lt _ (by simp)

/-- The length of a frame is known from its first three bytes. -/
theorem frameLength_append {front : List UInt8} (back : List UInt8) {length : Nat}
    (known : frameLength front = some length) : frameLength (front ++ back) = some length := by
  match front, known with
  | _ :: _ :: _ :: _, known => exact known

/-- What comes behind the checksum does not count. -/
theorem checksumGood_append {front : List UInt8} (back : List UInt8)
    (known : checkedLength front = some front.length) :
    checksumGood (front ++ back) = checksumGood front := by
  match front, known with
  | first :: len :: rest, known =>
      have length : rest.length = 10 + len.toNat := by
        have both := Option.some.inj known
        rw [List.length_cons, List.length_cons] at both
        omega
      have lenAt : ((first :: len :: rest).getD 1 0).toNat = len.toNat := rfl
      have lenAt' : ((first :: len :: rest ++ back).getD 1 0).toNat = len.toNat := rfl
      have idAt : ((first :: len :: rest ++ back).drop 7).take 3 =
          ((first :: len :: rest).drop 7).take 3 := by
        rw [List.drop_append_of_le_length (by simp only [List.length_cons]; omega),
          List.take_append_of_le_length (by simp only [List.length_drop, List.length_cons]; omega)]
      have bodyAt : ((first :: len :: rest ++ back).drop 1).take (9 + len.toNat) =
          ((first :: len :: rest).drop 1).take (9 + len.toNat) := by
        rw [List.drop_append_of_le_length (by simp only [List.length_cons]; omega),
          List.take_append_of_le_length (by simp only [List.length_drop, List.length_cons]; omega)]
      have sumAt : ((first :: len :: rest ++ back).drop (10 + len.toNat)).take 2 =
          ((first :: len :: rest).drop (10 + len.toNat)).take 2 := by
        rw [List.drop_append_of_le_length (by simp only [List.length_cons]; omega),
          List.take_append_of_le_length (by simp only [List.length_drop, List.length_cons]; omega)]
      simp only [checksumGood, lenAt, lenAt', idAt, bodyAt, sumAt]

/-- A frame without the flags that the library does not know. -/
def KnownFlags (frame : List UInt8) : Prop := frame.getD 2 0 = 0 ∨ frame.getD 2 0 = 1

/-- A fresh parser without a key goes through a frame byte by byte. -/
theorem parseFrom_frame {frame : List UInt8} (start : frame.head? = some 0xFD)
    (known : KnownFlags frame)
    (length : frameLength frame = some frame.length) (good : checksumGood frame = true)
    (rest : List UInt8) : ∀ done, done ++ rest = frame → rest ≠ [] →
      (library authentic tag).parseFrom done SigningTrack.zero rest = some (decode frame) := by
  induction rest with
  | nil => exact fun _ _ nonempty => (nonempty rfl).elim
  | cons byte rest ih =>
      intro done split _
      have grown : grow done byte = done ++ [byte] := by
        refine if_neg ?_
        rintro ⟨rfl, other⟩
        rw [← split] at start
        exact other (Option.some.inj start)
      have whole : (done ++ [byte]) ++ rest = frame := by
        rw [List.append_assoc, List.singleton_append, split]
      have flags : ¬unknownFlags done byte = true := by
        intro unknown
        rw [unknownFlags, Bool.and_eq_true, Bool.and_eq_true, decide_eq_true_iff, bne_iff_ne,
          bne_iff_ne] at unknown
        obtain ⟨⟨two, notZero⟩, notOne⟩ := unknown
        have here : frame.getD 2 0 = byte := by
          rw [← split, ← two, List.getD_eq_getElem?_getD, List.getElem?_append_right le_rfl,
            Nat.sub_self]
          rfl
        rcases known with zero | one
        · exact notZero (here.symm.trans zero)
        · exact notOne (here.symm.trans one)
      have checked : ¬(checkedLength (done ++ [byte]) = some (done ++ [byte]).length ∧
          checksumGood (done ++ [byte]) = false) := by
        rintro ⟨reached, bad⟩
        rw [← checksumGood_append rest reached, whole, good] at bad
        cases bad
      rw [Library.parseFrom.eq_def]
      dsimp only [library]
      rw [parseChar, grown]
      rw [if_neg flags, if_neg checked]
      cases rest with
      | nil =>
          rw [List.append_nil] at whole
          rw [whole, if_pos length]
          rfl
      | cons next rest =>
          have short : frameLength (done ++ [byte]) ≠ some (done ++ [byte]).length := by
            intro full
            have same := frameLength_append (next :: rest) full
            rw [whole, length, ← whole, List.length_append, List.length_cons] at same
            have := Option.some.inj same
            omega
          rw [if_neg short]
          exact ih _ whole (List.cons_ne_nil _ _)

private theorem parse_serialise {msg : Message} (complete : msg.Complete) :
    (library authentic tag).parse (serialise msg) = some msg := by
  have small : (UInt8.ofNat msg.payload.length).toNat = msg.payload.length := by
    rw [UInt8.toNat_ofNat', Nat.mod_eq_of_lt complete.payload]
  have flags : BitVec.ofNat 8 (UInt8.ofNat msg.incompatFlags.toNat).toNat = msg.incompatFlags := by
    rw [UInt8.toNat_ofNat', Nat.mod_eq_of_lt msg.incompatFlags.isLt, BitVec.ofNat_toNat,
      BitVec.setWidth_eq]
  have signed : msg.signature.length =
      if msg.incompatFlags &&& Message.iflagSigned != 0 then 13 else 0 := by
    rcases complete.flags with ⟨flags, signature⟩ | ⟨flags, signature⟩
    · rw [flags, signature]
      rfl
    · rw [flags, signature]
      rfl
  have id : leNat (leBytes 3 msg.msgid) = msg.msgid := by
    rw [leNat_leBytes]
    exact Nat.mod_eq_of_lt complete.msgid
  obtain ⟨sum, layout, sumEq⟩ : ∃ sum, serialise msg = 0xFD :: UInt8.ofNat msg.payload.length ::
      UInt8.ofNat msg.incompatFlags.toNat :: 0 :: msg.seq :: msg.sysid :: msg.compid ::
      (leBytes 3 msg.msgid ++ (msg.payload ++ (leBytes 2 sum ++ msg.signature))) ∧ sum =
        crc ([UInt8.ofNat msg.payload.length, UInt8.ofNat msg.incompatFlags.toNat, 0, msg.seq,
          msg.sysid, msg.compid] ++ leBytes 3 msg.msgid ++ msg.payload ++
            [UInt8.ofNat (dialect msg.msgid).1]) := by
    refine ⟨_, ?_, rfl⟩
    simp only [serialise, encode, List.cons_append, List.append_assoc, List.nil_append]
  have checksum : leNat (leBytes 2 sum) = sum := by
    rw [leNat_leBytes, sumEq]
    exact Nat.mod_eq_of_lt (crc_lt _)
  have length : (serialise msg).length = 12 + msg.payload.length + msg.signature.length := by
    rw [layout]
    simp only [List.length_cons, List.length_append, leBytes_length]
    omega
  generalize serialise msg = frame at layout length
  have behind : ∀ count, frame.drop (count + 10) =
      (msg.payload ++ (leBytes 2 sum ++ msg.signature)).drop count := by
    intro count
    rw [layout]
    rfl
  have payloadAt : (frame.drop 10).take msg.payload.length = msg.payload := by
    rw [behind 0]
    exact List.take_left
  have sumAt : (frame.drop (10 + msg.payload.length)).take 2 = leBytes 2 sum := by
    rw [Nat.add_comm, behind, List.drop_left]
    rfl
  have signatureAt : (frame.drop (12 + msg.payload.length)).take 13 = msg.signature := by
    rw [show 12 + msg.payload.length = msg.payload.length + 2 + 10 by omega, behind,
      List.drop_append, List.drop_eq_nil_of_le (Nat.le_add_right _ _), List.nil_append,
      Nat.add_sub_cancel_left]
    refine List.take_of_length_le (Nat.le_trans (Nat.le_of_eq signed) ?_)
    split <;> simp
  have bodyAt : (frame.drop 1).take (9 + msg.payload.length) =
      [UInt8.ofNat msg.payload.length, UInt8.ofNat msg.incompatFlags.toNat, 0, msg.seq,
        msg.sysid, msg.compid] ++ leBytes 3 msg.msgid ++ msg.payload := by
    have front : ∀ count, (frame.drop 1).take (count + 9) =
        [UInt8.ofNat msg.payload.length, UInt8.ofNat msg.incompatFlags.toNat, 0, msg.seq,
          msg.sysid, msg.compid] ++ leBytes 3 msg.msgid ++
            (msg.payload ++ (leBytes 2 sum ++ msg.signature)).take count := by
      intro count
      rw [layout]
      rfl
    rw [Nat.add_comm, front, List.take_left]
  have lenAt : (frame.getD 1 0).toNat = msg.payload.length := by
    rw [layout]
    exact small
  have idAt : leNat ((frame.drop 7).take 3) = msg.msgid := by
    rw [layout]
    exact id
  have decoded : decode frame = msg := by
    have flagsAt : BitVec.ofNat 8 (frame.getD 2 0).toNat = msg.incompatFlags := by
      rw [layout]
      exact flags
    have seqAt : frame.getD 4 0 = msg.seq := by rw [layout]; rfl
    have sysidAt : frame.getD 5 0 = msg.sysid := by rw [layout]; rfl
    have compidAt : frame.getD 6 0 = msg.compid := by rw [layout]; rfl
    simp only [decode, lenAt, idAt, flagsAt, seqAt, sysidAt, compidAt, payloadAt, signatureAt]
  have lengthAt : frameLength frame = some frame.length := by
    rw [length, signed]
    rw [layout]
    change some (12 + (UInt8.ofNat msg.payload.length).toNat + _) = _
    rw [small, flags]
  have good : checksumGood frame = true := by
    simp only [checksumGood, lenAt, idAt, bodyAt, sumAt, checksum, beq_iff_eq]
    exact sumEq.symm
  have start : frame.head? = some 0xFD := by rw [layout]; rfl
  have nonempty : frame ≠ [] := by rw [layout]; exact List.cons_ne_nil _ _
  have known : KnownFlags frame := by
    have flagsByte : frame.getD 2 0 = UInt8.ofNat msg.incompatFlags.toNat := by rw [layout]; rfl
    rw [KnownFlags, flagsByte]
    rcases complete.flags with ⟨flags, -⟩ | ⟨flags, -⟩
    · exact .inl (by rw [flags]; rfl)
    · exact .inr (by rw [flags]; rfl)
  have run := @parseFrom_frame authentic tag frame start known lengthAt good frame [] rfl nonempty
  rw [decoded] at run
  exact run

private theorem serialise_finalised (msg : Message) (seq : UInt8) (maxLen : Nat)
    (signature : List UInt8) :
    serialise (msg.finalised seq maxLen signature) =
      encode { msg with payload := msg.trimPayload maxLen } seq (if signature = [] then 0 else 1)
        (dialect msg.msgid).1 ++ signature := by
  cases signature <;> rfl

/-- The reference library relays as the generated one does. -/
theorem relays (width : ∀ key frame, (tag key frame).length = 6) :
    (library authentic tag).Relays serialise where
  maxLength := by
    intro msgid
    dsimp only [library]
    unfold dialect
    split_ifs <;> simp
  msgid := by
    intro parser signing track byte msg complete
    dsimp only [library] at complete
    rw [parseChar] at complete
    split_ifs at complete
    rw [completeFrame_frame complete]
    refine (leNat_lt _).trans_le ?_
    exact Nat.pow_le_pow_right (Nat.succ_pos 255) (List.length_take_le _ _)
  finalises := by
    intro msg seq signing
    cases signing with
    | none => exact ⟨[], (List.append_nil _).symm, rfl⟩
    | some signing =>
        obtain ⟨frame, frameEq⟩ : ∃ frame, frame = encode
            { msg with
                payload := msg.trimPayload ((library authentic tag).maxLength msg.msgid) } seq 1
              (dialect msg.msgid).1 := ⟨_, rfl⟩
        obtain ⟨stamp, stampEq⟩ : ∃ stamp, stamp = UInt8.ofNat signing.1.linkId ::
            leBytes 6 signing.2.timestamp := ⟨_, rfl⟩
        refine ⟨stamp ++ tag signing.1.secretKey (frame ++ stamp), ?_, ?_⟩
        · rw [serialise_finalised, stampEq, List.cons_append, if_neg (List.cons_ne_nil _ _),
            ← frameEq,
            ← List.cons_append, ← List.append_assoc, ← stampEq, stampEq, frameEq]
          simp only [library, List.append_assoc, List.singleton_append]
        · rw [List.length_append, width, stampEq, List.length_cons, leBytes_length]
          rfl
  parses := fun _ _ complete => parse_serialise complete

/-- The reference library with a constant tag. -/
def sampleLibrary : Library (List UInt8) :=
  library (fun _ _ => false) fun _ _ => [0, 0, 0, 0, 0, 0]

/-- A link without a key and without signing. -/
def plainLink : Link (List UInt8) where
  fd := some 5
  keyId := -1
  isTcp := false
  keyLoaded := false
  gotSignedPacket := false
  allowWebsocket := false
  useSendto := false
  sendAddr := ⟨0, 0⟩
  signing := Signing.zero
  track := SigningTrack.zero
  lastSigningSave := 0
  lastSigningWarning := 0
  lastSysid := 0
  lastCompid := 0
  badSigCount := 0
  ws := none
  parser := []
  statusSigning := false
  currentTxSeq := 200

def plainLinks : MavState (List UInt8) := ⟨fun _ => plainLink, fun _ => false, none, 0, []⟩

/-- Every send succeeds. -/
def sampleEnvironment : Environment where
  now := fun _ => 0
  keyRecord := fun _ record => record
  dbOpens := fun _ => true
  dbCommits := fun _ => true
  socketDead := fun _ => false
  writableBytes := fun _ => 100000
  sendReturn := fun _ size => size

/-- A SYSTEM_TIME of a vehicle, with a payload of its own. -/
def systemTimeOf (payload : List UInt8) : Message :=
  ⟨Message.systemTime, 1, 1, 77, 0, payload, []⟩

/-- A payload shorter than the 12 bytes this build knows. -/
def shortTime : Message := systemTimeOf [1, 2, 3, 4, 5, 6, 7, 8, 9]

/-- A shorter payload than this build knows is carried whole. -/
theorem sendMessage_carries_short :
    sampleLibrary.Carries (serialise shortTime) shortTime ↔
      ∀ byte ∈ shortTime.payload.drop (sampleLibrary.maxLength shortTime.msgid), byte = 0 :=
  @sendMessage_carries_iff _ sampleLibrary sampleEnvironment (chanComm2 0) serialise
    (relays fun _ _ => rfl) sampleEnvironment chanComm1 (serialise shortTime) plainLinks plainLinks
    shortTime (serialise shortTime) (by decide +kernel) (by decide +kernel)

/-- A payload with a field that this build does not know. -/
def longTime : Message := systemTimeOf [1, 2, 3, 4, 5, 6, 7, 8, 9, 10, 11, 12, 13]

/-- The extra byte is gone at the engineer. -/
theorem longTime_cut :
    (receiveMessage sampleLibrary sampleEnvironment chanComm1 (serialise longTime) plainLinks).1 =
        some longTime ∧
      ∃ buffer, transmitted sampleLibrary sampleEnvironment (chanComm2 0) longTime plainLinks =
        some buffer ∧ ¬sampleLibrary.Carries buffer longTime := by
  refine ⟨by decide +kernel, serialise (systemTimeOf (longTime.payload.take 12)),
    by decide +kernel, ?_⟩
  rintro ⟨back, parsed, -, -, -, -, same⟩
  have cut : sampleLibrary.parse (serialise (systemTimeOf (longTime.payload.take 12))) =
      some (systemTimeOf (longTime.payload.take 12)) := by decide +kernel
  obtain rfl := Option.some.inj (cut.symm.trans parsed)
  exact absurd same (by decide +kernel)

end Framing

end SupportProxy
