import SupportProxy.WebSocket.Connection
import SupportProxy.Library.History

/-! # What is written to a WebSocket

`WebSocket::send` on what the transport takes of each packet. `run_output` says when the bytes on
the wire stay a sequence of frames. -/

namespace SupportProxy

open ByteLayout

/-- What `SSL_write` meets. -/
inductive TlsAnswer
  | all
  /-- so many records go out before one has to wait -/
  | records (count : Nat)
  /-- the TLS handshake has to go on first -/
  | handshake
  | error
deriving DecidableEq

/-- What OpenSSL keeps of a write that had to wait. -/
structure KeptWrite where
  /-- `wnum`, the bytes that went out -/
  sent : Nat
  /-- the record that waits -/
  record : List UInt8

/-- One call of `send`: the message, and what its transport answers. -/
structure SendCall where
  buf : List UInt8
  answer : WriteAnswer
  tls : TlsAnswer
  /-- `pkt` lies elsewhere on the stack than the packet that waits -/
  moved : Bool

/-- What `::send` or `SSL_write` come to. -/
inductive WriteResult
  | full
  | partly
  | later
  | failed
deriving DecidableEq

private theorem WriteResult.partly_ne_full : WriteResult.partly ≠ .full := WriteResult.noConfusion

private theorem WriteResult.later_ne_full : WriteResult.later ≠ .full := WriteResult.noConfusion

private theorem WriteResult.failed_ne_full : WriteResult.failed ≠ .full := WriteResult.noConfusion

/-- A write: its result, the bytes that go on the wire and what OpenSSL keeps. -/
structure Written where
  result : WriteResult
  out : List UInt8
  kept : Option KeptWrite

/-- `::send` -/
def plainSend (answer : WriteAnswer) (pkt : List UInt8) : Written :=
  match answer with
  | .all => ⟨.full, pkt, none⟩
  | .part count => ⟨if count < pkt.length then .partly else .full, pkt.take count, none⟩
  | .again => ⟨.later, [], none⟩
  | .error => ⟨.failed, [], none⟩

/-- `SSL3_RT_MAX_PLAIN_LENGTH` -/
def maxRecord : Nat := 16384

/-- The bytes that go out next. A record that waits goes first, whatever the packet has in its
place. -/
def queued (pkt : List UInt8) : Option KeptWrite → List UInt8
  | none => pkt
  | some kept => kept.record ++ pkt.drop (kept.sent + kept.record.length)

/-- How many of them are in the first records. -/
def inRecords (count : Nat) : Option KeptWrite → Nat
  | none => count * maxRecord
  | some kept => if count = 0 then 0 else kept.record.length + (count - 1) * maxRecord

/-- What waits behind the first records. -/
def keptBehind (count : Nat) (pkt : List UInt8) : Option KeptWrite → KeptWrite
  | none => ⟨inRecords count none, (pkt.drop (inRecords count none)).take maxRecord⟩
  | some kept =>
      if count = 0 then kept
      else
        ⟨kept.sent + inRecords count (some kept),
          ((queued pkt (some kept)).drop (inRecords count (some kept))).take maxRecord⟩

/-- `SSL_write` in the default modes. It must be called again with the same arguments where it had
to wait: other arguments are an error if `pkt` has moved or is too short, and else the record that
waits goes out in place of the beginning of `pkt`. -/
def sslWrite (answer : TlsAnswer) (moved : Bool) (pkt : List UInt8) (kept : Option KeptWrite) :
    Written :=
  if kept.any fun kept => moved || decide (pkt.length < kept.sent + kept.record.length) then
    ⟨.failed, [], kept⟩
  else
    match answer with
    | .all => ⟨.full, queued pkt kept, none⟩
    | .records count =>
        if (queued pkt kept).length ≤ inRecords count kept then ⟨.full, queued pkt kept, none⟩
        else ⟨.later, (queued pkt kept).take (inRecords count kept),
          some (keptBehind count pkt kept)⟩
    | .handshake => ⟨.later, [], kept⟩
    | .error => ⟨.failed, [], kept⟩

namespace WebSocket

/-- The header of `send` for a message of `n` bytes. -/
def header (n : Nat) : List UInt8 :=
  if n ≤ 125 then [0x82, UInt8.ofNat n]
  else if n ≤ 65535 then [0x82, 126] ++ bigBytes 2 n
  else [0x82, 127] ++ bigBytes 8 n

/-- The packet of `send`. -/
def packet (buf : List UInt8) : List UInt8 := header buf.length ++ buf

/-- The transport of a packet. The one of a closed descriptor fails. -/
def write (call : SendCall) (kept : Option KeptWrite) (ws : WebSocket) : Written :=
  if ws.fd = none then ⟨.failed, [], kept⟩
  else if ws.isSSL then sslWrite call.tls call.moved (packet call.buf) kept
  else plainSend call.answer (packet call.buf)

/-- `WebSocket::send` -/
def send (call : SendCall) (kept : Option KeptWrite) (ws : WebSocket) :
    Int × WebSocket × Option KeptWrite :=
  let written := ws.write call kept
  match written.result with
  | .full => (call.buf.length, ws, written.kept)
  | .partly | .later => (0, ws, written.kept)
  | .failed => (-1, { ws with fd := none }, written.kept)

/-- The form of a length in `header`. -/
def formOf (n : Nat) : LengthForm :=
  if n ≤ 125 then .short else if n ≤ 65535 then .medium else .long

private theorem lt_formOf_limit {n : Nat} (small : n < 2 ^ 63) : n < (formOf n).limit := by
  rw [formOf]
  by_cases short : n ≤ 125
  · rw [if_pos short, LengthForm.limit]
    omega
  · rw [if_neg short]
    by_cases medium : n ≤ 65535
    · rw [if_pos medium, LengthForm.limit]
      omega
    · rw [if_neg medium]
      exact small

/-- The frame that carries a message. -/
def binaryFrame (buf : List UInt8) (small : buf.length < 2 ^ 63) : Frame :=
  ⟨0x82, formOf buf.length, none, buf, Frame.binary_reserved, lt_formOf_limit small,
    Frame.unmasked_four⟩

/-- A packet is a frame. -/
theorem packet_eq_encode (buf : List UInt8) (small : buf.length < 2 ^ 63) :
    packet buf = (binaryFrame buf small).encode := by
  have code : (binaryFrame buf small).second = (formOf buf.length).code buf.length := Nat.zero_add _
  rw [Frame.encode, code]
  change packet buf = 0x82 :: UInt8.ofNat ((formOf buf.length).code buf.length) ::
    (bigBytes (formOf buf.length).width buf.length ++ buf)
  rw [packet, header, formOf]
  by_cases short : buf.length ≤ 125
  · rw [if_pos short, if_pos short]
    rfl
  · rw [if_neg short, if_neg short]
    by_cases medium : buf.length ≤ 65535
    · rw [if_pos medium, if_pos medium, List.append_assoc]
      rfl
    · rw [if_neg medium, if_neg medium, List.append_assoc]
      rfl

/-- The receiver of a packet decodes the message. -/
theorem decode_packet (buf rest : List UInt8) (small : buf.length < 2 ^ 63) :
    decode (packet buf ++ rest) = .frame buf (packet buf).length := by
  have decoded := decode_take (binaryFrame buf small) rest (packet buf ++ rest).length
  rw [packet_eq_encode buf small, List.take_length] at decoded
  rw [packet_eq_encode buf small, decoded, if_pos]
  · rfl
  · rw [List.length_append]
    exact Nat.le_add_right _ _

private theorem packet_second (buf : List UInt8) : (packet buf)[1]? =
    some (if buf.length ≤ 125 then UInt8.ofNat buf.length
      else if buf.length ≤ 65535 then 126 else 127) := by
  rw [packet, header]
  split_ifs <;> rfl

private theorem packet_ne_nil (buf : List UInt8) : packet buf ≠ [] := by
  rw [packet, header]
  split_ifs <;> exact List.cons_ne_nil _ _

/-- A packet of one record is no proper beginning of another. -/
theorem packet_eq_of_isPrefix {first second : List UInt8}
    (small : (packet first).length ≤ maxRecord)
    (front : packet first <+: packet second) : packet first = packet second := by
  have short : first.length ≤ 16384 := by
    refine Nat.le_trans ?_ small
    rw [packet, List.length_append]
    exact Nat.le_add_left _ _
  obtain ⟨rest, whole⟩ := front
  by_cases long : 65535 < second.length
  · -- the second byte says which form the length has
    have here : (packet second)[1]? = (packet first)[1]? := by
      rw [← whole, List.getElem?_append_left]
      rw [packet, header, List.length_append]
      split_ifs <;> simp only [List.length_cons, List.length_append] <;> omega
    rw [packet_second, packet_second, if_neg (by omega), if_neg (by omega)] at here
    have code := congrArg UInt8.toNat (Option.some.inj here)
    have top : (127 : UInt8).toNat = 127 := rfl
    by_cases tiny : first.length ≤ 125
    · rw [if_pos tiny, UInt8.toNat_ofNat', top] at code
      omega
    · rw [if_neg tiny, if_pos (by omega)] at code
      cases code
  · have decoded := decode_packet first rest (by omega)
    rw [whole] at decoded
    have again := decode_packet second [] (by omega)
    rw [List.append_nil, decoded] at again
    injection again with same
    rw [same]

end WebSocket

open WebSocket

/-- A connection with what has been written to it. -/
structure Output where
  ws : WebSocket
  kept : Option KeptWrite
  wire : List UInt8
  /-- the messages of the calls that returned their full length -/
  complete : List (List UInt8)
  /-- a packet has been cut short -/
  torn : Bool

namespace Output

/-- Nothing waits in OpenSSL. -/
def initial (ws : WebSocket) : Output := ⟨ws, none, [], [], false⟩

/-- A call of `send`. -/
def step (call : SendCall) (output : Output) : Output where
  ws := (output.ws.send call output.kept).2.1
  kept := (output.ws.send call output.kept).2.2
  wire := output.wire ++ (output.ws.write call output.kept).out
  complete :=
    if (output.ws.send call output.kept).1 = call.buf.length then output.complete ++ [call.buf]
    else output.complete
  torn := output.torn || !(output.ws.write call output.kept).out.isEmpty &&
    decide ((output.ws.write call output.kept).result ≠ .full)

/-- The callers send no empty message, and none that is longer than a TLS record: their buffers
have at most 300 bytes. -/
def Possible (output : Output) (call : SendCall) : Prop :=
  call.buf ≠ [] ∧ (output.ws.isSSL = true → (packet call.buf).length ≤ maxRecord)

/-- Nothing is written behind a packet that was cut short, and where a record waits in OpenSSL,
nothing but the packet that it is from. -/
def Untorn (output : Output) (call : SendCall) : Prop :=
  (output.torn = true → (output.ws.write call output.kept).out = []) ∧
    ∀ kept, output.kept = some kept → (output.ws.write call output.kept).out ≠ [] →
      kept.record <+: packet call.buf

/-- The frames of the calls that returned their full length. -/
def frames (output : Output) : List UInt8 := output.complete.flatMap packet

/-- The bytes of a packet that is not complete. -/
def Truncated (torn : List UInt8) : Prop :=
  torn ≠ [] ∧ ∃ buf, torn <+: packet buf ∧ torn ≠ packet buf

abbrev after (ws : WebSocket) (history : List SendCall) : Output :=
  History.replay step (initial ws) history

/-- The calls of a connection. -/
abbrev Run (ws : WebSocket) : List SendCall → Prop :=
  History.Guarded step (initial ws) Possible

/-- In every state the wire has the frames of the complete calls in order, and behind them at most
one truncated frame with nothing written later. -/
def Framed (ws : WebSocket) (history : List SendCall) : Prop :=
  ∀ earlier, earlier <:+ history → (after ws earlier).wire = (after ws earlier).frames ∨
    ∃ torn, Truncated torn ∧ (after ws earlier).wire = (after ws earlier).frames ++ torn ∧
      (after ws history).wire = (after ws earlier).wire

variable {ws : WebSocket} {output : Output} {call : SendCall} {history : List SendCall}

/-- The record that waits is the whole packet of an earlier call. -/
def Waits (output : Output) : Prop :=
  ∀ kept, output.kept = some kept → output.ws.isSSL = true ∧ kept.sent = 0 ∧
    ∃ buf, kept.record = packet buf ∧ (packet buf).length ≤ maxRecord

/-- What one call writes. -/
inductive Writes (output : Output) (call : SendCall) (written : Written) : Prop
  | whole (out : written.out = packet call.buf) (full : written.result = .full)
      (kept : written.kept = none)
      (own : ∀ kept, output.kept = some kept → kept.record <+: packet call.buf)
  | cut (out : Truncated written.out) (short : written.result ≠ .full)
      (plain : output.kept = none) (kept : written.kept = none)
  | nothing (out : written.out = []) (short : written.result ≠ .full)
      (kept : ∀ kept, written.kept = some kept → output.kept = some kept ∨
        output.ws.isSSL = true ∧ kept = ⟨0, packet call.buf⟩)
  /-- the record of another packet goes out, with the rest of this one behind it -/
  | stale (kept : KeptWrite) (waits : output.kept = some kept)
      (other : ¬kept.record <+: packet call.buf) (full : written.result = .full)
      (length : written.out.length = (packet call.buf).length)
      (begins : kept.record <+: written.out)
  /-- the record of another packet goes out, and the rest of this one waits -/
  | staleAlone (kept : KeptWrite) (waits : output.kept = some kept)
      (other : ¬kept.record <+: packet call.buf) (short : written.result ≠ .full)
      (out : written.out = kept.record)

/-- A call that repeats the packet of the record that waits goes on with it. -/
theorem queued_own {kept : KeptWrite} {pkt : List UInt8} (sent : kept.sent = 0)
    (own : kept.record = pkt) : queued pkt (some kept) = pkt := by
  rw [queued, sent, own, Nat.zero_add, List.drop_length, List.append_nil]

/-- A call behind a waiting record, on one record of its own. -/
theorem write_kept {kept : KeptWrite} {buf : List UInt8} (waits : output.kept = some kept)
    (sent : kept.sent = 0) (record : kept.record = packet buf)
    (small : (packet buf).length ≤ maxRecord)
    (short : (packet call.buf).length ≤ maxRecord) :
    Writes output call (sslWrite call.tls call.moved (packet call.buf) output.kept) := by
  have stays : ∀ other, some kept = some other → output.kept = some other ∨
      output.ws.isSSL = true ∧ other = ⟨0, packet call.buf⟩ :=
        fun other same => .inl (waits.trans same)
  rw [waits, sslWrite.eq_def]
  by_cases refused : ((some kept).any fun kept =>
      call.moved || decide ((packet call.buf).length < kept.sent + kept.record.length)) = true
  · rw [if_pos refused]
    exact .nothing rfl WriteResult.failed_ne_full stays
  rw [if_neg refused]
  have long : kept.record.length ≤ (packet call.buf).length := by
    by_contra below
    refine refused ?_
    rw [Option.any_some, Bool.or_eq_true, decide_eq_true_iff]
    omega
  have length : (queued (packet call.buf) (some kept)).length = (packet call.buf).length := by
    rw [queued, sent, Nat.zero_add, List.length_append, List.length_drop]
    omega
  have begins : kept.record <+: queued (packet call.buf) (some kept) := List.prefix_append _ _
  have full : Writes output call ⟨.full, queued (packet call.buf) (some kept), none⟩ := by
    by_cases own : kept.record <+: packet call.buf
    · have same : kept.record = packet call.buf := by
        rw [record] at own ⊢
        exact packet_eq_of_isPrefix small own
      refine .whole (queued_own sent same) rfl rfl fun other waiting => ?_
      rw [← Option.some.inj (waits.symm.trans waiting)]
      exact own
    · exact .stale kept waits own rfl length begins
  cases call.tls with
  | all => exact full
  | handshake => exact .nothing rfl WriteResult.later_ne_full stays
  | error => exact .nothing rfl WriteResult.failed_ne_full stays
  | records count =>
      dsimp only
      by_cases enough : (queued (packet call.buf) (some kept)).length ≤ inRecords count (some kept)
      · rw [if_pos enough]
        exact full
      rw [if_neg enough]
      rw [length] at enough
      by_cases none : count = 0
      · subst none
        exact .nothing rfl WriteResult.later_ne_full stays
      have one : count = 1 := by
        by_contra more
        refine enough ?_
        have two : 1 * maxRecord ≤ (count - 1) * maxRecord := Nat.mul_le_mul_right _ (by omega)
        rw [inRecords, if_neg none]
        omega
      subst one
      have behind : inRecords 1 (some kept) = kept.record.length := by
        rw [inRecords, if_neg (by decide), Nat.sub_self, Nat.zero_mul, Nat.add_zero]
      have out : (queued (packet call.buf) (some kept)).take (inRecords 1 (some kept)) =
          kept.record := by
        rw [behind, queued, List.take_left]
      refine .staleAlone kept waits (fun own => enough ?_) WriteResult.later_ne_full out
      rw [record] at own
      rw [behind, record, packet_eq_of_isPrefix small own]

/-- Nothing waits, and the packet goes out whole. -/
private theorem writes_whole (bare : output.kept = none) :
    Writes output call ⟨.full, packet call.buf, none⟩ := by
  refine .whole rfl rfl rfl fun kept waiting => ?_
  rw [bare] at waiting
  cases waiting

/-- A call on TLS with nothing that waits, on one record of its own. -/
theorem write_bare (tls : output.ws.isSSL = true) (bare : output.kept = none)
    (short : (packet call.buf).length ≤ maxRecord) :
    Writes output call (sslWrite call.tls call.moved (packet call.buf) none) := by
  have stays : ∀ kept : KeptWrite, none = some kept → output.kept = some kept ∨
      output.ws.isSSL = true ∧ kept = ⟨0, packet call.buf⟩ := fun kept same => by cases same
  rw [sslWrite.eq_def, Option.any_none, if_neg Bool.false_ne_true]
  cases call.tls with
  | all => exact writes_whole bare
  | handshake => exact .nothing rfl WriteResult.later_ne_full stays
  | error => exact .nothing rfl WriteResult.failed_ne_full stays
  | records count =>
      dsimp only
      by_cases enough : (queued (packet call.buf) none).length ≤ inRecords count none
      · rw [if_pos enough]
        exact writes_whole bare
      rw [if_neg enough]
      -- the packet has one record only, and it waits
      obtain rfl : count = 0 := by
        by_contra more
        refine enough ?_
        have one : 1 * maxRecord ≤ count * maxRecord := Nat.mul_le_mul_right _ (by omega)
        rw [inRecords, queued]
        omega
      have first : keptBehind 0 (packet call.buf) none = ⟨0, packet call.buf⟩ := by
        rw [keptBehind, inRecords, Nat.zero_mul, List.drop_zero, List.take_of_length_le short]
      have out : (queued (packet call.buf) none).take (inRecords 0 none) = [] := by
        rw [inRecords, Nat.zero_mul, List.take_zero]
      refine .nothing out WriteResult.later_ne_full fun kept same => .inr ⟨tls, ?_⟩
      rw [← first]
      exact (Option.some.inj same).symm

/-- A call on a plain connection. -/
theorem write_plain (bare : output.kept = none) :
    Writes output call (plainSend call.answer (packet call.buf)) := by
  have stays : ∀ kept : KeptWrite, none = some kept → output.kept = some kept ∨
      output.ws.isSSL = true ∧ kept = ⟨0, packet call.buf⟩ := fun kept same => by cases same
  rw [plainSend.eq_def]
  cases call.answer with
  | all => exact writes_whole bare
  | again => exact .nothing rfl WriteResult.later_ne_full stays
  | error => exact .nothing rfl WriteResult.failed_ne_full stays
  | part count =>
      dsimp only
      by_cases cut : count < (packet call.buf).length
      · rw [if_pos cut]
        by_cases none : count = 0
        · have nothing : (packet call.buf).take count = [] := by rw [none, List.take_zero]
          exact .nothing nothing WriteResult.partly_ne_full stays
        · have size : ((packet call.buf).take count).length = count := by
            rw [List.length_take]
            omega
          have some_ : (packet call.buf).take count ≠ [] := by
            intro empty
            rw [empty] at size
            exact none size.symm
          have shorter : (packet call.buf).take count ≠ packet call.buf := by
            intro same
            rw [same] at size
            omega
          exact .cut ⟨some_, call.buf, List.take_prefix _ _, shorter⟩ WriteResult.partly_ne_full
            bare rfl
      · rw [if_neg cut, List.take_of_length_le (by omega)]
        exact writes_whole bare

/-- One call of `send`. -/
theorem write_writes (possible : Possible output call) (waits : Waits output) :
    Writes output call (output.ws.write call output.kept) := by
  obtain ⟨-, short⟩ := possible
  rw [WebSocket.write]
  by_cases closed : output.ws.fd = none
  · rw [if_pos closed]
    exact .nothing rfl WriteResult.failed_ne_full fun kept same => .inl same
  rw [if_neg closed]
  by_cases tls : output.ws.isSSL = true
  · rw [if_pos tls]
    cases bare : output.kept with
    | none => exact write_bare tls bare (short tls)
    | some kept =>
        obtain ⟨-, sent, buf, record, small⟩ := waits kept bare
        rw [← bare]
        exact write_kept bare sent record small (short tls)
  · rw [if_neg tls]
    cases bare : output.kept with
    | none => exact write_plain bare
    | some kept => exact (tls (waits kept bare).1).elim

/-- What a call returns. -/
theorem complete_step (some_ : call.buf ≠ []) : (output.step call).complete =
    if (output.ws.write call output.kept).result = .full then output.complete ++ [call.buf]
    else output.complete := by
  have long := List.length_pos_iff.mpr some_
  rw [step, WebSocket.send]
  dsimp only
  cases (output.ws.write call output.kept).result with
  | full => rw [if_pos rfl, if_pos rfl]
  | partly => rw [if_neg (by dsimp only; omega), if_neg WriteResult.partly_ne_full]
  | later => rw [if_neg (by dsimp only; omega), if_neg WriteResult.later_ne_full]
  | failed => rw [if_neg (by dsimp only; omega), if_neg WriteResult.failed_ne_full]

private theorem kept_step : (output.step call).kept = (output.ws.write call output.kept).kept := by
  rw [step, WebSocket.send]
  dsimp only
  cases (output.ws.write call output.kept).result <;> rfl

private theorem isSSL_step : (output.step call).ws.isSSL = output.ws.isSSL := by
  rw [step, WebSocket.send]
  dsimp only
  cases (output.ws.write call output.kept).result <;> rfl

private theorem frames_step (some_ : call.buf ≠ []) : (output.step call).frames =
    if (output.ws.write call output.kept).result = .full then output.frames ++ packet call.buf
    else output.frames := by
  rw [frames, complete_step some_]
  split_ifs
  · rw [List.flatMap_append, List.flatMap_singleton, frames]
  · rw [frames]

private theorem wire_step : (output.step call).wire =
    output.wire ++ (output.ws.write call output.kept).out := rfl

/-- A packet is torn by a write of a beginning of it. -/
theorem torn_step : (output.step call).torn = true ↔ output.torn = true ∨
    (output.ws.write call output.kept).out ≠ [] ∧
      (output.ws.write call output.kept).result ≠ .full := by
  rw [step]
  dsimp only
  rw [Bool.or_eq_true, Bool.and_eq_true, Bool.not_eq_true', List.isEmpty_eq_false_iff,
    decide_eq_true_iff]

/-- The wire as long as nothing is written behind a truncated frame, or in its place. -/
structure Sound (output : Output) : Prop where
  waits : Waits output
  clean : output.torn = false → output.wire = output.frames
  torn : output.torn = true → ∃ torn, Truncated torn ∧ output.wire = output.frames ++ torn

private theorem Waits.step (waits : Waits output) (possible : Possible output call)
    (untorn : Untorn output call) : Waits (output.step call) := by
  intro kept waiting
  rw [kept_step] at waiting
  rw [isSSL_step]
  rcases write_writes possible waits with ⟨-, -, none, -⟩ | ⟨-, -, -, none⟩ | ⟨-, -, keeps⟩ |
    ⟨other, there, foreign, -, -, begins⟩ | ⟨other, there, foreign, -, out⟩
  · rw [none] at waiting
    cases waiting
  · rw [none] at waiting
    cases waiting
  · rcases keeps kept waiting with same | ⟨tls, rfl⟩
    · exact waits kept same
    · exact ⟨tls, rfl, call.buf, rfl, possible.2 tls⟩
  · refine (foreign (untorn.2 other there fun empty => ?_)).elim
    obtain ⟨-, -, buf, record, -⟩ := waits other there
    rw [empty, record] at begins
    exact packet_ne_nil buf (List.prefix_nil.mp begins)
  · refine (foreign (untorn.2 other there fun empty => ?_)).elim
    obtain ⟨-, -, buf, record, -⟩ := waits other there
    rw [out, record] at empty
    exact packet_ne_nil buf empty

/-- Under the condition a call writes a complete frame, a truncated one or nothing. -/
theorem write_cases (possible : Possible output call) (waits : Waits output)
    (untorn : Untorn output call) :
    ((output.ws.write call output.kept).out = packet call.buf ∧
      (output.ws.write call output.kept).result = .full) ∨
    (Truncated (output.ws.write call output.kept).out ∧
      (output.ws.write call output.kept).result ≠ .full) ∨
    ((output.ws.write call output.kept).out = [] ∧
      (output.ws.write call output.kept).result ≠ .full) := by
  rcases write_writes possible waits with ⟨out, full, -, -⟩ | ⟨out, short, -, -⟩ |
    ⟨out, short, -⟩ | ⟨other, there, foreign, -, -, begins⟩ | ⟨other, there, foreign, -, out⟩
  · exact .inl ⟨out, full⟩
  · exact .inr (.inl ⟨out, short⟩)
  · exact .inr (.inr ⟨out, short⟩)
  · refine (foreign (untorn.2 other there fun empty => ?_)).elim
    obtain ⟨-, -, buf, record, -⟩ := waits other there
    rw [empty, record] at begins
    exact packet_ne_nil buf (List.prefix_nil.mp begins)
  · refine (foreign (untorn.2 other there fun empty => ?_)).elim
    obtain ⟨-, -, buf, record, -⟩ := waits other there
    rw [out, record] at empty
    exact packet_ne_nil buf empty

private theorem Sound.step (sound : Sound output) (possible : Possible output call)
    (untorn : Untorn output call) : Sound (output.step call) := by
  refine ⟨sound.waits.step possible untorn, fun clean => ?_, fun torn => ?_⟩
  · have notTorn := mt torn_step.mpr (Bool.not_eq_true _ ▸ clean)
    rw [not_or, Bool.not_eq_true] at notTorn
    rw [wire_step, frames_step possible.1, sound.clean notTorn.1]
    rcases write_cases possible sound.waits untorn with ⟨out, full⟩ | ⟨out, short⟩ | ⟨out, short⟩
    · rw [out, if_pos full]
    · exact (notTorn.2 ⟨out.1, short⟩).elim
    · rw [out, if_neg short, List.append_nil]
  · rw [wire_step, frames_step possible.1]
    cases before : output.torn with
    | true =>
        obtain ⟨torn, truncated, framed⟩ := sound.torn before
        have silent := untorn.1 before
        have short : (output.ws.write call output.kept).result ≠ .full := by
          rcases write_cases possible sound.waits untorn with ⟨out, -⟩ | ⟨-, short⟩ | ⟨-, short⟩
          · exact (packet_ne_nil call.buf (out.symm.trans silent)).elim
          · exact short
          · exact short
        refine ⟨torn, truncated, ?_⟩
        rw [silent, if_neg short, List.append_nil, framed]
    | false =>
        have now := (torn_step.mp torn).resolve_left (by rw [before]; exact Bool.false_ne_true)
        rcases write_cases possible sound.waits untorn with ⟨-, full⟩ | ⟨out, short⟩ | ⟨out, -⟩
        · exact (now.2 full).elim
        · refine ⟨_, out, ?_⟩
          rw [if_neg short, sound.clean before]
        · exact (now.1 out).elim

private theorem run_sound (run : Run ws history)
    (untorn : History.Guarded step (initial ws) Untorn history) : Sound (after ws history) := by
  induction history with
  | nil =>
      refine ⟨fun kept waiting => ?_, fun _ => rfl, fun torn => ?_⟩
      · cases waiting
      · cases torn
  | cons call before ih => exact (ih run.2 untorn.2).step run.1 untorn.1

/-- The wire only grows. -/
theorem wire_prefix {earlier : List SendCall} (suffix : earlier <:+ history) :
    (after ws earlier).wire <+: (after ws history).wire := by
  obtain ⟨later, rfl⟩ := suffix
  induction later with
  | nil => exact List.prefix_refl _
  | cons call later ih => exact ih.trans (List.prefix_append _ _)

/-- Behind a truncated frame the wire stays as it is. -/
theorem wire_same {earlier : List SendCall} (suffix : earlier <:+ history)
    (untorn : History.Guarded step (initial ws) Untorn history)
    (torn : (after ws earlier).torn = true) :
    (after ws history).torn = true ∧ (after ws history).wire = (after ws earlier).wire := by
  obtain ⟨later, rfl⟩ := suffix
  induction later with
  | nil => exact ⟨torn, rfl⟩
  | cons call later ih =>
      obtain ⟨still, same⟩ := ih untorn.2
      have silent : ((after ws (later ++ earlier)).ws.write call
          (after ws (later ++ earlier)).kept).out = [] := untorn.1.1 still
      have next : after ws (call :: later ++ earlier) = (after ws (later ++ earlier)).step call :=
        rfl
      rw [next]
      refine ⟨torn_step.mpr (.inl still), ?_⟩
      rw [wire_step, silent, List.append_nil, same]

/-- A framed output has no frame of a call that did not return its length. -/
theorem untorn_of_framed (run : Run ws (call :: history)) (framed : Framed ws (call :: history))
    (sound : Sound (after ws history)) : Untorn (after ws history) call := by
  have stepped : after ws (call :: history) = (after ws history).step call := rfl
  have silent : (after ws history).torn = true →
      ((after ws history).ws.write call (after ws history).kept).out = [] := by
    intro cut
    obtain ⟨torn, truncated, same⟩ := sound.torn cut
    rcases framed history (List.suffix_cons call history) with clean | ⟨_, _, _, last⟩
    · rw [same] at clean
      exact (truncated.1 (List.append_right_eq_self.mp clean)).elim
    · rw [stepped, wire_step] at last
      exact List.append_right_eq_self.mp last
  refine ⟨silent, fun kept waiting some_ => ?_⟩
  have clean : (after ws history).wire = (after ws history).frames :=
    sound.clean (Bool.not_eq_true _ ▸ fun cut => some_ (silent cut))
  have now := framed (call :: history) (List.suffix_refl _)
  rw [stepped, wire_step, frames_step run.1.1, clean] at now
  rcases write_writes run.1 sound.waits with ⟨-, -, -, own⟩ | ⟨-, -, plain, -⟩ | ⟨out, -, -⟩ |
    ⟨other, there, foreign, full, length, begins⟩ | ⟨other, there, foreign, short, out⟩
  · exact own kept waiting
  · rw [waiting] at plain
    cases plain
  · exact (some_ out).elim
  · rw [if_pos full] at now
    rcases now with same | ⟨torn, truncated, same, -⟩
    · rw [List.append_cancel_left_eq] at same
      rw [same] at begins
      exact (foreign begins).elim
    · rw [List.append_assoc, List.append_cancel_left_eq] at same
      have sizes := congrArg List.length same
      have long := List.length_pos_iff.mpr truncated.1
      rw [length, List.length_append] at sizes
      omega
  · obtain ⟨-, -, buf, record, small⟩ := sound.waits other there
    rw [if_neg short, out, record] at now
    rcases now with same | ⟨torn, truncated, same, -⟩
    · exact (packet_ne_nil buf (List.append_right_eq_self.mp same)).elim
    · rw [List.append_cancel_left_eq] at same
      obtain ⟨-, whole, front, differs⟩ := truncated
      rw [← same] at front differs
      exact (differs (packet_eq_of_isPrefix small front)).elim

/-- The output stays framed exactly when nothing is written behind a packet that was cut short, and
nothing but the packet it is from where a record waits in OpenSSL. -/
theorem run_output (run : Run ws history) :
    Framed ws history ↔ History.Guarded step (initial ws) Untorn history := by
  constructor
  · intro framed
    induction history with
    | nil => trivial
    | cons call before ih =>
        have earlierFramed : Framed ws before := by
          intro earlier suffix
          have longer := suffix.trans (List.suffix_cons call before)
          refine (framed earlier longer).imp_right ?_
          rintro ⟨torn, truncated, same, last⟩
          refine ⟨torn, truncated, same, ?_⟩
          have front : (after ws earlier).wire <+: (after ws before).wire := wire_prefix suffix
          have behind : (after ws before).wire <+: (after ws (call :: before)).wire :=
            wire_prefix (List.suffix_cons call before)
          rw [last] at behind
          exact behind.eq_of_length (Nat.le_antisymm behind.length_le front.length_le)
        have untorn := ih run.2 earlierFramed
        exact ⟨untorn_of_framed run framed (run_sound run.2 untorn), untorn⟩
  · intro untorn earlier suffix
    have sound := run_sound (run.of_suffix suffix) (untorn.of_suffix suffix)
    cases torn : (after ws earlier).torn with
    | false => exact .inl (sound.clean torn)
    | true =>
        obtain ⟨piece, truncated, same⟩ := sound.torn torn
        exact .inr ⟨piece, truncated, same, (wire_same suffix untorn torn).2⟩

/-- A message that is cut short by the transport. -/
def cutCall : SendCall := ⟨[0xfe, 0x00], .part 1, .all, false⟩

/-- One packet of which the transport takes a part. -/
theorem run_output_cut :
    Framed (fresh 9 false) [cutCall] ↔
      History.Guarded step (initial (fresh 9 false)) Untorn [cutCall] :=
  run_output ⟨⟨List.cons_ne_nil _ _, fun tls => by cases tls⟩, trivial⟩

/-- The caller sends the next message behind the first byte of the one before. -/
theorem torn_output_unframed :
    Run (fresh 9 false) [⟨[0xfd], .all, .all, false⟩, cutCall] ∧
      ¬Framed (fresh 9 false) [⟨[0xfd], .all, .all, false⟩, cutCall] := by
  refine ⟨⟨⟨List.cons_ne_nil _ _, fun tls => by cases tls⟩,
    ⟨List.cons_ne_nil _ _, fun tls => by cases tls⟩, trivial⟩, fun framed => ?_⟩
  rcases framed [cutCall] (List.suffix_cons _ _) with clean | ⟨_, _, _, last⟩
  · exact absurd clean (by decide)
  · exact absurd last (by decide)

/-- On TLS, the message of a call that had to wait goes out in place of the next one. -/
example : (after (fresh 9 true) [⟨[0xfd, 0x01], .all, .all, false⟩,
    ⟨[0xfe, 0x00], .all, .records 0, false⟩]).wire = packet [0xfe, 0x00] := by decide

end Output

end SupportProxy
