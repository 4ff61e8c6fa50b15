import SupportProxy.Mavlink.Gate
import SupportProxy.Mavlink.Framing

/-! # What becomes of a relayed message

The callers of `send_message` take false for a dead peer. `sendMessage_true_iff` says when a
peer that is alive is taken for a dead one: the message's id is not in the generated table, or
the write has to wait. -/

namespace SupportProxy

variable {P : Type}

/-- A message id is in the generated table. -/
def Library.Knows (lib : Library P) (msgid : Nat) : Prop :=
  ¬(lib.minLength msgid = 0 ∧ lib.maxLength msgid = 0)

instance (lib : Library P) (msgid : Nat) : Decidable (lib.Knows msgid) :=
  inferInstanceAs (Decidable (¬(lib.minLength msgid = 0 ∧ lib.maxLength msgid = 0)))

/-- A finalised packet has a header at least. -/
def Library.Frames (lib : Library P) : Prop :=
  ∀ msg seq signing minLen maxLen extra, lib.sendBuffer msg seq signing minLen maxLen extra ≠ []

/-- The reference library puts a header in front of every payload. -/
theorem Framing.frames {authentic : SecretKey → Message → Bool}
    {tag : SecretKey → List UInt8 → List UInt8} : (Framing.library authentic tag).Frames := by
  intro msg seq signing minLen maxLen extra
  cases signing with
  | none => exact List.cons_ne_nil _ _
  | some signing => exact List.cons_ne_nil _ _

/-- `blocked` are the writes that fail with `EAGAIN` or wait for TLS: they return less than
they were given. -/
def Environment.Waits (env : Environment) (blocked : Nat → Prop) : Prop :=
  ∀ query size, blocked query → 0 < size → env.sendReturn query size ≠ size

namespace Link

/-- The number of the question that the write of a message asks. -/
def writeQuery (link : Link P) (queries : Nat) : Nat :=
  queries + (if link.isTcp then 2 else 0) +
    if link.keyId ≠ -1 ∧ link.keyLoaded = true then 1 else 0

/-- The socket is not dead, and a write completes or has to wait. -/
structure Alive (env : Environment) (blocked : Nat → Prop) (link : Link P) (queries : Nat) :
    Prop where
  socket : link.isTcp = true → env.socketDead queries = false
  write : (∀ size : Nat, env.sendReturn (link.writeQuery queries) size = size) ∨
    blocked (link.writeQuery queries)

/-- A TCP link without room for a message. -/
def Congested (env : Environment) (link : Link P) (queries : Nat) : Prop :=
  link.isTcp = true ∧ env.writableBytes (queries + 1) < 400

/-- A message is dropped on purpose, or it can be packed and written at once. -/
def Spares (lib : Library P) (env : Environment) (blocked : Nat → Prop) (link : Link P)
    (queries : Nat) (msg : Message) : Prop :=
  link.Congested env queries ∨ ¬link.passes msg ∨
    lib.Knows msg.msgid ∧ ¬blocked (link.writeQuery queries)

end Link

section Operations

variable (lib : Library P) (env : Environment) {blocked : Nat → Prop} {chan : Nat}

private theorem updateSigningTimestamp_queries (mav : MavState P) :
    (updateSigningTimestamp env chan mav).queries = mav.queries + 1 := by
  rw [updateSigningTimestamp]
  dsimp only
  split_ifs <;> rfl

/-- A message that is not held back keeps its id, and the clock is asked for the signing
timestamp. -/
theorem markSigned_some {msg marked : Message} {mav after : MavState P}
    (result : markSigned env chan msg mav = (some marked, after)) :
    (mav.links chan).passes msg ∧ marked.msgid = msg.msgid ∧
      after.queries = mav.queries +
        if (mav.links chan).keyId ≠ -1 ∧ (mav.links chan).keyLoaded = true then 1 else 0 := by
  have passes : (mav.links chan).passes msg := by
    refine (markSigned_effect env chan msg mav).2.2.2 ?_
    rw [result]
    exact Option.isSome_some
  obtain ⟨remembered, same, queries⟩ : ∃ middle : MavState P,
      (if msg.msgid = Message.heartbeat then mav.modifyLink chan fun link =>
        { link with lastSysid := msg.sysid, lastCompid := msg.compid } else mav) = middle ∧
        middle.queries = mav.queries := by
    split_ifs
    · exact ⟨_, rfl, rfl⟩
    · exact ⟨_, rfl, rfl⟩
  rw [markSigned] at result
  dsimp only at result
  rw [same] at result
  by_cases unsigned : (mav.links chan).keyId = -1
  · rw [if_pos unsigned] at result
    obtain ⟨rfl, rfl⟩ := Prod.mk.inj result |>.imp_left Option.some.inj
    refine ⟨passes, rfl, ?_⟩
    rw [if_neg (fun signs => signs.1 unsigned)]
    rfl
  · rw [if_neg unsigned] at result
    split_ifs at result with held loaded
    · exact (Option.some_ne_none marked (Prod.mk.inj result).1.symm).elim
    · obtain ⟨rfl, rfl⟩ := Prod.mk.inj result |>.imp_left Option.some.inj
      refine ⟨passes, rfl, ?_⟩
      rw [updateSigningTimestamp_queries, queries, if_pos ⟨unsigned, loaded⟩]
    · obtain ⟨rfl, rfl⟩ := Prod.mk.inj result |>.imp_left Option.some.inj
      refine ⟨passes, rfl, ?_⟩
      rw [queries, if_neg (fun signs => loaded signs.2)]
      rfl

private theorem markSigned_none {msg : Message} {mav after : MavState P}
    (result : markSigned env chan msg mav = (none, after)) : ¬(mav.links chan).passes msg := by
  rintro passes
  rw [markSigned] at result
  dsimp only at result
  by_cases unsigned : (mav.links chan).keyId = -1
  · rw [if_pos unsigned] at result
    exact Option.some_ne_none _ (Prod.mk.inj result).1
  by_cases held : (!(mav.links chan).gotSignedPacket && msg.msgid != Message.heartbeat) = true
  · rw [Bool.and_eq_true, Bool.not_eq_true', bne_iff_ne] at held
    rcases passes with absent | heard | beat
    · exact unsigned absent
    · rw [held.1] at heard
      exact Bool.false_ne_true heard
    · exact held.2 beat
  · rw [if_neg unsigned, if_neg held] at result
    exact Option.some_ne_none _ (Prod.mk.inj result).1

/-- The bytes of a known message are written whole, or the send has failed. -/
theorem transmit_true_iff (chan : Nat) (frames : lib.Frames) (msg marked : Message)
    (mav : MavState P) :
    ∃ size : Nat, 0 < size ∧ ((transmit lib env chan msg marked mav).1 = true ↔
      lib.Knows marked.msgid ∧ env.sendReturn mav.queries size = size) := by
  rw [transmit]
  dsimp only
  have nonempty := frames marked msg.seq
    (if ((mav.links chan).statusSigning && (mav.links chan).signing.signOutgoing) = true then
      some ((mav.links chan).signing, (mav.links chan).track) else none)
    (lib.minLength marked.msgid) (lib.maxLength marked.msgid) (lib.crcExtra marked.msgid)
  generalize lib.sendBuffer _ _ _ _ _ _ = buffer at nonempty
  refine ⟨buffer.length, List.length_pos_iff.mpr nonempty, ?_⟩
  by_cases unknown : lib.minLength marked.msgid = 0 ∧ lib.maxLength marked.msgid = 0
  · rw [if_pos unknown]
    constructor
    · intro absurd
      exact (Bool.false_ne_true absurd).elim
    · intro known
      exact (known.1 unknown).elim
  · rw [if_neg unknown, if_neg nonempty, decide_eq_true_iff]
    constructor
    · intro written
      exact ⟨unknown, written⟩
    · intro known
      exact known.2

/-- Where the peer is alive, `send_message` fails for an unknown message id and for a write
that has to wait, unless the message is dropped before. -/
theorem sendMessage_true_iff (frames : lib.Frames) (waits : env.Waits blocked) (msg : Message)
    {mav : MavState P} (alive : (mav.links chan).Alive env blocked mav.queries) :
    (sendMessage lib env chan msg mav).1 = true ↔
      (mav.links chan).Spares lib env blocked mav.queries msg := by
  -- behind the socket checks, with the number of questions they asked
  have checked : ∀ probed : MavState P, probeSocket env chan mav = (none, probed) →
      probed.links chan = mav.links chan →
      probed.queries = mav.queries + (if (mav.links chan).isTcp then 2 else 0) →
        ¬(mav.links chan).Congested env mav.queries →
          ((sendMessage lib env chan msg mav).1 = true ↔
            (mav.links chan).Spares lib env blocked mav.queries msg) := by
    intro probed probes same queries room
    rw [sendMessage, probes]
    dsimp only
    cases result : markSigned env chan msg probed with
    | mk marked ready =>
        cases marked with
        | none =>
            have held := markSigned_none env result
            rw [same] at held
            exact ⟨fun _ => .inr (.inl held), fun _ => rfl⟩
        | some marked =>
            obtain ⟨passes, msgid, asked⟩ := markSigned_some env result
            obtain ⟨size, positive, written⟩ :=
              transmit_true_iff lib env chan frames msg marked ready
            have number : ready.queries = (mav.links chan).writeQuery mav.queries := by
              rw [asked, queries, same, Link.writeQuery]
            rw [same] at passes
            rw [number, msgid] at written
            refine written.trans ?_
            constructor
            · rintro ⟨known, whole⟩
              exact .inr (.inr ⟨known, fun wait => waits _ size wait positive whole⟩)
            · rintro (full | held | ⟨known, ready⟩)
              · exact (room full).elim
              · exact (held passes).elim
              · exact ⟨known, alive.write.resolve_right ready size⟩
  by_cases tcp : (mav.links chan).isTcp = true
  · by_cases full : env.writableBytes (mav.queries + 1) < 400
    · rw [sendMessage, probeSocket, if_pos tcp, alive.socket tcp, if_neg Bool.false_ne_true,
        if_pos full]
      exact ⟨fun _ => .inl ⟨tcp, full⟩, fun _ => rfl⟩
    · have probes : probeSocket env chan mav = (none, mav.asked.asked) := by
        rw [probeSocket, if_pos tcp, alive.socket tcp, if_neg Bool.false_ne_true, if_neg full]
      refine checked _ probes rfl ?_ (fun congested => full congested.2)
      rw [if_pos tcp]
      rfl
  · refine checked mav (if_neg tcp) rfl ?_ (fun congested => tcp congested.1)
    rw [if_neg tcp]
    rfl

end Operations

end SupportProxy
