import SupportProxy.Mavlink.News
import SupportProxy.Mavlink.Framing

/-! # The stream tables

The library keeps one table of signing streams for each link: the newest timestamp of
every stream it has heard on it. Only parsing a frame adds to the table, and only `init`
empties it. -/

namespace SupportProxy

/-- The stream a signed message belongs to: the link id of the signature, and the sender. -/
def SigningStream.carries (msg : Message) (stream : SigningStream) : Bool :=
  stream.linkId == msg.signature.getD 0 0 && stream.sysid == msg.sysid &&
    stream.compid == msg.compid

/-- The entry of the stream of a message is at its timestamp or later. -/
def SigningTrack.Remembers (track : SigningTrack) (msg : Message) : Prop :=
  ∃ stream, track.streams.find? (SigningStream.carries msg) = some stream ∧
    msg.signatureTimestamp ≤ stream.timestamp

variable {P : Type}

/-- What the library does with the tables. A verified message is newer than its stream,
and then the newest of it. -/
structure Library.TracksStreams (lib : Library P) : Prop where
  strict : ∀ signing track msg stream, lib.signatureCheck signing track msg = true →
    track.streams.find? (SigningStream.carries msg) = some stream →
      stream.timestamp < msg.signatureTimestamp
  keeps : ∀ parser signing track byte msg, track.Remembers msg →
    (lib.parseChar parser signing track byte).track.Remembers msg
  records : ∀ parser signing track byte msg,
    (lib.parseChar parser (some signing) track byte).frame = some msg → msg.signed = true →
      lib.signatureCheck signing track msg = true →
        (lib.parseChar parser (some signing) track byte).track.Remembers msg
  signs : ∀ track, (lib.signPacket track).streams = track.streams

/-- No table has changed. -/
def SameStreams (mav next : MavState P) : Prop :=
  ∀ other, (next.links other).track.streams = (mav.links other).track.streams

namespace SameStreams

variable {mav middle next : MavState P}

private theorem refl (mav : MavState P) : SameStreams mav mav := fun _ => rfl

/-- One after the other. -/
theorem trans (first : SameStreams mav middle) (second : SameStreams middle next) :
    SameStreams mav next :=
  fun other => (second other).trans (first other)

/-- The same links have the same streams. -/
theorem of_links (links : next.links = mav.links) : SameStreams mav next := by
  intro other
  rw [links]

/-- A change of a link that keeps its streams. -/
theorem modifyLink {chan : Nat} {change : Link P → Link P}
    (same : (change (mav.links chan)).track.streams = (mav.links chan).track.streams) :
    SameStreams mav (mav.modifyLink chan change) := by
  intro other
  by_cases own : other = chan
  · have changed : (mav.modifyLink chan change).links chan = change (mav.links chan) :=
      Function.update_self ..
    rw [own, changed, same]
  · have kept : (mav.modifyLink chan change).links other = mav.links other :=
      Function.update_of_ne own ..
    rw [kept]

/-- What a table remembers stays. -/
theorem remembers {chan : Nat} {msg : Message} (same : SameStreams mav next)
    (remembered : (mav.links chan).track.Remembers msg) :
    (next.links chan).track.Remembers msg := by
  rw [SigningTrack.Remembers, same chan]
  exact remembered

end SameStreams

section Operations

variable {lib : Library P} (env : Environment) (chan : Nat)

private theorem Link.raiseTimestamp_streams (timestamp : Nat) (link : Link P) :
    (link.raiseTimestamp timestamp).track.streams = link.track.streams := by
  rw [Link.raiseTimestamp]
  split_ifs <;> rfl

private theorem updateSigningTimestamp_streams (mav : MavState P) :
    SameStreams mav (updateSigningTimestamp env chan mav) := by
  rw [updateSigningTimestamp]
  dsimp only
  split_ifs
  · exact .of_links rfl
  · have saved : SameStreams mav (mav.asked.modifyLink chan fun link =>
        { link with lastSigningSave := env.now mav.queries }) :=
      (SameStreams.of_links rfl).trans (.modifyLink rfl)
    generalize mav.asked.modifyLink chan _ = middle at saved
    refine saved.trans fun other => ?_
    dsimp only
    split_ifs
    · exact Link.raiseTimestamp_streams _ _
    · rfl

/-- What loading a key leaves of the signing members. -/
theorem Link.loadEntry_track (entry : KeyEntry) (now : Nat) (link : Link P) :
    (link.loadEntry chan entry now).track =
      ⟨loadedTimestamp entry.timestamp now, link.track.lastStatus, link.track.streams⟩ := rfl

private theorem Link.loadEntry_streams (entry : KeyEntry) (now : Nat) (link : Link P) :
    (link.loadEntry chan entry now).track.streams = link.track.streams := by
  have loaded := Link.loadEntry_track chan entry now link
  -- the loaded timestamp is not to be computed here
  generalize loadedTimestamp entry.timestamp now = timestamp at loaded
  generalize (link.loadEntry chan entry now).track = track at loaded ⊢
  subst loaded
  rfl

private theorem loadSigningKey_streams (mav : MavState P) :
    SameStreams mav (loadSigningKey env chan mav) := by
  have read : SameStreams mav (loadKey env mav).2 := .of_links rfl
  rw [loadSigningKey]
  generalize loadKey env mav = result at read
  rcases result with ⟨_ | entry, later⟩
  · exact read
  · have asked : SameStreams mav later.asked := read.trans (.of_links rfl)
    have loaded : SameStreams later.asked (later.asked.modifyLink chan
        (Link.loadEntry chan entry (env.now later.queries))) :=
      .modifyLink (Link.loadEntry_streams chan entry _ _)
    exact (asked.trans loaded).trans (.of_links rfl)

/-- A new connection has heard no stream; the others keep theirs. -/
theorem init_streams (fd : Option Nat) (signingRequired allowWebsocket isTcp : Bool) (keyId : Int)
    (mav : MavState P) {other : Nat} (apart : other ≠ chan) :
    ((init env chan fd signingRequired allowWebsocket isTcp keyId mav).links other).track.streams =
      (mav.links other).track.streams := by
  have reset : ((((mav.modifyLink chan (Link.reset fd allowWebsocket isTcp keyId)).setBadSignature
      chan false).note (.init chan)).links other).track.streams =
        (mav.links other).track.streams := by
    simp only [MavState.note, MavState.setBadSignature, MavState.modifyLink,
      Function.update_of_ne apart]
  rw [init]
  generalize ((mav.modifyLink chan (Link.reset fd allowWebsocket isTcp keyId)).setBadSignature
    chan false).note (.init chan) = middle at reset ⊢
  cases signingRequired with
  | false => exact reset
  | true =>
      rw [if_pos rfl]
      exact (((loadSigningKey_streams env chan middle).trans
        (updateSigningTimestamp_streams env chan _)) other).trans reset

/-- Signing a packet leaves the streams alone. -/
theorem Link.packed_streams (tracks : lib.TracksStreams) (nextSeq : UInt8) (link : Link P) :
    (link.packed lib nextSeq).track.streams = link.track.streams := by
  rw [Link.packed]
  dsimp only
  split_ifs
  · exact tracks.signs _
  · rfl

private theorem mavPrintf_streams (tracks : lib.TracksStreams) (warning : Warning)
    (mav : MavState P) :
    SameStreams mav (mavPrintf lib chan warning mav) := by
  have packed : SameStreams mav (mav.modifyLink chan
      (Link.packed lib ((mav.links chan).currentTxSeq + 1))) :=
    .modifyLink (Link.packed_streams tracks _ _)
  exact packed.trans (.of_links rfl)

private theorem periodicWarning_streams (mav : MavState P) :
    SameStreams mav (periodicWarning env chan mav).2 := by
  rw [periodicWarning]
  dsimp only
  split_ifs
  · exact (SameStreams.of_links rfl).trans (.modifyLink rfl)
  · exact .of_links rfl

private theorem warnBadSignature_streams (tracks : lib.TracksStreams) (msg : Message)
    (mav : MavState P) :
    SameStreams mav (warnBadSignature lib chan msg mav).2 := by
  have counted : ∀ warning, SameStreams mav (countBadSignature lib chan warning mav).2 := by
    intro warning
    have added : SameStreams mav (mav.modifyLink chan fun link =>
        { link with badSigCount := (link.badSigCount + 1) % 2 ^ 32 }) := .modifyLink rfl
    rw [countBadSignature]
    split_ifs
    · exact added
    · exact added.trans (mavPrintf_streams chan tracks warning _)
  rw [warnBadSignature]
  split
  · exact counted .replay
  · exact mavPrintf_streams chan tracks _ mav
  · exact mavPrintf_streams chan tracks _ mav
  · exact mavPrintf_streams chan tracks _ mav
  · exact counted .badKey
  · exact counted .badKey
  · exact counted .badKey

private theorem handleSetupSigning_streams (msg : Message) (mav : MavState P) :
    SameStreams mav (handleSetupSigning lib env chan msg mav) := by
  rw [handleSetupSigning]
  dsimp only
  split_ifs with refused
  · exact .of_links rfl
  · have read : SameStreams mav (loadKey env mav.asked).2 := .of_links rfl
    generalize loadKey env mav.asked = result at read
    rcases result with ⟨_ | entry, later⟩
    · exact read.trans (.of_links rfl)
    · dsimp only at read ⊢
      generalize stored : (if env.dbCommits later.queries = true then
        { later.asked with keyRecord := some ⟨(lib.setupSigning msg).initialTimestamp,
          (lib.setupSigning msg).secretKey⟩ } else later.asked) = middle
      have kept : SameStreams later middle := by
        subst stored
        split_ifs
        · exact .of_links rfl
        · exact .of_links rfl
      have cleared : SameStreams middle (clearSigned chan middle) := .modifyLink rfl
      exact ((read.trans kept).trans cleared).trans (loadSigningKey_streams env chan _)

/-- Checking a frame behind the parser leaves the streams alone. -/
theorem checkFrame_streams (tracks : lib.TracksStreams) (msg : Message) (mav : MavState P) :
    SameStreams mav (checkFrame lib env chan msg mav).2 := by
  have timed := periodicWarning_streams env chan mav
  have trusted : SameStreams mav (trustLink chan mav) := .modifyLink rfl
  have cleared : ∀ warned : MavState P, SameStreams warned (clearSigned chan warned) :=
    fun _ => .modifyLink rfl
  rw [checkFrame]
  dsimp only
  generalize periodicWarning env chan mav = result at timed ⊢
  obtain ⟨due, later⟩ := result
  dsimp only at timed
  split_ifs
  · exact .refl mav
  · cases due with
    | false => exact timed
    | true => exact timed.trans (mavPrintf_streams chan tracks _ later)
  · cases due with
    | false => exact timed.trans (cleared later)
    | true => exact (timed.trans (mavPrintf_streams chan tracks _ later)).trans (cleared _)
  · cases due with
    | false => exact timed.trans (cleared later)
    | true =>
        have told := timed.trans (warnBadSignature_streams chan tracks msg later)
        dsimp only
        generalize warnBadSignature lib chan msg later = answer at told
        rcases answer with ⟨_ | _, after⟩
        · exact told.trans (cleared after)
        · exact told
  · exact trusted.trans (handleSetupSigning_streams env chan msg _)
  · exact trusted

/-- The links after a byte: the parse state and the track of its own link are what the
library left. -/
theorem parseByte_links (byte : UInt8) (mav : MavState P) :
    (parseByte lib chan byte mav).2.links = Function.update mav.links chan
      { mav.links chan with
        parser := (lib.parseChar (mav.links chan).parser (mav.links chan).signingOf
          (mav.links chan).track byte).parser
        track := (lib.parseChar (mav.links chan).parser (mav.links chan).signingOf
          (mav.links chan).track byte).track } := by
  rw [parseByte]
  dsimp only
  generalize lib.parseChar (mav.links chan).parser (mav.links chan).signingOf
    (mav.links chan).track byte = parsed
  have marked : (if parsed.calledBack = true then
      acceptUnsignedCallback (mav.links chan).signing (mav.modifyLink chan fun link =>
        { link with parser := parsed.parser, track := parsed.track })
    else mav.modifyLink chan fun link =>
      { link with parser := parsed.parser, track := parsed.track }).links =
        Function.update mav.links chan
          { mav.links chan with parser := parsed.parser, track := parsed.track } := by
    rw [acceptUnsignedCallback]
    split_ifs <;> rfl
  cases parsed.frame with
  | none => exact marked
  | some msg => exact marked

/-- A byte on one link leaves the other tables alone. -/
theorem parseByte_others (byte : UInt8) (mav : MavState P) {other : Nat} (apart : other ≠ chan) :
    ((parseByte lib chan byte mav).2.links other).track.streams =
      (mav.links other).track.streams := by
  rw [parseByte_links, Function.update_of_ne apart]

/-- The table of the link loses nothing. -/
theorem parseByte_keeps (tracks : lib.TracksStreams) (byte : UInt8) (mav : MavState P)
    {msg : Message} (remembered : (mav.links chan).track.Remembers msg) :
    ((parseByte lib chan byte mav).2.links chan).track.Remembers msg := by
  rw [parseByte_links, Function.update_self]
  exact tracks.keeps _ _ _ byte msg remembered

/-- A frame is judged by the table before it, and remembered when it is verified. -/
theorem parseByte_verdict (tracks : lib.TracksStreams) {byte : UInt8} {mav after : MavState P}
    {msg : Message} (parsed : parseByte lib chan byte mav = (some msg, after)) :
    ∃ verified, after.log = .frame chan (mav.links chan).signing.secretKey verified msg :: mav.log ∧
      (verified = true → ¬ (mav.links chan).track.Remembers msg ∧
        (msg.signed = true → (after.links chan).track.Remembers msg)) := by
  have own : ((parseByte lib chan byte mav).2.links chan).track =
      (lib.parseChar (mav.links chan).parser (mav.links chan).signingOf
        (mav.links chan).track byte).track := by
    rw [parseByte_links, Function.update_self]
  rw [parsed] at own
  rw [own]
  rw [parseByte] at parsed
  dsimp only at parsed
  generalize result : lib.parseChar (mav.links chan).parser (mav.links chan).signingOf
    (mav.links chan).track byte = answer at parsed
  have silent : (if answer.calledBack = true then
      acceptUnsignedCallback (mav.links chan).signing (mav.modifyLink chan fun link =>
        { link with parser := answer.parser, track := answer.track })
    else mav.modifyLink chan fun link =>
      { link with parser := answer.parser, track := answer.track }).log = mav.log := by
    rw [acceptUnsignedCallback]
    split_ifs <;> rfl
  generalize (if answer.calledBack = true then
      acceptUnsignedCallback (mav.links chan).signing (mav.modifyLink chan fun link =>
        { link with parser := answer.parser, track := answer.track })
    else mav.modifyLink chan fun link =>
      { link with parser := answer.parser, track := answer.track }) = middle at parsed silent
  cases complete : answer.frame with
  | none =>
      rw [complete] at parsed
      cases (Prod.mk.inj parsed).1
  | some found =>
      rw [complete] at parsed
      obtain ⟨same, rfl⟩ := Prod.mk.inj parsed
      obtain rfl := Option.some.inj same
      refine ⟨_, congrArg (_ :: ·) silent, fun verified => ?_⟩
      obtain ⟨signs, checked⟩ := Bool.and_eq_true_iff.mp verified
      refine ⟨?_, fun signed => ?_⟩
      · rintro ⟨stream, entry, later⟩
        have older := tracks.strict _ _ _ stream checked entry
        omega
      · rw [← result, Link.signingOf, if_pos signs] at complete ⊢
        exact tracks.records _ _ _ byte found complete signed checked

/-- Sending leaves the streams alone. -/
theorem sendMessage_streams (tracks : lib.TracksStreams) (msg : Message) (mav : MavState P) :
    SameStreams mav (sendMessage lib env chan msg mav).2 := by
  have probed : SameStreams mav (probeSocket env chan mav).2 := by
    rw [probeSocket]
    split_ifs <;> exact .of_links rfl
  have marked : ∀ middle : MavState P,
      SameStreams middle (markSigned env chan msg middle).2 := by
    intro middle
    have remembered : SameStreams middle (middle.modifyLink chan fun link =>
        { link with lastSysid := msg.sysid, lastCompid := msg.compid }) := .modifyLink rfl
    rw [markSigned]
    dsimp only
    split_ifs
    · exact .refl middle
    · exact .refl middle
    · exact remembered.trans (updateSigningTimestamp_streams env chan _)
    · exact updateSigningTimestamp_streams env chan middle
    · exact remembered
    · exact .refl middle
  rw [sendMessage]
  generalize probeSocket env chan mav = result at probed
  rcases result with ⟨_ | answer, later⟩
  · dsimp only at probed ⊢
    have relayed := probed.trans (marked later)
    generalize markSigned env chan msg later = result at relayed
    rcases result with ⟨_ | relay, ready⟩
    · exact relayed
    · dsimp only at relayed ⊢
      have packed : SameStreams ready (ready.modifyLink chan (Link.packed lib (msg.seq + 1))) :=
        .modifyLink (Link.packed_streams tracks _ _)
      rw [transmit]
      dsimp only
      generalize lib.sendBuffer _ _ _ _ _ _ = buffer
      split_ifs
      · exact relayed
      · exact relayed.trans packed
      · exact (relayed.trans packed).trans (.of_links rfl)
  · exact probed

end Operations

namespace Framing

variable {authentic : SecretKey → Message → Bool} {tag : SecretKey → List UInt8 → List UInt8}

private theorem signatureStatus_newer {key : SecretKey} {track : SigningTrack} {msg : Message}
    {stream : SigningStream} (good : signatureStatus authentic key track msg = .ok)
    (entry : track.streams.find? (SigningStream.carries msg) = some stream) :
    stream.timestamp < msg.signatureTimestamp := by
  have found : track.streams.find? (sameStream msg) = some stream := entry
  rw [signatureStatus, found] at good
  by_contra older
  have replayed : signatureTime msg ≤ stream.timestamp := Nat.le_of_not_lt older
  dsimp only at good
  split_ifs at good

/-- The entry of a stream after another message has been checked. -/
theorem find?_replaced {streams : List SigningStream} {msg other : Message} (entry : SigningStream)
    (apart : ∀ stream, SigningStream.carries other stream = true → sameStream msg stream = false) :
    (streams.filter (fun stream => !sameStream msg stream) ++ [entry]).find?
        (SigningStream.carries other) =
      (streams.find? (SigningStream.carries other)).or
        ([entry].find? (SigningStream.carries other)) := by
  rw [List.find?_append, List.find?_filter]
  have same : (fun stream => decide ((!sameStream msg stream) = true ∧
      SigningStream.carries other stream = true)) = SigningStream.carries other := by
    funext stream
    by_cases carried : SigningStream.carries other stream = true
    · rw [apart stream carried, carried]
      rfl
    · rw [Bool.eq_false_of_not_eq_true carried]
      exact decide_eq_false fun both => Bool.false_ne_true both.2
  rw [same]

/-- The entry of the stream of a message that checks out. -/
theorem find?_recorded {streams : List SigningStream} {msg other : Message}
    (same : SigningStream.carries other = sameStream msg) :
    (streams.filter (fun stream => !sameStream msg stream) ++
        [(⟨msg.signature.getD 0 0, msg.sysid, msg.compid, signatureTime msg⟩ :
          SigningStream)]).find? (SigningStream.carries other) =
      some ⟨msg.signature.getD 0 0, msg.sysid, msg.compid, signatureTime msg⟩ := by
  have removed : (streams.filter fun stream => !sameStream msg stream).find? (sameStream msg) =
      none := by
    rw [List.find?_eq_none]
    intro stream member
    have dropped := List.of_mem_filter member
    rw [Bool.not_eq_true'] at dropped
    rw [dropped]
    exact Bool.false_ne_true
  rw [same, List.find?_append, removed, Option.none_or]
  refine List.find?_cons_of_pos ?_
  simp only [sameStream, BEq.rfl, Bool.and_self]

/-- Two messages are of one stream or of two. -/
theorem carries_apart (msg other : Message) :
    SigningStream.carries other = sameStream msg ∨
      ∀ stream, SigningStream.carries other stream = true → sameStream msg stream = false := by
  by_cases equal : msg.signature.getD 0 0 = other.signature.getD 0 0 ∧ msg.sysid = other.sysid ∧
      msg.compid = other.compid
  · obtain ⟨linkId, sysid, compid⟩ := equal
    left
    funext stream
    rw [SigningStream.carries, sameStream, linkId, sysid, compid]
  · right
    intro stream carried
    simp only [SigningStream.carries, Bool.and_eq_true, beq_iff_eq] at carried
    obtain ⟨⟨linkId, sysid⟩, compid⟩ := carried
    by_contra same
    simp only [sameStream, Bool.not_eq_false, Bool.and_eq_true, beq_iff_eq] at same
    obtain ⟨⟨otherId, otherSys⟩, otherComp⟩ := same
    exact equal ⟨otherId.symm.trans linkId, otherSys.symm.trans sysid,
      otherComp.symm.trans compid⟩

/-- A message that checks out is the newest of its stream. -/
theorem checkedTrack_records {key : SecretKey} {track : SigningTrack} {msg : Message}
    (good : signatureStatus authentic key track msg = .ok) :
    (checkedTrack authentic key track msg).Remembers msg := by
  rw [checkedTrack, good]
  refine ⟨_, find?_recorded rfl, ?_⟩
  exact Nat.le_refl msg.signatureTimestamp

private theorem checkedTrack_keeps {key : SecretKey} {track : SigningTrack} {msg other : Message}
    (remembered : track.Remembers other) :
    (checkedTrack authentic key track msg).Remembers other := by
  rw [checkedTrack]
  split
  next good =>
    obtain ⟨stream, entry, later⟩ := remembered
    rcases carries_apart msg other with same | apart
    · have newer : stream.timestamp < msg.signatureTimestamp := by
        refine signatureStatus_newer good ?_
        rw [← entry, same]
        rfl
      refine ⟨_, find?_recorded same, ?_⟩
      exact Nat.le_trans later (Nat.le_of_lt newer)
    · refine ⟨stream, ?_, later⟩
      dsimp only
      rw [find?_replaced _ apart, entry, Option.some_or]
  next => exact remembered

private theorem completeFrame_keeps {signing : Option Signing} {track : SigningTrack} {byte : UInt8}
    {msg other : Message} (remembered : track.Remembers other) :
    (completeFrame authentic signing track byte msg).track.Remembers other := by
  unfold completeFrame
  split
  · exact remembered
  · split_ifs
    · exact remembered
    · exact remembered
    · exact checkedTrack_keeps remembered
    · exact checkedTrack_keeps remembered
    · exact checkedTrack_keeps remembered

/-- The tables of the reference framing. -/
theorem tracksStreams : (library authentic tag).TracksStreams := by
  refine ⟨?_, ?_, ?_, fun _ => rfl⟩
  · intro signing track msg stream good entry
    exact signatureStatus_newer (of_decide_eq_true good) entry
  · intro parser signing track byte msg remembered
    simp only [library, parseChar]
    split_ifs
    · exact remembered
    · exact remembered
    · exact completeFrame_keeps remembered
    · exact remembered
  · intro parser signing track byte msg complete signed good
    have newest : signatureStatus authentic signing.secretKey track msg = .ok :=
      of_decide_eq_true good
    simp only [library, parseChar] at complete ⊢
    split_ifs at complete ⊢ with flags checksum length
    have same := completeFrame_frame complete
    subst same
    rw [completeFrame, signed, if_neg (by decide), if_pos newest]
    exact checkedTrack_records newest

end Framing

end SupportProxy
