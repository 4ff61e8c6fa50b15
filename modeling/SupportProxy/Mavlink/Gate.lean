import SupportProxy.Mavlink.Effects
import SupportProxy.Library.History

/-! # The gate of an engineer link

`Trust` is what a history says about the connection on a channel: the key it
loaded, its newest frame, and whether it has proved itself since its `init`.
`Gate` ties the flags of the link to it. An accepted message is then the newest
frame, signed and verified under the loaded key (`receiveMessage_delivers`). -/

namespace SupportProxy

structure Trust where
  key : Option SecretKey
  /-- the newest frame, with the key and the verdict -/
  latest : Option (SecretKey × Bool × Message)
  /-- a verified signed frame other than SETUP_SIGNING was delivered -/
  proven : Bool
  /-- a verified SETUP_SIGNING was delivered whose transaction or record could not be opened -/
  excused : Bool
  live : Bool

namespace Trust

/-- Before the first `init` of a channel. -/
def unknown : Trust := ⟨none, none, false, false, false⟩

/-- Just after an `init`. -/
def fresh : Trust := ⟨none, none, false, false, true⟩

/-- The newest frame was signed and verified under the loaded key. -/
def Delivered (trust : Trust) (msg : Message) : Prop :=
  msg.signed = true ∧ ∃ key, trust.key = some key ∧ trust.latest = some (key, true, msg)

def latestIsSetup (trust : Trust) : Bool :=
  match trust.latest with
  | some (_, verified, msg) => verified && msg.signed && msg.msgid == Message.setupSigning
  | none => false

def frame (trust : Trust) (key : SecretKey) (verified : Bool) (msg : Message) : Trust :=
  { trust with
    latest := some (key, verified, msg)
    proven := trust.proven || (verified && msg.signed && msg.msgid != Message.setupSigning) }

def apply (chan : Nat) (event : Event) (trust : Trust) : Trust :=
  match event with
  | .init other => if other = chan then fresh else trust
  | .keyLoaded other key => if other = chan then { trust with key := some key } else trust
  | .frame other key verified msg => if other = chan then trust.frame key verified msg else trust
  | .setupFailed other =>
      if other = chan then { trust with excused := trust.excused || trust.latestIsSetup }
      else trust
  | .closed slot _ => if chanComm2 slot = chan then { trust with live := false } else trust
  | _ => trust

private theorem apply_of_onLink {chan other : Nat} {ws : Option Nat} {event : Event}
    (on : event.onLink chan ws) (different : other ≠ chan) (trust : Trust) :
    trust.apply other event = trust := by
  cases event <;> simp only [Event.onLink] at on <;> simp only [apply]
  all_goals rw [if_neg (by rw [on]; exact different.symm)]

end Trust

/-- What a history says about the connection on a channel. -/
def trust (chan : Nat) (log : List Event) : Trust :=
  History.replay (Trust.apply chan) .unknown log

/-- The trust after one more event. -/
theorem trust_cons (chan : Nat) (event : Event) (log : List Event) :
    trust chan (event :: log) = (trust chan log).apply chan event := rfl

/-- The event loads no all-zero key. -/
def Event.nonzeroKey : Event → Bool
  | .keyLoaded _ key => !key.isZero
  | _ => true

/-- No key loaded in the history is all-zero. -/
def NonzeroKeys (log : List Event) : Prop := ∀ event ∈ log, event.nonzeroKey = true

/-- The keys of an earlier history are nonzero too. -/
theorem NonzeroKeys.of_suffix {before log : List Event} (nonzero : NonzeroKeys log)
    (suffix : before <:+ log) : NonzeroKeys before :=
  fun event member => nonzero event (suffix.subset member)

variable {P : Type}

/-- The members of a link that decide whether a frame passes. -/
def Link.gate (link : Link P) : Int × Bool × Signing × Bool :=
  (link.keyId, link.keyLoaded, link.signing, link.statusSigning)

/-- The flags of a link of an engineer agree with its history. -/
structure Gate (mav : MavState P) (chan : Nat) : Prop where
  keyId : (mav.links chan).keyId ≠ -1
  keyed : (mav.links chan).keyLoaded = true →
    (mav.links chan).statusSigning = true ∧ (mav.links chan).signing.acceptUnsigned = true ∧
      (mav.links chan).signing.linkId = chan ∧
      (trust chan mav.log).key = some (mav.links chan).signing.secretKey
  trusted : (mav.links chan).gotSignedPacket = true →
    (trust chan mav.log).proven = true ∨ (trust chan mav.log).excused = true

/-- Whatever touches a link adds to the history. -/
theorem Touches.suffix {chan : Nat} {mav next : MavState P} (touches : Touches chan mav next) :
    mav.log <:+ next.log := by
  obtain ⟨news, log, _⟩ := touches.log
  exact ⟨news, log.symm⟩

/-- Operations on one link say nothing about another connection. -/
theorem Touches.trust_eq {chan other : Nat} {mav next : MavState P}
    (touches : Touches chan mav next) (different : other ≠ chan) :
    trust other next.log = trust other mav.log := by
  obtain ⟨news, log, on⟩ := touches.log
  rw [log]
  clear log
  induction news with
  | nil => rfl
  | cons event news ih =>
      rw [List.cons_append, trust_cons,
        Trust.apply_of_onLink (on event List.mem_cons_self) different]
      exact ih fun event member => on event (List.mem_cons_of_mem _ member)

/-- A live connection stays one under the operations of its link. -/
theorem Touches.live {chan : Nat} {mav next : MavState P} (touches : Touches chan mav next)
    (live : (trust chan mav.log).live = true) : (trust chan next.log).live = true := by
  obtain ⟨news, log, on⟩ := touches.log
  rw [log]
  clear log
  induction news with
  | nil => exact live
  | cons event news ih =>
      have before := ih fun other member => on other (List.mem_cons_of_mem _ member)
      have here := on event List.mem_cons_self
      rw [List.cons_append, trust_cons]
      cases event <;> simp only [Event.onLink] at here <;>
        simp only [Trust.apply, Trust.fresh, Trust.frame] <;>
        first
          | exact before
          | (split <;> first | rfl | exact before)

/-- Whatever touches a link keeps the gates of the others. -/
theorem Touches.gate {chan other : Nat} {mav next : MavState P} (touches : Touches chan mav next)
    (different : other ≠ chan) (gate : Gate mav other) : Gate next other := by
  obtain ⟨track, same⟩ := touches.others other different
  have said := touches.trust_eq different
  constructor
  · rw [same]
    exact gate.keyId
  · rw [same, said]
    exact gate.keyed
  · rw [same, said]
    exact gate.trusted

/-- An operation that neither loads a key, nor completes a frame, nor comes to
trust its peer. -/
structure Calm (chan : Nat) (mav next : MavState P) : Prop where
  gate : (next.links chan).gate = (mav.links chan).gate
  signed : (next.links chan).gotSignedPacket = true → (mav.links chan).gotSignedPacket = true
  trust : trust chan next.log = trust chan mav.log

namespace Calm

variable {chan : Nat} {mav middle next : MavState P}

private theorem refl (mav : MavState P) : Calm chan mav mav := ⟨rfl, id, rfl⟩

/-- One calm piece of code after the other. -/
theorem trans (first : Calm chan mav middle) (second : Calm chan middle next) :
    Calm chan mav next :=
  ⟨second.gate.trans first.gate, fun signed => first.signed (second.signed signed),
    second.trust.trans first.trust⟩

/-- The same links and the same history. -/
theorem of_same (links : next.links = mav.links) (log : next.log = mav.log) :
    Calm chan mav next := by
  refine ⟨by rw [links], ?_, by rw [log]⟩
  rw [links]
  exact id

private theorem asked (mav : MavState P) : Calm chan mav mav.asked := of_same rfl rfl

/-- An event that no trust depends on. -/
theorem note {event : Event} (silent : ∀ trust : Trust, trust.apply chan event = trust) :
    Calm chan mav (mav.note event) :=
  ⟨rfl, id, silent _⟩

/-- A change of the link that keeps its gate and proves nothing. -/
theorem modifyLink {change : Link P → Link P}
    (gate : (change (mav.links chan)).gate = (mav.links chan).gate)
    (signed : (change (mav.links chan)).gotSignedPacket = true →
      (mav.links chan).gotSignedPacket = true) : Calm chan mav (mav.modifyLink chan change) := by
  unfold MavState.modifyLink
  refine ⟨?_, ?_, rfl⟩
  · simp only [Function.update_self, gate]
  · simp only [Function.update_self]
    exact signed

/-- A calm piece of code keeps the key id. -/
theorem keyId (calm : Calm chan mav next) :
    (next.links chan).keyId = (mav.links chan).keyId := congrArg Prod.fst calm.gate

/-- A calm piece of code keeps what is known of the key. -/
theorem keyLoaded (calm : Calm chan mav next) :
    (next.links chan).keyLoaded = (mav.links chan).keyLoaded :=
  congrArg (fun gate => gate.2.1) calm.gate

private theorem signing (calm : Calm chan mav next) :
    (next.links chan).signing = (mav.links chan).signing :=
  congrArg (fun gate => gate.2.2.1) calm.gate

private theorem statusSigning (calm : Calm chan mav next) :
    (next.links chan).statusSigning = (mav.links chan).statusSigning :=
  congrArg (fun gate => gate.2.2.2) calm.gate

/-- A calm piece of code keeps the gate. -/
theorem preserves (calm : Calm chan mav next) (gate : Gate mav chan) : Gate next chan := by
  constructor
  · rw [calm.keyId]
    exact gate.keyId
  · rw [calm.keyLoaded, calm.statusSigning, calm.signing, calm.trust]
    exact gate.keyed
  · intro signed
    rw [calm.trust]
    exact gate.trusted (calm.signed signed)

/-- A change to one link that its gate does not see. -/
theorem modifyAny {other : Nat} {change : Link P → Link P}
    (silent : ∀ link : Link P, (change link).gate = link.gate ∧
      (change link).gotSignedPacket = link.gotSignedPacket) :
    Calm other mav (mav.modifyLink chan change) := by
  by_cases own : other = chan
  · rw [own]
    refine .modifyLink (silent _).1 ?_
    rw [(silent _).2]
    exact id
  · have same : (mav.modifyLink chan change).links other = mav.links other :=
      Function.update_of_ne own ..
    refine ⟨?_, ?_, rfl⟩
    · rw [same]
    · rw [same]
      exact id

end Calm

/-- An operation on one link tells every other link's gate nothing. -/
theorem Touches.calm {chan other : Nat} {mav next : MavState P} (touches : Touches chan mav next)
    (different : other ≠ chan) : Calm other mav next := by
  obtain ⟨track, same⟩ := touches.others other different
  refine ⟨?_, ?_, touches.trust_eq different⟩
  · rw [same]
    rfl
  · rw [same]
    exact id

section Operations

variable (lib : Library P) (env : Environment) (chan : Nat)

private theorem Link.raiseTimestamp_gate (timestamp : Nat) (link : Link P) :
    (link.raiseTimestamp timestamp).gate = link.gate ∧
      (link.raiseTimestamp timestamp).gotSignedPacket = link.gotSignedPacket := by
  obtain ⟨track, same⟩ := link.raiseTimestamp_track timestamp
  rw [same]
  exact ⟨rfl, rfl⟩

/-- Updating the timestamp is calm. -/
theorem updateSigningTimestamp_calm (mav : MavState P) :
    Calm chan mav (updateSigningTimestamp env chan mav) := by
  unfold updateSigningTimestamp
  simp only
  split
  · exact .of_same rfl rfl
  · have saved : Calm chan mav (mav.asked.modifyLink chan fun link =>
        { link with lastSigningSave := env.now mav.queries }) :=
      (Calm.asked mav).trans (.modifyLink rfl id)
    generalize mav.asked.modifyLink chan _ = middle at saved
    have raised :=
      Link.raiseTimestamp_gate (clockTimestamp (env.now mav.queries)) (middle.links chan)
    refine saved.trans ⟨?_, ?_, rfl⟩
    · by_cases inside : chan < commNumBuffers
      · simp only [inside, ↓reduceIte, raised.1]
      · simp only [inside, ↓reduceIte]
    · by_cases inside : chan < commNumBuffers
      · simp only [inside, ↓reduceIte, raised.2]
        exact id
      · simp only [inside, ↓reduceIte]
        exact id

/-- A warning is calm. -/
theorem mavPrintf_calm (warning : Warning) (mav : MavState P) :
    Calm chan mav (mavPrintf lib chan warning mav) :=
  (Calm.modifyLink rfl id).trans (.note fun _ => rfl)

/-- The period of the warnings is calm. -/
theorem periodicWarning_calm (mav : MavState P) :
    Calm chan mav (periodicWarning env chan mav).2 := by
  unfold periodicWarning
  simp only
  split
  · exact (Calm.asked mav).trans (.modifyLink rfl id)
  · exact .of_same rfl rfl

private theorem clearSigned_calm (mav : MavState P) : Calm chan mav (clearSigned chan mav) := by
  refine .modifyLink rfl ?_
  intro signed
  simp only [Bool.false_eq_true] at signed

private theorem countBadSignature_calm (warning : Warning) (mav : MavState P) :
    Calm chan mav (countBadSignature lib chan warning mav).2 := by
  unfold countBadSignature
  simp only
  have counted : Calm chan mav (mav.modifyLink chan fun link =>
      { link with badSigCount := (link.badSigCount + 1) % 2 ^ 32 }) := .modifyLink rfl id
  split
  · exact counted
  · exact counted.trans (mavPrintf_calm lib chan warning _)

private theorem warnBadSignature_calm (msg : Message) (mav : MavState P) :
    Calm chan mav (warnBadSignature lib chan msg mav).2 := by
  unfold warnBadSignature
  cases (mav.links chan).track.lastStatus with
  | replay => exact countBadSignature_calm lib chan _ mav
  | oldTimestamp => exact mavPrintf_calm lib chan _ mav
  | noStreams => exact mavPrintf_calm lib chan _ mav
  | tooManyStreams => exact mavPrintf_calm lib chan _ mav
  | badSignature => exact countBadSignature_calm lib chan _ mav
  | none => exact countBadSignature_calm lib chan _ mav
  | ok => exact countBadSignature_calm lib chan _ mav

private theorem probeSocket_calm (mav : MavState P) :
    Calm chan mav (probeSocket env chan mav).2 := by
  unfold probeSocket
  split_ifs <;> exact .of_same rfl rfl

/-- Loading a key that is not all-zero sets up the signing of the channel. -/
theorem loadSigningKey_gate {mav : MavState P} (inside : chan < 256)
    (nonzero : NonzeroKeys (loadSigningKey env chan mav).log) (gate : Gate mav chan) :
    Gate (loadSigningKey env chan mav) chan := by
  have loaded : Calm chan mav (loadKey env mav).2 := .of_same rfl rfl
  unfold loadSigningKey at nonzero ⊢
  generalize loadKey env mav = result at loaded nonzero ⊢
  rcases result with ⟨_ | entry, read⟩
  · exact loaded.preserves gate
  · have kept := loaded.preserves gate
    have key : entry.secretKey.isZero = false := by
      have loadedKey := nonzero (.keyLoaded chan entry.secretKey) List.mem_cons_self
      simpa only [Event.nonzeroKey, Bool.not_eq_true'] using loadedKey
    simp only [MavState.note, MavState.modifyLink, MavState.asked] at kept ⊢
    constructor
    · simp only [Function.update_self, Link.loadEntry]
      exact kept.keyId
    · intro _
      simp only [Function.update_self, Link.loadEntry, key, Bool.false_eq_true, and_false,
        decide_false, Bool.not_false, true_and]
      refine ⟨Nat.mod_eq_of_lt inside, ?_⟩
      rw [trust_cons]
      simp only [Trust.apply, ↓reduceIte]
    · simp only [Function.update_self, Link.loadEntry]
      rw [trust_cons]
      simp only [Trust.apply, ↓reduceIte]
      exact kept.trusted

/-- `init` starts a connection that nothing is known of. -/
theorem init_gate {fd : Option Nat} {allowWebsocket isTcp : Bool} {keyId : Int} {mav : MavState P}
    (inside : chan < 256) (closed : keyId ≠ -1)
    (nonzero : NonzeroKeys (init env chan fd true allowWebsocket isTcp keyId mav).log) :
    Gate (init env chan fd true allowWebsocket isTcp keyId mav) chan := by
  unfold init at nonzero ⊢
  simp only [↓reduceIte] at nonzero ⊢
  generalize reset :
      ((mav.modifyLink chan (Link.reset fd allowWebsocket isTcp keyId)).setBadSignature
    chan false).note (.init chan) = middle at nonzero ⊢
  have started : Gate middle chan := by
    subst reset
    simp only [MavState.note, MavState.setBadSignature, MavState.modifyLink]
    constructor
    · simp only [Function.update_self, Link.reset]
      exact closed
    · simp only [Function.update_self, Link.reset, Bool.false_eq_true, false_implies]
    · simp only [Function.update_self, Link.reset, Bool.false_eq_true, false_implies]
  have updated := updateSigningTimestamp_calm env chan (loadSigningKey env chan middle)
  have earlier := nonzero.of_suffix (updateSigningTimestamp_touches env chan _).suffix
  exact updated.preserves (loadSigningKey_gate env chan inside earlier started)

/-- `init` of a link that requires signing makes it live, with nothing known of its key. -/
theorem trust_init {fd : Option Nat} {allowWebsocket isTcp : Bool} {keyId : Int}
    {mav : MavState P} :
    (trust chan (init env chan fd true allowWebsocket isTcp keyId mav).log).live = true := by
  unfold init
  simp only [↓reduceIte]
  generalize reset :
      ((mav.modifyLink chan (Link.reset fd allowWebsocket isTcp keyId)).setBadSignature
    chan false).note (.init chan) = middle
  have started : (trust chan middle.log).live = true := by
    subst reset
    simp only [MavState.note, trust_cons, Trust.apply, ↓reduceIte, Trust.fresh]
  rw [(updateSigningTimestamp_calm env chan _).trust]
  unfold loadSigningKey
  have loaded : (loadKey env middle).2.log = middle.log := rfl
  generalize loadKey env middle = result at loaded
  rcases result with ⟨_ | entry, read⟩
  · dsimp only at loaded ⊢
    rw [loaded]
    exact started
  · dsimp only [MavState.note, MavState.modifyLink, MavState.asked] at loaded ⊢
    rw [trust_cons, loaded]
    simp only [Trust.apply, ↓reduceIte, started]

/-- A verified SETUP_SIGNING leaves the gate closed, or open on the old key when
the record could not be opened. -/
theorem handleSetupSigning_gate {mav : MavState P} (msg : Message) (inside : chan < 256)
    (nonzero : NonzeroKeys (handleSetupSigning lib env chan msg mav).log)
    (gate : Gate (clearSigned chan mav) chan) (setup : (trust chan mav.log).latestIsSetup = true) :
    Gate (handleSetupSigning lib env chan msg mav) chan := by
  -- the two failing exits note the failure right after the frame
  have excused : ∀ failed : MavState P, failed.links = mav.links → failed.log = mav.log →
      Gate (failed.note (.setupFailed chan)) chan := by
    intro failed links log
    have keyId := gate.keyId
    have keyed := gate.keyed
    simp only [clearSigned, MavState.modifyLink, Function.update_self] at keyId keyed
    simp only [MavState.note]
    constructor
    · rw [links]
      exact keyId
    · rw [links, trust_cons, log]
      simp only [Trust.apply, ↓reduceIte]
      exact keyed
    · intro _
      rw [trust_cons, log]
      simp only [Trust.apply, ↓reduceIte, setup, Bool.or_true, or_true]
  unfold handleSetupSigning at nonzero ⊢
  simp only at nonzero ⊢
  split at nonzero
  next refused =>
    rw [if_pos refused]
    exact excused mav.asked rfl rfl
  next granted =>
    rw [if_neg granted]
    have links : (loadKey env mav.asked).2.links = mav.links := rfl
    have log : (loadKey env mav.asked).2.log = mav.log := rfl
    generalize loadKey env mav.asked = result at nonzero links log ⊢
    rcases result with ⟨_ | entry, read⟩
    · exact excused read links log
    · dsimp only at nonzero links log ⊢
      generalize stored : (if env.dbCommits read.queries = true then
        { read.asked with keyRecord := some ⟨(lib.setupSigning msg).initialTimestamp,
          (lib.setupSigning msg).secretKey⟩ } else read.asked) = middle at nonzero ⊢
      refine loadSigningKey_gate env chan inside nonzero ?_
      have same : Calm chan (clearSigned chan mav) (clearSigned chan middle) := by
        have kept : middle.links = mav.links ∧ middle.log = mav.log := by
          subst stored
          split <;> exact ⟨links, log⟩
        refine .of_same ?_ ?_
        · simp only [clearSigned, MavState.modifyLink, kept.1]
        · simp only [clearSigned, MavState.modifyLink, kept.2]
      exact same.preserves gate

/-- A byte that completes no frame changes nothing of the gate. -/
theorem parseByte_calm {byte : UInt8} {mav after : MavState P}
    (parsed : parseByte lib chan byte mav = (none, after)) : Calm chan mav after := by
  unfold parseByte at parsed
  simp only at parsed
  generalize lib.parseChar (mav.links chan).parser (mav.links chan).signingOf
    (mav.links chan).track byte = result at parsed
  have stepped : Calm chan mav (mav.modifyLink chan fun link =>
      { link with parser := result.parser, track := result.track }) := .modifyLink rfl id
  generalize mav.modifyLink chan _ = middle at parsed stepped
  cases frame : result.frame with
  | some msg => simp only [frame, Prod.mk.injEq, reduceCtorEq, false_and] at parsed
  | none =>
      simp only [frame, Prod.mk.injEq, true_and] at parsed
      subst parsed
      refine stepped.trans ?_
      unfold acceptUnsignedCallback
      split_ifs <;> exact .of_same rfl rfl

/-- A byte that completes a frame. The callback leaves its mark unless the frame
is signed and verified. -/
theorem parseByte_frame {byte : UInt8} {mav after : MavState P} {msg : Message}
    (callsBack : lib.CallsBack) (inside : chan < commNumBuffers) (gate : Gate mav chan)
    (parsed : parseByte lib chan byte mav = (some msg, after)) :
    ∃ middle verified, Calm chan mav middle ∧
      after = middle.note (.frame chan (mav.links chan).signing.secretKey verified msg) ∧
      ((mav.links chan).keyLoaded = true → msg.signed = true →
        after.gotBadSignature chan = false → verified = true) := by
  unfold parseByte at parsed
  simp only at parsed
  generalize result : lib.parseChar (mav.links chan).parser (mav.links chan).signingOf
    (mav.links chan).track byte = answer at parsed
  have stepped : Calm chan mav (mav.modifyLink chan fun link =>
      { link with parser := answer.parser, track := answer.track }) := .modifyLink rfl id
  generalize mav.modifyLink chan _ = middle at parsed stepped
  cases frame : answer.frame with
  | none => simp only [frame, Prod.mk.injEq, reduceCtorEq, false_and] at parsed
  | some found =>
      simp only [frame, Prod.mk.injEq, Option.some.injEq] at parsed
      obtain ⟨rfl, rfl⟩ := parsed
      refine ⟨_, _, stepped.trans ?_, rfl, ?_⟩
      · unfold acceptUnsignedCallback
        split_ifs <;> exact .of_same rfl rfl
      · intro keyLoaded signed good
        obtain ⟨status, accepts, linkId, _⟩ := gate.keyed keyLoaded
        simp only [status, Bool.true_and]
        by_contra unverified
        rw [Bool.not_eq_true] at unverified
        have called : answer.calledBack = true := by
          rw [← result, Link.signingOf, if_pos status] at frame ⊢
          exact callsBack _ _ _ _ _ accepts frame (.inr unverified)
        simp only [MavState.note, called, ↓reduceIte, acceptUnsignedCallback, linkId, inside,
          MavState.setBadSignature, Function.update_self, Bool.true_eq_false] at good

/-- The frame just completed, as the gate sees it: a signed frame without a mark
of the callback is the newest one and verified. -/
def Judged (chan : Nat) (msg : Message) (mav : MavState P) : Prop :=
  (mav.links chan).keyLoaded = true → msg.signed = true → mav.gotBadSignature chan = false →
    (trust chan mav.log).latest = some ((mav.links chan).signing.secretKey, true, msg) ∧
      (msg.msgid ≠ Message.setupSigning → (trust chan mav.log).proven = true)

/-- A returned frame has been judged, and the gate still stands. -/
theorem parseByte_judged {byte : UInt8} {mav after : MavState P} {msg : Message}
    (callsBack : lib.CallsBack) (inside : chan < commNumBuffers) (gate : Gate mav chan)
    (parsed : parseByte lib chan byte mav = (some msg, after)) :
    Gate after chan ∧ Judged chan msg after := by
  obtain ⟨middle, verified, calm, rfl, verdict⟩ :=
    parseByte_frame lib chan callsBack inside gate parsed
  have kept := calm.preserves gate
  constructor
  · constructor
    · exact kept.keyId
    · intro loaded
      simp only [MavState.note, trust_cons, Trust.apply, ↓reduceIte, Trust.frame]
      exact kept.keyed loaded
    · intro signed
      simp only [MavState.note, trust_cons, Trust.apply, ↓reduceIte, Trust.frame]
      rcases kept.trusted signed with proven | excused
      · exact .inl (by rw [proven, Bool.true_or])
      · exact .inr excused
  · intro loaded signed good
    have loadedBefore : (mav.links chan).keyLoaded = true := by
      rw [← calm.keyLoaded]
      exact loaded
    have holds := verdict loadedBefore signed good
    simp only [MavState.note, trust_cons, Trust.apply, ↓reduceIte, Trust.frame, holds]
    constructor
    · rw [calm.signing]
    · intro other
      simp only [signed, Bool.and_self, Bool.true_and, Bool.or_eq_true, bne_iff_ne, ne_eq, other,
        not_false_eq_true, or_true]

/-- A judged frame keeps the gate. -/
theorem checkFrame_gate {msg : Message} {mav : MavState P} (inside : chan < 256)
    (nonzero : NonzeroKeys (checkFrame lib env chan msg mav).2.log) (gate : Gate mav chan)
    (judged : Judged chan msg mav) : Gate (checkFrame lib env chan msg mav).2 chan := by
  have warned := periodicWarning_calm env chan mav
  unfold checkFrame at nonzero ⊢
  simp only at nonzero ⊢
  generalize periodicWarning env chan mav = result at warned nonzero ⊢
  rcases result with ⟨warns, timed⟩
  rw [if_neg gate.keyId] at nonzero ⊢
  cases loaded : (mav.links chan).keyLoaded with
  | false =>
      simp only [loaded, Bool.not_false, ↓reduceIte] at nonzero ⊢
      cases warns with
      | false => exact warned.preserves gate
      | true => exact (warned.trans (mavPrintf_calm lib chan _ timed)).preserves gate
  | true =>
  cases signed : msg.signed with
  | false =>
      simp only [Bool.not_false, Bool.not_true, Bool.false_eq_true, ↓reduceIte]
      cases warns with
      | false => exact (warned.trans (clearSigned_calm chan timed)).preserves gate
      | true =>
          exact (warned.trans ((mavPrintf_calm lib chan _ timed).trans
            (clearSigned_calm chan _))).preserves gate
  | true =>
  cases bad : mav.gotBadSignature chan with
  | true =>
      simp only [Bool.not_true, Bool.false_eq_true, ↓reduceIte]
      cases warns with
      | false => exact (warned.trans (clearSigned_calm chan timed)).preserves gate
      | true =>
          have told := warned.trans (warnBadSignature_calm lib chan msg timed)
          simp only
          generalize warnBadSignature lib chan msg timed = answer at told
          rcases answer with ⟨_ | _, after⟩
          · exact (told.trans (clearSigned_calm chan after)).preserves gate
          · exact told.preserves gate
  | false =>
      simp only [loaded, signed, bad, Bool.not_true, Bool.false_eq_true, ↓reduceIte] at nonzero ⊢
      obtain ⟨latest, proves⟩ := judged loaded signed bad
      by_cases setup : msg.msgid = Message.setupSigning
      · rw [if_pos setup] at nonzero ⊢
        have cleared : Calm chan mav (clearSigned chan (trustLink chan mav)) := by
          refine ⟨?_, ?_, rfl⟩
          · simp only [clearSigned, trustLink, MavState.modifyLink, Function.update_self, Link.gate]
          · simp only [clearSigned, trustLink, MavState.modifyLink, Function.update_self,
              Bool.false_eq_true, false_implies]
        refine handleSetupSigning_gate lib env chan msg inside nonzero (cleared.preserves gate) ?_
        have said : trust chan (trustLink chan mav).log = trust chan mav.log := rfl
        simp only [said, Trust.latestIsSetup, latest, signed, setup, Bool.and_self, BEq.rfl]
      · rw [if_neg setup]
        have loadedStill := gate.keyed
        simp only [trustLink, MavState.modifyLink]
        constructor
        · simp only [Function.update_self]
          exact gate.keyId
        · simp only [Function.update_self]
          exact loadedStill
        · intro _
          exact .inl (proves setup)

/-- A frame that is returned has passed every check. -/
theorem checkFrame_accepts {msg : Message} {mav after : MavState P} (gate : Gate mav chan)
    (judged : Judged chan msg mav) (accepts : checkFrame lib env chan msg mav = (true, after)) :
    (trust chan after.log).Delivered msg ∧ msg.msgid ≠ Message.setupSigning := by
  unfold checkFrame at accepts
  simp only [if_neg gate.keyId] at accepts
  generalize periodicWarning env chan mav = result at accepts
  rcases result with ⟨warns, timed⟩
  cases loaded : (mav.links chan).keyLoaded with
  | false =>
      simp only [loaded, Bool.not_false, ↓reduceIte] at accepts
      cases warns <;> simp only [Prod.mk.injEq, Bool.false_eq_true, false_and] at accepts
  | true =>
  cases signed : msg.signed with
  | false =>
      simp only [loaded, signed, Bool.not_false, Bool.not_true, Bool.false_eq_true,
        ↓reduceIte] at accepts
      cases warns <;> simp only [Prod.mk.injEq, Bool.false_eq_true, false_and] at accepts
  | true =>
  cases bad : mav.gotBadSignature chan with
  | true =>
      simp only [loaded, signed, bad, Bool.not_true, Bool.false_eq_true, ↓reduceIte] at accepts
      cases warns with
      | false => simp only [Prod.mk.injEq, Bool.false_eq_true, false_and] at accepts
      | true =>
          simp only at accepts
          generalize warnBadSignature lib chan msg timed = answer at accepts
          rcases answer with ⟨_ | _, late⟩ <;>
            simp only [Prod.mk.injEq, Bool.false_eq_true, false_and] at accepts
  | false =>
      simp only [loaded, signed, bad, Bool.not_true, Bool.false_eq_true, ↓reduceIte] at accepts
      by_cases setup : msg.msgid = Message.setupSigning
      · simp only [setup, ↓reduceIte, Prod.mk.injEq, Bool.false_eq_true, false_and] at accepts
      · simp only [setup, ↓reduceIte, Prod.mk.injEq, true_and] at accepts
        subst accepts
        exact ⟨⟨signed, _, (gate.keyed loaded).2.2.2, (judged loaded signed bad).1⟩, setup⟩

/-- `receive_message` keeps the gate, and what it returns was delivered. -/
theorem receiveBytes_gate {bytes : List UInt8} {mav : MavState P} (callsBack : lib.CallsBack)
    (inside : chan < commNumBuffers)
    (nonzero : NonzeroKeys (receiveBytes lib env chan bytes mav).2.2.log) (gate : Gate mav chan) :
    Gate (receiveBytes lib env chan bytes mav).2.2 chan ∧
      ∀ msg, (receiveBytes lib env chan bytes mav).1 = some msg →
        (trust chan (receiveBytes lib env chan bytes mav).2.2.log).Delivered msg ∧
          msg.msgid ≠ Message.setupSigning := by
  have small : chan < 256 := Nat.lt_of_lt_of_le inside (by decide)
  induction bytes generalizing mav with
  | nil => exact ⟨gate, fun msg found => (Option.some_ne_none msg found.symm).elim⟩
  | cons byte rest ih =>
      unfold receiveBytes at nonzero ⊢
      cases parsed : parseByte lib chan byte mav with
      | mk found after =>
      cases found with
      | none =>
          simp only [parsed] at nonzero ⊢
          exact ih nonzero ((parseByte_calm lib chan parsed).preserves gate)
      | some msg =>
          obtain ⟨kept, judged⟩ := parseByte_judged lib chan callsBack inside gate parsed
          simp only [parsed] at nonzero ⊢
          have passes : NonzeroKeys (checkFrame lib env chan msg after).2.log → Gate after chan →
              Judged chan msg after → Gate (checkFrame lib env chan msg after).2 chan :=
            checkFrame_gate lib env chan small
          cases checked : checkFrame lib env chan msg after with
          | mk accepted done =>
          simp only [checked] at nonzero passes ⊢
          cases accepted with
          | false =>
              exact ⟨passes nonzero kept judged,
                fun msg found => (Option.some_ne_none msg found.symm).elim⟩
          | true =>
              have earlier : NonzeroKeys done.log := nonzero.of_suffix (List.suffix_cons _ _)
              have silent : Calm chan done (done.note (.accepted chan msg)) := .note fun _ => rfl
              refine ⟨silent.preserves (passes earlier kept judged), ?_⟩
              intro other found
              rw [← Option.some.inj found, silent.trust]
              exact checkFrame_accepts lib env chan kept judged checked

/-- `receive_message` keeps the gate, and a message passes it only as the gate says. -/
theorem receiveMessage_gate {bytes : List UInt8} {mav : MavState P} (callsBack : lib.CallsBack)
    (inside : chan < commNumBuffers)
    (nonzero : NonzeroKeys (receiveMessage lib env chan bytes mav).2.2.log) (gate : Gate mav chan) :
    Gate (receiveMessage lib env chan bytes mav).2.2 chan ∧
      ∀ msg, (receiveMessage lib env chan bytes mav).1 = some msg →
        (trust chan (receiveMessage lib env chan bytes mav).2.2.log).Delivered msg ∧
          msg.msgid ≠ Message.setupSigning := by
  have reset : Calm chan mav (mav.setBadSignature chan false) := .of_same rfl rfl
  exact receiveBytes_gate lib env chan callsBack inside nonzero (reset.preserves gate)

/-- A link lets a relayed message through: it is open, or has proved itself, or the
message is a heartbeat. -/
def Link.passes (link : Link P) (msg : Message) : Prop :=
  link.keyId = -1 ∨ link.gotSignedPacket = true ∨ msg.msgid = Message.heartbeat

/-- What signing a message does, and when it is given out. -/
theorem markSigned_effect (msg : Message) (mav : MavState P) :
    Touches chan mav (markSigned env chan msg mav).2 ∧
      Calm chan mav (markSigned env chan msg mav).2 ∧
      (markSigned env chan msg mav).2.log = mav.log ∧
      ((markSigned env chan msg mav).1.isSome = true → (mav.links chan).passes msg) := by
  have remembered : ∃ middle, (if msg.msgid = Message.heartbeat then
      mav.modifyLink chan fun link => { link with lastSysid := msg.sysid, lastCompid := msg.compid }
      else mav) = middle ∧ Touches chan mav middle ∧ Calm chan mav middle ∧
        middle.log = mav.log := by
    split
    · exact ⟨_, rfl, .modifyLink rfl, .modifyLink rfl id, rfl⟩
    · exact ⟨_, rfl, .refl mav, .refl mav, rfl⟩
  obtain ⟨middle, same, touches, calm, log⟩ := remembered
  have updated : (updateSigningTimestamp env chan middle).log = middle.log := by
    unfold updateSigningTimestamp
    simp only
    split <;> rfl
  unfold markSigned
  simp only [same]
  split
  next unsigned => exact ⟨.refl mav, .refl mav, rfl, fun _ => .inl unsigned⟩
  next =>
    split
    next =>
      refine ⟨.refl mav, .refl mav, rfl, fun some => ?_⟩
      simp only [Option.isSome_none, Bool.false_eq_true] at some
    next heard =>
      have passes : (mav.links chan).passes msg := by
        simp only [Bool.and_eq_true, Bool.not_eq_true', bne_iff_ne, ne_eq, not_and,
          not_not] at heard
        cases signed : (mav.links chan).gotSignedPacket with
        | false => exact .inr (.inr (heard signed))
        | true => exact .inr (.inl signed)
      dsimp only
      split
      · exact ⟨touches.trans (updateSigningTimestamp_touches env chan middle),
          calm.trans (updateSigningTimestamp_calm env chan middle), updated.trans log,
          fun _ => passes⟩
      · exact ⟨touches, calm, log, fun _ => passes⟩

/-- `send_message` adds at most one event, the message handed to the transport. -/
theorem sendMessage_effect (msg : Message) (mav : MavState P) :
    ∃ middle, Touches chan mav middle ∧ Calm chan mav middle ∧ middle.log = mav.log ∧
      ((sendMessage lib env chan msg mav).2 = middle ∨
        ∃ transport, (sendMessage lib env chan msg mav).2 = middle.note (.sent chan transport msg) ∧
          transport.object = (mav.links chan).ws ∧ (mav.links chan).passes msg) := by
  have probing := probeSocket_touches env chan mav
  have probed := probeSocket_calm env chan mav
  have quiet : (probeSocket env chan mav).2.log = mav.log ∧
      (probeSocket env chan mav).2.links = mav.links := by
    unfold probeSocket
    split_ifs <;> exact ⟨rfl, rfl⟩
  unfold sendMessage
  generalize probeSocket env chan mav = result at probing probed quiet
  rcases result with ⟨_ | result, after⟩
  · dsimp only at probing probed quiet ⊢
    obtain ⟨touches, calm, log, passes⟩ := markSigned_effect env chan msg after
    generalize markSigned env chan msg after = answer at touches calm log passes
    rcases answer with ⟨_ | marked, ready⟩
    · exact ⟨ready, probing.trans touches, probed.trans calm, log.trans quiet.1, .inl rfl⟩
    · dsimp only at touches calm log passes ⊢
      unfold transmit
      simp only
      have packing : Touches chan ready (ready.modifyLink chan (Link.packed lib (msg.seq + 1))) :=
        .modifyLink rfl
      have packed : Calm chan ready (ready.modifyLink chan (Link.packed lib (msg.seq + 1))) :=
        .modifyLink rfl id
      split
      · exact ⟨ready, probing.trans touches, probed.trans calm, log.trans quiet.1, .inl rfl⟩
      generalize lib.sendBuffer _ _ _ _ _ _ = buffer
      by_cases empty : buffer = []
      · simp only [empty, ↓reduceIte]
        exact ⟨_, (probing.trans touches).trans packing, (probed.trans calm).trans packed,
          log.trans quiet.1, .inl rfl⟩
      · simp only [empty, ↓reduceIte]
        refine ⟨_, ((probing.trans touches).trans packing).trans (.asked _),
          ((probed.trans calm).trans packed).trans (.asked _), log.trans quiet.1,
          .inr ⟨_, rfl, ?_, ?_⟩⟩
        · rw [Link.transport_object, (probing.trans touches).ws]
        · rw [← quiet.2]
          exact passes rfl
  · exact ⟨after, probing, probed, quiet.1, .inl rfl⟩

end Operations

end SupportProxy
