import SupportProxy.Mavlink.Link

/-! # What the operations of a link may change

Every operation on a channel leaves all `ws` pointers alone, of the other links
it changes the signing members of the library only, and it adds events of that
channel only, each through the transport of the link. -/

namespace SupportProxy

/-- The WebSocket object of a transport. -/
def Transport.object : Transport → Option Nat
  | .websocket object => some object
  | .sendto _ => none
  | .stream => none

/-- An event of a link operation on a channel whose `ws` pointer is `ws`; relayed
messages apart. -/
def Event.onLink (chan : Nat) (ws : Option Nat) : Event → Prop
  | .init other => other = chan
  | .keyLoaded other _ => other = chan
  | .frame other _ _ _ => other = chan
  | .setupFailed other => other = chan
  | .accepted other _ => other = chan
  | .warned other transport _ => other = chan ∧ transport.object = ws
  | .sentStatus other transport _ _ => other = chan ∧ transport.object = ws
  | _ => False

variable {P : Type}

/-- The WebSocket that a link sends through is its own. -/
theorem Link.transport_object (link : Link P) : link.transport.object = link.ws := by
  unfold Link.transport
  cases pointer : link.ws with
  | some object => rfl
  | none => by_cases sendto : link.useSendto = true <;> simp only [sendto] <;> rfl

/-- The effect of a link operation on a channel. -/
structure Touches (chan : Nat) (mav next : MavState P) : Prop where
  ws : (next.links chan).ws = (mav.links chan).ws
  others : ∀ other ≠ chan, ∃ track, next.links other = { mav.links other with track := track }
  log : ∃ news, next.log = news ++ mav.log ∧
    ∀ event ∈ news, event.onLink chan (mav.links chan).ws

namespace Touches

variable {chan : Nat} {mav middle next : MavState P}

private theorem of_same (links : next.links = mav.links) (log : next.log = mav.log) :
    Touches chan mav next := by
  refine ⟨by rw [links], fun other _ => ⟨(mav.links other).track, ?_⟩, [], log, ?_⟩
  · rw [links]
  · exact fun _ member => (List.not_mem_nil member).elim

/-- Nothing has happened. -/
theorem refl (mav : MavState P) : Touches chan mav mav := of_same rfl rfl

/-- One after the other. -/
theorem trans (first : Touches chan mav middle) (second : Touches chan middle next) :
    Touches chan mav next := by
  obtain ⟨early, earlyLog, earlyOn⟩ := first.log
  obtain ⟨late, lateLog, lateOn⟩ := second.log
  refine ⟨second.ws.trans first.ws, ?_, late ++ early, ?_, ?_⟩
  · intro other different
    obtain ⟨track, early⟩ := first.others other different
    obtain ⟨later, late⟩ := second.others other different
    exact ⟨later, by rw [late, early]⟩
  · rw [lateLog, earlyLog, List.append_assoc]
  · intro event member
    rcases List.mem_append.mp member with inLate | inEarly
    · have on := lateOn event inLate
      rwa [first.ws] at on
    · exact earlyOn event inEarly

/-- No operation on a link changes a `ws` pointer. -/
theorem ws_eq (touches : Touches chan mav next) (other : Nat) :
    (next.links other).ws = (mav.links other).ws := by
  by_cases same : other = chan
  · rw [same]
    exact touches.ws
  · obtain ⟨track, kept⟩ := touches.others other same
    rw [kept]

/-- Asking the environment touches no link. -/
theorem asked (mav : MavState P) : Touches chan mav mav.asked := of_same rfl rfl

/-- An event of the link itself. -/
theorem note {event : Event} (on : event.onLink chan (mav.links chan).ws) :
    Touches chan mav (mav.note event) := by
  refine ⟨rfl, fun other _ => ⟨(mav.links other).track, rfl⟩, [event], rfl, ?_⟩
  intro other member
  rw [List.mem_singleton.mp member]
  exact on

/-- A change of the link that keeps its WebSocket pointer. -/
theorem modifyLink {change : Link P → Link P}
    (keeps : (change (mav.links chan)).ws = (mav.links chan).ws) :
    Touches chan mav (mav.modifyLink chan change) := by
  unfold MavState.modifyLink
  refine ⟨?_, ?_, [], rfl, fun _ member => (List.not_mem_nil member).elim⟩
  · simp only [Function.update_self, keeps]
  · intro other different
    exact ⟨(mav.links other).track, by simp only [Function.update_of_ne different]⟩

private theorem setBadSignature (index : Nat) (bad : Bool) :
    Touches chan mav (mav.setBadSignature index bad) := of_same rfl rfl

end Touches

section Operations

variable (lib : Library P) (env : Environment)

private theorem loadKey_touches (chan : Nat) (mav : MavState P) :
    Touches chan mav (loadKey env mav).2 :=
  .of_same rfl rfl

private theorem loadSigningKey_touches (chan : Nat) (mav : MavState P) :
    Touches chan mav (loadSigningKey env chan mav) := by
  have loaded := loadKey_touches env chan mav
  unfold loadSigningKey
  generalize loadKey env mav = result at loaded
  rcases result with ⟨_ | entry, read⟩
  · exact loaded
  · exact ((loaded.trans (.asked read)).trans (.modifyLink rfl)).trans (.note rfl)

/-- Raising the timestamp changes the signing members only. -/
theorem Link.raiseTimestamp_track (timestamp : Nat) (link : Link P) :
    ∃ track, link.raiseTimestamp timestamp = { link with track := track } := by
  unfold Link.raiseTimestamp
  split
  · exact ⟨_, rfl⟩
  · exact ⟨link.track, rfl⟩

/-- Updating the timestamp touches the own link only. -/
theorem updateSigningTimestamp_touches (chan : Nat) (mav : MavState P) :
    Touches chan mav (updateSigningTimestamp env chan mav) := by
  unfold updateSigningTimestamp
  simp only
  split
  · exact .asked mav
  · have saved : Touches chan mav (mav.asked.modifyLink chan fun link =>
        { link with lastSigningSave := env.now mav.queries }) :=
      (Touches.asked mav).trans (.modifyLink rfl)
    generalize mav.asked.modifyLink chan _ = middle at saved
    have raised : ∀ other, ∃ track, (if other < commNumBuffers then
        (middle.links other).raiseTimestamp (clockTimestamp (env.now mav.queries))
        else middle.links other) = { middle.links other with track := track } := by
      intro other
      split
      · exact Link.raiseTimestamp_track _ _
      · exact ⟨(middle.links other).track, rfl⟩
    refine saved.trans ⟨?_, fun other _ => raised other, [], rfl,
      fun _ member => (List.not_mem_nil member).elim⟩
    obtain ⟨track, same⟩ := raised chan
    simp only [same]

/-- `init` touches the own link only. -/
theorem init_touches (chan : Nat) (fd : Option Nat) (signingRequired allowWebsocket isTcp : Bool)
    (keyId : Int) (mav : MavState P) :
    Touches chan mav (init env chan fd signingRequired allowWebsocket isTcp keyId mav) := by
  unfold init
  simp only
  have reset : Touches chan mav (mav.modifyLink chan (Link.reset fd allowWebsocket isTcp keyId)) :=
    .modifyLink rfl
  have noted := (reset.trans (.setBadSignature chan false)).trans
    (.note (show (Event.init chan).onLink chan _ from rfl))
  split
  · exact noted.trans
      ((loadSigningKey_touches env chan _).trans (updateSigningTimestamp_touches env chan _))
  · exact noted

private theorem mavPrintf_touches (chan : Nat) (warning : Warning) (mav : MavState P) :
    Touches chan mav (mavPrintf lib chan warning mav) := by
  have packed : Touches chan mav (mav.modifyLink chan
      (Link.packed lib ((mav.links chan).currentTxSeq + 1))) := .modifyLink rfl
  refine packed.trans (.note ⟨rfl, ?_⟩)
  rw [Link.transport_object, packed.ws]

private theorem periodicWarning_touches (chan : Nat) (mav : MavState P) :
    Touches chan mav (periodicWarning env chan mav).2 := by
  unfold periodicWarning
  simp only
  split
  · exact (Touches.asked mav).trans (.modifyLink rfl)
  · exact .asked mav

private theorem clearSigned_touches (chan : Nat) (mav : MavState P) :
    Touches chan mav (clearSigned chan mav) := .modifyLink rfl

private theorem trustLink_touches (chan : Nat) (mav : MavState P) :
    Touches chan mav (trustLink chan mav) := .modifyLink rfl

private theorem handleSetupSigning_touches (chan : Nat) (msg : Message) (mav : MavState P) :
    Touches chan mav (handleSetupSigning lib env chan msg mav) := by
  unfold handleSetupSigning
  simp only
  split
  · exact (Touches.asked mav).trans (.note rfl)
  · have loaded := (Touches.asked mav).trans (loadKey_touches env chan mav.asked)
    generalize loadKey env mav.asked = result at loaded
    rcases result with ⟨_ | entry, read⟩
    · exact loaded.trans (.note rfl)
    · refine loaded.trans (Touches.trans ?_ ((clearSigned_touches chan _).trans
        (loadSigningKey_touches env chan _)))
      split <;> exact .of_same rfl rfl

private theorem acceptUnsignedCallback_touches (chan : Nat) (signing : Signing) (mav : MavState P) :
    Touches chan mav (acceptUnsignedCallback signing mav) := by
  unfold acceptUnsignedCallback
  split
  · exact .setBadSignature _ _
  · exact .refl mav

/-- A byte touches the own link only. -/
theorem parseByte_touches (chan : Nat) (byte : UInt8) (mav : MavState P) :
    Touches chan mav (parseByte lib chan byte mav).2 := by
  unfold parseByte
  simp only
  generalize lib.parseChar (mav.links chan).parser (mav.links chan).signingOf
    (mav.links chan).track byte = parsed
  have stepped : Touches chan mav (mav.modifyLink chan fun link =>
      { link with parser := parsed.parser, track := parsed.track }) := .modifyLink rfl
  have called : Touches chan mav (if parsed.calledBack = true then
      acceptUnsignedCallback (mav.links chan).signing (mav.modifyLink chan fun link =>
        { link with parser := parsed.parser, track := parsed.track })
      else mav.modifyLink chan fun link =>
        { link with parser := parsed.parser, track := parsed.track }) := by
    split
    · exact stepped.trans (acceptUnsignedCallback_touches chan _ _)
    · exact stepped
  cases parsed.frame with
  | none => exact called
  | some msg => exact called.trans (.note rfl)

private theorem countBadSignature_touches (chan : Nat) (warning : Warning) (mav : MavState P) :
    Touches chan mav (countBadSignature lib chan warning mav).2 := by
  unfold countBadSignature
  simp only
  have counted : Touches chan mav (mav.modifyLink chan fun link =>
      { link with badSigCount := (link.badSigCount + 1) % 2 ^ 32 }) := .modifyLink rfl
  split
  · exact counted
  · exact counted.trans (mavPrintf_touches lib chan warning _)

private theorem warnBadSignature_touches (chan : Nat) (msg : Message) (mav : MavState P) :
    Touches chan mav (warnBadSignature lib chan msg mav).2 := by
  unfold warnBadSignature
  cases (mav.links chan).track.lastStatus with
  | replay => exact countBadSignature_touches lib chan _ mav
  | oldTimestamp => exact mavPrintf_touches lib chan _ mav
  | noStreams => exact mavPrintf_touches lib chan _ mav
  | tooManyStreams => exact mavPrintf_touches lib chan _ mav
  | badSignature => exact countBadSignature_touches lib chan _ mav
  | none => exact countBadSignature_touches lib chan _ mav
  | ok => exact countBadSignature_touches lib chan _ mav

/-- Checking a frame touches the own link only. -/
theorem checkFrame_touches (chan : Nat) (msg : Message) (mav : MavState P) :
    Touches chan mav (checkFrame lib env chan msg mav).2 := by
  have warned := periodicWarning_touches env chan mav
  unfold checkFrame
  simp only
  generalize periodicWarning env chan mav = result at warned
  rcases result with ⟨warns, timed⟩
  split
  · exact .refl mav
  split
  · cases warns with
    | false => exact warned
    | true => exact warned.trans (mavPrintf_touches lib chan _ timed)
  split
  · cases warns with
    | false => exact warned.trans (clearSigned_touches chan timed)
    | true =>
      exact warned.trans
        ((mavPrintf_touches lib chan _ timed).trans (clearSigned_touches chan _))
  split
  · cases warns with
    | false => exact warned.trans (clearSigned_touches chan timed)
    | true =>
        have told := warned.trans (warnBadSignature_touches lib chan msg timed)
        simp only
        generalize warnBadSignature lib chan msg timed = answer at told
        rcases answer with ⟨_ | _, after⟩
        · exact told.trans (clearSigned_touches chan after)
        · exact told
  · split
    · exact (trustLink_touches chan mav).trans (handleSetupSigning_touches lib env chan msg _)
    · exact trustLink_touches chan mav

/-- A buffer touches the own link only. -/
theorem receiveBytes_touches (chan : Nat) (bytes : List UInt8) (mav : MavState P) :
    Touches chan mav (receiveBytes lib env chan bytes mav).2.2 := by
  induction bytes generalizing mav with
  | nil => exact .refl mav
  | cons byte rest ih =>
      have parsed := parseByte_touches lib chan byte mav
      unfold receiveBytes
      generalize parseByte lib chan byte mav = result at parsed
      rcases result with ⟨_ | msg, after⟩
      · exact parsed.trans (ih after)
      · have checked := parsed.trans (checkFrame_touches lib env chan msg after)
        simp only
        generalize checkFrame lib env chan msg after = answer at checked
        rcases answer with ⟨_ | _, done⟩
        · exact checked
        · exact checked.trans (.note rfl)

/-- `receive_message` touches the own link only. -/
theorem receiveMessage_touches (chan : Nat) (bytes : List UInt8) (mav : MavState P) :
    Touches chan mav (receiveMessage lib env chan bytes mav).2.2 :=
  (Touches.setBadSignature chan false).trans (receiveBytes_touches lib env chan bytes _)

/-- The probe of a socket touches the own link only. -/
theorem probeSocket_touches (chan : Nat) (mav : MavState P) :
    Touches chan mav (probeSocket env chan mav).2 := by
  unfold probeSocket
  split_ifs <;> exact .of_same rfl rfl

end Operations

end SupportProxy
