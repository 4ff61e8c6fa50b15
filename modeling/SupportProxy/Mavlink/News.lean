import SupportProxy.Mavlink.Gate

/-! # The events of each operation

Which events an operation adds to the history, exactly. The checks of a frame add a
warning, or the outcome of a SETUP_SIGNING that passed them, or nothing. -/

namespace SupportProxy

variable {P : Type} (lib : Library P) (env : Environment) (chan : Nat)

private theorem loadSigningKey_log (mav : MavState P) :
    (loadSigningKey env chan mav).log = mav.log ∨
      ∃ key, (loadSigningKey env chan mav).log = .keyLoaded chan key :: mav.log := by
  have log : (loadKey env mav).2.log = mav.log := rfl
  rw [loadSigningKey]
  generalize loadKey env mav = result at log
  rcases result with ⟨_ | entry, read⟩
  · exact .inl log
  · exact .inr ⟨entry.secretKey, congrArg (Event.keyLoaded chan entry.secretKey :: ·) log⟩

/-- Updating the timestamp adds nothing to the history. -/
theorem updateSigningTimestamp_log (mav : MavState P) :
    (updateSigningTimestamp env chan mav).log = mav.log := by
  rw [updateSigningTimestamp]
  dsimp only
  split_ifs <;> rfl

/-- A new connection: its `init`, and the key when a record is found. -/
theorem init_log (fd : Option Nat) (signingRequired allowWebsocket isTcp : Bool) (keyId : Int)
    (mav : MavState P) :
    (init env chan fd signingRequired allowWebsocket isTcp keyId mav).log =
        .init chan :: mav.log ∨
      signingRequired = true ∧ ∃ key,
        (init env chan fd signingRequired allowWebsocket isTcp keyId mav).log =
          .keyLoaded chan key :: .init chan :: mav.log := by
  rw [init]
  have log : (((mav.modifyLink chan (Link.reset fd allowWebsocket isTcp keyId)).setBadSignature
    chan false).note (.init chan)).log = .init chan :: mav.log := rfl
  generalize ((mav.modifyLink chan (Link.reset fd allowWebsocket isTcp keyId)).setBadSignature
    chan false).note (.init chan) = middle at log ⊢
  cases signingRequired with
  | false => exact .inl log
  | true =>
      rw [if_pos rfl, updateSigningTimestamp_log, ← log]
      rcases loadSigningKey_log env chan middle with same | loaded
      · exact .inl same
      · exact .inr ⟨rfl, loaded⟩

/-- A SETUP_SIGNING fails, or its link loads the key of the record again. -/
theorem handleSetupSigning_log (msg : Message) (mav : MavState P) :
    (handleSetupSigning lib env chan msg mav).log = mav.log ∨
      (handleSetupSigning lib env chan msg mav).log = .setupFailed chan :: mav.log ∨
      ∃ key, (handleSetupSigning lib env chan msg mav).log = .keyLoaded chan key :: mav.log := by
  rw [handleSetupSigning]
  dsimp only
  by_cases refused : (!env.dbOpens mav.queries) = true
  · rw [if_pos refused]
    exact .inr (.inl rfl)
  · rw [if_neg refused]
    have log : (loadKey env mav.asked).2.log = mav.log := rfl
    generalize loadKey env mav.asked = result at log
    rcases result with ⟨_ | entry, read⟩
    · exact .inr (.inl (congrArg (Event.setupFailed chan :: ·) log))
    · dsimp only at log ⊢
      generalize stored : (if env.dbCommits read.queries = true then
        { read.asked with keyRecord := some ⟨(lib.setupSigning msg).initialTimestamp,
          (lib.setupSigning msg).secretKey⟩ } else read.asked) = middle
      have kept : (clearSigned chan middle).log = mav.log := by
        subst stored
        split_ifs
        · exact log
        · exact log
      rw [← kept]
      rcases loadSigningKey_log env chan (clearSigned chan middle) with same | loaded
      · exact .inl same
      · exact .inr (.inr loaded)

/-- Only the copies of `mav_printf` to a peer. -/
def Event.warns (chan : Nat) : Event → Prop
  | .warned other _ _ => other = chan
  | _ => False

/-- A warning is one event on the link. -/
theorem mavPrintf_log (warning : Warning) (mav : MavState P) :
    ∃ event, event.warns chan ∧ (mavPrintf lib chan warning mav).log = event :: mav.log :=
  ⟨.warned chan (mav.links chan).transport warning, rfl, rfl⟩

/-- The period of the warnings adds nothing to the history. -/
theorem periodicWarning_log (mav : MavState P) :
    (periodicWarning env chan mav).2.log = mav.log := by
  rw [periodicWarning]
  dsimp only
  split_ifs <;> rfl

/-- No event, or a warning. -/
def Warns (mav next : MavState P) : Prop :=
  next.log = mav.log ∨ ∃ event, event.warns chan ∧ next.log = event :: mav.log

/-- A bad signature adds one warning at most. -/
theorem warnBadSignature_log (msg : Message) (mav : MavState P) :
    Warns chan mav (warnBadSignature lib chan msg mav).2 := by
  have counted : ∀ warning, Warns chan mav (countBadSignature lib chan warning mav).2 := by
    intro warning
    rw [countBadSignature]
    split_ifs
    · exact .inl rfl
    · exact .inr (mavPrintf_log lib chan warning _)
  rw [warnBadSignature]
  split
  · exact counted .replay
  · exact .inr (mavPrintf_log lib chan _ mav)
  · exact .inr (mavPrintf_log lib chan _ mav)
  · exact .inr (mavPrintf_log lib chan _ mav)
  · exact counted .badKey
  · exact counted .badKey
  · exact counted .badKey

/-- A byte completes a frame or records nothing. -/
theorem parseByte_log (byte : UInt8) (mav : MavState P) :
    (parseByte lib chan byte mav).2.log = mav.log ∧ (parseByte lib chan byte mav).1 = none ∨
      ∃ msg verified, (parseByte lib chan byte mav).1 = some msg ∧
        (parseByte lib chan byte mav).2.log =
          .frame chan (mav.links chan).signing.secretKey verified msg :: mav.log := by
  rw [parseByte]
  dsimp only
  generalize lib.parseChar (mav.links chan).parser (mav.links chan).signingOf
    (mav.links chan).track byte = parsed
  have marked : (if parsed.calledBack = true then
      acceptUnsignedCallback (mav.links chan).signing (mav.modifyLink chan fun link =>
        { link with parser := parsed.parser, track := parsed.track })
    else mav.modifyLink chan fun link =>
      { link with parser := parsed.parser, track := parsed.track }).log = mav.log := by
    rw [acceptUnsignedCallback]
    split_ifs <;> rfl
  generalize (if parsed.calledBack = true then
      acceptUnsignedCallback (mav.links chan).signing (mav.modifyLink chan fun link =>
        { link with parser := parsed.parser, track := parsed.track })
    else mav.modifyLink chan fun link =>
      { link with parser := parsed.parser, track := parsed.track }) = middle at marked
  cases parsed.frame with
  | none => exact .inl ⟨marked, rfl⟩
  | some msg =>
      exact .inr ⟨msg, _, rfl, congrArg (Event.frame chan (mav.links chan).signing.secretKey
        ((mav.links chan).statusSigning &&
          lib.signatureCheck (mav.links chan).signing (mav.links chan).track msg) msg :: ·) marked⟩

/-- The checks let a signed frame pass. -/
def Passes (msg : Message) (mav : MavState P) : Prop :=
  (mav.links chan).keyLoaded = true ∧ msg.signed = true ∧ mav.gotBadSignature chan = false

/-- What the checks of a frame on a closed link record, and when they return it. -/
theorem checkFrame_log (msg : Message) (mav : MavState P) (closed : (mav.links chan).keyId ≠ -1) :
    (Warns chan mav (checkFrame lib env chan msg mav).2 ∧
        (checkFrame lib env chan msg mav).1 = false) ∨
      Passes chan msg mav ∧
        ((checkFrame lib env chan msg mav).2.log = mav.log ∨
          (checkFrame lib env chan msg mav).1 = false ∧
            ((checkFrame lib env chan msg mav).2.log = .setupFailed chan :: mav.log ∨
              ∃ key,
                (checkFrame lib env chan msg mav).2.log = .keyLoaded chan key :: mav.log)) := by
  have timed := periodicWarning_log env chan mav
  rw [checkFrame]
  dsimp only
  rw [if_neg closed]
  generalize periodicWarning env chan mav = result at timed ⊢
  obtain ⟨due, later⟩ := result
  -- a rejection records the warning that was due
  have rejected : ∀ warned cleared : MavState P, Warns chan later warned →
      cleared.log = warned.log → Warns chan mav cleared := by
    intro warned cleared warns same
    rw [Warns, same, ← timed]
    exact warns
  cases loaded : (mav.links chan).keyLoaded with
  | false =>
      simp only [Bool.not_false, ↓reduceIte]
      cases due with
      | false => exact .inl ⟨.inl timed, rfl⟩
      | true => exact .inl ⟨rejected _ _ (.inr (mavPrintf_log lib chan _ later)) rfl, rfl⟩
  | true =>
  cases signed : msg.signed with
  | false =>
      simp only [Bool.not_false, Bool.not_true, Bool.false_eq_true, ↓reduceIte]
      cases due with
      | false => exact .inl ⟨.inl timed, rfl⟩
      | true => exact .inl ⟨rejected _ _ (.inr (mavPrintf_log lib chan _ later)) rfl, rfl⟩
  | true =>
  cases bad : mav.gotBadSignature chan with
  | true =>
      simp only [Bool.not_true, Bool.false_eq_true, ↓reduceIte]
      cases due with
      | false => exact .inl ⟨.inl timed, rfl⟩
      | true =>
          have warns := warnBadSignature_log lib chan msg later
          dsimp only
          generalize warnBadSignature lib chan msg later = answer at warns
          rcases answer with ⟨_ | _, after⟩
          · exact .inl ⟨rejected _ _ warns rfl, rfl⟩
          · exact .inl ⟨rejected _ _ warns rfl, rfl⟩
  | false =>
      simp only [Bool.not_true, Bool.false_eq_true, ↓reduceIte]
      refine .inr ⟨⟨loaded, signed, bad⟩, ?_⟩
      split_ifs with setup
      · have trusted : (trustLink chan mav).log = mav.log := rfl
        rw [← trusted]
        rcases handleSetupSigning_log lib env chan msg (trustLink chan mav) with same | changed
        · exact .inl same
        · exact .inr ⟨rfl, changed⟩
      · exact .inl rfl

end SupportProxy
