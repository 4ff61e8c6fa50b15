import SupportProxy.Mavlink.News

/-! # The key record and the newest key

A load copies the key of the record into one link, and only a SETUP_SIGNING changes
the key of the record, which its link then loads. So the key loaded last, on whichever
link, is the key of the record (`Stored`), as long as other processes leave it alone. -/

namespace SupportProxy

/-- The key loaded last, on any link. -/
def newestKey : List Event → Option SecretKey :=
  History.replay
    (fun event newest => match event with
      | .keyLoaded _ key => some key
      | _ => newest) none

/-- Other processes leave the key of the record alone. -/
def Environment.KeepsKey (env : Environment) : Prop :=
  ∀ query entry, (env.keyRecord query (some entry)).map KeyEntry.secretKey = some entry.secretKey

variable {P : Type}

/-- The record holds the key loaded last. -/
def Stored (mav : MavState P) : Prop :=
  ∀ key, newestKey mav.log = some key → mav.keyRecord.map KeyEntry.secretKey = some key

namespace Stored

variable {mav next : MavState P}

/-- The same record and the same newest key. -/
theorem of_same (stored : Stored mav) (record : next.keyRecord = mav.keyRecord)
    (newest : newestKey next.log = newestKey mav.log) : Stored next := by
  intro key loaded
  rw [record]
  rw [newest] at loaded
  exact stored key loaded

end Stored

private theorem Warns.newestKey {chan : Nat} {mav next : MavState P} (warns : Warns chan mav next) :
    newestKey next.log = newestKey mav.log := by
  rcases warns with same | ⟨event, warning, added⟩
  · rw [same]
  · rw [added]
    cases event with
    | warned _ _ _ => rfl
    | _ => exact warning.elim

section Operations

variable (lib : Library P) (env : Environment) (chan : Nat)

private theorem updateSigningTimestamp_keyRecord (mav : MavState P) :
    (updateSigningTimestamp env chan mav).keyRecord = mav.keyRecord := by
  rw [updateSigningTimestamp]
  dsimp only
  split_ifs <;> rfl

private theorem periodicWarning_keyRecord (mav : MavState P) :
    (periodicWarning env chan mav).2.keyRecord = mav.keyRecord := by
  rw [periodicWarning]
  dsimp only
  split_ifs <;> rfl

private theorem warnBadSignature_keyRecord (msg : Message) (mav : MavState P) :
    (warnBadSignature lib chan msg mav).2.keyRecord = mav.keyRecord := by
  have counted : ∀ warning,
      (countBadSignature lib chan warning mav).2.keyRecord = mav.keyRecord := by
    intro warning
    rw [countBadSignature]
    split_ifs <;> rfl
  rw [warnBadSignature]
  split
  · exact counted .replay
  · rfl
  · rfl
  · rfl
  · exact counted .badKey
  · exact counted .badKey
  · exact counted .badKey

private theorem parseByte_keyRecord (byte : UInt8) (mav : MavState P) :
    (parseByte lib chan byte mav).2.keyRecord = mav.keyRecord := by
  rw [parseByte]
  dsimp only
  generalize lib.parseChar (mav.links chan).parser (mav.links chan).signingOf
    (mav.links chan).track byte = parsed
  have marked : (if parsed.calledBack = true then
      acceptUnsignedCallback (mav.links chan).signing (mav.modifyLink chan fun link =>
        { link with parser := parsed.parser, track := parsed.track })
    else mav.modifyLink chan fun link =>
      { link with parser := parsed.parser, track := parsed.track }).keyRecord = mav.keyRecord := by
    rw [acceptUnsignedCallback]
    split_ifs <;> rfl
  generalize (if parsed.calledBack = true then
      acceptUnsignedCallback (mav.links chan).signing (mav.modifyLink chan fun link =>
        { link with parser := parsed.parser, track := parsed.track })
    else mav.modifyLink chan fun link =>
      { link with parser := parsed.parser, track := parsed.track }) = middle at marked
  cases parsed.frame with
  | none => exact marked
  | some msg => exact marked

/-- The checks warn and leave the record alone, or handle a SETUP_SIGNING. -/
theorem checkFrame_cases (msg : Message) (mav : MavState P) :
    (Warns chan mav (checkFrame lib env chan msg mav).2 ∧
        (checkFrame lib env chan msg mav).2.keyRecord = mav.keyRecord) ∨
      (checkFrame lib env chan msg mav).2 =
        handleSetupSigning lib env chan msg (trustLink chan mav) := by
  have timed := periodicWarning_log env chan mav
  have kept := periodicWarning_keyRecord env chan mav
  rw [checkFrame]
  dsimp only
  generalize periodicWarning env chan mav = result at timed kept ⊢
  obtain ⟨due, later⟩ := result
  dsimp only at timed kept
  -- the log and the record of a rejected frame are those of its warning
  have rejected : ∀ warned cleared : MavState P, Warns chan later warned →
      cleared.log = warned.log → Warns chan mav cleared := by
    intro warned cleared warns same
    rw [Warns, same, ← timed]
    exact warns
  split_ifs
  · exact .inl ⟨.inl rfl, rfl⟩
  · cases due with
    | false => exact .inl ⟨.inl timed, kept⟩
    | true => exact .inl ⟨rejected _ _ (.inr (mavPrintf_log lib chan _ later)) rfl, kept⟩
  · cases due with
    | false => exact .inl ⟨.inl timed, kept⟩
    | true => exact .inl ⟨rejected _ _ (.inr (mavPrintf_log lib chan _ later)) rfl, kept⟩
  · cases due with
    | false => exact .inl ⟨.inl timed, kept⟩
    | true =>
        have warns := warnBadSignature_log lib chan msg later
        have still := (warnBadSignature_keyRecord lib chan msg later).trans kept
        dsimp only
        generalize warnBadSignature lib chan msg later = answer at warns still
        rcases answer with ⟨_ | _, after⟩
        · exact .inl ⟨rejected _ _ warns rfl, still⟩
        · exact .inl ⟨rejected _ _ warns rfl, still⟩
  · exact .inr rfl
  · exact .inl ⟨.inl rfl, rfl⟩

variable {env} in
/-- Loading the key makes it the newest. -/
theorem loadSigningKey_stored (keeps : env.KeepsKey) {mav : MavState P}
    (stored : Stored mav ∨ mav.keyRecord.isSome = true) :
    Stored (loadSigningKey env chan mav) := by
  have read : (loadKey env mav).1 = (loadKey env mav).2.keyRecord := rfl
  have answered : (loadKey env mav).1 = env.keyRecord mav.queries mav.keyRecord := rfl
  have log : (loadKey env mav).2.log = mav.log := rfl
  rw [loadSigningKey]
  generalize loadKey env mav = result at read answered log
  rcases result with ⟨_ | entry, later⟩
  · dsimp only at read answered log ⊢
    -- no record is found, so there was none before
    cases before : mav.keyRecord with
    | none =>
        rcases stored with stored | found
        · intro key newest
          rw [log] at newest
          have impossible := stored key newest
          rw [before] at impossible
          cases impossible
        · rw [before] at found
          cases found
    | some entry =>
        have kept := keeps mav.queries entry
        rw [← before, ← answered] at kept
        cases kept
  · dsimp only at read ⊢
    intro key newest
    have copied : some entry.secretKey = some key := newest
    rw [← copied]
    exact (congrArg (Option.map KeyEntry.secretKey) read).symm

variable {env} in
private theorem handleSetupSigning_stored (keeps : env.KeepsKey) (msg : Message) {mav : MavState P}
    (stored : Stored mav) : Stored (handleSetupSigning lib env chan msg mav) := by
  rw [handleSetupSigning]
  dsimp only
  split_ifs with refused
  · exact stored.of_same rfl rfl
  · have read : (loadKey env mav.asked).1 = (loadKey env mav.asked).2.keyRecord := rfl
    have answered : (loadKey env mav.asked).1 =
      env.keyRecord mav.asked.queries mav.keyRecord := rfl
    have log : (loadKey env mav.asked).2.log = mav.log := rfl
    generalize loadKey env mav.asked = result at read answered log
    rcases result with ⟨_ | entry, later⟩
    · dsimp only at read answered log ⊢
      intro key newest
      have loaded : newestKey later.log = some key := newest
      rw [log] at loaded
      have recorded := stored key loaded
      cases before : mav.keyRecord with
      | none =>
          rw [before] at recorded
          cases recorded
      | some entry =>
          have kept := keeps mav.asked.queries entry
          rw [← before, ← answered] at kept
          cases kept
    · dsimp only at read log ⊢
      refine loadSigningKey_stored chan keeps (.inr ?_)
      rw [clearSigned, MavState.modifyLink]
      dsimp only
      split_ifs
      · rfl
      · exact congrArg Option.isSome read.symm

variable {env} in
/-- A buffer keeps the record of the newest key. -/
theorem receiveBytes_stored (keeps : env.KeepsKey) (bytes : List UInt8) {mav : MavState P}
    (stored : Stored mav) : Stored (receiveBytes lib env chan bytes mav).2.2 := by
  induction bytes generalizing mav with
  | nil => exact stored
  | cons byte rest ih =>
      have parsed : Stored (parseByte lib chan byte mav).2 := by
        refine stored.of_same (parseByte_keyRecord lib chan byte mav) ?_
        rcases parseByte_log lib chan byte mav with ⟨same, _⟩ | ⟨msg, verified, _, log⟩
        · rw [same]
        · rw [log]
          rfl
      rw [receiveBytes]
      generalize parseByte lib chan byte mav = result at parsed
      rcases result with ⟨_ | msg, after⟩
      · exact ih parsed
      · have checked : Stored (checkFrame lib env chan msg after).2 := by
          rcases checkFrame_cases lib env chan msg after with ⟨warns, kept⟩ | setup
          · exact Stored.of_same parsed kept warns.newestKey
          · rw [setup]
            exact handleSetupSigning_stored lib chan keeps msg (Stored.of_same parsed rfl rfl)
        dsimp only
        generalize checkFrame lib env chan msg after = answer at checked
        rcases answer with ⟨_ | _, done⟩
        · exact checked
        · exact Stored.of_same checked rfl rfl

variable {env} in
/-- `init` keeps the record of the newest key. -/
theorem init_stored (keeps : env.KeepsKey) (fd : Option Nat)
    (signingRequired allowWebsocket isTcp : Bool) (keyId : Int) {mav : MavState P}
    (stored : Stored mav) :
    Stored (init env chan fd signingRequired allowWebsocket isTcp keyId mav) := by
  rw [init]
  have reset : Stored (((mav.modifyLink chan (Link.reset fd allowWebsocket isTcp
      keyId)).setBadSignature chan false).note (.init chan)) := stored.of_same rfl rfl
  generalize ((mav.modifyLink chan (Link.reset fd allowWebsocket isTcp keyId)).setBadSignature
    chan false).note (.init chan) = middle at reset ⊢
  cases signingRequired with
  | false => exact reset
  | true =>
      rw [if_pos rfl]
      have loaded := loadSigningKey_stored chan keeps (.inl reset)
      refine loaded.of_same (updateSigningTimestamp_keyRecord env chan _) ?_
      rw [updateSigningTimestamp_log]

/-- Sending leaves the key record alone. -/
theorem sendMessage_keyRecord (msg : Message) (mav : MavState P) :
    (sendMessage lib env chan msg mav).2.keyRecord = mav.keyRecord := by
  have probed : (probeSocket env chan mav).2.keyRecord = mav.keyRecord := by
    rw [probeSocket]
    split_ifs <;> rfl
  have marked : ∀ middle : MavState P,
      (markSigned env chan msg middle).2.keyRecord = middle.keyRecord := by
    intro middle
    rw [markSigned]
    dsimp only
    split_ifs
    · rfl
    · rfl
    · exact updateSigningTimestamp_keyRecord env chan _
    · exact updateSigningTimestamp_keyRecord env chan _
    · rfl
    · rfl
  rw [sendMessage]
  generalize probeSocket env chan mav = result at probed
  rcases result with ⟨_ | answer, later⟩
  · dsimp only at probed ⊢
    have relayed := (marked later).trans probed
    generalize markSigned env chan msg later = result at relayed
    rcases result with ⟨_ | relay, ready⟩
    · exact relayed
    · dsimp only
      rw [transmit]
      dsimp only
      split_ifs <;> exact relayed
  · exact probed

end Operations

end SupportProxy
