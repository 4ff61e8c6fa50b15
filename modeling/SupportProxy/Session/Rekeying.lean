import SupportProxy.Session.Quiet
import SupportProxy.Session.Authentication

/-! # Changing the support key

A SETUP_SIGNING stores a new key and loads it on the link it came in on. Every other
link keeps the copy it loaded when its connection began. `run_rekeying` says which
sessions retire the old key all the same. -/

namespace SupportProxy

/-- A key other than the newest is loaded only while no other connected link holds one. -/
def RekeysAlone (before : List Event) : Event → Prop
  | .keyLoaded chan key =>
      newestKey before ≠ some key → ∀ other ≠ chan, (trust other before).live = true →
        (trust other before).key = none
  | _ => True

/-- The newest frame of a channel was signed and verified under the newest key. -/
def VerifiedUnderNewest (before : List Event) (chan : Nat) (msg : Message) : Prop :=
  msg.signed = true ∧ ∃ key, newestKey before = some key ∧
    (trust chan before).latest = some (key, true, msg)

/-- Every message accepted on a link that checks signatures, SETUP_SIGNING included, was
verified under the newest key. The user's link does not check unless the pair signs both
ways. -/
def NewestKeyRule (pair : PortPair) (before : List Event) : Event → Prop
  | .accepted chan msg =>
      (chan = chanComm1 ∧ pair.bidi = false) ∨ VerifiedUnderNewest before chan msg
  | .setupFailed chan => ∃ msg, VerifiedUnderNewest before chan msg
  | .keyLoaded chan _ =>
      (trust chan before).latest = none ∨ ∃ msg, VerifiedUnderNewest before chan msg
  | _ => True

/-- A copy held by a connected link is the newest key, if keys change on lone links only. -/
theorem copy_newest {log : List Event} (alone : History.Obeys RekeysAlone log) {chan : Nat}
    {key : SecretKey} (live : (trust chan log).live = true)
    (copy : (trust chan log).key = some key) : newestKey log = some key := by
  induction log generalizing key with
  | nil => cases live
  | cons event before ih =>
      obtain ⟨rule, earlier⟩ := alone
      rw [trust_cons] at live copy
      cases event with
      | keyLoaded other found =>
          by_cases own : other = chan
          · rw [Trust.apply, if_pos own] at copy
            exact copy
          · rw [Trust.apply, if_neg own] at live copy
            have held := ih earlier live copy
            by_cases same : newestKey before = some found
            · exact same.symm.trans held
            · rw [rule same chan (Ne.symm own) live] at copy
              cases copy
      | init other =>
          by_cases own : other = chan
          · rw [Trust.apply, if_pos own] at copy
            cases copy
          · rw [Trust.apply, if_neg own] at live copy
            exact ih earlier live copy
      | frame other under verified msg =>
          by_cases own : other = chan
          · rw [Trust.apply, if_pos own] at live copy
            exact ih earlier live copy
          · rw [Trust.apply, if_neg own] at live copy
            exact ih earlier live copy
      | setupFailed other =>
          by_cases own : other = chan
          · rw [Trust.apply, if_pos own] at live copy
            exact ih earlier live copy
          · rw [Trust.apply, if_neg own] at live copy
            exact ih earlier live copy
      | closed slot reason =>
          by_cases own : chanComm2 slot = chan
          · rw [Trust.apply, if_pos own] at live
            cases live
          · rw [Trust.apply, if_neg own] at live copy
            exact ih earlier live copy
      | _ => exact ih earlier live copy

variable {P : Type}

section Operations

variable {lib : Library P} {env : Environment} {pair : PortPair} {chan : Nat}

private theorem Warns.newestKeyRule {mav next : MavState P} (warns : Warns chan mav next)
    (obeys : History.Obeys (NewestKeyRule pair) mav.log) :
    History.Obeys (NewestKeyRule pair) next.log := by
  rcases warns with same | ⟨event, warning, added⟩
  · rw [same]
    exact obeys
  · rw [added]
    refine ⟨?_, obeys⟩
    cases event with
    | warned _ _ _ => trivial
    | _ => exact warning.elim

/-- A frame that passes the checks was verified under the newest key. -/
theorem verified_of_passes {msg : Message} {mav : MavState P} (gate : Gate mav chan)
    (judged : Judged chan msg mav) (passes : Passes chan msg mav)
    (live : (trust chan mav.log).live = true) (alone : History.Obeys RekeysAlone mav.log) :
    VerifiedUnderNewest mav.log chan msg := by
  obtain ⟨loaded, signed, good⟩ := passes
  exact ⟨signed, (mav.links chan).signing.secretKey,
    copy_newest alone live (gate.keyed loaded).2.2.2, (judged loaded signed good).1⟩

private theorem checkFrame_newest {msg : Message} {mav : MavState P} (gate : Gate mav chan)
    (judged : Judged chan msg mav)
    (live : (mav.links chan).keyLoaded = true → (trust chan mav.log).live = true)
    (alone : History.Obeys RekeysAlone mav.log)
    (obeys : History.Obeys (NewestKeyRule pair) mav.log) :
    History.Obeys (NewestKeyRule pair) (checkFrame lib env chan msg mav).2.log ∧
      ((checkFrame lib env chan msg mav).1 = true →
        VerifiedUnderNewest (checkFrame lib env chan msg mav).2.log chan msg) := by
  rcases checkFrame_log lib env chan msg mav gate.keyId with ⟨warns, rejected⟩ | ⟨passes, recorded⟩
  · rw [rejected]
    exact ⟨warns.newestKeyRule obeys, fun impossible => Bool.noConfusion impossible⟩
  · have verified := verified_of_passes gate judged passes (live passes.1) alone
    rcases recorded with same | ⟨rejected, failed | ⟨key, loaded⟩⟩
    · rw [same]
      exact ⟨obeys, fun _ => verified⟩
    · rw [rejected, failed]
      exact ⟨⟨⟨msg, verified⟩, obeys⟩, fun impossible => Bool.noConfusion impossible⟩
    · rw [rejected, loaded]
      exact ⟨⟨.inr ⟨msg, verified⟩, obeys⟩, fun impossible => Bool.noConfusion impossible⟩

private theorem receiveBytes_newest {bytes : List UInt8} {mav : MavState P}
    (callsBack : lib.CallsBack) (inside : chan < commNumBuffers) (gate : Gate mav chan)
    (live : (mav.links chan).keyLoaded = true → (trust chan mav.log).live = true)
    (alone : History.Obeys RekeysAlone (receiveBytes lib env chan bytes mav).2.2.log)
    (obeys : History.Obeys (NewestKeyRule pair) mav.log) :
    History.Obeys (NewestKeyRule pair) (receiveBytes lib env chan bytes mav).2.2.log := by
  induction bytes generalizing mav with
  | nil => exact obeys
  | cons byte rest ih =>
      have record := parseByte_log lib chan byte mav
      rw [receiveBytes] at alone ⊢
      cases parsed : parseByte lib chan byte mav with
      | mk found after =>
      rw [parsed] at record alone
      cases found with
      | none =>
          have calm := parseByte_calm lib chan parsed
          refine ih (calm.preserves gate) ?_ alone ?_
          · rw [calm.keyLoaded, calm.trust]
            exact live
          · rcases record with ⟨same, _⟩ | ⟨_, _, impossible, _⟩
            · rw [same]
              exact obeys
            · cases impossible
      | some msg =>
          obtain ⟨kept, judged⟩ := parseByte_judged lib chan callsBack inside gate parsed
          obtain ⟨_, impossible⟩ | ⟨found, verified, _, log⟩ := record
          · cases impossible
          have obeyed : History.Obeys (NewestKeyRule pair) after.log := by
            rw [log]
            exact ⟨trivial, obeys⟩
          have liveNow : (after.links chan).keyLoaded = true →
              (trust chan after.log).live = true := by
            obtain ⟨middle, judgement, calm, rfl, _⟩ :=
              parseByte_frame lib chan callsBack inside gate parsed
            intro loaded
            have kept : (trust chan middle.log).live = true := by
              rw [calm.trust]
              exact live (calm.keyLoaded.symm.trans loaded)
            rw [MavState.note, trust_cons, Trust.apply, if_pos rfl]
            exact kept
          dsimp only at alone ⊢
          -- the key did not change before the frame was checked
          have earlier : after.log <:+ (checkFrame lib env chan msg after).2.log :=
            (checkFrame_touches lib env chan msg after).suffix
          have checked : History.Obeys RekeysAlone after.log →
              History.Obeys (NewestKeyRule pair) (checkFrame lib env chan msg after).2.log ∧
                ((checkFrame lib env chan msg after).1 = true →
                  VerifiedUnderNewest (checkFrame lib env chan msg after).2.log chan msg) :=
            fun unchanged => checkFrame_newest kept judged liveNow unchanged obeyed
          generalize checkFrame lib env chan msg after = answer at alone earlier checked ⊢
          obtain ⟨_ | _, done⟩ := answer
          · exact (checked (alone.of_suffix earlier)).1
          · obtain ⟨rule, passed⟩ := checked (alone.2.of_suffix earlier)
            exact ⟨.inr (passed rfl), rule⟩

private theorem parseByte_keyLoaded (byte : UInt8) (mav : MavState P) :
    ((parseByte lib chan byte mav).2.links chan).keyLoaded = (mav.links chan).keyLoaded := by
  rw [parseByte]
  dsimp only
  generalize lib.parseChar (mav.links chan).parser (mav.links chan).signingOf
    (mav.links chan).track byte = parsed
  have stepped : ((mav.modifyLink chan fun link =>
      { link with parser := parsed.parser, track := parsed.track }).links chan).keyLoaded =
        (mav.links chan).keyLoaded := by
    simp only [MavState.modifyLink, Function.update_self]
  generalize (mav.modifyLink chan fun link =>
    { link with parser := parsed.parser, track := parsed.track }) = middle at stepped
  have marked : ((if parsed.calledBack = true then
      acceptUnsignedCallback (mav.links chan).signing middle else middle).links chan).keyLoaded =
        (mav.links chan).keyLoaded := by
    rw [acceptUnsignedCallback]
    split_ifs <;> exact stepped
  cases parsed.frame with
  | none => exact marked
  | some msg => exact marked

/-- The checks of a link without a key only warn. -/
theorem checkFrame_unkeyed {msg : Message} {mav : MavState P}
    (unkeyed : (mav.links chan).keyLoaded = false) :
    ((checkFrame lib env chan msg mav).2.links chan).keyLoaded = false ∧
      Warns chan mav (checkFrame lib env chan msg mav).2 := by
  have timed := periodicWarning_calm env chan mav
  have silent := periodicWarning_log env chan mav
  rw [checkFrame]
  dsimp only
  rw [unkeyed]
  generalize periodicWarning env chan mav = result at timed silent
  obtain ⟨due, later⟩ := result
  have kept : (later.links chan).keyLoaded = false := timed.keyLoaded.trans unkeyed
  by_cases open' : (mav.links chan).keyId = -1
  · rw [if_pos open']
    exact ⟨unkeyed, .inl rfl⟩
  · rw [if_neg open', if_pos Bool.not_false]
    cases due with
    | false => exact ⟨kept, .inl silent⟩
    | true =>
        obtain ⟨event, warning, told⟩ := mavPrintf_log lib chan .needSetup later
        refine ⟨(mavPrintf_calm lib chan .needSetup later).keyLoaded.trans kept,
          .inr ⟨event, warning, ?_⟩⟩
        exact told.trans (congrArg (event :: ·) silent)

/-- A link without a key does not load one from a frame. -/
theorem receiveBytes_keyLoaded {bytes : List UInt8} {mav : MavState P}
    (unkeyed : (mav.links chan).keyLoaded = false) :
    ((receiveBytes lib env chan bytes mav).2.2.links chan).keyLoaded = false := by
  induction bytes generalizing mav with
  | nil => exact unkeyed
  | cons byte rest ih =>
      have kept : ((parseByte lib chan byte mav).2.links chan).keyLoaded = false :=
        (parseByte_keyLoaded byte mav).trans unkeyed
      rw [receiveBytes]
      generalize parseByte lib chan byte mav = result at kept
      obtain ⟨_ | msg, after⟩ := result
      · exact ih kept
      · have checked : ((checkFrame lib env chan msg after).2.links chan).keyLoaded = false :=
          (checkFrame_unkeyed kept).1
        dsimp only
        generalize checkFrame lib env chan msg after = answer at checked
        obtain ⟨_ | _, done⟩ := answer
        · exact checked
        · exact checked

/-- The user's link of a pair that does not sign both ways loads no key, and accepts
what it likes. -/
theorem receiveBytes_oneWay {bytes : List UInt8} {mav : MavState P} (oneWay : pair.bidi = false)
    (unkeyed : (mav.links chanComm1).keyLoaded = false)
    (obeys : History.Obeys (NewestKeyRule pair) mav.log) :
    History.Obeys (NewestKeyRule pair) (receiveBytes lib env chanComm1 bytes mav).2.2.log := by
  induction bytes generalizing mav with
  | nil => exact obeys
  | cons byte rest ih =>
      have kept : ((parseByte lib chanComm1 byte mav).2.links chanComm1).keyLoaded = false :=
        (parseByte_keyLoaded byte mav).trans unkeyed
      have parsed :
          History.Obeys (NewestKeyRule pair) (parseByte lib chanComm1 byte mav).2.log := by
        rcases parseByte_log lib chanComm1 byte mav with ⟨same, _⟩ | ⟨msg, verified, _, log⟩
        · rw [same]
          exact obeys
        · rw [log]
          exact ⟨trivial, obeys⟩
      rw [receiveBytes]
      generalize parseByte lib chanComm1 byte mav = result at kept parsed
      obtain ⟨_ | msg, after⟩ := result
      · exact ih kept parsed
      · have checked : Warns chanComm1 after (checkFrame lib env chanComm1 msg after).2 :=
          (checkFrame_unkeyed kept).2
        dsimp only
        generalize checkFrame lib env chanComm1 msg after = answer at checked
        have obeyed := checked.newestKeyRule parsed
        obtain ⟨_ | _, done⟩ := answer
        · exact obeyed
        · exact ⟨.inl ⟨rfl, oneWay⟩, obeyed⟩

/-- A new connection loads its key before it has heard anything. -/
theorem init_newest {fd : Option Nat} {signingRequired allowWebsocket isTcp : Bool} {keyId : Int}
    {mav : MavState P} (obeys : History.Obeys (NewestKeyRule pair) mav.log) :
    History.Obeys (NewestKeyRule pair)
      (init env chan fd signingRequired allowWebsocket isTcp keyId mav).log := by
  rcases init_log env chan fd signingRequired allowWebsocket isTcp keyId mav with
    log | ⟨_, key, log⟩
  · rw [log]
    exact ⟨trivial, obeys⟩
  · rw [log]
    refine ⟨.inl ?_, trivial, obeys⟩
    rw [trust_cons, Trust.apply, if_pos rfl]
    rfl

private theorem init_unkeyed {fd : Option Nat} {allowWebsocket isTcp : Bool} {keyId : Int}
    {mav : MavState P} :
    ((init env chan fd false allowWebsocket isTcp keyId mav).links chan).keyLoaded = false := by
  rw [init, if_neg Bool.false_ne_true]
  simp only [MavState.note, MavState.setBadSignature, MavState.modifyLink, Function.update_self,
    Link.reset]

end Operations

/-- What holds at every moment of a session whose keys change on lone links only. -/
structure Rekeyed (pair : PortPair) (layer : LinkLayer P) : Prop where
  engineer : ∀ slot < maxComm2Links, layer.connected (chanComm2 slot) = true →
    Gate layer.mav (chanComm2 slot) ∧ (trust (chanComm2 slot) layer.mav.log).live = true
  oneWay : pair.bidi = false → (layer.mav.links chanComm1).keyLoaded = false
  bothWays : pair.bidi = true → Gate layer.mav chanComm1 ∧
    ((layer.mav.links chanComm1).keyLoaded = true → (trust chanComm1 layer.mav.log).live = true)
  stored : Stored layer.mav
  obeys : History.Obeys (NewestKeyRule pair) layer.mav.log

namespace Rekeyed

variable {lib : Library P} {env : Environment} {pair : PortPair} {layer next : LinkLayer P}

private theorem of_quiet (rekeyed : Rekeyed pair layer) (quiet : layer.Quiet lib next) :
    Rekeyed pair next := by
  have user := quiet.calm chanComm1 (.inl rfl)
  refine ⟨?_, ?_, ?_, quiet.stored rekeyed.stored, quiet.obeys ?_ rekeyed.obeys⟩
  · intro slot inside held
    obtain ⟨gate, live⟩ := rekeyed.engineer slot inside (quiet.connected _ held)
    have calm := quiet.calm _ (.inr held)
    rw [calm.trust]
    exact ⟨calm.preserves gate, live⟩
  · intro single
    rw [user.keyLoaded]
    exact rekeyed.oneWay single
  · intro both
    obtain ⟨gate, live⟩ := rekeyed.bothWays both
    rw [user.keyLoaded, user.trust]
    exact ⟨user.preserves gate, live⟩
  · intro log event outward
    cases event <;> trivial

/-- An operation on an engineer's link. -/
theorem of_engineer {slot : Nat} (rekeyed : Rekeyed pair layer)
    (touches : Touches (chanComm2 slot) layer.mav next.mav)
    (connected : ∀ other, other ≠ chanComm2 slot → next.connected other = true →
      layer.connected other = true)
    (own : Gate next.mav (chanComm2 slot) ∧ (trust (chanComm2 slot) next.mav.log).live = true)
    (stored : Stored next.mav) (obeys : History.Obeys (NewestKeyRule pair) next.mav.log) :
    Rekeyed pair next := by
  have user := touches.calm (chanComm2_ne_comm1 slot).symm
  refine ⟨?_, ?_, ?_, stored, obeys⟩
  · intro other within held
    by_cases same : other = slot
    · rw [same]
      exact own
    · have apart := chanComm2_ne same
      obtain ⟨gate, live⟩ := rekeyed.engineer other within (connected _ apart held)
      rw [touches.trust_eq apart]
      exact ⟨touches.gate apart gate, live⟩
  · intro single
    rw [user.keyLoaded]
    exact rekeyed.oneWay single
  · intro both
    obtain ⟨gate, live⟩ := rekeyed.bothWays both
    rw [user.keyLoaded, user.trust]
    exact ⟨user.preserves gate, live⟩

/-- An operation on the user's link. -/
theorem of_user (rekeyed : Rekeyed pair layer) (touches : Touches chanComm1 layer.mav next.mav)
    (connected : ∀ other, other ≠ chanComm1 → next.connected other = true →
      layer.connected other = true)
    (oneWay : pair.bidi = false → (next.mav.links chanComm1).keyLoaded = false)
    (bothWays : pair.bidi = true → Gate next.mav chanComm1 ∧
      ((next.mav.links chanComm1).keyLoaded = true → (trust chanComm1 next.mav.log).live = true))
    (stored : Stored next.mav) (obeys : History.Obeys (NewestKeyRule pair) next.mav.log) :
    Rekeyed pair next := by
  refine ⟨?_, oneWay, bothWays, stored, obeys⟩
  intro slot inside held
  have apart := chanComm2_ne_comm1 slot
  obtain ⟨gate, live⟩ := rekeyed.engineer slot inside (connected _ apart held)
  rw [touches.trust_eq apart]
  exact ⟨touches.gate apart gate, live⟩

private theorem step (callsBack : lib.CallsBack) (port2 : pair.port2 ≠ -1) (keeps : env.KeepsKey)
    (rekeyed : Rekeyed pair layer) (operation : Operation lib env pair layer next)
    (nonzero : NonzeroKeys next.mav.log) (alone : History.Obeys RekeysAlone next.mav.log) :
    Rekeyed pair next := by
  induction operation using Operation.byKind with
  | quiet operation quiet => exact rekeyed.of_quiet quiet
  | connectUser layer fd isTcp absent =>
      refine rekeyed.of_user (init_touches env chanComm1 fd pair.bidi false isTcp _ layer.mav)
        ?_ ?_ ?_ (init_stored chanComm1 keeps fd _ _ _ _ rekeyed.stored) (init_newest rekeyed.obeys)
      · intro other apart held
        dsimp only at held
        rwa [Function.update_of_ne apart] at held
      · intro single
        dsimp only
        rw [single]
        exact init_unkeyed
      · intro both
        dsimp only at nonzero ⊢
        rw [both, conn1KeyId, if_pos both] at nonzero ⊢
        exact ⟨init_gate env _ (by decide) port2 nonzero, fun _ => trust_init env _⟩
  | connectEngineer layer slot udp fd allowWebsocket isTcp inside absent =>
      have small : chanComm2 slot < 256 := Nat.lt_of_lt_of_le (chanComm2_lt inside) (by decide)
      have note : layer.Quiet lib { layer with mav := layer.mav.note (.opened slot udp) } :=
        .note trivial fun _ _ => rfl
      have opened := rekeyed.of_quiet note
      refine opened.of_engineer (init_touches env _ fd true allowWebsocket isTcp _ _) ?_
        ⟨init_gate env _ small port2 nonzero, trust_init env _⟩
        (init_stored _ keeps fd _ _ _ _ opened.stored) (init_newest opened.obeys)
      intro other apart held
      dsimp only at held
      rwa [Function.update_of_ne apart] at held
  | receive layer chan bytes active =>
      have clear : layer.Quiet lib { layer with mav := layer.mav.setBadSignature chan false } :=
        .of_links rfl rfl rfl
      have cleared := rekeyed.of_quiet clear
      have touches := receiveBytes_touches lib env chan bytes (layer.mav.setBadSignature chan false)
      have stored : Stored (receiveBytes lib env chan bytes
          (layer.mav.setBadSignature chan false)).2.2 :=
        receiveBytes_stored lib chan keeps bytes cleared.stored
      rw [receiveMessage] at nonzero alone ⊢
      rcases active with rfl | ⟨slot, inside, rfl, held⟩
      · cases way : pair.bidi with
        | false =>
            have unkeyed := cleared.oneWay way
            refine cleared.of_user touches (fun _ _ held => held)
              (fun _ => receiveBytes_keyLoaded unkeyed) ?_ stored
              (receiveBytes_oneWay way unkeyed cleared.obeys)
            intro both
            rw [way] at both
            cases both
        | true =>
            obtain ⟨gate, live⟩ := cleared.bothWays way
            refine cleared.of_user touches (fun _ _ held => held) ?_ ?_ stored
              (receiveBytes_newest callsBack (by decide) gate live alone cleared.obeys)
            · intro single
              rw [way] at single
              cases single
            · intro _
              refine ⟨(receiveBytes_gate lib env _ callsBack (by decide) nonzero gate).1, ?_⟩
              intro loaded
              by_cases before : ((layer.mav.setBadSignature chanComm1 false).links
                chanComm1).keyLoaded = true
              · exact touches.live (live before)
              · have still : ((receiveBytes lib env chanComm1 bytes (layer.mav.setBadSignature
                    chanComm1 false)).2.2.links chanComm1).keyLoaded = false :=
                  receiveBytes_keyLoaded (Bool.eq_false_of_not_eq_true before)
                dsimp only at loaded
                rw [still] at loaded
                cases loaded
      · obtain ⟨gate, live⟩ := cleared.engineer slot inside held
        have within := chanComm2_lt inside
        exact cleared.of_engineer touches (fun _ _ held => held)
          ⟨(receiveBytes_gate lib env _ callsBack within nonzero gate).1, touches.live live⟩ stored
          (receiveBytes_newest callsBack within gate (fun _ => live) alone cleared.obeys)

end Rekeyed

section Sessions

variable {lib : Library P} {env : Environment} {pair : PortPair} {memory : Nat → Option Nat}
  {record : Option KeyEntry} {sockets : Option Nat × Option Nat × Option Nat × Option Nat}

private theorem Rekeyed.initial :
    Rekeyed pair (LoopState.initial lib pair memory record sockets).linkLayer := by
  refine ⟨?_, fun _ => rfl, fun _ => ⟨⟨?_, ?_, ?_⟩, fun loaded => Bool.noConfusion loaded⟩, ?_,
    trivial⟩
  · intro slot inside held
    have unused : (LoopState.initial lib pair memory record sockets).connected (chanComm2 slot) =
        false := connected_slot inside
    dsimp only [LoopState.linkLayer] at held
    rw [unused] at held
    cases held
  · exact fun impossible => Int.noConfusion impossible
  · exact fun loaded => Bool.noConfusion loaded
  · exact fun signed => Bool.noConfusion signed
  · intro key loaded
    cases loaded

/-- In every session in which a new key is loaded only while no other connection holds a
key, what is accepted was verified under the newest key, the one of the record. -/
theorem run_rekeying (callsBack : lib.CallsBack) (port2 : pair.port2 ≠ -1)
    (keeps : env.KeepsKey) (wakes : List Wakeup)
    (nonzero : NonzeroKeys
      (run lib env pair wakes (LoopState.initial lib pair memory record sockets)).2.mav.log)
    (alone : History.Obeys RekeysAlone
      (run lib env pair wakes (LoopState.initial lib pair memory record sockets)).2.mav.log) :
    History.Obeys (NewestKeyRule pair)
        (run lib env pair wakes (LoopState.initial lib pair memory record sockets)).2.mav.log ∧
      Stored (run lib env pair wakes (LoopState.initial lib pair memory record sockets)).2.mav := by
  have operates : Operates lib env pair (LoopState.initial lib pair memory record sockets)
      (run lib env pair wakes (LoopState.initial lib pair memory record sockets)).2 :=
    run_operates wakes _
  have rekeyed := Operates.invariant (Rekeyed pair)
    (fun log => NonzeroKeys log ∧ History.Obeys RekeysAlone log) operates
    (fun suffix allowed => ⟨allowed.1.of_suffix suffix, allowed.2.of_suffix suffix⟩)
    (fun operation allowed before =>
      Rekeyed.step callsBack port2 keeps before operation allowed.1 allowed.2)
    .initial ⟨nonzero, alone⟩
  exact ⟨rekeyed.obeys, rekeyed.stored⟩

end Sessions

/-- A link that loads no key holds none. -/
theorem trust_unkeyed {chan : Nat} {log : List Event}
    (unloaded : ∀ event ∈ log, ∀ key, event ≠ .keyLoaded chan key) :
    (trust chan log).key = none := by
  induction log with
  | nil => rfl
  | cons event before ih =>
      have kept := ih fun event member => unloaded event (List.mem_cons_of_mem _ member)
      rw [trust_cons]
      cases event with
      | keyLoaded other key =>
          have apart : other ≠ chan := by
            intro same
            exact unloaded _ List.mem_cons_self key (by rw [same])
          rw [Trust.apply, if_neg apart]
          exact kept
      | init other =>
          rw [Trust.apply]
          split_ifs
          · rfl
          · exact kept
      | frame other key verified msg =>
          rw [Trust.apply]
          split_ifs <;> exact kept
      | setupFailed other =>
          rw [Trust.apply]
          split_ifs <;> exact kept
      | closed slot reason =>
          rw [Trust.apply]
          split_ifs <;> exact kept
      | _ => exact kept

/-- The event loads a key on no other link. -/
def Event.loadsOn (chan : Nat) : Event → Bool
  | .keyLoaded other _ => other == chan
  | _ => true

/-- Keys loaded on one link only are loaded while no other link holds one. -/
theorem rekeysAlone_of_single {chan : Nat} {log : List Event}
    (single : ∀ event ∈ log, event.loadsOn chan = true) : History.Obeys RekeysAlone log := by
  induction log with
  | nil => trivial
  | cons event before ih =>
      have earlier : ∀ event ∈ before, event.loadsOn chan = true :=
        fun event member => single event (List.mem_cons_of_mem _ member)
      refine ⟨?_, ih earlier⟩
      cases event with
      | keyLoaded own key =>
          intro _ other apart _
          refine trust_unkeyed fun event member loaded same => ?_
          have here : own = chan := beq_iff_eq.mp (single _ List.mem_cons_self)
          have there := earlier event member
          rw [same] at there
          exact apart ((beq_iff_eq.mp there).trans here.symm)
      | _ => trivial

namespace Scenario

/-- The key in the SETUP_SIGNING. -/
def newKey : SecretKey := Vector.ofFn fun index => UInt8.ofNat (index.val + 101)

/-- An engineer alone in the session changes the key. -/
def lonelySetup : List Wakeup :=
  [userDatagram [], engineerDatagram ⟨1, 1⟩ heartbeatFrame, engineerDatagram ⟨1, 1⟩ setupFrame]

/-- The user's link of the session needs no key. -/
def oneWaySession (wakes : List Wakeup) : LoopState (List UInt8) :=
  sessionIn environment { pair with bidi := false } authentic (some record) wakes

/-- An engineer changes the key while another one is connected. -/
def sharedSetup : List Wakeup :=
  [userDatagram [], engineerDatagram ⟨1, 1⟩ [], engineerDatagram ⟨2, 2⟩ [],
    engineerDatagram ⟨1, 1⟩ setupFrame]

end Scenario

/-- The key of an engineer alone is retired everywhere. -/
theorem run_rekeying_lonely :
    newestKey (Scenario.oneWaySession Scenario.lonelySetup).mav.log = some Scenario.newKey ∧
      History.Obeys (NewestKeyRule { Scenario.pair with bidi := false })
        (Scenario.oneWaySession Scenario.lonelySetup).mav.log ∧
      Stored (Scenario.oneWaySession Scenario.lonelySetup).mav := by
  have newest : newestKey (Scenario.oneWaySession Scenario.lonelySetup).mav.log =
      some Scenario.newKey := by
    decide +kernel
  have nonzero : NonzeroKeys (Scenario.oneWaySession Scenario.lonelySetup).mav.log := by
    unfold NonzeroKeys
    decide +kernel
  have single : ∀ event ∈ (Scenario.oneWaySession Scenario.lonelySetup).mav.log,
      event.loadsOn (chanComm2 0) = true := by
    decide +kernel
  have retired : ∀ wakes, NonzeroKeys (Scenario.oneWaySession wakes).mav.log →
      (∀ event ∈ (Scenario.oneWaySession wakes).mav.log, event.loadsOn (chanComm2 0) = true) →
        History.Obeys (NewestKeyRule { Scenario.pair with bidi := false })
          (Scenario.oneWaySession wakes).mav.log ∧ Stored (Scenario.oneWaySession wakes).mav :=
    fun wakes nonzero single => run_rekeying Framing.callsBack (by decide) (fun _ _ => rfl) wakes
      nonzero (rekeysAlone_of_single single)
  exact ⟨newest, retired _ nonzero single⟩

/-- The key of the record is a new one, and a frame signed with the old key is accepted on
the other engineer's link. -/
theorem old_key_still_accepted :
    (let before := (Scenario.session Scenario.authentic (some Scenario.record)
        Scenario.sharedSetup).mav;
      let after := (Scenario.session Scenario.authentic (some Scenario.record)
        (Scenario.sharedSetup ++ [Scenario.engineerDatagram ⟨2, 2⟩ Scenario.heartbeatFrame])).mav;
      before.keyRecord.map KeyEntry.secretKey = some Scenario.newKey ∧
        newestKey before.log = some Scenario.newKey ∧
        Scenario.authentic Scenario.newKey (Framing.decode Scenario.heartbeatFrame) = false ∧
        Event.accepted (chanComm2 1) (Framing.decode Scenario.heartbeatFrame) ∉ before.log ∧
        Event.accepted (chanComm2 1) (Framing.decode Scenario.heartbeatFrame) ∈ after.log) := by
  decide +kernel

end SupportProxy
