import SupportProxy.Session.Scenario
import SupportProxy.Session.Authentication
import SupportProxy.Mavlink.Streams
import SupportProxy.Library.Transducer

/-! # A new connection in a used slot

`init` resets the object of a link but not the parse state of its channel. When the
earlier connections left parse states that no input tells apart, a new connection is
heard the same behind either of them (`reuse_unseen`). -/

namespace SupportProxy

variable {P : Type}

/-- `mavlink_parse_char` as a machine: what it answers to a byte, with the signing members
it is given. -/
def Library.machine (lib : Library P) :
    Transducer P (Option Signing × SigningTrack × UInt8)
      (SigningTrack × Option Message × Bool) where
  step parser input :=
    let parsed := lib.parseChar parser input.1 input.2.1 input.2.2
    (parsed.parser, parsed.track, parsed.frame, parsed.calledBack)

/-- From the given questions on, the clock and the key database answer the same. -/
structure Environment.Agree (env : Environment) (query : Nat) (other : Environment)
    (otherQuery : Nat) : Prop where
  now : ∀ later, env.now (query + later) = other.now (otherQuery + later)
  keyRecord : ∀ later, env.keyRecord (query + later) = other.keyRecord (otherQuery + later)
  dbOpens : ∀ later, env.dbOpens (query + later) = other.dbOpens (otherQuery + later)
  dbCommits : ∀ later, env.dbCommits (query + later) = other.dbCommits (otherQuery + later)

/-- Two links that hear the same once a key is loaded. -/
structure Link.Sibling (lib : Library P) (left right : Link P) : Prop where
  keyId : left.keyId = right.keyId
  keyLoaded : left.keyLoaded = right.keyLoaded
  lastSigningSave : left.lastSigningSave = right.lastSigningSave
  lastSigningWarning : left.lastSigningWarning = right.lastSigningWarning
  badSigCount : left.badSigCount = right.badSigCount
  signing : left.signing = right.signing
  track : left.track = right.track
  parser : lib.machine.Alike left.parser right.parser

/-- Two links that hear the same. -/
structure Link.Twin (lib : Library P) (left right : Link P) : Prop extends
    Link.Sibling lib left right where
  statusSigning : left.statusSigning = right.statusSigning

/-- Two sessions with the same key and clock, and with related links on a channel. -/
structure Paired (related : Link P → Link P → Prop) (chan : Nat) (env other : Environment)
    (left right : MavState P) : Prop where
  agree : env.Agree left.queries other right.queries
  record : left.keyRecord = right.keyRecord
  bad : left.gotBadSignature chan = right.gotBadSignature chan
  link : related (left.links chan) (right.links chan)

/-- Two sessions in which the link of a channel hears the same. -/
abbrev Twin (lib : Library P) := Paired (Link.Twin lib)

/-- A link without a key that is not open accepts nothing. -/
def Deaf (chan : Nat) (mav : MavState P) : Prop :=
  (mav.links chan).keyLoaded = false ∧ (mav.links chan).keyId ≠ -1

/-- `while (n > 0 && receive_message(buf0, n, msg))` on one buffer: the messages, for at
most `fuel` of them. -/
def receiveBuffer (lib : Library P) (env : Environment) (chan : Nat) :
    Nat → List UInt8 → MavState P → List Message × MavState P
  | 0, _, mav => ([], mav)
  | fuel + 1, bytes, mav =>
      if bytes = [] then ([], mav)
      else
        match receiveMessage lib env chan bytes mav with
        | (none, _, mav) => ([], mav)
        | (some msg, rest, mav) =>
            let (more, mav) := receiveBuffer lib env chan fuel rest mav
            (msg :: more, mav)

/-- The messages accepted from one buffer after the other. -/
def receiveAll (lib : Library P) (env : Environment) (chan : Nat) :
    List (List UInt8) → MavState P → List Message
  | [], _ => []
  | buffer :: rest, mav =>
      let (messages, mav) := receiveBuffer lib env chan buffer.length buffer mav
      messages ++ receiveAll lib env chan rest mav

private theorem Environment.Agree.later {env other : Environment} {query otherQuery : Nat}
    (agree : env.Agree query other otherQuery) :
    env.Agree (query + 1) other (otherQuery + 1) := by
  refine ⟨?_, ?_, ?_, ?_⟩
  · intro later
    rw [Nat.add_assoc, Nat.add_assoc]
    exact agree.now (1 + later)
  · intro later
    rw [Nat.add_assoc, Nat.add_assoc]
    exact agree.keyRecord (1 + later)
  · intro later
    rw [Nat.add_assoc, Nat.add_assoc]
    exact agree.dbOpens (1 + later)
  · intro later
    rw [Nat.add_assoc, Nat.add_assoc]
    exact agree.dbCommits (1 + later)

private theorem Link.Twin.raiseTimestamp {lib : Library P} {left right : Link P}
    (twin : left.Twin lib right)
    (timestamp : Nat) :
    (left.raiseTimestamp timestamp).Twin lib (right.raiseTimestamp timestamp) := by
  rw [Link.raiseTimestamp, Link.raiseTimestamp, twin.statusSigning, twin.track]
  split_ifs
  · exact ⟨⟨twin.keyId, twin.keyLoaded, twin.lastSigningSave, twin.lastSigningWarning,
      twin.badSigCount, twin.signing, rfl, twin.parser⟩, rfl⟩
  · exact twin

/-- Loading the same key at the same time. -/
theorem Link.Sibling.loadEntry {lib : Library P} {left right : Link P}
    (sibling : left.Sibling lib right) (chan : Nat) (entry : KeyEntry) (now : Nat) :
    (left.loadEntry chan entry now).Twin lib (right.loadEntry chan entry now) := by
  refine ⟨⟨sibling.keyId, rfl, sibling.lastSigningSave, sibling.lastSigningWarning,
    sibling.badSigCount, rfl, ?_, sibling.parser⟩, rfl⟩
  rw [Link.loadEntry_track, Link.loadEntry_track, sibling.track]

private theorem Paired.asked {related : Link P → Link P → Prop} {chan : Nat}
    {env other : Environment}
    {left right : MavState P} (paired : Paired related chan env other left right) :
    Paired related chan env other left.asked right.asked :=
  ⟨paired.agree.later, paired.record, paired.bad, paired.link⟩

private theorem Paired.note {related : Link P → Link P → Prop} {chan : Nat}
    {env other : Environment}
    {left right : MavState P} (paired : Paired related chan env other left right)
    (event otherEvent : Event) :
    Paired related chan env other (left.note event) (right.note otherEvent) :=
  ⟨paired.agree, paired.record, paired.bad, paired.link⟩

/-- Both find the record, or neither does. -/
theorem Paired.loadKey {related : Link P → Link P → Prop} {chan : Nat} {env other : Environment}
    {left right : MavState P} (paired : Paired related chan env other left right) :
    (loadKey env left).1 = (SupportProxy.loadKey other right).1 ∧
      Paired related chan env other (SupportProxy.loadKey env left).2
        (SupportProxy.loadKey other right).2 := by
  have answer : env.keyRecord left.queries left.keyRecord =
      other.keyRecord right.queries right.keyRecord := by
    rw [paired.record]
    exact congrFun (paired.agree.keyRecord 0) _
  rw [SupportProxy.loadKey, SupportProxy.loadKey]
  dsimp only
  refine ⟨answer, paired.agree.later, answer, paired.bad, paired.link⟩

/-- The record is copied into both links. -/
theorem Paired.keyed {lib : Library P} {related : Link P → Link P → Prop} (chan : Nat)
    {env other : Environment} {left right : MavState P}
    (paired : Paired related chan env other left right) (entry : KeyEntry)
    (sibling : ∀ {one another : Link P}, related one another → one.Sibling lib another) :
    Twin lib chan env other
      ((left.asked.modifyLink chan (Link.loadEntry chan entry (env.now left.queries))).note
        (.keyLoaded chan entry.secretKey))
      ((right.asked.modifyLink chan (Link.loadEntry chan entry (other.now right.queries))).note
        (.keyLoaded chan entry.secretKey)) := by
  have now : env.now left.queries = other.now right.queries := paired.agree.now 0
  rw [now]
  generalize other.now right.queries = time
  refine ⟨paired.agree.later, paired.record, paired.bad, ?_⟩
  have loaded := (sibling paired.link).loadEntry chan entry time
  have changed : ∀ mav : MavState P, ((mav.asked.modifyLink chan
      (Link.loadEntry chan entry time)).note (.keyLoaded chan entry.secretKey)).links chan =
        (mav.links chan).loadEntry chan entry time := fun _ => Function.update_self ..
  rw [changed, changed]
  exact loaded

namespace Paired

variable {lib : Library P} {chan : Nat} {env other : Environment} {left right : MavState P}

private theorem setBadSignature (twin : Twin lib chan env other left right) (index : Nat)
    (bad : Bool) :
    Twin lib chan env other (left.setBadSignature index bad) (right.setBadSignature index bad) := by
  refine ⟨twin.agree, twin.record, ?_, twin.link⟩
  have marked : ∀ mav : MavState P, (mav.setBadSignature index bad).gotBadSignature =
      Function.update mav.gotBadSignature index bad := fun _ => rfl
  rw [marked, marked]
  by_cases own : chan = index
  · rw [own, Function.update_self, Function.update_self]
  · rw [Function.update_of_ne own, Function.update_of_ne own]
    exact twin.bad

private theorem modifyLink (twin : Twin lib chan env other left right)
    {change otherChange : Link P → Link P}
    (same : (change (left.links chan)).Twin lib (otherChange (right.links chan))) :
    Twin lib chan env other (left.modifyLink chan change) (right.modifyLink chan otherChange) := by
  refine ⟨twin.agree, twin.record, twin.bad, ?_⟩
  have changed : (left.modifyLink chan change).links chan = change (left.links chan) :=
    Function.update_self ..
  have otherChanged : (right.modifyLink chan otherChange).links chan =
      otherChange (right.links chan) := Function.update_self ..
  rw [changed, otherChanged]
  exact same

private theorem now (twin : Twin lib chan env other left right) :
    env.now left.queries = other.now right.queries := twin.agree.now 0

private theorem periodicWarning (twin : Twin lib chan env other left right) :
    (periodicWarning env chan left).1 = (SupportProxy.periodicWarning other chan right).1 ∧
      Twin lib chan env other (SupportProxy.periodicWarning env chan left).2
        (SupportProxy.periodicWarning other chan right).2 := by
  have now := twin.now
  rw [SupportProxy.periodicWarning, SupportProxy.periodicWarning]
  dsimp only
  rw [now, twin.link.lastSigningWarning]
  refine ⟨rfl, ?_⟩
  generalize other.now right.queries = time
  split_ifs
  · have link := twin.link
    exact twin.asked.modifyLink ⟨⟨link.keyId, link.keyLoaded, link.lastSigningSave, rfl,
      link.badSigCount, link.signing, link.track, link.parser⟩, link.statusSigning⟩
  · exact twin.asked

private theorem packed (twin : Twin lib chan env other left right) (seq otherSeq : UInt8) :
    Twin lib chan env other (left.modifyLink chan (Link.packed lib seq))
      (right.modifyLink chan (Link.packed lib otherSeq)) := by
  have link := twin.link
  refine twin.modifyLink ⟨⟨link.keyId, link.keyLoaded, link.lastSigningSave,
    link.lastSigningWarning, link.badSigCount, link.signing, ?_, link.parser⟩, link.statusSigning⟩
  rw [Link.packed, Link.packed]
  dsimp only
  rw [link.statusSigning, link.signing, link.track]

private theorem mavPrintf (twin : Twin lib chan env other left right) (warning : Warning) :
    Twin lib chan env other (SupportProxy.mavPrintf lib chan warning left)
      (SupportProxy.mavPrintf lib chan warning right) :=
  (twin.packed _ _).note _ _

private theorem countBadSignature (twin : Twin lib chan env other left right) (warning : Warning) :
    (countBadSignature lib chan warning left).1 =
        (SupportProxy.countBadSignature lib chan warning right).1 ∧
      Twin lib chan env other (SupportProxy.countBadSignature lib chan warning left).2
        (SupportProxy.countBadSignature lib chan warning right).2 := by
  have link := twin.link
  have counted : Twin lib chan env other
      (left.modifyLink chan fun link =>
        { link with badSigCount := (link.badSigCount + 1) % 2 ^ 32 })
      (right.modifyLink chan fun link =>
        { link with badSigCount := (link.badSigCount + 1) % 2 ^ 32 }) := by
    refine twin.modifyLink ⟨⟨link.keyId, link.keyLoaded, link.lastSigningSave,
      link.lastSigningWarning, ?_, link.signing, link.track, link.parser⟩, link.statusSigning⟩
    dsimp only
    rw [link.badSigCount]
  rw [SupportProxy.countBadSignature, SupportProxy.countBadSignature]
  generalize (left.modifyLink chan fun link =>
    { link with badSigCount := (link.badSigCount + 1) % 2 ^ 32 }) = leftCounted at counted
  generalize (right.modifyLink chan fun link =>
    { link with badSigCount := (link.badSigCount + 1) % 2 ^ 32 }) = rightCounted at counted
  rw [counted.link.badSigCount]
  split_ifs
  · exact ⟨rfl, counted⟩
  · exact ⟨rfl, counted.mavPrintf warning⟩

private theorem warnBadSignature (twin : Twin lib chan env other left right) (msg : Message) :
    (warnBadSignature lib chan msg left).1 =
        (SupportProxy.warnBadSignature lib chan msg right).1 ∧
      Twin lib chan env other (SupportProxy.warnBadSignature lib chan msg left).2
        (SupportProxy.warnBadSignature lib chan msg right).2 := by
  rw [SupportProxy.warnBadSignature, SupportProxy.warnBadSignature, twin.link.track]
  cases (right.links chan).track.lastStatus with
  | replay => exact twin.countBadSignature .replay
  | oldTimestamp => exact ⟨rfl, twin.mavPrintf _⟩
  | noStreams => exact ⟨rfl, twin.mavPrintf _⟩
  | tooManyStreams => exact ⟨rfl, twin.mavPrintf _⟩
  | badSignature => exact twin.countBadSignature .badKey
  | none => exact twin.countBadSignature .badKey
  | ok => exact twin.countBadSignature .badKey

private theorem clearSigned (twin : Twin lib chan env other left right) :
    Twin lib chan env other (SupportProxy.clearSigned chan left)
      (SupportProxy.clearSigned chan right) := by
  have link := twin.link
  exact twin.modifyLink ⟨⟨link.keyId, link.keyLoaded, link.lastSigningSave,
    link.lastSigningWarning, link.badSigCount, link.signing, link.track, link.parser⟩,
    link.statusSigning⟩

private theorem trustLink (twin : Twin lib chan env other left right) :
    Twin lib chan env other (SupportProxy.trustLink chan left)
      (SupportProxy.trustLink chan right) := by
  have link := twin.link
  exact twin.modifyLink ⟨⟨link.keyId, link.keyLoaded, link.lastSigningSave,
    link.lastSigningWarning, rfl, link.signing, link.track, link.parser⟩, link.statusSigning⟩

private theorem loadSigningKey (twin : Twin lib chan env other left right) :
    Twin lib chan env other (SupportProxy.loadSigningKey env chan left)
      (SupportProxy.loadSigningKey other chan right) := by
  obtain ⟨answer, read⟩ := twin.loadKey
  rw [SupportProxy.loadSigningKey, SupportProxy.loadSigningKey]
  generalize SupportProxy.loadKey env left = result at answer read
  generalize SupportProxy.loadKey other right = otherResult at answer read
  obtain ⟨found, later⟩ := result
  obtain ⟨otherFound, otherLater⟩ := otherResult
  dsimp only at answer read
  subst answer
  cases found with
  | none => exact read
  | some entry => exact read.keyed chan entry Link.Twin.toSibling

private theorem handleSetupSigning (twin : Twin lib chan env other left right) (msg : Message) :
    Twin lib chan env other (SupportProxy.handleSetupSigning lib env chan msg left)
      (SupportProxy.handleSetupSigning lib other chan msg right) := by
  have opens : env.dbOpens left.queries = other.dbOpens right.queries := twin.agree.dbOpens 0
  rw [SupportProxy.handleSetupSigning, SupportProxy.handleSetupSigning]
  dsimp only
  rw [opens]
  split_ifs
  · exact twin.asked.note _ _
  · obtain ⟨answer, read⟩ := twin.asked.loadKey
    generalize SupportProxy.loadKey env left.asked = result at answer read
    generalize SupportProxy.loadKey other right.asked = otherResult at answer read
    obtain ⟨found, later⟩ := result
    obtain ⟨otherFound, otherLater⟩ := otherResult
    dsimp only at answer read
    subst answer
    cases found with
    | none => exact read.note _ _
    | some entry =>
        have commits : env.dbCommits later.queries = other.dbCommits otherLater.queries :=
          read.agree.dbCommits 0
        dsimp only
        rw [commits]
        refine (Paired.clearSigned ?_).loadSigningKey
        have asked := read.asked
        split_ifs
        · exact ⟨asked.agree, rfl, asked.bad, asked.link⟩
        · exact asked

private theorem checkFrame (twin : Twin lib chan env other left right) (msg : Message) :
    (checkFrame lib env chan msg left).1 = (SupportProxy.checkFrame lib other chan msg right).1 ∧
      Twin lib chan env other (SupportProxy.checkFrame lib env chan msg left).2
        (SupportProxy.checkFrame lib other chan msg right).2 := by
  obtain ⟨due, timed⟩ := twin.periodicWarning
  rw [SupportProxy.checkFrame, SupportProxy.checkFrame]
  dsimp only
  rw [twin.link.keyId, twin.link.keyLoaded, twin.bad]
  generalize SupportProxy.periodicWarning env chan left = result at due timed
  generalize SupportProxy.periodicWarning other chan right = otherResult at due timed
  obtain ⟨warns, later⟩ := result
  obtain ⟨otherWarns, otherLater⟩ := otherResult
  dsimp only at due timed
  subst due
  split_ifs
  · exact ⟨rfl, twin⟩
  · cases warns with
    | false => exact ⟨rfl, timed⟩
    | true => exact ⟨rfl, timed.mavPrintf _⟩
  · cases warns with
    | false => exact ⟨rfl, timed.clearSigned⟩
    | true => exact ⟨rfl, (timed.mavPrintf _).clearSigned⟩
  · cases warns with
    | false => exact ⟨rfl, timed.clearSigned⟩
    | true =>
        obtain ⟨answer, told⟩ := timed.warnBadSignature msg
        dsimp only
        generalize SupportProxy.warnBadSignature lib chan msg later = told' at answer told
        generalize SupportProxy.warnBadSignature lib chan msg otherLater = otherTold at answer told
        obtain ⟨returns, last⟩ := told'
        obtain ⟨otherReturns, otherLast⟩ := otherTold
        dsimp only at answer told
        subst answer
        cases returns with
        | false => exact ⟨rfl, told.clearSigned⟩
        | true => exact ⟨rfl, told⟩
  · exact ⟨rfl, twin.trustLink.handleSetupSigning msg⟩
  · exact ⟨rfl, twin.trustLink⟩

private theorem parseByte (twin : Twin lib chan env other left right) (byte : UInt8) :
    (parseByte lib chan byte left).1 = (SupportProxy.parseByte lib chan byte right).1 ∧
      Twin lib chan env other (SupportProxy.parseByte lib chan byte left).2
        (SupportProxy.parseByte lib chan byte right).2 := by
  have link := twin.link
  have signing : (left.links chan).signingOf = (right.links chan).signingOf := by
    rw [Link.signingOf, Link.signingOf, link.statusSigning, link.signing]
  have output := link.parser.output ((right.links chan).signingOf, (right.links chan).track, byte)
  have next := link.parser.next ((right.links chan).signingOf, (right.links chan).track, byte)
  rw [SupportProxy.parseByte, SupportProxy.parseByte]
  dsimp only
  rw [signing, link.track, link.signing, link.statusSigning]
  dsimp only [Library.machine] at output next
  generalize lib.parseChar (left.links chan).parser (right.links chan).signingOf
    (right.links chan).track byte = parsed at output next ⊢
  generalize lib.parseChar (right.links chan).parser (right.links chan).signingOf
    (right.links chan).track byte = otherParsed at output next ⊢
  obtain ⟨track, rest⟩ := Prod.mk.inj output
  obtain ⟨frame, calledBack⟩ := Prod.mk.inj rest
  have stepped : Twin lib chan env other
      (left.modifyLink chan fun link =>
        { link with parser := parsed.parser, track := parsed.track })
      (right.modifyLink chan fun link =>
        { link with parser := otherParsed.parser, track := otherParsed.track }) :=
    twin.modifyLink ⟨⟨link.keyId, link.keyLoaded, link.lastSigningSave, link.lastSigningWarning,
      link.badSigCount, link.signing, track, next⟩, link.statusSigning⟩
  generalize (left.modifyLink chan fun link =>
    { link with parser := parsed.parser, track := parsed.track }) = leftStepped at stepped
  generalize (right.modifyLink chan fun link =>
    { link with parser := otherParsed.parser, track := otherParsed.track }) = rightStepped
      at stepped
  rw [calledBack, frame]
  have marked : Twin lib chan env other
      (if otherParsed.calledBack = true then
        acceptUnsignedCallback (right.links chan).signing leftStepped else leftStepped)
      (if otherParsed.calledBack = true then
        acceptUnsignedCallback (right.links chan).signing rightStepped else rightStepped) := by
    rw [acceptUnsignedCallback, acceptUnsignedCallback]
    split_ifs
    · exact stepped.setBadSignature _ _
    · exact stepped
    · exact stepped
  cases otherParsed.frame with
  | none => exact ⟨rfl, marked⟩
  | some msg => exact ⟨rfl, marked.note _ _⟩

private theorem receiveBytes (twin : Twin lib chan env other left right) (bytes : List UInt8) :
    (receiveBytes lib env chan bytes left).1 =
        (SupportProxy.receiveBytes lib other chan bytes right).1 ∧
      (SupportProxy.receiveBytes lib env chan bytes left).2.1 =
        (SupportProxy.receiveBytes lib other chan bytes right).2.1 ∧
      Twin lib chan env other (SupportProxy.receiveBytes lib env chan bytes left).2.2
        (SupportProxy.receiveBytes lib other chan bytes right).2.2 := by
  induction bytes generalizing left right with
  | nil => exact ⟨rfl, rfl, twin⟩
  | cons byte rest ih =>
      obtain ⟨found, parsed⟩ := twin.parseByte byte
      rw [SupportProxy.receiveBytes, SupportProxy.receiveBytes]
      generalize SupportProxy.parseByte lib chan byte left = result at found parsed
      generalize SupportProxy.parseByte lib chan byte right = otherResult at found parsed
      obtain ⟨frame, after⟩ := result
      obtain ⟨otherFrame, otherAfter⟩ := otherResult
      dsimp only at found parsed
      subst found
      cases frame with
      | none => exact ih parsed
      | some msg =>
          obtain ⟨verdict, checked⟩ := parsed.checkFrame msg
          dsimp only
          generalize SupportProxy.checkFrame lib env chan msg after = answer at verdict checked
          generalize SupportProxy.checkFrame lib other chan msg otherAfter = otherAnswer
            at verdict checked
          obtain ⟨accepts, done⟩ := answer
          obtain ⟨otherAccepts, otherDone⟩ := otherAnswer
          dsimp only at verdict checked
          subst verdict
          cases accepts with
          | false => exact ⟨rfl, rfl, checked⟩
          | true => exact ⟨rfl, rfl, checked.note _ _⟩

private theorem receiveBuffer (twin : Twin lib chan env other left right) (fuel : Nat)
    (bytes : List UInt8) :
    (receiveBuffer lib env chan fuel bytes left).1 =
        (SupportProxy.receiveBuffer lib other chan fuel bytes right).1 ∧
      Twin lib chan env other (SupportProxy.receiveBuffer lib env chan fuel bytes left).2
        (SupportProxy.receiveBuffer lib other chan fuel bytes right).2 := by
  induction fuel generalizing bytes left right with
  | zero => exact ⟨rfl, twin⟩
  | succ fuel ih =>
      rw [SupportProxy.receiveBuffer, SupportProxy.receiveBuffer]
      by_cases empty : bytes = []
      · rw [if_pos empty, if_pos empty]
        exact ⟨rfl, twin⟩
      · rw [if_neg empty, if_neg empty]
        obtain ⟨found, unread, received⟩ := (twin.setBadSignature chan false).receiveBytes bytes
        rw [receiveMessage, receiveMessage]
        generalize SupportProxy.receiveBytes lib env chan bytes (left.setBadSignature chan false) =
          result at found unread received
        generalize SupportProxy.receiveBytes lib other chan bytes
          (right.setBadSignature chan false) = otherResult at found unread received
        obtain ⟨message, rest, after⟩ := result
        obtain ⟨otherMessage, otherRest, otherAfter⟩ := otherResult
        dsimp only at found unread received
        subst found
        subst unread
        cases message with
        | none => exact ⟨rfl, received⟩
        | some msg =>
            obtain ⟨same, later⟩ := ih received rest
            exact ⟨congrArg (msg :: ·) same, later⟩

/-- Twins accept the same. -/
theorem receiveAll (twin : Twin lib chan env other left right) (buffers : List (List UInt8)) :
    receiveAll lib env chan buffers left =
      SupportProxy.receiveAll lib other chan buffers right := by
  induction buffers generalizing left right with
  | nil => rfl
  | cons buffer rest ih =>
      obtain ⟨same, later⟩ := twin.receiveBuffer buffer.length buffer
      rw [SupportProxy.receiveAll, SupportProxy.receiveAll]
      dsimp only
      rw [same, ih later]

private theorem setSendto (twin : Twin lib chan env other left right) (peer otherPeer : Peer) :
    Twin lib chan env other (SupportProxy.setSendto chan peer left)
      (SupportProxy.setSendto chan otherPeer right) := by
  have link := twin.link
  exact twin.modifyLink ⟨⟨link.keyId, link.keyLoaded, link.lastSigningSave,
    link.lastSigningWarning, link.badSigCount, link.signing, link.track, link.parser⟩,
    link.statusSigning⟩

private theorem updateSigningTimestamp (twin : Twin lib chan env other left right) :
    Twin lib chan env other (SupportProxy.updateSigningTimestamp env chan left)
      (SupportProxy.updateSigningTimestamp other chan right) := by
  have now := twin.now
  have asked := twin.asked
  have link := asked.link
  rw [SupportProxy.updateSigningTimestamp, SupportProxy.updateSigningTimestamp]
  dsimp only
  rw [now, link.lastSigningSave]
  generalize other.now right.queries = time
  by_cases recent : time < (right.asked.links chan).lastSigningSave + savePeriod
  · rw [if_pos recent, if_pos recent]
    exact asked
  · rw [if_neg recent, if_neg recent]
    have saved : Twin lib chan env other
        (left.asked.modifyLink chan fun link => { link with lastSigningSave := time })
        (right.asked.modifyLink chan fun link => { link with lastSigningSave := time }) :=
      asked.modifyLink ⟨⟨link.keyId, link.keyLoaded, rfl, link.lastSigningWarning,
        link.badSigCount, link.signing, link.track, link.parser⟩, link.statusSigning⟩
    generalize (left.asked.modifyLink chan fun link =>
      { link with lastSigningSave := time }) = leftSaved at saved
    generalize (right.asked.modifyLink chan fun link =>
      { link with lastSigningSave := time }) = rightSaved at saved
    refine ⟨saved.agree, saved.record, saved.bad, ?_⟩
    dsimp only
    split_ifs
    · exact saved.link.raiseTimestamp _
    · exact saved.link

end Paired

namespace Deaf

variable {lib : Library P} {chan : Nat} {env : Environment} {mav next : MavState P}

private theorem of_calm (deaf : Deaf chan mav) (calm : Calm chan mav next) : Deaf chan next := by
  rw [Deaf, calm.keyLoaded, calm.keyId]
  exact deaf

private theorem setSendto (deaf : Deaf chan mav) (peer : Peer) :
    Deaf chan (SupportProxy.setSendto chan peer mav) := by
  have directed : Calm chan mav (mav.modifyLink chan
      fun link => { link with useSendto := true, sendAddr := peer }) := .modifyLink rfl id
  exact deaf.of_calm directed

private theorem parseByte (deaf : Deaf chan mav) (byte : UInt8) :
    Deaf chan (parseByte lib chan byte mav).2 := by
  rw [Deaf, parseByte_links, Function.update_self]
  exact deaf

private theorem checkFrame (deaf : Deaf chan mav) (msg : Message) :
    (checkFrame lib env chan msg mav).1 = false ∧
      Deaf chan (SupportProxy.checkFrame lib env chan msg mav).2 := by
  have timed := deaf.of_calm (periodicWarning_calm env chan mav)
  rw [SupportProxy.checkFrame]
  dsimp only
  rw [if_neg deaf.2, deaf.1, if_pos Bool.not_false]
  generalize periodicWarning env chan mav = result at timed
  obtain ⟨_ | _, later⟩ := result
  · exact ⟨rfl, timed⟩
  · exact ⟨rfl, timed.of_calm (mavPrintf_calm lib chan .needSetup later)⟩

private theorem receiveBytes (deaf : Deaf chan mav) (bytes : List UInt8) :
    (receiveBytes lib env chan bytes mav).1 = none ∧
      Deaf chan (SupportProxy.receiveBytes lib env chan bytes mav).2.2 := by
  induction bytes generalizing mav with
  | nil => exact ⟨rfl, deaf⟩
  | cons byte rest ih =>
      have parsed : Deaf chan (SupportProxy.parseByte lib chan byte mav).2 := deaf.parseByte byte
      rw [SupportProxy.receiveBytes]
      generalize SupportProxy.parseByte lib chan byte mav = result at parsed
      obtain ⟨_ | msg, after⟩ := result
      · exact ih parsed
      · have checked : (SupportProxy.checkFrame lib env chan msg after).1 = false ∧
            Deaf chan (SupportProxy.checkFrame lib env chan msg after).2 :=
          Deaf.checkFrame parsed msg
        dsimp only
        generalize SupportProxy.checkFrame lib env chan msg after = answer at checked
        obtain ⟨_ | _, done⟩ := answer
        · exact ⟨rfl, checked.2⟩
        · cases checked.1

private theorem receiveAll (deaf : Deaf chan mav) (buffers : List (List UInt8)) :
    receiveAll lib env chan buffers mav = [] := by
  have received : ∀ bytes, ∀ before : MavState P, Deaf chan before →
      (SupportProxy.receiveBytes lib env chan bytes before).1 = none ∧
        Deaf chan (SupportProxy.receiveBytes lib env chan bytes before).2.2 :=
    fun bytes _ quiet => quiet.receiveBytes bytes
  induction buffers generalizing mav with
  | nil => rfl
  | cons buffer rest ih =>
      have heard : (receiveBuffer lib env chan buffer.length buffer mav).1 = [] ∧
          Deaf chan (receiveBuffer lib env chan buffer.length buffer mav).2 := by
        cases buffer.length with
        | zero => exact ⟨rfl, deaf⟩
        | succ fuel =>
            rw [receiveBuffer]
            split_ifs
            · exact ⟨rfl, deaf⟩
            · have cleared : Deaf chan (mav.setBadSignature chan false) := deaf
              obtain ⟨nothing, still⟩ := received buffer _ cleared
              rw [receiveMessage]
              generalize SupportProxy.receiveBytes lib env chan buffer
                (mav.setBadSignature chan false) = result at nothing still
              obtain ⟨message, unread, after⟩ := result
              dsimp only at nothing still
              subst nothing
              exact ⟨rfl, still⟩
      rw [SupportProxy.receiveAll]
      dsimp only
      rw [heard.1, ih heard.2]
      rfl

end Deaf

section Reuse

variable {lib : Library P} {env other : Environment} {pair : PortPair} {chan : Nat}

/-- Two links started with the same key at the same time hear the same, or nothing. -/
theorem init_twin {left right : MavState P} {fd otherFd : Option Nat}
    {allowWebsocket otherAllow isTcp otherTcp : Bool} {keyId : Int} (closed : keyId ≠ -1)
    (agree : env.Agree left.queries other right.queries) (record : left.keyRecord = right.keyRecord)
    (alike : lib.machine.Alike (left.links chan).parser (right.links chan).parser) :
    Twin lib chan env other (init env chan fd true allowWebsocket isTcp keyId left)
        (init other chan otherFd true otherAllow otherTcp keyId right) ∨
      Deaf chan (init env chan fd true allowWebsocket isTcp keyId left) ∧
        Deaf chan (init other chan otherFd true otherAllow otherTcp keyId right) := by
  rw [init, init, if_pos rfl, if_pos rfl]
  have reset : ∀ (mav : MavState P) (fd : Option Nat) (allowWebsocket isTcp : Bool),
      ((((mav.modifyLink chan (Link.reset fd allowWebsocket isTcp keyId)).setBadSignature chan
        false).note (.init chan)).links chan) =
          (mav.links chan).reset fd allowWebsocket isTcp keyId := by
    intro mav fd allowWebsocket isTcp
    exact Function.update_self ..
  have unmarked : ∀ (mav : MavState P) (fd : Option Nat) (allowWebsocket isTcp : Bool),
      ((((mav.modifyLink chan (Link.reset fd allowWebsocket isTcp keyId)).setBadSignature chan
        false).note (.init chan)).gotBadSignature chan) = false := by
    intro mav fd allowWebsocket isTcp
    exact Function.update_self ..
  have sibling : ((left.links chan).reset fd allowWebsocket isTcp keyId).Sibling lib
      ((right.links chan).reset otherFd otherAllow otherTcp keyId) :=
    ⟨rfl, rfl, rfl, rfl, rfl, rfl, rfl, alike⟩
  have paired : Paired (Link.Sibling lib) chan env other
      (((left.modifyLink chan (Link.reset fd allowWebsocket isTcp keyId)).setBadSignature chan
        false).note (.init chan))
      (((right.modifyLink chan (Link.reset otherFd otherAllow otherTcp keyId)).setBadSignature chan
        false).note (.init chan)) := by
    refine ⟨agree, record, ?_, ?_⟩
    · rw [unmarked, unmarked]
    · rw [reset, reset]
      exact sibling
  have unkeyed : ∀ (mav : MavState P) (fd : Option Nat) (allowWebsocket isTcp : Bool),
      Deaf chan (((mav.modifyLink chan (Link.reset fd allowWebsocket isTcp keyId)).setBadSignature
        chan false).note (.init chan)) := by
    intro mav fd allowWebsocket isTcp
    rw [Deaf, reset]
    exact ⟨rfl, closed⟩
  have deaf := unkeyed left fd allowWebsocket isTcp
  have otherDeaf := unkeyed right otherFd otherAllow otherTcp
  generalize ((left.modifyLink chan (Link.reset fd allowWebsocket isTcp keyId)).setBadSignature
    chan false).note (.init chan) = started at paired deaf ⊢
  generalize ((right.modifyLink chan (Link.reset otherFd otherAllow otherTcp
    keyId)).setBadSignature chan false).note (.init chan) = otherStarted at paired otherDeaf ⊢
  obtain ⟨answer, read⟩ := paired.loadKey
  have quiet : Deaf chan (loadKey env started).2 := deaf
  have otherQuiet : Deaf chan (loadKey other otherStarted).2 := otherDeaf
  rw [loadSigningKey, loadSigningKey]
  generalize loadKey env started = result at answer read quiet
  generalize loadKey other otherStarted = otherResult at answer read otherQuiet
  obtain ⟨found, later⟩ := result
  obtain ⟨otherFound, otherLater⟩ := otherResult
  dsimp only at answer read quiet otherQuiet
  subst answer
  cases found with
  | none =>
      exact .inr ⟨quiet.of_calm (updateSigningTimestamp_calm env chan later),
        otherQuiet.of_calm (updateSigningTimestamp_calm other chan otherLater)⟩
  | some entry => exact .inl (Paired.updateSigningTimestamp (read.keyed chan entry id))

private theorem openTcp_mav (state : LoopState P) (slot fd : Nat) (peer : Peer) (wallClock : Nat) :
    (state.openTcp env pair slot fd peer wallClock).mav =
      init env (chanComm2 slot) (some fd) true true true pair.port2
        (state.mav.note (.opened slot false)) := by
  rw [LoopState.openTcp, LoopState.startLink, LoopState.askSnapshot_mav, LoopState.withMav_mav]
  rfl

private theorem openUdp_mav (state : LoopState P) (slot : Nat) (peer : Peer) (now wallClock : Nat) :
    (state.openUdp env pair slot peer now wallClock).mav =
      setSendto (chanComm2 slot) peer
        (init env (chanComm2 slot) state.sock2Udp true false false pair.port2
          (state.mav.note (.opened slot true))) := by
  rw [LoopState.openUdp, LoopState.directLink, LoopState.withMav_mav, LoopState.startLink,
    LoopState.askSnapshot_mav, LoopState.withMav_mav]
  rfl

end Reuse

deriving instance DecidableEq for KeyEntry

namespace Scenario

/-- The slot has been used: by an engineer who sent a heartbeat, and by one who said nothing. -/
def spoken : List Wakeup :=
  [userDatagram [], engineerConnects 7, engineerReads 0 ⟨false, 0, false, some heartbeatFrame⟩,
    engineerLeaves 0]

def silent : List Wakeup := [userDatagram [], engineerConnects 7, engineerLeaves 0]

/-- What a new engineer in slot 0 is heard to say in one heartbeat frame. -/
def heard (wakes : List Wakeup) : List Message :=
  receiveAll (library authentic) environment (chanComm2 0) [heartbeatFrame]
    ((session authentic (some record) wakes).openTcp environment pair 0 8 ⟨8, 8⟩ 0).mav

end Scenario

end SupportProxy
