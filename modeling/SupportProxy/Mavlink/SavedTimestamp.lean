import SupportProxy.Mavlink.Streams
import Mathlib.Data.List.Basic

/-! # The signing timestamp of a key record

Several sessions share one key record. A load starts 15 s past the stored timestamp, peers
push the timestamps of the links wherever they like, and forked savers write them back, each
from the memory it was forked with. `run_signingTimestamp` says that the stored value never
goes back and never passes the clock of a save, however these interleave. -/

namespace SupportProxy

variable {P : Type}

/-- The wall clock as `save_signing_timestamp` and `load_signing_key` compute it. -/
def mavlinkClock (now : Nat) : Nat :=
  let seconds := now / 1000000
  if epochOffset < seconds then (seconds - epochOffset) * 100 * 1000 else 0

/-- One channel of the loop in `save_signing_timestamp`: `key.timestamp` and `need_save`. -/
def saveChannel (now : Nat) (links : Nat → Link P) (key : Nat × Bool) (chan : Nat) : Nat × Bool :=
  if (links chan).statusSigning then
    let value := min (links chan).track.timestamp (mavlinkClock now)
    if key.1 < value then (value, true) else key
  else key

/-- `MAVLink::save_signing_timestamp` in a forked saver; `links` is its copy of the memory of
the session. -/
def saveSigningTimestamp (opens commits : Bool) (now : Nat) (links : Nat → Link P)
    (key : KeyEntry) : KeyEntry :=
  if !opens then key
  else
    let (timestamp, needSave) := (List.range commNumBuffers).foldl (saveChannel now links)
      (key.timestamp, false)
    if needSave && commits then { key with timestamp := timestamp } else key

/-- The processes that share a key record. -/
structure Host (P : Type) where
  record : KeyEntry
  /-- in microseconds -/
  clock : Nat
  /-- the memory of each session -/
  sessions : Nat → MavState P
  /-- the memory of each saver that has been forked -/
  savers : List (Nat → Link P)

/-- What a process does next. A session may do anything to its own memory between its loads
and updates: parse packets, sign packets, start links. -/
inductive Deed (P : Type)
  | elapse (time : Nat)
  | load (session chan : Nat)
  | update (session chan : Nat)
  | work (session : Nat) (change : MavState P → MavState P)
  | save (saver : Nat) (opens commits : Bool)

namespace Host

/-- The record and the clock, as every process finds them. -/
def environment (host : Host P) : Environment where
  now := fun _ => host.clock
  keyRecord := fun _ _ => some host.record
  dbOpens := fun _ => true
  dbCommits := fun _ => true
  socketDead := fun _ => false
  writableBytes := fun _ => 0
  sendReturn := fun _ _ => 0

def setSession (host : Host P) (session : Nat) (mav : MavState P) : Host P :=
  { host with sessions := Function.update host.sessions session mav }

/-- `update_signing_timestamp` forks a saver unless it saved less than 10 s ago. -/
def forkSaver (host : Host P) (session chan : Nat) : List (Nat → Link P) :=
  if host.clock < ((host.sessions session).links chan).lastSigningSave + savePeriod then host.savers
  else host.savers ++
    [(updateSigningTimestamp host.environment chan (host.sessions session)).links]

def act (host : Host P) : Deed P → Host P
  | .elapse time => { host with clock := host.clock + time }
  | .load session chan =>
      host.setSession session (loadSigningKey host.environment chan (host.sessions session))
  | .update session chan =>
      { host.setSession session
          (updateSigningTimestamp host.environment chan (host.sessions session)) with
        savers := host.forkSaver session chan }
  | .work session change => host.setSession session (change (host.sessions session))
  | .save saver opens commits =>
      match host.savers[saver]? with
      | none => host
      | some links =>
          { host with
            record := saveSigningTimestamp opens commits host.clock links host.record
            savers := host.savers.eraseIdx saver }

def run (host : Host P) (deeds : List (Deed P)) : Host P := deeds.foldl act host

end Host

private theorem mavlinkClock_mono {earlier later : Nat} (ordered : earlier ≤ later) :
    mavlinkClock earlier ≤ mavlinkClock later := by
  have seconds : earlier / 1000000 ≤ later / 1000000 := Nat.div_le_div_right ordered
  rw [mavlinkClock, mavlinkClock]
  split_ifs
  · refine Nat.mul_le_mul_right 1000 (Nat.mul_le_mul_right 100 ?_)
    omega
  · omega
  · exact Nat.zero_le _
  · exact Nat.le_refl 0

/-- A channel raises the timestamp, and not past the clock. -/
theorem saveChannel_bounds (now : Nat) (links : Nat → Link P) (key : Nat × Bool) (chan : Nat) :
    key.1 ≤ (saveChannel now links key chan).1 ∧
      (saveChannel now links key chan).1 ≤ max key.1 (mavlinkClock now) := by
  rw [saveChannel]
  dsimp only
  split_ifs with signs newer
  · refine ⟨Nat.le_of_lt newer, ?_⟩
    exact Nat.le_trans (Nat.min_le_right _ _) (Nat.le_max_right _ _)
  · exact ⟨Nat.le_refl _, Nat.le_max_left _ _⟩
  · exact ⟨Nat.le_refl _, Nat.le_max_left _ _⟩

private theorem saveChannels_bounds (now : Nat) (links : Nat → Link P) (chans : List Nat)
    (key : Nat × Bool) :
    key.1 ≤ (chans.foldl (saveChannel now links) key).1 ∧
      (chans.foldl (saveChannel now links) key).1 ≤ max key.1 (mavlinkClock now) := by
  induction chans generalizing key with
  | nil => exact ⟨Nat.le_refl _, Nat.le_max_left _ _⟩
  | cons chan rest ih =>
      obtain ⟨raised, capped⟩ := saveChannel_bounds now links key chan
      obtain ⟨later, bounded⟩ := ih (saveChannel now links key chan)
      refine ⟨Nat.le_trans raised later, Nat.le_trans bounded ?_⟩
      exact Nat.max_le.mpr ⟨capped, Nat.le_max_right _ _⟩

/-- A save raises the stored timestamp, and not past the clock. -/
theorem saveSigningTimestamp_bounds (opens commits : Bool) (now : Nat) (links : Nat → Link P)
    (key : KeyEntry) :
    key.timestamp ≤ (saveSigningTimestamp opens commits now links key).timestamp ∧
      (saveSigningTimestamp opens commits now links key).timestamp ≤
        max key.timestamp (mavlinkClock now) := by
  have bounds := saveChannels_bounds now links (List.range commNumBuffers) (key.timestamp, false)
  rw [saveSigningTimestamp]
  generalize (List.range commNumBuffers).foldl (saveChannel now links) (key.timestamp, false) =
    saved at bounds
  dsimp only at bounds ⊢
  split_ifs
  · exact ⟨Nat.le_refl _, Nat.le_max_left _ _⟩
  · exact bounds
  · exact ⟨Nat.le_refl _, Nat.le_max_left _ _⟩

private theorem loadedTimestamp_le (saved now : Nat) :
    loadedTimestamp saved now ≤ max saved (mavlinkClock now) + 15 * 100 * 1000 := by
  have wrapped : (saved + 15 * 100 * 1000) % 2 ^ 64 ≤ saved + 15 * 100 * 1000 := Nat.mod_le _ _
  have stored := Nat.le_max_left saved (mavlinkClock now)
  have clock := Nat.le_max_right saved (mavlinkClock now)
  have computed : loadedTimestamp saved now =
      if (saved + 15 * 100 * 1000) % 2 ^ 64 < mavlinkClock now then mavlinkClock now
      else (saved + 15 * 100 * 1000) % 2 ^ 64 := by
    rw [loadedTimestamp, mavlinkClock]
  rw [computed]
  split_ifs
  · omega
  · omega

namespace Host

variable {host : Host P}

/-- The stored timestamp does not go back, nor does the clock, and a timestamp past the
clock was there before. -/
structure Advances (start host : Host P) : Prop where
  stored : start.record.timestamp ≤ host.record.timestamp
  clock : start.clock ≤ host.clock
  capped : host.record.timestamp ≤ max start.record.timestamp (mavlinkClock host.clock)

private theorem Advances.refl (host : Host P) : Advances host host :=
  ⟨Nat.le_refl _, Nat.le_refl _, Nat.le_max_left _ _⟩

private theorem Advances.trans {start middle : Host P} (first : Advances start middle)
    (second : Advances middle host) : Advances start host := by
  refine ⟨Nat.le_trans first.stored second.stored, Nat.le_trans first.clock second.clock, ?_⟩
  have earlier := mavlinkClock_mono second.clock
  have bounded := second.capped
  have started := first.capped
  omega

private theorem act_advances (deed : Deed P) : Advances host (host.act deed) := by
  cases deed with
  | elapse time => exact ⟨Nat.le_refl _, Nat.le_add_right _ _, Nat.le_max_left _ _⟩
  | load session chan => exact ⟨Nat.le_refl _, Nat.le_refl _, Nat.le_max_left _ _⟩
  | update session chan => exact ⟨Nat.le_refl _, Nat.le_refl _, Nat.le_max_left _ _⟩
  | work session change => exact ⟨Nat.le_refl _, Nat.le_refl _, Nat.le_max_left _ _⟩
  | save saver opens commits =>
      rw [act]
      cases host.savers[saver]? with
      | none => exact .refl host
      | some links =>
          obtain ⟨raised, capped⟩ :=
            saveSigningTimestamp_bounds opens commits host.clock links host.record
          exact ⟨raised, Nat.le_refl _, capped⟩

private theorem run_advances (deeds : List (Deed P)) : Advances host (host.run deeds) := by
  induction deeds generalizing host with
  | nil => exact .refl host
  | cons deed rest ih => exact (act_advances deed).trans ih

/-- `MAVLink::init` of a link that signs is a reset, a load and an update. -/
theorem run_init (session chan : Nat) (fd : Option Nat) (allowWebsocket isTcp : Bool)
    (keyId : Int) :
    (host.run [.work session fun mav =>
        ((mav.modifyLink chan (Link.reset fd allowWebsocket isTcp keyId)).setBadSignature chan
          false).note (.init chan), .load session chan, .update session chan]).sessions session =
      init host.environment chan fd true allowWebsocket isTcp keyId (host.sessions session) := by
  have own : ∀ (before : Host P) (mav : MavState P),
      (before.setSession session mav).sessions session = mav := fun _ _ => Function.update_self ..
  have same : ∀ (before : Host P) (mav : MavState P),
      (before.setSession session mav).environment = before.environment := fun _ _ => rfl
  obtain ⟨change, reset⟩ : ∃ change : MavState P → MavState P, change = fun mav =>
      ((mav.modifyLink chan (Link.reset fd allowWebsocket isTcp keyId)).setBadSignature chan
        false).note (.init chan) := ⟨_, rfl⟩
  have started : ((((host.sessions session).modifyLink chan
      (Link.reset fd allowWebsocket isTcp keyId)).setBadSignature chan false).note (.init chan)) =
        change (host.sessions session) := by rw [reset]
  rw [← reset, init, if_pos rfl, started]
  simp only [run, List.foldl_cons, List.foldl_nil, act, own, same]

/-- A load starts the link from the stored timestamp or the clock. -/
theorem load_timestamp (session chan : Nat) :
    (((host.act (.load session chan)).sessions session).links chan).track.timestamp =
      loadedTimestamp host.record.timestamp host.clock := by
  have own : (host.act (.load session chan)).sessions session =
      loadSigningKey host.environment chan (host.sessions session) := Function.update_self ..
  have found : loadKey host.environment (host.sessions session) =
      (some host.record,
        { (host.sessions session).asked with keyRecord := some host.record }) := rfl
  rw [own, loadSigningKey, found]
  dsimp only
  generalize { (host.sessions session).asked with keyRecord := some host.record } = read
  have now : ∀ query, host.environment.now query = host.clock := fun _ => rfl
  have loaded : ((read.asked.modifyLink chan (Link.loadEntry chan host.record host.clock)).note
      (.keyLoaded chan host.record.secretKey)).links chan =
        (read.links chan).loadEntry chan host.record host.clock := Function.update_self ..
  rw [now, loaded, Link.loadEntry_track]

end Host

/-- However loads, updates, saves and the work of the sessions interleave, the stored
timestamp does not go back, a save leaves it at most at the clock or where the run began, and
a load starts at most 15 s past that. -/
theorem run_signingTimestamp (start : Host P) (deeds later : List (Deed P)) :
    (start.run deeds).record.timestamp ≤ ((start.run deeds).run later).record.timestamp ∧
      (∀ saver opens commits,
        ((start.run deeds).act (.save saver opens commits)).record.timestamp ≤
          max start.record.timestamp (mavlinkClock (start.run deeds).clock)) ∧
      ∀ session chan,
        ((((start.run deeds).act (.load session chan)).sessions session).links
            chan).track.timestamp ≤
          max start.record.timestamp (mavlinkClock (start.run deeds).clock) + 15 * 100 * 1000 := by
  have advances : Host.Advances start (start.run deeds) := Host.run_advances deeds
  refine ⟨(Host.run_advances later).stored, ?_, ?_⟩
  · intro saver opens commits
    have saved := advances.trans (Host.act_advances (.save saver opens commits))
    have clock : ((start.run deeds).act (.save saver opens commits)).clock =
        (start.run deeds).clock := by
      rw [Host.act]
      cases (start.run deeds).savers[saver]? with
      | none => rfl
      | some links => rfl
    rw [← clock]
    exact saved.capped
  · intro session chan
    rw [Host.load_timestamp]
    have bounded := loadedTimestamp_le (start.run deeds).record.timestamp (start.run deeds).clock
    have capped := advances.capped
    omega

end SupportProxy
