import SupportProxy.Parent.Children
import SupportProxy.Library.History

/-! # The port list and the database

`Synced` follows a traverse record by record. `run_reconciliation` says what every run of the
parent leaves in which no fork of a session fails. -/

namespace SupportProxy

open Keydb

section Functions

variable {answers : Nat → Option Nat}

/-- What the database says of an entry: port2, port1, the flags and the system id. -/
def ListenPort.settings (p : ListenPort) : Int × Int × Nat × UInt8 :=
  (p.port2, p.port1, p.flags, p.fcSysid)

def recordSettings (record : List UInt8 × List UInt8) : Int × Int × Nat × UInt8 :=
  (portOf record.1, Field.port1.signed record.2, Field.flags.unsigned record.2,
    UInt8.ofNat (Field.fcSysid.unsigned record.2))

/-- The settings that `upsert_port` leaves in an entry it finds. -/
theorem upsertEntry_settings (answers : Nat → Option Nat) (port1 : Int) (flags : Nat)
    (fcSysid : UInt8) (p : ListenPort)
    (world : World) :
    (upsertEntry answers port1 flags fcSysid p world).1.settings =
        (p.port2, port1, flags, fcSysid) ∧
      (upsertEntry answers port1 flags fcSysid p world).1.removed = false ∧
      (upsertEntry answers port1 flags fcSysid p world).1.seen = true := by
  rw [upsertEntry]
  dsimp only
  by_cases gone : p.removed = true
  · rw [if_pos gone]
    split_ifs <;> exact ⟨rfl, rfl, rfl⟩
  · have present : p.removed = false := (Bool.not_eq_true _).mp gone
    rw [if_neg gone]
    by_cases moved : p.port1 ≠ port1
    · rw [if_pos moved]
      by_cases idle : (closeSockets { p with seen := true }).pid = 0
      · rw [if_pos idle]
        exact ⟨rfl, present, rfl⟩
      · rw [if_neg idle]
        exact ⟨rfl, present, rfl⟩
    · rw [if_neg moved]
      refine ⟨?_, present, rfl⟩
      rw [ListenPort.settings, not_not.mp moved]

/-- The part of the database that has been traversed is in the list. -/
structure Synced (done : List (List UInt8 × List UInt8)) (parent : Parent) : Prop where
  seen : ∀ p ∈ parent.ports, p.seen = true ↔
    ∃ record ∈ done, accepts record = true ∧ portOf record.1 = p.port2
  stored : ∀ record ∈ done, accepts record = true →
    ∃ p ∈ parent.ports, p.settings = recordSettings record ∧ p.removed = false

/-- The key of an accepted record has four bytes. -/
theorem accepts_four {record : List UInt8 × List UInt8} (accepted : accepts record = true) :
    record.1.length = 4 := by
  rw [accepts, Bool.not_eq_true', Bool.or_eq_false_iff, bne_eq_false_iff_eq] at accepted
  exact accepted.1

private theorem Synced.handleRecord {done : List (List UInt8 × List UInt8)} {parent : Parent}
    (synced : Synced done parent) (reconciled : parent.Reconciled)
    {record : List UInt8 × List UInt8} (fresh : record.1 ∉ done.map Prod.fst) :
    Synced (done ++ [record]) (SupportProxy.handleRecord answers parent record) := by
  rw [SupportProxy.handleRecord]
  by_cases accepted : accepts record = true
  · have taken : ¬(!accepts record) = true := by
      rw [accepted]
      exact Bool.false_ne_true
    rw [if_neg taken, upsertPort]
    -- a record of another key has another port2
    have apart : ∀ other ∈ done, accepts other = true → portOf other.1 ≠ portOf record.1 := by
      intro other member alsoAccepted same
      refine fresh ?_
      rw [← portOf_injective (accepts_four alsoAccepted) (accepts_four accepted) same]
      exact List.mem_map_of_mem member
    have split : ∀ port2, (∃ other ∈ done ++ [record], accepts other = true ∧
        portOf other.1 = port2) ↔
          (∃ other ∈ done, accepts other = true ∧ portOf other.1 = port2) ∨
            portOf record.1 = port2 := by
      intro port2
      constructor
      · rintro ⟨other, member, alsoAccepted, same⟩
        rcases List.mem_append.mp member with old | new
        · exact .inl ⟨other, old, alsoAccepted, same⟩
        · rw [List.mem_singleton.mp new] at same
          exact .inr same
      · rintro (⟨other, old, alsoAccepted, same⟩ | same)
        · exact ⟨other, List.mem_append_left _ old, alsoAccepted, same⟩
        · exact ⟨record, List.mem_append_right _ (List.mem_singleton_self _), accepted, same⟩
    cases first : parent.ports.find? fun p => decide (p.port2 = portOf record.1) with
    | some p =>
        have own : p.port2 = portOf record.1 := by
          have holds := List.find?_some first
          exact of_decide_eq_true holds
        obtain ⟨settings, present, seen⟩ := upsertEntry_settings answers
          (Field.port1.signed record.2) (Field.flags.unsigned record.2)
          (UInt8.ofNat (Field.fcSysid.unsigned record.2)) p parent.world
        dsimp only
        generalize upsertEntry answers (Field.port1.signed record.2) (Field.flags.unsigned record.2)
          (UInt8.ofNat (Field.fcSysid.unsigned record.2)) p parent.world = result
          at settings present seen
        rw [own] at settings
        have port2 : result.1.port2 = p.port2 := (congrArg Prod.fst settings).trans own.symm
        refine ⟨fun q member => ?_, fun other member alsoAccepted => ?_⟩
        · rw [split]
          rcases FirstMatch.ne_of_mem_replace reconciled.unique first port2 member with
            new | ⟨old, different⟩
          · rw [new, seen]
            exact ⟨fun _ => .inr (own.symm.trans port2.symm), fun _ => rfl⟩
          · rw [synced.seen q old]
            refine ⟨.inl, fun either => either.resolve_right fun same => different ?_⟩
            exact same.symm.trans own.symm
        · rcases List.mem_append.mp member with old | new
          · obtain ⟨q, listed, stored, kept⟩ := synced.stored other old alsoAccepted
            have different : q.port2 ≠ p.port2 := by
              intro same
              refine apart other old alsoAccepted ?_
              have otherPort : q.port2 = portOf other.1 := congrArg Prod.fst stored
              rw [← otherPort, same, own]
            exact ⟨q, FirstMatch.mem_replace_of_ne first listed different, stored, kept⟩
          · rw [List.mem_singleton.mp new]
            exact ⟨result.1, FirstMatch.mem_replace first, settings, present⟩
    | none =>
        dsimp only
        refine ⟨fun q member => ?_, fun other member alsoAccepted => ?_⟩
        · rw [split]
          rcases List.mem_cons.mp member with new | old
          · rw [new]
            exact ⟨fun _ => .inr rfl, fun _ => rfl⟩
          · rw [synced.seen q old]
            refine ⟨.inl, fun either => either.resolve_right fun same => ?_⟩
            exact List.find?_eq_none.mp first q old (decide_eq_true same.symm)
        · rcases List.mem_append.mp member with old | new
          · obtain ⟨q, listed, stored, kept⟩ := synced.stored other old alsoAccepted
            exact ⟨q, List.mem_cons_of_mem _ listed, stored, kept⟩
          · rw [List.mem_singleton.mp new]
            exact ⟨_, List.mem_cons_self, rfl, rfl⟩
  · have skipped : (!accepts record) = true := by
      rw [Bool.not_eq_true']
      exact (Bool.not_eq_true _).mp accepted
    rw [if_pos skipped]
    have same : ∀ other, accepts other = true → (other ∈ done ++ [record] ↔ other ∈ done) := by
      intro other alsoAccepted
      rw [List.mem_append, List.mem_singleton]
      refine ⟨fun either => either.resolve_right fun equal => accepted ?_, .inl⟩
      rw [← equal]
      exact alsoAccepted
    refine ⟨fun p listed => ?_, fun other member alsoAccepted => ?_⟩
    · rw [synced.seen p listed]
      constructor
      · rintro ⟨other, member, alsoAccepted, port⟩
        exact ⟨other, (same other alsoAccepted).mpr member, alsoAccepted, port⟩
      · rintro ⟨other, member, alsoAccepted, port⟩
        exact ⟨other, (same other alsoAccepted).mp member, alsoAccepted, port⟩
    · exact synced.stored other ((same other alsoAccepted).mp member) alsoAccepted

/-- After the traverse the whole database is in the list. -/
theorem Synced.traverse {done db : List (List UInt8 × List UInt8)} {parent : Parent}
    (synced : Synced done parent) (reconciled : parent.Reconciled)
    (unique : ((done ++ db).map Prod.fst).Nodup) :
    Synced (done ++ db) (SupportProxy.traverse answers db parent) := by
  induction db generalizing done parent with
  | nil =>
      rw [List.append_nil]
      exact synced
  | cons record rest ih =>
      have fresh : record.1 ∉ done.map Prod.fst := by
        rw [List.map_append, List.map_cons] at unique
        have apart := (List.nodup_append.mp unique).2.2
        exact fun member => apart _ member _ List.mem_cons_self rfl
      have split : done ++ record :: rest = done ++ [record] ++ rest := List.append_cons ..
      rw [split] at unique ⊢
      refine ih (synced.handleRecord reconciled fresh) ?_ unique
      rw [SupportProxy.handleRecord]
      split_ifs
      · exact reconciled
      · exact reconciled.upsertPort _ _ _ _

/-- The entries of a loop are images of the entries before. -/
theorem mem_forPorts {body : ListenPort → World → ListenPort × World} {q : ListenPort}
    {ports : List ListenPort} {world : World}
    (member : q ∈ (SupportProxy.forPorts body ports world).1) :
    ∃ p ∈ ports, ∃ at_, q = (body p at_).1 := by
  induction ports generalizing world with
  | nil => exact (List.not_mem_nil member).elim
  | cons p rest ih =>
      rw [SupportProxy.forPorts] at member
      rcases List.mem_cons.mp member with same | behind
      · exact ⟨p, List.mem_cons_self, world, same⟩
      · obtain ⟨other, listed, at_, same⟩ := ih behind
        exact ⟨other, List.mem_cons_of_mem p listed, at_, same⟩

/-- A loop over the ports runs its body on each of them. -/
theorem forPorts_mem (body : ListenPort → World → ListenPort × World) {p : ListenPort}
    {ports : List ListenPort} (world : World) (listed : p ∈ ports) :
    ∃ at_, (body p at_).1 ∈ (SupportProxy.forPorts body ports world).1 := by
  induction ports generalizing world with
  | nil => exact (List.not_mem_nil listed).elim
  | cons first rest ih =>
      rw [SupportProxy.forPorts]
      rcases List.mem_cons.mp listed with same | behind
      · rw [same]
        exact ⟨world, List.mem_cons_self⟩
      · obtain ⟨at_, member⟩ := ih (body first world).2 behind
        exact ⟨at_, List.mem_cons_of_mem _ member⟩

/-- Retiring keeps the settings, and removes what was not seen. -/
theorem retire_settings (p : ListenPort) (world : World) :
    (retire p world).1.settings = p.settings ∧
      ((retire p world).1.removed = false ↔ p.seen = true ∧ p.removed = false) := by
  rw [retire]
  cases seen : p.seen with
  | true => exact ⟨rfl, fun present => ⟨rfl, present⟩, fun both => both.2⟩
  | false =>
      cases removed : p.removed with
      | true =>
          refine ⟨rfl, fun present => ?_, fun both => (Bool.false_ne_true both.1).elim⟩
          exact (Bool.false_ne_true (present.symm.trans removed)).elim
      | false =>
          refine ⟨rfl, fun present => ?_, fun both => (Bool.false_ne_true both.1).elim⟩
          exact Bool.noConfusion present

/-- Reopening keeps the settings. -/
theorem reopen_settings (answers : Nat → Option Nat) (p : ListenPort) (world : World) :
    (reopen answers p world).1.settings = p.settings ∧
      (reopen answers p world).1.removed = p.removed := by
  rw [reopen]
  split_ifs <;> exact ⟨rfl, rfl⟩

/-- After a reload the entries that are not removed are the records of the database. -/
theorem Parent.Reconciled.reload_settings {parent : Parent} (reconciled : parent.Reconciled)
    {db : List (List UInt8 × List UInt8)} (unique : (db.map Prod.fst).Nodup)
    (settings : Int × Int × Nat × UInt8) :
    (∃ p ∈ (SupportProxy.reloadPorts answers db parent).ports,
      p.removed = false ∧ p.settings = settings) ↔
        ∃ record ∈ db, accepts record = true ∧ recordSettings record = settings := by
  have started : Synced []
      { parent with ports := parent.ports.map fun p => { p with seen := false } } := by
    refine ⟨fun p member => ?_, fun record absurd => (List.not_mem_nil absurd).elim⟩
    obtain ⟨q, _, rfl⟩ := List.mem_map.mp member
    refine ⟨fun absurd => (Bool.false_ne_true absurd).elim, ?_⟩
    rintro ⟨record, absurd, _⟩
    exact (List.not_mem_nil absurd).elim
  have synced : Synced db (SupportProxy.traverse answers db
      { parent with ports := parent.ports.map fun p => { p with seen := false } }) :=
    started.traverse reconciled.unsee unique
  have traversed : (SupportProxy.traverse answers db
      { parent with ports := parent.ports.map fun p => { p with seen := false } }).Reconciled :=
    reconciled.unsee.traverse db
  rw [SupportProxy.reloadPorts]
  generalize SupportProxy.traverse answers db
    { parent with ports := parent.ports.map fun p => { p with seen := false } } = middle
    at synced traversed
  constructor
  · rintro ⟨p, member, present, rfl⟩
    obtain ⟨retired, inside, reopened, rfl⟩ := mem_forPorts member
    obtain ⟨q, listed, at_, rfl⟩ := mem_forPorts inside
    obtain ⟨same, kept⟩ := reopen_settings answers (retire q at_).1 reopened
    obtain ⟨alsoSame, survives⟩ := retire_settings q at_
    rw [kept] at present
    obtain ⟨seen, _⟩ := survives.mp present
    obtain ⟨record, known, accepted, port2⟩ := (synced.seen q listed).mp seen
    obtain ⟨stored, storedIn, storedSettings, _⟩ := synced.stored record known accepted
    have storedPort : stored.port2 = portOf record.1 := congrArg Prod.fst storedSettings
    have one : stored = q :=
      List.inj_on_of_nodup_map traversed.unique storedIn listed (storedPort.trans port2)
    rw [one] at storedSettings
    exact ⟨record, known, accepted, by rw [same, alsoSame, storedSettings]⟩
  · rintro ⟨record, known, accepted, rfl⟩
    obtain ⟨p, listed, stored, present⟩ := synced.stored record known accepted
    have seen : p.seen = true :=
      (synced.seen p listed).mpr ⟨record, known, accepted, (congrArg Prod.fst stored).symm⟩
    obtain ⟨at_, retired⟩ := forPorts_mem retire middle.world listed
    obtain ⟨alsoSame, survives⟩ := retire_settings p at_
    obtain ⟨reopened, member⟩ := forPorts_mem (reopen answers)
      (middle.forPorts retire).world retired
    obtain ⟨same, kept⟩ := reopen_settings answers (retire p at_).1 reopened
    exact ⟨_, member, kept.trans (survives.mpr ⟨seen, present⟩), by rw [same, alsoSame, stored]⟩

end Functions

/-- `fork` does not fail in `handle_connection`. -/
def ParentAction.Forked : ParentAction → Prop
  | .connect _ pid => 0 < pid
  | _ => True

instance : (action : ParentAction) → Decidable action.Forked
  | .connect _ pid => inferInstanceAs (Decidable (0 < pid))
  | .load _ | .reload _ | .forkCleanup _ | .exit _ | .check _ => isTrue trivial

private theorem ParentAction.reconciled {answers : Nat → Option Nat} {parent : Parent}
    {action : ParentAction} (reconciled : parent.Reconciled)
    (possible : action.Possible answers parent) (forked : action.Forked) :
    (action.apply answers parent).Reconciled := by
  cases action with
  | load db => exact reconciled.traverse db
  | reload db => exact reconciled.reloadPorts db
  | connect port2 pid =>
      obtain ⟨⟨p, listed, port, idle, present, _⟩, forks⟩ := possible
      have positive : 0 < pid := forked
      refine reconciled.handleConnection ⟨p, listed, port, idle, present⟩ positive ?_
      exact (forks.resolve_left (by omega)).2
  | forkCleanup pid => exact reconciled.forkCleanupChild possible.2
  | exit pid => exact reconciled.exit pid
  | check waited => exact reconciled.checkChildren possible

/-- The states of the parent: the newest action first. -/
abbrev Parent.after (answers : Nat → Option Nat) (history : List ParentAction) : Parent :=
  History.replay (ParentAction.apply answers) Parent.initial history

/-- A run of the parent. -/
abbrev ParentRun (answers : Nat → Option Nat) : List ParentAction → Prop :=
  History.Guarded (ParentAction.apply answers) Parent.initial (ParentAction.Possible answers)

instance (answers : Nat → Option Nat) (history : List ParentAction) :
    Decidable (ParentRun answers history) :=
  History.Obeys.decidable history

/-- Every run in which no fork fails leaves the parent reconciled. -/
theorem ParentRun.reconciled {answers : Nat → Option Nat} {history : List ParentAction}
    (run : ParentRun answers history) (forked : ∀ action ∈ history, action.Forked) :
    (Parent.after answers history).Reconciled := by
  induction history with
  | nil => exact Parent.initial_reconciled
  | cons action before ih =>
      have earlier := ih run.2 fun other member => forked other (List.mem_cons_of_mem _ member)
      exact ParentAction.reconciled earlier run.1 (forked action List.mem_cons_self)

/-- In every state of a run in which `fork` does not fail, ports are unique and sockets are open
only where an entry listens, for the ports it has; and a reload leaves the records of the
database, with SIGTERM sent to every child of a removed entry or of another port1. -/
theorem run_reconciliation {answers : Nat → Option Nat} {history : List ParentAction}
    (run : ParentRun answers history) (forked : ∀ action ∈ history, action.Forked) :
    ((Parent.after answers history).ports.map ListenPort.port2).Nodup ∧
      (∀ p ∈ (Parent.after answers history).ports,
        (p.pid ≠ 0 ∨ p.removed = true → p.Closed) ∧ p.Bound) ∧
      ∀ db : List (List UInt8 × List UInt8), (db.map Prod.fst).Nodup →
        (∀ settings, (∃ p ∈ (reloadPorts answers db (Parent.after answers history)).ports,
          p.removed = false ∧ p.settings = settings) ↔
            ∃ record ∈ db, accepts record = true ∧ recordSettings record = settings) ∧
        ∀ child ∈ (reloadPorts answers db (Parent.after answers history)).world.children,
          ∀ port1 port2, child.pair = some (port1, port2) →
            ∃ p ∈ (reloadPorts answers db (Parent.after answers history)).ports,
              p.port2 = port2 ∧ p.pid = child.pid ∧
                (p.removed = true ∨ p.port1 ≠ port1 → child.terminated = true) := by
  have reconciled := run.reconciled forked
  refine ⟨reconciled.unique, fun p listed => ?_, fun db unique => ⟨?_, ?_⟩⟩
  · exact ⟨(reconciled.entries p listed).closed, (reconciled.entries p listed).bound⟩
  · exact reconciled.reload_settings unique
  · intro child member port1 port2 pair
    have reloaded : (reloadPorts answers db (Parent.after answers history)).Reconciled :=
      reconciled.reloadPorts db
    obtain ⟨p, listed, port, pid⟩ := reloaded.forked child member port1 port2 pair
    rw [← port] at pair
    exact ⟨p, listed, port, pid, (reloaded.entries p listed).told child member pid.symm port1 pair⟩

/-- A record of port2 20001, with port1 0. -/
def sampleRecord : List UInt8 × List UInt8 := ([0x21, 0x4e, 0, 0], List.replicate minSize 0)

/-- One record is loaded and its child connected. -/
theorem run_reconciliation_sample :
    ((Parent.after some [.connect 20001 7, .load [sampleRecord]]).ports.map
        ListenPort.port2).Nodup ∧
      (∀ p ∈ (Parent.after some [.connect 20001 7, .load [sampleRecord]]).ports,
        (p.pid ≠ 0 ∨ p.removed = true → p.Closed) ∧ p.Bound) ∧
      ∀ db : List (List UInt8 × List UInt8), (db.map Prod.fst).Nodup →
        (∀ settings, (∃ p ∈ (reloadPorts some db
            (Parent.after some [.connect 20001 7, .load [sampleRecord]])).ports,
          p.removed = false ∧ p.settings = settings) ↔
            ∃ record ∈ db, accepts record = true ∧ recordSettings record = settings) ∧
        ∀ child ∈ (reloadPorts some db
            (Parent.after some [.connect 20001 7, .load [sampleRecord]])).world.children,
          ∀ port1 port2, child.pair = some (port1, port2) →
            ∃ p ∈ (reloadPorts some db
                (Parent.after some [.connect 20001 7, .load [sampleRecord]])).ports,
              p.port2 = port2 ∧ p.pid = child.pid ∧
                (p.removed = true ∨ p.port1 ≠ port1 → child.terminated = true) :=
  run_reconciliation (by decide +kernel) (by decide)

end SupportProxy
