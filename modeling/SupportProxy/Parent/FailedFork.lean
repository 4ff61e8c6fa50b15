import SupportProxy.Parent.Reconciliation

/-! # A fork that fails

`handle_connection` stores what `fork` returns. `run_tracks` says that the parent knows its
children in every state of a run exactly when no fork of a session fails in it. -/

namespace SupportProxy

open Keydb

section Functions

variable {answers : Nat → Option Nat}

private theorem upsertEntry_marks (port1 : Int) (flags : Nat) (fcSysid : UInt8) (p : ListenPort)
    (world : World) : world.Marks (upsertEntry answers port1 flags fcSysid p world).2 := by
  have opened : ∀ q from_, World.Marks from_ (openSockets answers q from_).2 := fun q from_ =>
    .of_children (openSockets_world answers q from_).1
  rw [upsertEntry]
  dsimp only
  by_cases gone : p.removed = true
  · rw [if_pos gone]
    split_ifs
    · exact opened _ world
    · exact .of_children rfl
  · rw [if_neg gone]
    by_cases moved : p.port1 ≠ port1
    · rw [if_pos moved]
      by_cases idle : (closeSockets { p with seen := true }).pid = 0
      · rw [if_neg (not_not_intro idle), if_pos idle]
        exact opened _ world
      · rw [if_pos idle, if_neg idle]
        exact .kill _ world
    · rw [if_neg moved]
      exact .of_children rfl

private theorem handleRecord_marks (parent : Parent) (record : List UInt8 × List UInt8) :
    parent.world.Marks (handleRecord answers parent record).world := by
  rw [handleRecord]
  split_ifs
  · exact .of_children rfl
  · rw [upsertPort]
    cases parent.ports.find? fun p => decide (p.port2 = portOf record.1) with
    | some p => exact upsertEntry_marks _ _ _ p parent.world
    | none =>
        exact .of_children (openSockets_world answers (newEntry (Field.port1.signed record.2)
          (portOf record.1) (Field.flags.unsigned record.2)
          (UInt8.ofNat (Field.fcSysid.unsigned record.2))) parent.world).1

/-- The traversal at most marks children. -/
theorem traverse_marks (answers : Nat → Option Nat) (db : List (List UInt8 × List UInt8))
    (parent : Parent) :
    parent.world.Marks (traverse answers db parent).world := by
  induction db generalizing parent with
  | nil => exact .of_children rfl
  | cons record rest ih => exact (handleRecord_marks parent record).trans (ih _)

private theorem forPorts_marks {body : ListenPort → World → ListenPort × World}
    (marks : ∀ p world, World.Marks world (body p world).2) (ports : List ListenPort)
    (world : World) : world.Marks (forPorts body ports world).2 := by
  induction ports generalizing world with
  | nil => exact .of_children rfl
  | cons p rest ih => exact (marks p world).trans (ih _)

private theorem Parent.forPorts_marks {body : ListenPort → World → ListenPort × World}
    (marks : ∀ p world, World.Marks world (body p world).2) (parent : Parent) :
    parent.world.Marks (parent.forPorts body).world :=
  SupportProxy.forPorts_marks marks parent.ports parent.world

private theorem retire_marks (p : ListenPort) (world : World) : world.Marks (retire p world).2 := by
  rw [retire]
  dsimp only
  split_ifs
  · exact World.Marks.trans (.kill _ world) (.of_children rfl)
  · exact .of_children rfl
  · exact .of_children rfl

private theorem reopen_marks (p : ListenPort) (world : World) :
    world.Marks (reopen answers p world).2 := by
  rw [reopen]
  split_ifs
  · exact .of_children (openSockets_world answers p world).1
  · exact .of_children rfl

/-- A reload forks no child and reaps none. -/
theorem reloadPorts_marks (db : List (List UInt8 × List UInt8)) (parent : Parent) :
    parent.world.Marks (reloadPorts answers db parent).world := by
  have traversed := traverse_marks answers db
    { parent with ports := parent.ports.map fun p => { p with seen := false } }
  rw [reloadPorts]
  refine (traversed.trans (Parent.forPorts_marks retire_marks _)).trans ?_
  exact Parent.forPorts_marks reopen_marks _

/-- All four listening sockets are open. -/
structure ListenPort.Open (p : ListenPort) : Prop where
  udp1 : p.sock1Udp.isSome = true
  udp2 : p.sock2Udp.isSome = true
  tcp1 : p.sock1Tcp.isSome = true
  listen2 : p.sock2Listen.isSome = true

private theorem openSocket_open (succeed : ∀ query, (answers query).isSome = true) (port : Int)
    (sock : Option Listener) (world : World) :
    (openSocket answers port sock world).1.isSome = true := by
  cases sock with
  | some listener => rfl
  | none =>
      rw [openSocket, Option.isSome_map]
      exact succeed world.queries

private theorem openSockets_open (succeed : ∀ query, (answers query).isSome = true) (p : ListenPort)
    (world : World) : (openSockets answers p world).1.Open :=
  ⟨openSocket_open succeed _ _ _, openSocket_open succeed _ _ _, openSocket_open succeed _ _ _,
    openSocket_open succeed _ _ _⟩

end Functions

/-- The parent knows its children: an entry with a pid has that child, signals went to children,
and a record without a child listens after the next reload unless a socket does not open. -/
structure Parent.Tracks (parent : Parent) : Prop where
  owned : ∀ p ∈ parent.ports, p.pid ≠ 0 → ∃ child ∈ parent.world.children, child.pid = p.pid
  signals : ∀ target children, .kill target children ∈ parent.world.log → target ∈ children
  reopens : ∀ answers : Nat → Option Nat, (∀ query, (answers query).isSome = true) →
    ∀ db : List (List UInt8 × List UInt8), (db.map Prod.fst).Nodup →
      ∀ record ∈ db, accepts record = true →
        (∀ child ∈ parent.world.children, ∀ port1, child.pair ≠ some (port1, portOf record.1)) →
          ∃ p ∈ (reloadPorts answers db parent).ports, p.port2 = portOf record.1 ∧ p.Open

private theorem Parent.Tracks.of_reconciled {parent : Parent} (reconciled : parent.Reconciled) :
    parent.Tracks := by
  refine ⟨fun p listed running => ?_, reconciled.sound.signals, ?_⟩
  · obtain ⟨child, member, pid, _⟩ := (reconciled.entries p listed).owned running
    exact ⟨child, member, pid⟩
  · intro answers succeed db unique record known accepted childless
    obtain ⟨p, listed, present, settings⟩ :=
      (reconciled.reload_settings unique (recordSettings record)).mpr
        ⟨record, known, accepted, rfl⟩
    have port2 : p.port2 = portOf record.1 := congrArg Prod.fst settings
    refine ⟨p, listed, port2, ?_⟩
    have reloaded : (reloadPorts answers db parent).Reconciled := reconciled.reloadPorts db
    have idle : p.pid = 0 := by
      by_contra running
      obtain ⟨child, member, _, port1, pair⟩ := (reloaded.entries p listed).owned running
      obtain ⟨original, inside, _, samePair, _⟩ := (reloadPorts_marks db parent).origin member
      refine childless original inside port1 ?_
      rw [← samePair, pair, port2]
    -- the last loop of the reload was at the entry
    obtain ⟨q, _, world, same⟩ := mem_forPorts listed
    have kept := (reopen_settings answers q world).2
    have samePid : (reopen answers q world).1.pid = q.pid := by
      rw [reopen]
      split_ifs
      · rfl
      · rfl
    rw [same] at idle present ⊢
    rw [samePid] at idle
    rw [kept] at present
    rw [reopen, if_pos ⟨idle, present⟩]
    exact openSockets_open succeed q world

/-- The entry keeps what a failed `fork` returned. -/
theorem handleConnection_failed {parent : Parent} {p : ListenPort} {port2 : Int}
    (listed : p ∈ parent.ports) (port : p.port2 = port2) :
    (∃ q ∈ (handleConnection port2 (-1) parent).ports, q.pid = -1) ∧
      (handleConnection port2 (-1) parent).world.children = parent.world.children := by
  rw [handleConnection]
  cases first : parent.ports.find? fun p => decide (p.port2 = port2) with
  | none => exact (List.find?_eq_none.mp first p listed (decide_eq_true port)).elim
  | some q => exact ⟨⟨_, FirstMatch.mem_replace first, rfl⟩, rfl⟩

/-- In every state of a run the parent knows its children, exactly when no fork of a session
fails. -/
theorem run_tracks {answers : Nat → Option Nat} {history : List ParentAction}
    (run : ParentRun answers history) :
    (∀ earlier, earlier <:+ history → (Parent.after answers earlier).Tracks) ↔
      ∀ action ∈ history, action.Forked := by
  constructor
  · intro tracks
    induction history with
    | nil => exact fun action absurd => (List.not_mem_nil absurd).elim
    | cons action before ih =>
        have forked := ih run.2 fun earlier suffix =>
          tracks earlier (suffix.trans (List.suffix_cons action before))
        have reconciled := ParentRun.reconciled run.2 forked
        refine List.forall_mem_cons.mpr ⟨?_, forked⟩
        cases action with
        | connect port2 pid =>
            obtain ⟨⟨p, listed, port, _⟩, forks⟩ := run.1
            rcases forks with failed | ⟨positive, _⟩
            · obtain ⟨⟨q, member, own⟩, children⟩ := handleConnection_failed listed port
              have state : Parent.after answers (.connect port2 pid :: before) =
                  handleConnection port2 (-1) (Parent.after answers before) := by
                rw [failed]
                rfl
              have now := tracks _ (List.suffix_refl _)
              rw [state] at now
              obtain ⟨child, inside, samePid⟩ := now.owned q member (by omega)
              rw [children] at inside
              have positive := reconciled.sound.positive child inside
              omega
            · exact positive
        | load db | reload db | forkCleanup pid | exit pid | check waited => exact trivial
  · intro forked earlier suffix
    have reconciled : (Parent.after answers earlier).Reconciled :=
      ParentRun.reconciled (run.of_suffix suffix) fun action member =>
        forked action (suffix.subset member)
    exact .of_reconciled reconciled

/-- A connection whose fork fails, and the record is removed later: SIGTERM goes to every
process, the entry has no child, and a record that comes back does not listen. -/
def failedFork : List ParentAction := [.reload [], .connect 20001 (-1), .load [sampleRecord]]

/-- An entry whose fork failed stays at pid -1, and the next kill goes to everybody. -/
theorem failedFork_kills :
    ParentRun some failedFork ∧ ¬(Parent.after some failedFork).Tracks := by
  refine ⟨by decide +kernel, fun tracks => ?_⟩
  have signal : .kill (-1) [] ∈ (Parent.after some failedFork).world.log := by decide +kernel
  exact List.not_mem_nil (tracks.signals (-1) [] signal)

/-- With a fork that succeeds, every child is tracked. -/
theorem run_tracks_forked :
    (∀ earlier, earlier <:+ [ParentAction.connect 20001 7, .load [sampleRecord]] →
        (Parent.after some earlier).Tracks) ↔
      ∀ action ∈ [ParentAction.connect 20001 7, .load [sampleRecord]], action.Forked :=
  run_tracks (by decide +kernel)

end SupportProxy
