import SupportProxy.Keydb.Database
import SupportProxy.Parent.Reconciliation

/-! # The readers of the database

The proxy takes the entries of keys.tdb with `handle_record` and with `db_load_key`, the tools
with `list_entries`. `readers_agree` says what they have in common for any contents. -/

namespace SupportProxy.Keydb

/-- The records as `tdb_traverse` passes them. -/
def Database.records (db : Database) : List (List UInt8 × List UInt8) :=
  db.entries.map fun record => (record.1, record.2)

/-- `db_load_key` on the database. -/
def Database.loadKey (port2 : Int) (db : Database) : Option (List UInt8) := do
  let key ← packInt port2
  let data ← db.lookup key
  dbLoadKey data

end SupportProxy.Keydb

namespace SupportProxy

open Keydb

section Reload

variable (answers : Nat → Option Nat)

/-- What `upsert_port` leaves in the list. -/
theorem upsertPort_ports (port1 port2 : Int) (flags : Nat) (fcSysid : UInt8) (parent : Parent) :
    ∃ entry ∈ (upsertPort answers port1 port2 flags fcSysid parent).ports,
      entry.settings = (port2, port1, flags, fcSysid) ∧ entry.removed = false ∧
        entry.seen = true ∧
        (∀ p ∈ (upsertPort answers port1 port2 flags fcSysid parent).ports,
          p = entry ∨ p ∈ parent.ports) ∧
        ∀ p ∈ parent.ports, p.port2 ≠ port2 →
          p ∈ (upsertPort answers port1 port2 flags fcSysid parent).ports := by
  rw [upsertPort]
  cases first : parent.ports.find? fun p => decide (p.port2 = port2) with
  | some p =>
      have own : p.port2 = port2 := by
        have holds := List.find?_some first
        exact of_decide_eq_true holds
      obtain ⟨settings, present, seen⟩ :=
        upsertEntry_settings answers port1 flags fcSysid p parent.world
      refine ⟨_, FirstMatch.mem_replace first, own ▸ settings, present, seen,
        fun q member => FirstMatch.mem_of_mem_replace member, fun q member different => ?_⟩
      exact FirstMatch.mem_replace_of_ne first member (own ▸ different)
  | none =>
      refine ⟨_, List.mem_cons_self, rfl, rfl, rfl, fun q member => List.mem_cons.mp member,
        fun q member _ => List.mem_cons_of_mem _ member⟩

/-- The records that have been traversed are registered, and nothing else is seen. -/
structure Registered (done : List (List UInt8 × List UInt8)) (parent : Parent) : Prop where
  entries : ∀ record ∈ done, accepts record = true →
    ∃ p ∈ parent.ports, p.settings = recordSettings record ∧ p.removed = false ∧ p.seen = true
  seen : ∀ p ∈ parent.ports, p.seen = true →
    ∃ record ∈ done, accepts record = true ∧ portOf record.1 = p.port2

private theorem Registered.handleRecord {done : List (List UInt8 × List UInt8)} {parent : Parent}
    (registered : Registered done parent) {record : List UInt8 × List UInt8}
    (fresh : record.1 ∉ done.map Prod.fst) :
    Registered (done ++ [record]) (SupportProxy.handleRecord answers parent record) := by
  rw [SupportProxy.handleRecord]
  by_cases accepted : accepts record = true
  · rw [accepted, Bool.not_true, if_neg Bool.false_ne_true]
    obtain ⟨entry, listed, settings, present, seen, only, kept⟩ := upsertPort_ports
      answers (Field.port1.signed record.2) (portOf record.1)
      (Field.flags.unsigned record.2) (UInt8.ofNat (Field.fcSysid.unsigned record.2)) parent
    refine ⟨fun other member alsoAccepted => ?_, fun p member wasSeen => ?_⟩
    · rcases List.mem_append.mp member with old | new
      · obtain ⟨p, inside, same, rest⟩ := registered.entries other old alsoAccepted
        refine ⟨p, kept p inside fun samePort => fresh ?_, same, rest⟩
        have otherPort : p.port2 = portOf other.1 := congrArg Prod.fst same
        rw [← portOf_injective (accepts_four alsoAccepted) (accepts_four accepted)
          (otherPort.symm.trans samePort)]
        exact List.mem_map_of_mem old
      · rw [List.mem_singleton.mp new]
        exact ⟨entry, listed, settings, present, seen⟩
    · rcases only p member with rfl | old
      · exact ⟨record, List.mem_append_right _ (List.mem_singleton_self _), accepted,
          (congrArg Prod.fst settings).symm⟩
      · obtain ⟨other, inside, rest⟩ := registered.seen p old wasSeen
        exact ⟨other, List.mem_append_left _ inside, rest⟩
  · rw [(Bool.not_eq_true _).mp accepted, Bool.not_false, if_pos rfl]
    refine ⟨fun other member alsoAccepted => ?_, fun p member wasSeen => ?_⟩
    · rcases List.mem_append.mp member with old | new
      · exact registered.entries other old alsoAccepted
      · rw [List.mem_singleton.mp new] at alsoAccepted
        exact absurd alsoAccepted accepted
    · obtain ⟨other, inside, rest⟩ := registered.seen p member wasSeen
      exact ⟨other, List.mem_append_left _ inside, rest⟩

private theorem Registered.traverse {done db : List (List UInt8 × List UInt8)} {parent : Parent}
    (registered : Registered done parent) (unique : ((done ++ db).map Prod.fst).Nodup) :
    Registered (done ++ db) (SupportProxy.traverse answers db parent) := by
  induction db generalizing done parent with
  | nil =>
      rw [List.append_nil]
      exact registered
  | cons record rest ih =>
      have fresh : record.1 ∉ done.map Prod.fst := by
        intro member
        rw [List.map_append, List.nodup_append] at unique
        exact unique.2.2 _ member _ (List.mem_map_of_mem List.mem_cons_self) rfl
      have split : done ++ record :: rest = done ++ [record] ++ rest := by
        rw [List.append_assoc, List.singleton_append]
      rw [split] at unique ⊢
      exact ih (registered.handleRecord answers fresh) unique

/-- After a reload, from any state, the entries that are not removed have the port2 of a record
that `handle_record` accepts, and each of these records has its entry. -/
theorem reloadPorts_registers {db : List (List UInt8 × List UInt8)}
    (unique : (db.map Prod.fst).Nodup) (parent : Parent) :
    (∀ record ∈ db, accepts record = true → ∃ p ∈ (reloadPorts answers db parent).ports,
        p.removed = false ∧ p.settings = recordSettings record) ∧
      ∀ p ∈ (reloadPorts answers db parent).ports, p.removed = false →
        ∃ record ∈ db, accepts record = true ∧ portOf record.1 = p.port2 := by
  have started : Registered []
      { parent with ports := parent.ports.map fun p => { p with seen := false } } := by
    refine ⟨fun record absurd => (List.not_mem_nil absurd).elim, fun p member seen => ?_⟩
    obtain ⟨q, _, rfl⟩ := List.mem_map.mp member
    exact (Bool.false_ne_true seen).elim
  have registered : Registered db (SupportProxy.traverse answers db
      { parent with ports := parent.ports.map fun p => { p with seen := false } }) :=
    started.traverse answers unique
  rw [reloadPorts]
  generalize SupportProxy.traverse answers db
    { parent with ports := parent.ports.map fun p => { p with seen := false } } = middle
    at registered
  constructor
  · intro record member accepted
    obtain ⟨p, listed, settings, present, seen⟩ := registered.entries record member accepted
    obtain ⟨at_, retired⟩ := forPorts_mem retire middle.world listed
    obtain ⟨same, survives⟩ := retire_settings p at_
    obtain ⟨reopened, inside⟩ :=
      forPorts_mem (reopen answers) (middle.forPorts retire).world retired
    obtain ⟨alsoSame, kept⟩ := reopen_settings answers (retire p at_).1 reopened
    exact ⟨_, inside, kept.trans (survives.mpr ⟨seen, present⟩), by rw [alsoSame, same, settings]⟩
  · intro p member present
    obtain ⟨retired, inside, reopened, rfl⟩ := mem_forPorts member
    obtain ⟨q, listed, at_, rfl⟩ := mem_forPorts inside
    obtain ⟨alsoSame, kept⟩ := reopen_settings answers (retire q at_).1 reopened
    obtain ⟨same, survives⟩ := retire_settings q at_
    obtain ⟨seen, _⟩ := survives.mp (kept.symm.trans present)
    obtain ⟨record, known, accepted, port2⟩ := registered.seen q listed seen
    have samePort : (reopen answers (retire q at_).1 reopened).1.port2 = q.port2 :=
      congrArg Prod.fst (alsoSame.trans same)
    exact ⟨record, known, accepted, port2.trans samePort.symm⟩

end Reload

namespace Keydb.Database

variable {db : Database}

/-- `db_load_key` looks under the packed port. -/
theorem loadKey_of_key {port2 : Int} {key : List UInt8} (packs : packInt port2 = some key) :
    db.loadKey port2 = (db.lookup key).bind dbLoadKey := by
  rw [loadKey, packs]
  rfl

/-- An entry of `keydb_lib.py` and the struct of `keydb.cpp`. -/
structure SameSettings (entry : PythonEntry) (key : List UInt8) : Prop where
  port1 : Field.port1.signed key = entry.port1
  flags : Field.flags.unsigned key = entry.flags
  fcSysid : Field.fcSysid.unsigned key = entry.fcSysid

private theorem fetch_settings {data : List UInt8} {entry : PythonEntry}
    (fetches : PythonEntry.fetch data = some entry) : Readable data ∧ SameSettings entry data := by
  obtain ⟨readable, unpacks⟩ := fetch_eq_some.mp fetches
  rw [PythonEntry.unpack_eq readable.1, Option.some_inj] at unpacks
  rw [← unpacks]
  exact ⟨readable, rfl, rfl, rfl⟩

/-- `fetch` and `db_load_key` succeed for the same ports, with the same settings. -/
theorem fetch_loadKey (db : Database) (port2 : Int) :
    Option.Rel SameSettings (db.fetch port2) (db.loadKey port2) := by
  cases packs : packInt port2 with
  | none =>
      rw [fetch, loadKey, packs]
      exact .none
  | some key =>
      rw [fetch_of_key packs, loadKey_of_key packs]
      cases db.lookup key with
      | none => exact .none
      | some data =>
          rw [Option.bind_some, Option.bind_some]
          cases fetches : PythonEntry.fetch data with
          | some entry =>
              obtain ⟨readable, same⟩ := fetch_settings fetches
              rw [dbLoadKey_eq_some.mpr ⟨readable, rfl⟩]
              refine .some ⟨?_, ?_, ?_⟩
              · rw [Field.signed_extend, same.port1]
              · rw [Field.unsigned_extend, same.flags]
              · rw [Field.unsigned_extend, same.fcSysid]
          | none =>
              have fails : dbLoadKey data = none := by
                refine Option.eq_none_iff_forall_ne_some.mpr fun loaded loads => ?_
                obtain ⟨readable, -⟩ := dbLoadKey_eq_some.mp loads
                rw [fetch_eq_some.mpr ⟨readable, PythonEntry.unpack_eq readable.1⟩] at fetches
                cases fetches
              rw [fails]
              exact .none

/-- The records of a traversal are those of the database. -/
theorem mem_records {key data : List UInt8} :
    (key, data) ∈ db.records ↔ db.lookup key = some data := by
  rw [records, List.mem_map]
  constructor
  · rintro ⟨⟨_, _⟩, member, same⟩
    cases same
    exact AList.mem_lookup_iff.mpr member
  · exact fun found => ⟨⟨key, data⟩, AList.mem_lookup_iff.mp found, rfl⟩

/-- A traversal comes to each key once. -/
theorem records_nodup (db : Database) : (db.records.map Prod.fst).Nodup := by
  have keys : db.records.map Prod.fst = db.keys := by
    rw [records, List.map_map]
    rfl
  rw [keys]
  exact db.keys_nodup

/-- A record that is an entry is accepted by `handle_record`. -/
theorem accepts_of_fetch {port2 : Int} {entry : PythonEntry} (found : db.fetch port2 = some entry) :
    ∃ record ∈ db.records, accepts record = true ∧
      recordSettings record = (port2, entry.port1, entry.flags, UInt8.ofNat entry.fcSysid) := by
  obtain ⟨key, packs, found⟩ := Option.bind_eq_some_iff.mp found
  obtain ⟨data, here, found⟩ := Option.bind_eq_some_iff.mp found
  obtain ⟨readable, same⟩ := fetch_settings found
  refine ⟨(key, data), mem_records.mpr here, ?_, ?_⟩
  · rw [accepts, packInt_length packs, decide_eq_false (Nat.not_lt.mpr readable.1)]
    rfl
  · rw [recordSettings, portOf_packInt packs, same.port1, same.flags, same.fcSysid]

/-- An accepted record is an entry if it carries the magic. -/
theorem fetch_of_accepts {record : List UInt8 × List UInt8} (member : record ∈ db.records)
    (accepted : accepts record = true) (magic : Field.magic.unsigned record.2 = magicValue) :
    ∃ entry, db.fetch (portOf record.1) = some entry := by
  obtain ⟨key, data⟩ := record
  have four : key.length = 4 := accepts_four accepted
  have big : minSize ≤ data.length := by
    rw [accepts, Bool.not_eq_true', Bool.or_eq_false_iff, decide_eq_false_iff_not] at accepted
    exact Nat.not_lt.mp accepted.2
  have fetches := fetch_eq_some.mpr ⟨⟨big, magic⟩, PythonEntry.unpack_eq big⟩
  rw [← Option.isSome_iff_exists, fetch_of_key (packInt_portOf four), mem_records.mp member,
    Option.bind_some, fetches, Option.isSome_some]

/-- The readers of one database. `list_entries` lists the ports that `db_load_key` succeeds for,
with the same settings. `handle_record` registers each of them, with the low byte of its
fc_sysid, in whatever state the proxy reloads, and what else it registers is a record without
the magic. -/
theorem readers_agree (answers : Nat → Option Nat) (parent : Parent) (db : Database) :
    (∀ port2, port2 ∈ db.ports2 ↔ (db.loadKey port2).isSome) ∧
      (∀ port2 entry, (port2, entry) ∈ db.listEntries →
        (∃ key, db.loadKey port2 = some key ∧ SameSettings entry key) ∧
          ∃ p ∈ (reloadPorts answers db.records parent).ports, p.removed = false ∧
            p.settings = (port2, entry.port1, entry.flags, UInt8.ofNat entry.fcSysid)) ∧
      ∀ p ∈ (reloadPorts answers db.records parent).ports, p.removed = false →
        ∃ record ∈ db.records, accepts record = true ∧ portOf record.1 = p.port2 ∧
          (Field.magic.unsigned record.2 = magicValue → p.port2 ∈ db.ports2) := by
  obtain ⟨stored, only⟩ := reloadPorts_registers answers db.records_nodup parent
  refine ⟨fun port2 => ?_, fun port2 entry listed => ⟨?_, ?_⟩, fun p member present => ?_⟩
  · have both := fetch_loadKey db port2
    rw [mem_ports2]
    cases fetches : db.fetch port2 with
    | none =>
        rw [fetches] at both
        generalize db.loadKey port2 = loaded at both
        cases both
        simp
    | some entry =>
        rw [fetches] at both
        generalize db.loadKey port2 = loaded at both
        cases both
        simp
  · have both := fetch_loadKey db port2
    rw [mem_listEntries.mp listed] at both
    generalize db.loadKey port2 = loaded at both ⊢
    obtain ⟨same⟩ := both
    exact ⟨_, rfl, same⟩
  · obtain ⟨record, member, accepted, settings⟩ := accepts_of_fetch (mem_listEntries.mp listed)
    obtain ⟨p, inside, present, same⟩ := stored record member accepted
    exact ⟨p, inside, present, same.trans settings⟩
  · obtain ⟨record, known, accepted, port2⟩ := only p member present
    refine ⟨record, known, accepted, port2, fun magic => ?_⟩
    rw [← port2]
    exact mem_ports2.mpr (fetch_of_accepts known accepted magic)

/-- A record of zeros, and an entry whose fc_sysid needs more than a byte. -/
def foreignRecords : Database :=
  (AList.insert [0x21, 0x4e, 0, 0] (List.replicate minSize 0) ∅).insert [0x22, 0x4e, 0, 0]
    (Field.fcSysid.assignNumber 256 blankRecord)

/-- A record without the magic is served by the proxy and unknown to the web admin, and a system id
above 255 is cut. -/
theorem readers_agree_foreign :
    (20001 ∉ foreignRecords.ports2 ∧
        ∃ p ∈ (reloadPorts some foreignRecords.records Parent.initial).ports,
          p.removed = false ∧ p.port2 = 20001) ∧
      (∃ entry, (20002, entry) ∈ foreignRecords.listEntries ∧ entry.fcSysid = 256) ∧
        ∃ p ∈ (reloadPorts some foreignRecords.records Parent.initial).ports,
          p.removed = false ∧ p.port2 = 20002 ∧ p.fcSysid = 0 := by
  refine ⟨⟨by decide +kernel, by decide +kernel⟩, ?_, by decide +kernel⟩
  have listed : (foreignRecords.fetch 20002).map PythonEntry.fcSysid = some 256 := by
    decide +kernel
  obtain ⟨entry, fetches, sysid⟩ := Option.map_eq_some_iff.mp listed
  exact ⟨entry, mem_listEntries.mpr fetches, sysid⟩

end Keydb.Database

end SupportProxy
