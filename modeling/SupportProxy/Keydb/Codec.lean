import SupportProxy.Keydb.Layout
import SupportProxy.Library.Utf8
import SupportProxy.Library.Binary32
import Mathlib.Data.List.Forall2
import Mathlib.Data.Nat.Bitwise

/-! # The two codecs of keys.tdb

`keydb.cpp` copies a record into `struct KeyEntry` and out of it; `keydb_lib.py` decodes every
member with the `struct` module and encodes them all again. -/

namespace SupportProxy.Keydb

open ByteLayout

/-! ## keydb.cpp -/

/-- `db_load_key` on the bytes of the record: those of `struct KeyEntry`. -/
def dbLoadKey (data : List UInt8) : Option (List UInt8) :=
  if data.length < minSize then none
  else
    let key := extend entrySize data
    if Field.magic.unsigned key = magicValue then some key else none

/-- `db_save_key` over the bytes of the record. -/
def dbSaveKey (key orig : List UInt8) : List UInt8 := key ++ orig.drop entrySize

/-- An assignment to a member of the struct. -/
def Field.assign (field : Field) (part key : List UInt8) : List UInt8 :=
  splice field.offset part key

/-- An assignment of a number, which keeps its low bytes. -/
def Field.assignNumber (field : Field) (number : Nat) (key : List UInt8) : List UInt8 :=
  field.assign (ByteLayout.bytes field.width number) key

/-! ## keydb_lib.py -/

/-- `class KeyEntry` -/
structure PythonEntry where
  magic : Nat
  timestamp : Nat
  secretKey : List UInt8
  port1 : Int
  connections : Nat
  count1 : Nat
  count2 : Nat
  name : List Char
  flags : Nat
  logRetentionDays : Binary32.Number
  fcSysid : Nat
  reserved : List Nat
  /-- `_tail` -/
  tail : List UInt8

/-- `RESERVED_WORDS` -/
def reservedWords : Nat := 15

/-- The widths in `PACK_FORMAT`, `<QQ32siIII32sIfI15I`. -/
def packFormat : List Nat :=
  [8, 8, 32, 4, 4, 4, 4, 32, 4, 4, 4] ++ List.replicate reservedWords 4

/-- `struct.pack` of an unsigned number, which raises an error if it does not fit. -/
def packUnsigned (width number : Nat) : Option (List UInt8) :=
  if number < 256 ^ width then some (bytes width number) else none

/-- `struct.pack` with the format `i`. -/
def packInt (number : Int) : Option (List UInt8) :=
  if -2 ^ 31 ≤ number ∧ number < 2 ^ 31 then some (bytes 4 (number % 2 ^ 32).toNat) else none

/-- `struct.pack` with the format `32s`. -/
def packBytes (width : Nat) (data : List UInt8) : Option (List UInt8) :=
  some ((Padding.fill 0 width data).take width)

/-- `struct.pack` with the format `f`. -/
def packFloat (machine : Nat → Nat) (number : Binary32.Number) : Option (List UInt8) :=
  (Binary32.encode machine number).map (bytes 4)

/-- The items of several equal formats. -/
def packWords : List Nat → Option (List UInt8)
  | [] => some []
  | word :: words => do
      let first ← packUnsigned 4 word
      let rest ← packWords words
      return first ++ rest

namespace PythonEntry

variable (machine : Nat → Nat)

/-- The arguments of `struct.pack` in `pack`, each packed. -/
def packed (entry : PythonEntry) : List (Option (List UInt8)) :=
  [packUnsigned 8 entry.magic, packUnsigned 8 entry.timestamp, packBytes 32 entry.secretKey,
    packInt entry.port1, packUnsigned 4 entry.connections, packUnsigned 4 entry.count1,
    packUnsigned 4 entry.count2, packBytes 32 (Utf8.encode entry.name),
    packUnsigned 4 entry.flags, packFloat machine entry.logRetentionDays,
    packUnsigned 4 entry.fcSysid,
    packWords ((Padding.fill 0 reservedWords entry.reserved).take reservedWords)]

/-- `KeyEntry.pack`, none for an exception. -/
def pack (entry : PythonEntry) : Option (List UInt8) :=
  ((entry.packed machine).mapM id).map fun pieces => pieces.flatten ++ entry.tail

/-- `KeyEntry.unpack`, none for an exception. -/
def unpack (data : List UInt8) : Option PythonEntry :=
  if data.length < minSize then none
  else
    match cut packFormat (extend entrySize data) with
    | magic :: timestamp :: secretKey :: port1 :: connections :: count1 :: count2 :: name ::
        flags :: logRetentionDays :: fcSysid :: reserved =>
      some
        { magic := value magic
          timestamp := value timestamp
          secretKey := secretKey
          port1 := (BitVec.ofNat 32 (value port1)).toInt
          connections := value connections
          count1 := value count1
          count2 := value count2
          name := Padding.strip '\x00' (Utf8.decode name)
          flags := value flags
          logRetentionDays := Binary32.decode (value logRetentionDays)
          fcSysid := value fcSysid
          reserved := reserved.map value
          tail := data.drop entrySize }
    | _ => none

/-- `KeyEntry.fetch` on the bytes of the record. -/
def fetch (data : List UInt8) : Option PythonEntry :=
  if data.length < minSize then none
  else (unpack data).filter fun entry => entry.magic = magicValue

/-- `KeyEntry.store` over the bytes of the record. -/
def store (existing : List UInt8) (entry : PythonEntry) : Option (List UInt8) :=
  pack machine (if entrySize < existing.length then { entry with tail := existing.drop entrySize }
    else entry)

/-- `unpack` of a record that is long enough, field by field. -/
theorem unpack_eq {data : List UInt8} (big : minSize ≤ data.length) :
    unpack data = some
      { magic := Field.magic.unsigned data
        timestamp := Field.timestamp.unsigned data
        secretKey := Field.secretKey.bytes data
        port1 := Field.port1.signed data
        connections := Field.connections.unsigned data
        count1 := Field.count1.unsigned data
        count2 := Field.count2.unsigned data
        name := Padding.strip '\x00' (Utf8.decode (Field.name.bytes data))
        flags := Field.flags.unsigned data
        logRetentionDays := Binary32.decode (Field.logRetentionDays.unsigned data)
        fcSysid := Field.fcSysid.unsigned data
        reserved := (cut (List.replicate reservedWords 4) (Field.reserved.bytes data)).map value
        tail := data.drop entrySize } := by
  have words : cut (List.replicate reservedWords 4) (Field.reserved.bytes data) =
      cut (List.replicate reservedWords 4) ((extend entrySize data).drop 108) :=
    cut_take _ (by decide)
  rw [unpack, if_neg (Nat.not_lt.mpr big), words]
  simp only [packFormat, List.cons_append, List.nil_append, cut, List.drop_drop]
  rfl

end PythonEntry

/-! ## What is packed -/

private theorem packUnsigned_length {width number : Nat} {part : List UInt8}
    (packs : packUnsigned width number = some part) : part.length = width := by
  rw [packUnsigned] at packs
  split_ifs at packs
  rw [← Option.some.inj packs, bytes_length]

/-- A packed `int` has four bytes. -/
theorem packInt_length {number : Int} {part : List UInt8} (packs : packInt number = some part) :
    part.length = 4 := by
  rw [packInt] at packs
  split_ifs at packs
  rw [← Option.some.inj packs, bytes_length]

private theorem packBytes_length {width : Nat} {data part : List UInt8}
    (packs : packBytes width data = some part) : part.length = width := by
  rw [← Option.some.inj packs, List.length_take, Padding.fill, List.length_append,
    List.length_replicate]
  omega

private theorem packFloat_length {machine : Nat → Nat} {number : Binary32.Number}
    {part : List UInt8} (packs : packFloat machine number = some part) : part.length = 4 := by
  obtain ⟨bits, -, rfl⟩ := Option.map_eq_some_iff.mp packs
  exact bytes_length 4 bits

private theorem packWords_length {words : List Nat} {part : List UInt8}
    (packs : packWords words = some part) : part.length = 4 * words.length := by
  induction words generalizing part with
  | nil =>
      rw [← Option.some.inj packs]
      rfl
  | cons word words ih =>
      rw [packWords] at packs
      obtain ⟨first, first_eq, packs⟩ := Option.bind_eq_some_iff.mp packs
      obtain ⟨rest, rest_eq, packs⟩ := Option.bind_eq_some_iff.mp packs
      rw [← Option.some.inj packs, List.length_append, packUnsigned_length first_eq, ih rest_eq,
        List.length_cons]
      ring

/-- A number is packed into the bytes it was read from. -/
theorem packUnsigned_value {width : Nat} {part : List UInt8} (length : part.length = width) :
    packUnsigned width (value part) = some part := by
  have small := value_lt part
  rw [length] at small
  rw [packUnsigned, if_pos small, ← length, bytes_value]

/-- Packing the `int` in four bytes gives them back. -/
theorem packInt_value {part : List UInt8} (length : part.length = 4) :
    packInt (BitVec.ofNat 32 (value part)).toInt = some part := by
  have small : value part < 2 ^ 32 := by
    have small := value_lt part
    rw [length] at small
    omega
  have again : bytes 4 (value part) = part := by
    rw [← length, bytes_value]
  rw [BitVec.toInt_eq_toNat_cond, BitVec.toNat_ofNat, Nat.mod_eq_of_lt small, packInt]
  by_cases positive : 2 * value part < 2 ^ 32
  · have low : ((value part : Int) % 2 ^ 32).toNat = value part := by omega
    rw [if_pos positive, if_pos (by omega), low, again]
  · have low : (((value part : Int) - (2 ^ 32 : Nat)) % 2 ^ 32).toNat = value part := by omega
    rw [if_neg positive, if_pos (by omega), low, again]

/-- Bytes of the right length are packed as they are. -/
theorem packBytes_same {width : Nat} {part : List UInt8} (length : part.length = width) :
    packBytes width part = some part := by
  rw [packBytes, Padding.fill, length, Nat.sub_self, List.replicate_zero, List.append_nil,
    ← length, List.take_length]

private theorem packWords_value {count : Nat} {part : List UInt8}
    (length : part.length = 4 * count) :
    packWords ((cut (List.replicate count 4) part).map value) = some part := by
  induction count generalizing part with
  | zero =>
      rw [Nat.mul_zero] at length
      rw [List.length_eq_zero_iff.mp length]
      rfl
  | succ count ih =>
      rw [List.replicate_succ, cut, List.map_cons, packWords,
        packUnsigned_value (by rw [List.length_take]; omega),
        ih (by rw [List.length_drop]; omega)]
      exact congrArg some (List.take_append_drop 4 part)

/-- A retention that is not a NaN keeps its bits. -/
def Survives (machine : Nat → Nat) (bits : Nat) : Prop :=
  Binary32.IsNan bits → machine bits % 2 ^ 32 = bits

/-- The retention as it is packed again. -/
def repackFloat (machine : Nat → Nat) (part : List UInt8) : List UInt8 :=
  if Binary32.IsNan (value part) then bytes 4 (machine (value part)) else part

private theorem packFloat_decode (machine : Nat → Nat) {part : List UInt8}
    (length : part.length = 4) :
    packFloat machine (Binary32.decode (value part)) = some (repackFloat machine part) := by
  have small : value part < 2 ^ 32 := by
    have small := value_lt part
    rw [length] at small
    omega
  rw [packFloat, repackFloat]
  by_cases nan : Binary32.IsNan (value part)
  · rw [Binary32.encode_decode_nan machine nan, if_pos nan]
    rfl
  · rw [Binary32.encode_decode machine small nan, if_neg nan, Option.map_some, ← length,
      bytes_value]

private theorem repackFloat_eq_iff {machine : Nat → Nat} {part : List UInt8}
    (length : part.length = 4) :
    repackFloat machine part = part ↔ Survives machine (value part) := by
  rw [repackFloat, Survives]
  by_cases nan : Binary32.IsNan (value part)
  · rw [if_pos nan, forall_prop_of_true nan]
    constructor
    · intro same
      have values := congrArg value same
      rw [value_bytes] at values
      exact values
    · intro same
      apply value_injective (by rw [bytes_length, length])
      rw [value_bytes]
      exact same
  · rw [if_neg nan]
    exact iff_of_true rfl fun impossible => absurd impossible nan

namespace Field

/-- The members of a record are its pieces. -/
theorem cut_all (data : List UInt8) :
    cut (all.map width) (extend entrySize data) = all.map fun field => field.bytes data := by
  simp only [all, List.map_cons, List.map_nil, cut, List.drop_drop]
  rfl

end Field

private theorem lookup_zip_map {α β : Type} [DecidableEq α] (f : α → β) {list : List α} {key : α}
    (member : key ∈ list) : (list.zip (list.map f)).lookup key = some (f key) := by
  induction list with
  | nil => cases member
  | cons head rest ih =>
      rw [List.map_cons, List.zip_cons_cons, List.lookup_cons]
      by_cases here : key = head
      · rw [here, beq_self_eq_true]
      · rw [beq_false_of_ne here]
        exact ih ((List.mem_cons.mp member).resolve_left here)

/-- Setting one value leaves what is found under the other keys. -/
theorem lookup_zip_set {α β : Type} [DecidableEq α] {keys : List α} {key : α} (values : List β)
    {index : Nat} (value : β) (other : keys[index]? ≠ some key) :
    (keys.zip (values.set index value)).lookup key = (keys.zip values).lookup key := by
  induction keys generalizing values index with
  | nil => rfl
  | cons head rest ih =>
      cases values with
      | nil => rfl
      | cons first values =>
          cases index with
          | zero =>
              have different : key ≠ head := fun same => other (congrArg some same.symm)
              rw [List.set_cons_zero, List.zip_cons_cons, List.zip_cons_cons, List.lookup_cons,
                List.lookup_cons, beq_false_of_ne different]
          | succ index =>
              rw [List.set_cons_succ, List.zip_cons_cons, List.zip_cons_cons, List.lookup_cons,
                List.lookup_cons, ih values other]

namespace PythonEntry

variable {machine : Nat → Nat}

private theorem packed_width (machine : Nat → Nat) (entry : PythonEntry) :
    List.Forall₂
      (fun (field : Field) packs => ∀ part, packs = some part → part.length = field.width)
      Field.all (entry.packed machine) := by
  have words : ((Padding.fill 0 reservedWords entry.reserved).take reservedWords).length =
      reservedWords := by
    rw [List.length_take, Padding.fill, List.length_append, List.length_replicate]
    omega
  refine .cons ?_ (.cons ?_ (.cons ?_ (.cons ?_ (.cons ?_ (.cons ?_ (.cons ?_ (.cons ?_
    (.cons ?_ (.cons ?_ (.cons ?_ (.cons ?_ .nil)))))))))))
  · exact fun _ => packUnsigned_length
  · exact fun _ => packUnsigned_length
  · exact fun _ => packBytes_length
  · exact fun _ => packInt_length
  · exact fun _ => packUnsigned_length
  · exact fun _ => packUnsigned_length
  · exact fun _ => packUnsigned_length
  · exact fun _ => packBytes_length
  · exact fun _ => packUnsigned_length
  · exact fun _ => packFloat_length
  · exact fun _ => packUnsigned_length
  · intro part packs
    rw [packWords_length packs, words]
    rfl

private theorem mapM_eq_some {α : Type} {list : List (Option α)} {values : List α}
    (all : list.mapM id = some values) : list = values.map some := by
  induction list generalizing values with
  | nil =>
      cases all
      rfl
  | cons head rest ih =>
      rw [List.mapM_cons] at all
      obtain ⟨first, first_eq, all⟩ := Option.bind_eq_some_iff.mp all
      obtain ⟨more, more_eq, all⟩ := Option.bind_eq_some_iff.mp all
      rw [← Option.some.inj all, List.map_cons, ← ih more_eq]
      exact congrArg (· :: rest) first_eq

/-- What was packed is what is found in the members of the record. -/
theorem pack_eq_some {entry : PythonEntry} {data : List UInt8}
    (packs : entry.pack machine = some data) :
    (entry.packed machine = Field.all.map fun field => some (field.bytes data)) ∧
      data.length = entrySize + entry.tail.length ∧ data.drop entrySize = entry.tail := by
  obtain ⟨pieces, pieces_eq, rfl⟩ := Option.map_eq_some_iff.mp packs
  have each := mapM_eq_some pieces_eq
  have widths : Field.all.map Field.width = pieces.map List.length := by
    have sizes := packed_width machine entry
    rw [each, List.forall₂_map_right_iff] at sizes
    rw [← List.forall₂_eq_eq_eq, List.forall₂_map_left_iff, List.forall₂_map_right_iff]
    exact sizes.imp fun field part length => (length part rfl).symm
  have whole : pieces.flatten.length = entrySize := by
    rw [List.length_flatten, ← widths]
    rfl
  have front : extend entrySize (pieces.flatten ++ entry.tail) = pieces.flatten := by
    rw [extend, List.length_append, whole, Nat.sub_eq_zero_of_le (Nat.le_add_right _ _),
      List.replicate_zero, List.append_nil, ← whole, List.take_left]
  refine ⟨?_, ?_, ?_⟩
  · have fields := Field.cut_all (pieces.flatten ++ entry.tail)
    have cuts := cut_flatten pieces []
    rw [List.append_nil] at cuts
    rw [front, widths, cuts] at fields
    exact each.trans ((congrArg (List.map some) fields).trans List.map_map)
  · rw [List.length_append, whole]
  · rw [← whole, List.drop_left]

variable (machine) in
/-- A member as it is packed. -/
def packedField (entry : PythonEntry) (field : Field) : Option (List UInt8) :=
  ((Field.all.zip (entry.packed machine)).lookup field).join

/-- The bytes of a field in a packed record are those that it was packed to. -/
theorem packedField_of_pack {entry : PythonEntry} {data : List UInt8}
    (packs : entry.pack machine = some data) {field : Field} (member : field ∈ Field.all) :
    entry.packedField machine field = some (field.bytes data) := by
  rw [packedField, (pack_eq_some packs).1, lookup_zip_map _ member, Option.join_some]

variable (machine) in
/-- A member of a record as Python packs it again. -/
def repacked (field : Field) (part : List UInt8) : List UInt8 :=
  if field = .name then Utf8.respell 32 part
  else if field = .logRetentionDays then repackFloat machine part
  else part

/-- An entry that was unpacked packs every member again. -/
theorem packedField_of_unpack {data : List UInt8} {entry : PythonEntry}
    (unpacks : unpack data = some entry) {field : Field} (member : field ∈ Field.all) :
    entry.packedField machine field = some (repacked machine field (field.bytes data)) := by
  have big : minSize ≤ data.length := by
    by_contra small
    rw [unpack, if_pos (Nat.lt_of_not_le small)] at unpacks
    cases unpacks
  have length := Field.bytes_length member data
  rw [unpack_eq big] at unpacks
  rw [← Option.some.inj unpacks]
  simp only [Field.all, List.mem_cons, List.not_mem_nil, or_false] at member
  rcases member with rfl | rfl | rfl | rfl | rfl | rfl | rfl | rfl | rfl | rfl | rfl | rfl
  · exact packUnsigned_value length
  · exact packUnsigned_value length
  · exact packBytes_same length
  · exact packInt_value length
  · exact packUnsigned_value length
  · exact packUnsigned_value length
  · exact packUnsigned_value length
  · rfl
  · exact packUnsigned_value length
  · exact packFloat_decode machine length
  · exact packUnsigned_value length
  · have words : ((cut (List.replicate reservedWords 4) (Field.reserved.bytes data)).map
        value).length = reservedWords := by
      rw [List.length_map, cut_length, List.length_replicate]
    have kept : packWords ((Padding.fill 0 reservedWords
        ((cut (List.replicate reservedWords 4) (Field.reserved.bytes data)).map value)).take
          reservedWords) = some (Field.reserved.bytes data) := by
      rw [Padding.fill, words, Nat.sub_self, List.replicate_zero, List.append_nil,
        List.take_of_length_le words.le]
      exact packWords_value length
    exact kept

/-- A member keeps its bytes, but for a name that is no text and a NaN. -/
theorem repacked_eq_iff {field : Field} (member : field ∈ Field.all) (data : List UInt8) :
    repacked machine field (field.bytes data) = field.bytes data ↔
      (field = .name → Utf8.Valid (Field.name.bytes data)) ∧
        (field = .logRetentionDays →
          Survives machine (Field.logRetentionDays.unsigned data)) := by
  have length := Field.bytes_length member data
  rw [repacked]
  by_cases isName : field = .name
  · subst isName
    have width : (Field.name.bytes data).length = 32 := length
    rw [if_pos rfl, Utf8.respell_eq_iff width]
    exact ⟨fun valid => ⟨fun _ => valid, fun other => by cases other⟩, fun both => both.1 rfl⟩
  · rw [if_neg isName]
    by_cases isRetention : field = .logRetentionDays
    · subst isRetention
      rw [if_pos rfl, repackFloat_eq_iff length]
      exact ⟨fun survives => ⟨fun other => (by cases other), fun _ => survives⟩,
        fun both => both.2 rfl⟩
    · rw [if_neg isRetention]
      exact iff_of_true rfl
        ⟨fun impossible => absurd impossible isName,
          fun impossible => absurd impossible isRetention⟩

end PythonEntry

/-! ## Reading -/

/-- A record that both implementations take. -/
def Readable (data : List UInt8) : Prop :=
  minSize ≤ data.length ∧ Field.magic.unsigned data = magicValue

/-- The entry of `keydb_lib.py` has the values of the struct of `keydb.cpp`: its name spells
the bytes of the array, and its retention is the number of the float. -/
structure Agrees (key : List UInt8) (entry : PythonEntry) : Prop where
  magic : entry.magic = Field.magic.unsigned key
  timestamp : entry.timestamp = Field.timestamp.unsigned key
  secretKey : entry.secretKey = Field.secretKey.bytes key
  port1 : entry.port1 = Field.port1.signed key
  connections : entry.connections = Field.connections.unsigned key
  count1 : entry.count1 = Field.count1.unsigned key
  count2 : entry.count2 = Field.count2.unsigned key
  name : Padding.fill 0 32 (Utf8.encode entry.name) = Field.name.bytes key
  flags : entry.flags = Field.flags.unsigned key
  logRetentionDays :
    entry.logRetentionDays = Binary32.decode (Field.logRetentionDays.unsigned key)
  fcSysid : entry.fcSysid = Field.fcSysid.unsigned key
  reserved : entry.reserved =
    (cut (List.replicate reservedWords 4) (Field.reserved.bytes key)).map value

/-- Both implementations read the same values, or neither finds an entry. -/
def ReadsAlike (data : List UInt8) : Prop :=
  Option.Rel Agrees (dbLoadKey data) (PythonEntry.fetch data)

@[simp] theorem Field.bytes_extend (field : Field) (data : List UInt8) :
    field.bytes (extend entrySize data) = field.bytes data := by
  rw [Field.bytes, extend_of_length (extend_length _ _), Field.bytes]

@[simp] theorem Field.unsigned_extend (field : Field) (data : List UInt8) :
    field.unsigned (extend entrySize data) = field.unsigned data := by
  rw [Field.unsigned, Field.bytes_extend, Field.unsigned]

@[simp] theorem Field.signed_extend (field : Field) (data : List UInt8) :
    field.signed (extend entrySize data) = field.signed data := by
  rw [Field.signed, Field.unsigned_extend, Field.signed]

/-- What `db_load_key` loads. -/
theorem dbLoadKey_eq_some {data key : List UInt8} :
    dbLoadKey data = some key ↔ Readable data ∧ extend entrySize data = key := by
  rw [dbLoadKey, Readable]
  dsimp only
  rw [Field.unsigned_extend]
  split_ifs with small magic
  · exact ⟨by simp, fun ⟨⟨big, _⟩, _⟩ => absurd big (Nat.not_le.mpr small)⟩
  · rw [Option.some_inj]
    exact ⟨fun same => ⟨⟨Nat.not_lt.mp small, magic⟩, same⟩, And.right⟩
  · exact ⟨by simp, fun ⟨⟨_, right⟩, _⟩ => absurd right magic⟩

/-- What `KeyEntry.fetch` reads. -/
theorem fetch_eq_some {data : List UInt8} {entry : PythonEntry} :
    PythonEntry.fetch data = some entry ↔ Readable data ∧ PythonEntry.unpack data = some entry := by
  rw [PythonEntry.fetch, Readable]
  by_cases small : data.length < minSize
  · rw [if_pos small]
    exact ⟨by simp, fun ⟨⟨big, _⟩, _⟩ => absurd big (Nat.not_le.mpr small)⟩
  · rw [if_neg small, Option.filter_eq_some_iff, decide_eq_true_eq, and_comm]
    have unpacks := PythonEntry.unpack_eq (Nat.not_lt.mp small)
    constructor
    · rintro ⟨magic, same⟩
      rw [unpacks, Option.some_inj] at same
      rw [← same] at magic
      exact ⟨⟨Nat.not_lt.mp small, magic⟩, unpacks.trans (congrArg some same)⟩
    · rintro ⟨⟨_, magic⟩, same⟩
      refine ⟨?_, same⟩
      rw [unpacks, Option.some_inj] at same
      rw [← same]
      exact magic

/-- Of a record that both take they read the same values just when its name is a text. -/
theorem readsAlike_iff {data : List UInt8} (readable : Readable data) :
    ReadsAlike data ↔ Utf8.Valid (Field.name.bytes data) := by
  have length : (Field.name.bytes data).length = 32 := Field.bytes_length (by decide) data
  have loads := dbLoadKey_eq_some.mpr ⟨readable, rfl⟩
  have fetches := fetch_eq_some.mpr ⟨readable, PythonEntry.unpack_eq readable.1⟩
  have spelled : Padding.fill 0 32
      (Utf8.encode (Padding.strip '\x00' (Utf8.decode (Field.name.bytes data)))) =
        Utf8.respell 32 (Field.name.bytes data) := by
    rw [Utf8.respell_eq length, Utf8.encode_strip]
  rw [ReadsAlike, loads, fetches, ← Utf8.respell_eq_iff length, ← spelled]
  constructor
  · rintro ⟨agrees⟩
    exact agrees.name.trans (Field.bytes_extend .name data)
  · intro same
    refine .some ?_
    constructor
    case name => exact same.trans (Field.bytes_extend .name data).symm
    all_goals simp only [Field.unsigned_extend, Field.signed_extend, Field.bytes_extend]

end SupportProxy.Keydb
