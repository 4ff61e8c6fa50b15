import SupportProxy.Library.ByteLayout
import Mathlib.Data.Int.Notation

/-! # Records of keys.tdb

The layout of `struct KeyEntry` in `keydb.h`, 168 bytes without padding, and how a record of
any size is read. -/

namespace SupportProxy.Keydb

open ByteLayout

/-- `KEYENTRY_MIN_SIZE` -/
def minSize : Nat := 96

/-- `sizeof(KeyEntry)` -/
def entrySize : Nat := 168

/-- `KEY_MAGIC` -/
def magicValue : Nat := 0x6b73e867a72cdd1f

/-- A member of the struct: where its bytes are. -/
structure Field where
  offset : Nat
  width : Nat
deriving DecidableEq

namespace Field

def magic : Field := ⟨0, 8⟩
def timestamp : Field := ⟨8, 8⟩
def secretKey : Field := ⟨16, 32⟩
def port1 : Field := ⟨48, 4⟩
def connections : Field := ⟨52, 4⟩
def count1 : Field := ⟨56, 4⟩
def count2 : Field := ⟨60, 4⟩
def name : Field := ⟨64, 32⟩
def flags : Field := ⟨96, 4⟩
def logRetentionDays : Field := ⟨100, 4⟩
def fcSysid : Field := ⟨104, 4⟩
def reserved : Field := ⟨108, 60⟩

/-- The members in the order of the struct. -/
def all : List Field :=
  [magic, timestamp, secretKey, port1, connections, count1, count2, name, flags,
    logRetentionDays, fcSysid, reserved]

/-- The bytes of a member in a record of any size. -/
def bytes (field : Field) (data : List UInt8) : List UInt8 :=
  slice field.offset field.width (extend entrySize data)

/-- An unsigned member. -/
def unsigned (field : Field) (data : List UInt8) : Nat := value (field.bytes data)

/-- A member of type `int`. -/
def signed (field : Field) (data : List UInt8) : Int :=
  (BitVec.ofNat 32 (field.unsigned data)).toInt

end Field

/-- The key of a record, `int port2`. -/
def portOf (key : List UInt8) : Int := (BitVec.ofNat 32 (value key)).toInt

/-- Keys of four bytes tell their ports apart. -/
theorem portOf_injective {first second : List UInt8} (four : first.length = 4)
    (alsoFour : second.length = 4) (same : portOf first = portOf second) : first = second := by
  have small := value_lt first
  have alsoSmall := value_lt second
  rw [four] at small
  rw [alsoFour] at alsoSmall
  apply value_injective (four.trans alsoFour.symm)
  have words := congrArg BitVec.toNat (BitVec.eq_of_toInt_eq same)
  rw [BitVec.toNat_ofNat, BitVec.toNat_ofNat] at words
  omega

end SupportProxy.Keydb
