import SupportProxy.Keydb.Database
import SupportProxy.Event

/-! # Records of connections.tdb

The layout of `struct ConnEntry` in `conntdb.h`, 60 bytes and 4 of padding, as the child writes
it and as `conntdb_lib.py` takes it apart, changes one flag and packs it again. -/

namespace SupportProxy

open ByteLayout Keydb

/-- `CONN_TRANSPORT_*` -/
def ConnTransport.code : ConnTransport → Nat
  | .udp => 0
  | .tcp => 1
  | .ws => 2
  | .wss => 3

namespace Connections

/-- `CONN_MAGIC` -/
def connMagic : Nat := 0x436f6e6e45424553

/-- `sizeof(ConnEntry)`, `CONNENTRY_MIN_SIZE` and `CONNENTRY_CURRENT_SIZE` -/
def connEntrySize : Nat := 64

/-- The bytes of an `int`. -/
def intBytes (number : Int) : List UInt8 := bytes 4 (number % 2 ^ 32).toNat

/-- The number in the bytes of an `int`. -/
def intValue (data : List UInt8) : Int := (BitVec.ofNat 32 (value data)).toInt

/-- `struct ConnKey` -/
def connKey (port2 index : Int) : List UInt8 := intBytes port2 ++ intBytes index

/-! ## conntdb.h -/

/-- The members of `struct ConnEntry` in the order of the struct. -/
def members (port2 : Int) (entry : ConnEntry) : List (List UInt8) :=
  [bytes 8 connMagic, bytes 8 entry.connectedAt, bytes 8 entry.lastUpdate, intBytes port2,
    intBytes entry.connIndex, bytes 4 entry.pid, bytes 4 entry.rxMsgs, bytes 4 entry.txMsgs,
    bytes 4 entry.peer.addr, bytes 2 entry.peer.port, bytes 1 entry.transport.code,
    bytes 1 (if entry.isUser then 1 else 0), bytes 4 entry.flags.toNat, bytes 4 0]

/-- A `struct ConnEntry` in memory. The padding behind the last member is not initialised. -/
def entryBytes (padding : Vector UInt8 4) (port2 : Int) (entry : ConnEntry) : List UInt8 :=
  (members port2 entry).flatten ++ padding.toList

/-! ## conntdb_lib.py -/

/-- The widths in `PACK_FORMAT`, `<QQQiiIIIIHBBII4x`, without the pad bytes. -/
def packFormat : List Nat := [8, 8, 8, 4, 4, 4, 4, 4, 4, 2, 1, 1, 4, 4]

/-- `class ConnEntry` -/
structure PythonConnEntry where
  magic : Nat
  connectedAt : Nat
  lastUpdate : Nat
  port2 : Int
  connIndex : Int
  pid : Nat
  rxMsgs : Nat
  txMsgs : Nat
  peerIpBe : Nat
  peerPortBe : Nat
  transport : Nat
  isUser : Nat
  flags : Nat
deriving DecidableEq

namespace PythonConnEntry

/-- `ConnEntry.unpack`, none for an exception. -/
def unpack (data : List UInt8) : Option PythonConnEntry :=
  if data.length < connEntrySize then none
  else
    match cut packFormat (data.take connEntrySize) with
    | [magic, connectedAt, lastUpdate, port2, connIndex, pid, rxMsgs, txMsgs, peerIpBe, peerPortBe,
        transport, isUser, flags, _pad] =>
      some
        { magic := value magic
          connectedAt := value connectedAt
          lastUpdate := value lastUpdate
          port2 := intValue port2
          connIndex := intValue connIndex
          pid := value pid
          rxMsgs := value rxMsgs
          txMsgs := value txMsgs
          peerIpBe := value peerIpBe
          peerPortBe := value peerPortBe
          transport := value transport
          isUser := value isUser
          flags := value flags }
    | _ => none

/-- The `struct.pack` in `_flip_drop_flag`, with `_pad` 0. -/
def pack (entry : PythonConnEntry) : Option (List UInt8) :=
  ([packUnsigned 8 entry.magic, packUnsigned 8 entry.connectedAt, packUnsigned 8 entry.lastUpdate,
    packInt entry.port2, packInt entry.connIndex, packUnsigned 4 entry.pid,
    packUnsigned 4 entry.rxMsgs, packUnsigned 4 entry.txMsgs, packUnsigned 4 entry.peerIpBe,
    packUnsigned 2 entry.peerPortBe, packUnsigned 1 entry.transport, packUnsigned 1 entry.isUser,
    packUnsigned 4 entry.flags, packUnsigned 4 0].mapM id).map fun pieces =>
      pieces.flatten ++ List.replicate 4 0

/-- What the members of a record say, wherever it comes from. -/
def read (data : List UInt8) : PythonConnEntry where
  magic := value (slice 0 8 data)
  connectedAt := value (slice 8 8 data)
  lastUpdate := value (slice 16 8 data)
  port2 := intValue (slice 24 4 data)
  connIndex := intValue (slice 28 4 data)
  pid := value (slice 32 4 data)
  rxMsgs := value (slice 36 4 data)
  txMsgs := value (slice 40 4 data)
  peerIpBe := value (slice 44 4 data)
  peerPortBe := value (slice 48 2 data)
  transport := value (slice 50 1 data)
  isUser := value (slice 51 1 data)
  flags := value (slice 52 4 data)

/-- `unpack` of a record that is long enough. -/
theorem unpack_eq {data : List UInt8} (big : connEntrySize ≤ data.length) :
    unpack data = some (read data) := by
  have pieces : cut packFormat (data.take connEntrySize) = cut packFormat data :=
    cut_take _ (by decide)
  rw [unpack, if_neg (Nat.not_lt.mpr big), pieces]
  simp only [packFormat, cut, List.drop_drop]
  rfl

/-- The packed members of a record. -/
theorem pack_read {data : List UInt8} (big : connEntrySize ≤ data.length) (flags : Nat)
    (small : flags < 2 ^ 32) :
    pack { read data with flags := flags } =
      some (data.take 52 ++ bytes 4 flags ++ List.replicate 8 0) := by
  have piece : ∀ offset width, offset + width ≤ 60 → (slice offset width data).length = width :=
    fun offset width inside => slice_length (by rw [connEntrySize] at big; omega)
  have front : (cut [8, 8, 8, 4, 4, 4, 4, 4, 4, 2, 1, 1] data).flatten = data.take 52 :=
    flatten_cut _ data
  have known : packUnsigned 4 flags = some (bytes 4 flags) := if_pos small
  have pad : packUnsigned 4 0 = some (bytes 4 0) := rfl
  rw [pack]
  simp only [read, intValue, packUnsigned_value (piece 0 8 (by omega)),
    packUnsigned_value (piece 8 8 (by omega)), packUnsigned_value (piece 16 8 (by omega)),
    packInt_value (piece 24 4 (by omega)), packInt_value (piece 28 4 (by omega)),
    packUnsigned_value (piece 32 4 (by omega)), packUnsigned_value (piece 36 4 (by omega)),
    packUnsigned_value (piece 40 4 (by omega)), packUnsigned_value (piece 44 4 (by omega)),
    packUnsigned_value (piece 48 2 (by omega)), packUnsigned_value (piece 50 1 (by omega)),
    packUnsigned_value (piece 51 1 (by omega)), known, pad]
  rw [← front]
  simp only [cut, List.drop_drop]
  simp [slice, List.mapM_cons, bytes]

end PythonConnEntry

end Connections

end SupportProxy
