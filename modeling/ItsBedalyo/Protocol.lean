import Mathlib.Data.BitVec
import Mathlib.Tactic.DefEqTransformations

/-!
# The wire protocol: `Global_protocol.h`

A packet is an 8-byte `PacketHeader` followed by a JSON body. The header is a packed C struct
copied to and from memory with `memcpy`, so its image in memory is the little-endian one of
the host; `htons`/`htonl` and `ntohs`/`ntohl` swap the bytes, which puts big-endian fields on
the wire.

`CmdID` is an `enum class : uint16_t`, and any 16-bit value can arrive in that field, so it is
a 16-bit word here, with the enumerators the model uses as constants.
-/

namespace ItsBedalyo

/-- A byte of a packet. -/
abbrev Byte := BitVec 8

/-- Command identifiers: `enum class CmdID : uint16_t`. -/
abbrev CmdID := BitVec 16

namespace CmdID

def REQ_LOGIN : CmdID := 1010
def RES_LOGIN : CmdID := 1011
def REQ_LOGOUT : CmdID := 1030
def RES_LOGOUT : CmdID := 1031
def RES_CATEGORY : CmdID := 1061
def RES_ORDER_CREATE : CmdID := 2021
def RES_ORDER_ACCEPT : CmdID := 3001
def RES_ORDER_REJECT : CmdID := 3011
def RES_CHANGE_ORDER_STATE : CmdID := 3023
def RES_PICKUP : CmdID := 4003
def RES_DELIVERY_COMPLETE : CmdID := 4011
def RES_CANCEL : CmdID := 5013
def NOTIFY_NEW_ORDER : CmdID := 9000
def NOTIFY_ORDER_STATE : CmdID := 9010

end CmdID

/-! ### Byte order -/

/-- `ntohs` on a little-endian host: swap the two bytes. -/
def ntohs (x : BitVec 16) : BitVec 16 := x.extractLsb' 0 8 ++ x.extractLsb' 8 8

/-- `htons` on a little-endian host. -/
def htons (x : BitVec 16) : BitVec 16 := x.extractLsb' 0 8 ++ x.extractLsb' 8 8

/-- `ntohl` on a little-endian host: reverse the four bytes. -/
def ntohl (x : BitVec 32) : BitVec 32 :=
  x.extractLsb' 0 8 ++ x.extractLsb' 8 8 ++ x.extractLsb' 16 8 ++ x.extractLsb' 24 8

/-- `htonl` on a little-endian host. -/
def htonl (x : BitVec 32) : BitVec 32 :=
  x.extractLsb' 0 8 ++ x.extractLsb' 8 8 ++ x.extractLsb' 16 8 ++ x.extractLsb' 24 8

/-- A 16-bit word is its two bytes. -/
theorem append_bytes₂ (x : BitVec 16) : x.extractLsb' 8 8 ++ x.extractLsb' 0 8 = x := by
  ext i hi
  simp only [BitVec.getElem_append, BitVec.getElem_extractLsb']
  split_ifs <;> grind

/-- A 32-bit word is its four bytes. -/
theorem append_bytes₄ (x : BitVec 32) :
    x.extractLsb' 24 8 ++ x.extractLsb' 16 8 ++ x.extractLsb' 8 8 ++ x.extractLsb' 0 8 = x := by
  ext i hi
  simp only [BitVec.getElem_append, BitVec.getElem_extractLsb']
  split_ifs <;> grind

/-- The bytes of a 16-bit word put together from two. -/
theorem extract_append₂ (b₁ b₀ : Byte) :
    (b₁ ++ b₀).extractLsb' 0 8 = b₀ ∧ (b₁ ++ b₀).extractLsb' 8 8 = b₁ := by
  refine ⟨?_, ?_⟩ <;> ext i hi <;> simp [BitVec.getElem_extractLsb'] <;> grind

/-- The bytes of a 32-bit word put together from four. -/
theorem extract_append₄ (b₃ b₂ b₁ b₀ : Byte) :
    (b₃ ++ b₂ ++ b₁ ++ b₀).extractLsb' 0 8 = b₀ ∧
      (b₃ ++ b₂ ++ b₁ ++ b₀).extractLsb' 8 8 = b₁ ∧
      (b₃ ++ b₂ ++ b₁ ++ b₀).extractLsb' 16 8 = b₂ ∧
      (b₃ ++ b₂ ++ b₁ ++ b₀).extractLsb' 24 8 = b₃ := by
  refine ⟨?_, ?_, ?_, ?_⟩ <;> ext i hi <;> simp [BitVec.getElem_extractLsb'] <;> grind

@[simp] theorem ntohs_htons (x : BitVec 16) : ntohs (htons x) = x := by
  obtain ⟨h₀, h₁⟩ := extract_append₂ (x.extractLsb' 0 8) (x.extractLsb' 8 8)
  rw [ntohs, htons, h₀, h₁, append_bytes₂]

@[simp] theorem ntohl_htonl (x : BitVec 32) : ntohl (htonl x) = x := by
  obtain ⟨h₀, h₁, h₂, h₃⟩ := extract_append₄ (x.extractLsb' 0 8) (x.extractLsb' 8 8)
    (x.extractLsb' 16 8) (x.extractLsb' 24 8)
  rw [ntohl, htonl, h₀, h₁, h₂, h₃, append_bytes₄]

/-! ### The packet header -/

/-- `PacketHeader`, packed to eight bytes. -/
structure PacketHeader where
  signature : BitVec 16
  cmdId : CmdID
  bodySize : BitVec 32
  deriving DecidableEq

namespace PacketHeader

/-- `sizeof(PacketHeader)`. -/
def size : ℕ := 8

/-- The value every packet starts with (`'E'`, `'C'`). -/
def eatsConnect : BitVec 16 := 0x4543

/-- The header's image in memory, on a little-endian host. -/
def toBytes (header : PacketHeader) : List Byte :=
  [header.signature.extractLsb' 0 8, header.signature.extractLsb' 8 8,
   header.cmdId.extractLsb' 0 8, header.cmdId.extractLsb' 8 8,
   header.bodySize.extractLsb' 0 8, header.bodySize.extractLsb' 8 8,
   header.bodySize.extractLsb' 16 8, header.bodySize.extractLsb' 24 8]

/-- `memcpy(&header, buffer.data(), sizeof(PacketHeader))`, for a buffer that holds one. -/
def ofBytes : List Byte → Option PacketHeader
  | b₀ :: b₁ :: b₂ :: b₃ :: b₄ :: b₅ :: b₆ :: b₇ :: _ =>
    some ⟨b₁ ++ b₀, b₃ ++ b₂, b₇ ++ b₆ ++ b₅ ++ b₄⟩
  | _ => none

/-- The fields put into network byte order, as `sendPacket` does before copying the header. -/
def toNetwork (header : PacketHeader) : PacketHeader :=
  ⟨htons header.signature, htons header.cmdId, htonl header.bodySize⟩

/-- The fields brought back to host byte order, as `processBuffer` does after copying it. -/
def toHost (header : PacketHeader) : PacketHeader :=
  ⟨ntohs header.signature, ntohs header.cmdId, ntohl header.bodySize⟩

@[simp] theorem length_toBytes (header : PacketHeader) : header.toBytes.length = size := rfl

@[simp] theorem toHost_toNetwork (header : PacketHeader) : header.toNetwork.toHost = header := by
  simp [toHost, toNetwork]

/-- Copying a header out and back, whatever follows it in the buffer. -/
theorem ofBytes_toBytes_append (header : PacketHeader) (rest : List Byte) :
    ofBytes (header.toBytes ++ rest) = some header := by
  simp only [toBytes, ofBytes, List.cons_append, append_bytes₂, append_bytes₄]

/-- A header can be copied out of a buffer exactly when the buffer holds eight bytes. -/
theorem ofBytes_isSome_iff (buffer : List Byte) :
    (ofBytes buffer).isSome ↔ size ≤ buffer.length := by
  unfold ofBytes size
  split
  · simp
  · next hshort =>
    simp only [Option.isSome_none, Bool.false_eq_true, false_iff, not_le]
    by_contra hlen
    match buffer, hshort, hlen with
    | b₀ :: b₁ :: b₂ :: b₃ :: b₄ :: b₅ :: b₆ :: b₇ :: rest, hshort, _ =>
      exact hshort b₀ b₁ b₂ b₃ b₄ b₅ b₆ b₇ rest rfl
    | [], _, hlen | [_], _, hlen | [_, _], _, hlen | [_, _, _], _, hlen
    | [_, _, _, _], _, hlen | [_, _, _, _, _], _, hlen | [_, _, _, _, _, _], _, hlen
    | [_, _, _, _, _, _, _], _, hlen => simp at hlen

/-- Only the first eight bytes are copied. -/
theorem ofBytes_append {buffer : List Byte} {header : PacketHeader}
    (h : ofBytes buffer = some header) (rest : List Byte) :
    ofBytes (buffer ++ rest) = some header := by
  unfold ofBytes at h
  split at h
  · simpa [ofBytes] using h
  · cases h

end PacketHeader

end ItsBedalyo
