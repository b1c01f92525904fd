import GamingAnywhere.Lib.Bytes

namespace Lib

def byte (x i : Nat) : UInt8 := UInt8.ofNat (x >>> (8 * i))

namespace Endian

def bytes16 : Endian → UInt16 → Bytes
  | little, x => [byte x.toNat 0, byte x.toNat 1]
  | big, x => [byte x.toNat 1, byte x.toNat 0]

def bytes32 : Endian → UInt32 → Bytes
  | little, x => [byte x.toNat 0, byte x.toNat 1, byte x.toNat 2, byte x.toNat 3]
  | big, x => [byte x.toNat 3, byte x.toNat 2, byte x.toNat 1, byte x.toNat 0]

def word16 : Endian → UInt8 → UInt8 → UInt16
  | little, a, b => UInt16.ofNat (be16 b a)
  | big, a, b => UInt16.ofNat (be16 a b)

def word32 : Endian → UInt8 → UInt8 → UInt8 → UInt8 → UInt32
  | little, a, b, c, d => UInt32.ofNat (be32 d c b a)
  | big, a, b, c, d => UInt32.ofNat (be32 a b c d)

def htons (host : Endian) (x : UInt16) : UInt16 := host.word16 (byte x.toNat 1) (byte x.toNat 0)

def ntohs (host : Endian) (x : UInt16) : UInt16 := host.htons x

def htonl (host : Endian) (x : UInt32) : UInt32 :=
  host.word32 (byte x.toNat 3) (byte x.toNat 2) (byte x.toNat 1) (byte x.toNat 0)

def ntohl (host : Endian) (x : UInt32) : UInt32 := host.htonl x

end Endian

theorem byte_be16 (a b : UInt8) : byte (be16 a b) 0 = b ∧ byte (be16 a b) 1 = a := by
  have := a.toNat_lt
  have := b.toNat_lt
  constructor <;>
  · apply UInt8.toNat_inj.mp
    rw [byte, UInt8.toNat_ofNat', be16]
    omega

theorem byte_be32 (a b c d : UInt8) :
    byte (be32 a b c d) 0 = d ∧ byte (be32 a b c d) 1 = c ∧ byte (be32 a b c d) 2 = b ∧
      byte (be32 a b c d) 3 = a := by
  have := a.toNat_lt
  have := b.toNat_lt
  have := c.toNat_lt
  have := d.toNat_lt
  refine ⟨?_, ?_, ?_, ?_⟩ <;>
  · apply UInt8.toNat_inj.mp
    rw [byte, UInt8.toNat_ofNat', be32, be16, be16]
    omega

theorem be16_byte (x : UInt16) : be16 (byte x.toNat 1) (byte x.toNat 0) = x.toNat := by
  have := x.toNat_lt
  simp only [be16, byte, UInt8.toNat_ofNat']
  omega

theorem be32_byte (x : UInt32) :
    be32 (byte x.toNat 3) (byte x.toNat 2) (byte x.toNat 1) (byte x.toNat 0) = x.toNat := by
  have := x.toNat_lt
  simp only [be32, be16, byte, UInt8.toNat_ofNat']
  omega

theorem be16_lt (a b : UInt8) : be16 a b < 65536 := by
  have := a.toNat_lt
  have := b.toNat_lt
  unfold be16
  omega

theorem be32_lt (a b c d : UInt8) : be32 a b c d < 4294967296 := by
  have := be16_lt a b
  have := be16_lt c d
  unfold be32
  omega

namespace Endian

theorem toNat_be16 (a b : UInt8) : (UInt16.ofNat (be16 a b)).toNat = be16 a b :=
  UInt16.toNat_ofNat_of_lt' (be16_lt a b)

theorem toNat_be32 (a b c d : UInt8) : (UInt32.ofNat (be32 a b c d)).toNat = be32 a b c d :=
  UInt32.toNat_ofNat_of_lt' (be32_lt a b c d)

theorem bytes16_htons (host : Endian) (x : UInt16) :
    host.bytes16 (host.htons x) = [byte x.toNat 1, byte x.toNat 0] := by
  cases host <;>
  · simp only [bytes16, htons, word16, toNat_be16]
    rw [(byte_be16 _ _).1, (byte_be16 _ _).2]

theorem bytes32_htonl (host : Endian) (x : UInt32) :
    host.bytes32 (host.htonl x) =
      [byte x.toNat 3, byte x.toNat 2, byte x.toNat 1, byte x.toNat 0] := by
  cases host <;>
  · simp only [bytes32, htonl, word32, toNat_be32]
    obtain ⟨first, second, third, fourth⟩ := byte_be32 _ _ _ _
    rw [first, second, third, fourth]

theorem ntohs_htons (host : Endian) (x : UInt16) : host.ntohs (host.htons x) = x := by
  apply UInt16.toNat_inj.mp
  cases host <;>
  · simp only [ntohs, htons, word16, toNat_be16]
    rw [(byte_be16 _ _).1, (byte_be16 _ _).2, be16_byte]

theorem ntohl_htonl (host : Endian) (x : UInt32) : host.ntohl (host.htonl x) = x := by
  apply UInt32.toNat_inj.mp
  cases host <;>
  · simp only [ntohl, htonl, word32, toNat_be32]
    obtain ⟨first, second, third, fourth⟩ := byte_be32 _ _ _ _
    rw [first, second, third, fourth, be32_byte]

theorem htons_eq_zero (host : Endian) {x : UInt16} : host.htons x = 0 ↔ x = 0 := by
  have zero : host.htons 0 = 0 := by cases host <;> rfl
  constructor
  · intro empty
    rw [← host.ntohs_htons x, empty]
    exact zero
  · rintro rfl
    exact zero

theorem htonl_eq_zero (host : Endian) {x : UInt32} : host.htonl x = 0 ↔ x = 0 := by
  have zero : host.htonl 0 = 0 := by cases host <;> rfl
  constructor
  · intro empty
    rw [← host.ntohl_htonl x, empty]
    exact zero
  · rintro rfl
    exact zero

/-- The half of a 32-bit word whose bytes come first in network order on a little-endian host, and last
on a big-endian one. -/
def half (host : Endian) (x : UInt32) : UInt16 :=
  match host with
  | little => UInt16.ofNat (x.toNat / 65536)
  | big => UInt16.ofNat x.toNat

theorem toNat_ofNat_be32 (a b c d : UInt8) : (UInt16.ofNat (be32 a b c d)).toNat = be16 c d := by
  have := be16_lt c d
  rw [UInt16.toNat_ofNat', be32]
  omega

theorem ntohs_htonl (host : Endian) (x : UInt32) :
    host.ntohs (UInt16.ofNat (host.htonl x).toNat) = host.half x := by
  have := x.toNat_lt
  apply UInt16.toNat_inj.mp
  cases host <;>
  · simp only [ntohs, htons, htonl, half, word16, word32, toNat_be32, toNat_ofNat_be32, toNat_be16]
    rw [(byte_be16 _ _).1, (byte_be16 _ _).2]
    simp only [UInt16.toNat_ofNat', be16, byte, UInt8.toNat_ofNat']
    omega

end Endian
end Lib
