import Mathlib.Data.List.Basic
import Mathlib.Tactic.Common

namespace Lib

abbrev Bytes := List UInt8

def be16 (hi lo : UInt8) : Nat := 256 * hi.toNat + lo.toNat

def be32 (a b c d : UInt8) : Nat := 65536 * be16 a b + be16 c d

def bytes32 (n : Nat) : Bytes :=
  [UInt8.ofNat (n / 16777216), UInt8.ofNat (n / 65536), UInt8.ofNat (n / 256), UInt8.ofNat n]

def int32 (n : Int) : Int := n.bmod 4294967296

def int64 (n : Int) : Int := n.bmod 18446744073709551616

def uint32 (n : Int) : Nat := (n % 4294967296).toNat

def sizeT (n : Int) : Nat := (n % 18446744073709551616).toNat

inductive Endian
  | little
  | big
  deriving DecidableEq

def Endian.short : Endian → Nat → Bytes
  | little, n => [UInt8.ofNat n, UInt8.ofNat (n / 256)]
  | big, n => [UInt8.ofNat (n / 256), UInt8.ofNat n]

def Endian.readShort : Endian → UInt8 → UInt8 → Nat
  | little, a, b => be16 b a
  | big, a, b => be16 a b

theorem be16_ofNat {n : Nat} (lt : n < 65536) :
    be16 (UInt8.ofNat (n / 256)) (UInt8.ofNat n) = n := by
  simp only [be16, UInt8.toNat_ofNat']
  omega

theorem be32_ofNat {n : Nat} (lt : n < 4294967296) :
    be32 (UInt8.ofNat (n / 16777216)) (UInt8.ofNat (n / 65536)) (UInt8.ofNat (n / 256))
      (UInt8.ofNat n) = n := by
  simp only [be32, be16, UInt8.toNat_ofNat']
  omega

theorem int32_of_lt {n : Int} (low : -2147483648 ≤ n) (high : n < 2147483648) : int32 n = n :=
  Int.bmod_eq_of_le low high

theorem int64_of_lt {n : Int} (low : -9223372036854775808 ≤ n) (high : n < 9223372036854775808) :
    int64 n = n := Int.bmod_eq_of_le low high

theorem exists_int64_eq (n : Int) : ∃ k, int64 n = n - 18446744073709551616 * k := by
  have split := Int.bmod_add_bdiv n 18446744073709551616
  exact ⟨n.bdiv 18446744073709551616, by rw [int64]; omega⟩

theorem int32_lt (n : Int) : int32 n < 2147483648 := Int.bmod_lt (by decide)

theorem int32_of_nonneg {n : Int} (nonneg : 0 ≤ n) (less : n < 4294967296) :
    int32 n = if n < 2147483648 then n else n - 4294967296 := by
  simp only [int32, Int.bmod_def]
  split_ifs <;> omega

theorem uint32_of_lt {n : Int} (low : 0 ≤ n) (high : n < 4294967296) : uint32 n = n.toNat := by
  rw [uint32, Int.emod_eq_of_lt low high]

theorem sizeT_natCast {n : Nat} (high : n < 18446744073709551616) : sizeT n = n := by
  rw [sizeT]
  omega

theorem exists_int32_eq (n : Int) : ∃ k, int32 n = n - 4294967296 * k := by
  have split := Int.bmod_add_bdiv n 4294967296
  exact ⟨n.bdiv 4294967296, by rw [int32]; omega⟩

theorem two_dvd_int32 (n : Int) : 2 ∣ int32 n ↔ 2 ∣ n := by
  obtain ⟨k, same⟩ := exists_int32_eq n
  rw [same]
  omega

theorem int32_int32_mul (a b : Int) : int32 (int32 a * b) = int32 (a * b) := Int.bmod_mul_bmod

theorem int64_int64_add (a b : Int) : int64 (int64 a + b) = int64 (a + b) := Int.bmod_add_bmod

theorem Endian.length_short (host : Endian) (n : Nat) : (host.short n).length = 2 := by
  cases host <;> rfl

theorem Endian.exists_short (host : Endian) {n : Nat} (lt : n < 65536) :
    ∃ a b, host.short n = [a, b] ∧ host.readShort a b = n := by
  cases host with
  | little => exact ⟨_, _, rfl, be16_ofNat lt⟩
  | big => exact ⟨_, _, rfl, be16_ofNat lt⟩

end Lib
