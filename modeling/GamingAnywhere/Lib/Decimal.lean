import GamingAnywhere.Lib.CString
import Mathlib.Tactic.Ring

namespace Lib

def decimalOf (n : Nat) : Bytes := (Nat.toDigits 10 n).map fun c => UInt8.ofNat c.toNat

variable {n : Nat}

theorem toNat_digitChar : ∀ n < 10, n.digitChar.toNat = 48 + n := by decide

theorem decimalOf_of_lt (lt : n < 10) : decimalOf n = [UInt8.ofNat (48 + n)] := by
  rw [decimalOf, Nat.toDigits_of_lt_base lt, List.map_singleton, toNat_digitChar n lt]

theorem decimalOf_of_le (le : 10 ≤ n) : decimalOf n = decimalOf (n / 10) ++ [UInt8.ofNat (48 + n % 10)] := by
  rw [decimalOf, Nat.toDigits_of_base_le (by decide) le, List.map_append, List.map_singleton,
    toNat_digitChar _ (Nat.mod_lt n (by decide)), decimalOf]

theorem digit_ofNat : ∀ n < 10, digit (UInt8.ofNat (48 + n)) = n := by decide

theorem isdigit_ofNat : ∀ n < 10, isdigit (UInt8.ofNat (48 + n)) = true := by decide

theorem ofNat_ne_digitZero : ∀ n < 10, 0 < n → UInt8.ofNat (48 + n) ≠ 48 := by decide

theorem exists_ofNat_of_isdigit {c : UInt8} (here : isdigit c = true) : ∃ n < 10, c = UInt8.ofNat (48 + n) := by
  have bounds : 48 ≤ c ∧ c ≤ 57 := by simpa [isdigit] using here
  have low : 48 ≤ c.toNat := UInt8.le_iff_toNat_le.mp bounds.1
  have high : c.toNat ≤ 57 := UInt8.le_iff_toNat_le.mp bounds.2
  refine ⟨c.toNat - 48, by omega, ?_⟩
  rw [Nat.add_sub_cancel' low, UInt8.ofNat_toNat]

theorem isdigit_of_mem_decimalOf {c : UInt8} (member : c ∈ decimalOf n) : isdigit c = true := by
  induction n using Nat.strongRecOn with
  | ind n ih =>
      rcases Nat.lt_or_ge n 10 with lt | le
      · rw [decimalOf_of_lt lt, List.mem_singleton] at member
        exact member ▸ isdigit_ofNat n lt
      · rw [decimalOf_of_le le, List.mem_append, List.mem_singleton] at member
        rcases member with before | rfl
        · exact ih (n / 10) (Nat.div_lt_self (by omega) (by decide)) before
        · exact isdigit_ofNat _ (Nat.mod_lt n (by decide))

theorem foldl_decimalOf (n : Nat) : (decimalOf n).foldl (fun m c => 10 * m + digit c) 0 = n := by
  induction n using Nat.strongRecOn with
  | ind n ih =>
      rcases Nat.lt_or_ge n 10 with lt | le
      · rw [decimalOf_of_lt lt, List.foldl_cons, List.foldl_nil, digit_ofNat n lt]
        omega
      · rw [decimalOf_of_le le, List.foldl_append, ih (n / 10) (Nat.div_lt_self (by omega) (by decide)),
          List.foldl_cons, List.foldl_nil, digit_ofNat _ (Nat.mod_lt n (by decide))]
        omega

theorem decimalOf_head (positive : 0 < n) :
    ∃ c rest, decimalOf n = c :: rest ∧ isdigit c = true ∧ c ≠ 48 := by
  induction n using Nat.strongRecOn with
  | ind n ih =>
      rcases Nat.lt_or_ge n 10 with lt | le
      · exact ⟨_, [], decimalOf_of_lt lt, isdigit_ofNat n lt, ofNat_ne_digitZero n lt positive⟩
      · obtain ⟨c, rest, digits, here, nonzero⟩ :=
          ih (n / 10) (Nat.div_lt_self (by omega) (by decide)) (Nat.div_pos le (by decide))
        refine ⟨c, rest ++ [UInt8.ofNat (48 + n % 10)], ?_, here, nonzero⟩
        rw [decimalOf_of_le le, digits, List.cons_append]

theorem length_decimalOf_le {k : Nat} (positive : 0 < k) (lt : n < 10 ^ k) : (decimalOf n).length ≤ k := by
  rw [decimalOf, List.length_map]
  exact (Nat.length_toDigits_le_iff (by decide) positive).mpr lt

theorem digit_lt_of_isdigit {c : UInt8} (here : isdigit c = true) : digit c < 10 := by
  obtain ⟨n, lt, rfl⟩ := exists_ofNat_of_isdigit here
  rwa [digit_ofNat n lt]

theorem sign_of_isdigit {c : UInt8} (here : isdigit c = true) (rest : Bytes) :
    sign (c :: rest) = (1, c :: rest) := by
  unfold sign
  split
  · rename_i same
    obtain ⟨rfl, -⟩ := List.cons.inj same
    exact absurd here (by decide)
  · rename_i same
    obtain ⟨rfl, -⟩ := List.cons.inj same
    exact absurd here (by decide)
  · rfl

theorem radix_of_ne {c : UInt8} (nonzero : c ≠ 48) (rest : Bytes) : radix (c :: rest) = (10, c :: rest) := by
  unfold radix
  split
  · rename_i same
    exact absurd (List.cons.inj same).1 nonzero
  · rename_i same
    exact absurd (List.cons.inj same).1 nonzero
  · rfl

theorem not_isspace_of_isdigit {c : UInt8} (here : isdigit c = true) : isspace c = false := by
  have digits : ∀ n < 10, isspace (UInt8.ofNat (48 + n)) = false := by decide
  obtain ⟨n, lt, rfl⟩ := exists_ofNat_of_isdigit here
  exact digits n lt

theorem strtol_decimalOf (positive : 0 < n) (lt : n < 9223372036854775808) :
    strtol (decimalOf n) = ((n : Int), []) := by
  obtain ⟨c, rest, digits, here, nonzero⟩ := decimalOf_head positive
  have all : ((decimalOf n).takeWhile fun x => digit x < 10) = decimalOf n := by
    rw [List.takeWhile_eq_self_iff]
    intro x member
    exact decide_eq_true (digit_lt_of_isdigit (isdigit_of_mem_decimalOf member))
  have blank : (decimalOf n).dropWhile isspace = decimalOf n := by
    rw [digits, List.dropWhile_cons, not_isspace_of_isdigit here, if_neg Bool.false_ne_true]
  have signed : sign (decimalOf n) = (1, decimalOf n) := by rw [digits, sign_of_isdigit here]
  have based : radix (decimalOf n) = (10, decimalOf n) := by rw [digits, radix_of_ne nonzero]
  have some' : decimalOf n ≠ [] := by rw [digits]; exact List.cons_ne_nil _ _
  rw [strtol, blank, signed]
  dsimp only
  rw [based]
  dsimp only
  rw [all, if_neg some', foldl_decimalOf, List.drop_length, clampLong, Int.one_mul]
  exact congrArg (·, []) (by omega)

end Lib
