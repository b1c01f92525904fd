import GamingAnywhere.Lib.Bytes
import Mathlib.Data.List.TakeWhile

/-!
# C strings

A string in memory goes up to its first zero. `strtol` in base 0, `strcasecmp` and `strncasecmp` as C
has them, for a `long` of 64 bits.
-/

namespace Lib

def literal (s : String) : Bytes := s.toList.map fun c => UInt8.ofNat c.toNat

def cstr (memory : Bytes) : Bytes := memory.takeWhile (· ≠ 0)

theorem cstr_append {s : Bytes} (plain : 0 ∉ s) (memory : Bytes) :
    cstr (s ++ memory) = s ++ cstr memory := by
  have nonzero : ∀ c ∈ s, decide (c ≠ 0) = true := by
    intro c member
    exact decide_eq_true fun zero => plain (zero ▸ member)
  exact List.takeWhile_append_of_pos nonzero

theorem cstr_zero (memory : Bytes) : cstr (0 :: memory) = [] := rfl

def isspace (c : UInt8) : Bool := c == 32 || 9 ≤ c && c ≤ 13

/-- The digit that a character is, 36 where it is none. -/
def digit (c : UInt8) : Nat :=
  if 48 ≤ c ∧ c ≤ 57 then c.toNat - 48
  else if 97 ≤ c ∧ c ≤ 122 then c.toNat - 87
  else if 65 ≤ c ∧ c ≤ 90 then c.toNat - 55
  else 36

def sign : Bytes → Int × Bytes
  | 45 :: s => (-1, s)
  | 43 :: s => (1, s)
  | s => (1, s)

/-- The base that the text shows, and the text from its digits on. -/
def radix : Bytes → Nat × Bytes
  | 48 :: x :: c :: s =>
      if (x = 120 ∨ x = 88) ∧ digit c < 16 then (16, c :: s) else (8, 48 :: x :: c :: s)
  | 48 :: s => (8, 48 :: s)
  | s => (10, s)

def clampLong (n : Int) : Int := max (-9223372036854775808) (min 9223372036854775807 n)

/-- The number, and the text that `endptr` is at. -/
def strtol (ptr : Bytes) : Int × Bytes :=
  let signed := sign (ptr.dropWhile isspace)
  let based := radix signed.2
  let digits := based.2.takeWhile fun c => digit c < based.1
  if digits = [] then (0, ptr)
  else
    (clampLong (signed.1 * digits.foldl (fun n c => based.1 * n + digit c) 0),
      based.2.drop digits.length)

def tolower (c : UInt8) : UInt8 := if 65 ≤ c ∧ c ≤ 90 then c + 32 else c

def sameWord (s t : Bytes) : Bool := s.map tolower == t.map tolower

/-- `strncasecmp` is 0: two strings that end within the `n` characters end together. -/
def sameStart : Nat → Bytes → Bytes → Bool
  | 0, _, _ => true
  | _ + 1, [], [] => true
  | n + 1, c :: s, d :: t => tolower c == tolower d && sameStart n s t
  | _ + 1, _, _ => false

theorem sameStart_iff (n : Nat) (s t : Bytes) :
    sameStart n s t = true ↔ (s.take n).map tolower = (t.take n).map tolower := by
  induction n generalizing s t with
  | zero => simp [sameStart]
  | succ n ih =>
      cases s with
      | nil => cases t <;> simp [sameStart]
      | cons c s =>
          cases t with
          | nil => simp [sameStart]
          | cons d t => simp [sameStart, ih]

def isdigit (c : UInt8) : Bool := 48 ≤ c && c ≤ 57

end Lib
