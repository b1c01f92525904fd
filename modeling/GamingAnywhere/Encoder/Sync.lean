import GamingAnywhere.Lib.Bytes

namespace GamingAnywhere.Encoder
open Lib

structure Timeval where
  tvSec : Int
  tvUsec : Int

def tvdiffUs (tv1 tv2 : Timeval) : Int :=
  let tvSec := tv1.tvSec - tv2.tvSec
  let tvUsec := tv1.tvUsec - tv2.tvUsec
  if tvUsec < 0 then int64 (1000000 * (tvSec - 1) + (tvUsec + 1000000)) else int64 (1000000 * tvSec + tvUsec)

/-- `ret` is the product that is converted to an `int`, and `none` right after a reset. -/
def encoderPtsSync : Option Int → Int
  | none => 0
  | some ret => if 0 < ret then ret else 0

theorem encoderPtsSync_nonneg (ret : Option Int) : 0 ≤ encoderPtsSync ret := by
  cases ret with
  | none => exact Int.le_refl 0
  | some ret =>
      rw [encoderPtsSync]
      split <;> omega

end GamingAnywhere.Encoder
