import GamingAnywhere.Client.Playback
import GamingAnywhere.Lib.Draining

namespace GamingAnywhere.Client
open Lib

structure Picture where
  width : Int
  height : Int
  format : Int
  planes : List Bytes

structure VideoAnswer where
  len : Int
  picture : Option Picture
  surface : Bool

inductive UserEvent
  | createOverlay (width height format : Int)
  | renderImage (picture : Picture)

def VideoAnswer.events (a : VideoAnswer) : List UserEvent :=
  match a.picture with
  | none => []
  | some p => if a.surface then [.renderImage p] else [.createOverlay p.width p.height p.format]

def playVideoPriv (answers : Nat → VideoAnswer) : Nat → Nat → Int → Option (List UserEvent)
  | 0, _, size => if 0 < size then none else some []
  | fuel + 1, n, size =>
      if 0 < size then
        if (answers n).len < 0 then some []
        else (playVideoPriv answers fuel (n + 1) (size - (answers n).len)).map ((answers n).events ++ ·)
      else some []

def audioDecode (cap : Nat) (answers : Nat → Decoded) : Nat → Nat → AudioBuffer → Int → Option Round
  | 0, _, ab, size => if 0 < size then none else some (.next ab size)
  | fuel + 1, n, ab, size =>
      if 0 < size then
        match decodeRound cap ab size (answers n) with
        | .next ab' size' => audioDecode cap answers fuel (n + 1) ab' size'
        | left => some left
      else some (.next ab size)

def Decoded.taken : Decoded → Int
  | failed | fatal => -1
  | silent len | frame len _ => len

section
open Draining

theorem playVideoPriv_isSome (answers : Nat → VideoAnswer) (fuel n : Nat) (size : Int) :
    (playVideoPriv answers fuel n size).isSome ↔ Ends (fun n => (answers n).len) fuel n size := by
  induction fuel generalizing n size with
  | zero =>
      rw [playVideoPriv, Ends]
      split_ifs with more
      · exact iff_of_false Bool.false_ne_true (Int.not_le.mpr more)
      · exact iff_of_true rfl (Int.not_lt.mp more)
  | succ fuel ih =>
      rw [playVideoPriv, Ends]
      split_ifs with more failed
      · exact iff_of_true rfl (Or.inr (Or.inl failed))
      · rw [Option.isSome_map, ih, or_iff_right (Int.not_le.mpr more), or_iff_right failed]
      · exact iff_of_true rfl (Or.inl (Int.not_lt.mp more))

theorem audioDecode_isSome (cap : Nat) (answers : Nat → Decoded) (fuel n : Nat) (ab : AudioBuffer)
    (size : Int) :
    (audioDecode cap answers fuel n ab size).isSome ↔ Ends (fun n => (answers n).taken) fuel n size := by
  induction fuel generalizing n ab size with
  | zero =>
      rw [audioDecode, Ends]
      split_ifs with more
      · exact iff_of_false Bool.false_ne_true (Int.not_le.mpr more)
      · exact iff_of_true rfl (Int.not_lt.mp more)
  | succ fuel ih =>
      rw [audioDecode, Ends]
      split_ifs with more
      · rw [or_iff_right (Int.not_le.mpr more)]
        cases answer : answers n with
        | failed | fatal => exact iff_of_true rfl (Or.inl (by rw [Decoded.taken]; decide))
        | silent len =>
            have taking : ¬ (Decoded.silent len).taken < 0 := Int.not_lt.mpr (Int.natCast_nonneg len)
            rw [or_iff_right taking]
            exact ih ..
        | frame len f =>
            have taking : ¬ (Decoded.frame len f).taken < 0 := Int.not_lt.mpr (Int.natCast_nonneg len)
            rw [or_iff_right taking]
            exact ih ..
      · exact iff_of_true rfl (Or.inl (Int.not_lt.mp more))

theorem exists_eq_some_iff {α β : Type*} {loop : α → Option β} {p : α → Prop}
    (ends : ∀ fuel, (loop fuel).isSome ↔ p fuel) :
    (∃ fuel r, loop fuel = some r) ↔ ∃ fuel, p fuel :=
  exists_congr fun fuel => Option.isSome_iff_exists.symm.trans (ends fuel)

theorem decode_loops_end_iff (size : Int) (video : Nat → VideoAnswer) (cap : Nat) (ab : AudioBuffer)
    (audio : Nat → Decoded) :
    ((∃ fuel events, playVideoPriv video fuel 0 size = some events) ↔
      Progress (fun n => (video n).len) size) ∧
    ((∃ fuel r, audioDecode cap audio fuel 0 ab size = some r) ↔ Progress (fun n => (audio n).taken) size) := by
  constructor
  · exact (exists_eq_some_iff fun fuel => playVideoPriv_isSome video fuel 0 size).trans ends_iff
  · exact (exists_eq_some_iff fun fuel => audioDecode_isSome cap audio fuel 0 ab size).trans ends_iff

theorem left_zero (size : Int) (k : Nat) : left (fun _ => 0) size k = size := by
  induction k with
  | zero => rfl
  | succ k ih => rw [left, ih, Int.sub_zero]

theorem not_ends_zero {size : Int} (some_left : 0 < size) (fuel : Nat) : ¬ Ends (fun _ => 0) fuel 0 size := by
  intro ends
  obtain ⟨m, -, moves⟩ := ends.exists_ne some_left
  exact moves rfl

theorem not_decode_loops_end :
    (¬ ∀ size answers, Within (fun n => (answers n).len) size →
      ∃ fuel events, playVideoPriv answers fuel 0 size = some events) ∧
    ¬ ∀ cap ab size answers, Within (fun n => (answers n).taken) size →
      ∃ fuel r, audioDecode cap answers fuel 0 ab size = some r := by
  have within : Within (fun _ => 0) 1 := by
    intro k _ _
    rw [left_zero]
    exact Int.zero_le_ofNat 1
  constructor
  · intro ends
    obtain ⟨fuel, events, left⟩ := ends 1 (fun _ => ⟨0, none, true⟩) within
    have ended := (playVideoPriv_isSome _ fuel 0 1).mp (Option.isSome_iff_exists.mpr ⟨events, left⟩)
    exact not_ends_zero Int.one_pos fuel ended
  · intro ends
    obtain ⟨fuel, r, left⟩ := ends 768000 ⟨fun _ => 0, 0, 0⟩ 1 (fun _ => .silent 0) within
    have ended := (audioDecode_isSome _ _ fuel 0 _ 1).mp (Option.isSome_iff_exists.mpr ⟨r, left⟩)
    exact not_ends_zero Int.one_pos fuel ended

end

end GamingAnywhere.Client
