import GamingAnywhere.Lib.Transition

namespace Lib

namespace System
variable {σ τ ℓ m : Type*} {S : System σ ℓ} {T : System τ m}

def Moves (T : System τ m) (a : τ) : Option m → τ → Prop
  | some e, b => T.Step a e b
  | none, b => b = a

theorem Run.part (part : σ → τ) (shown : ℓ → Option m)
    (moves : ∀ s l t, S.Step s l t → T.Moves (part s) (shown l) (part t)) {s t : σ} {ls : List ℓ}
    (run : S.Run s ls t) : T.Run (part s) (ls.filterMap shown) (part t) := by
  induction run with
  | nil => exact .nil _
  | @cons s t u l ls taken _ ih =>
      have moved := moves s l t taken
      cases image : shown l with
      | none =>
          rw [image] at moved
          rw [List.filterMap_cons_none image, ← (moved : part t = part s)]
          exact ih
      | some e =>
          rw [image] at moved
          rw [List.filterMap_cons_some image]
          exact .cons moved ih

end System

structure Transducer (κ α β : Type*) where
  opened : κ
  next : κ → α → Option (κ × Option β)

namespace Transducer
variable {κ α β : Type*} (T : Transducer κ α β)

/-- One more input, behind which there is no state where it fails. -/
def feed (s : Option κ × List β) (a : α) : Option κ × List β :=
  match s.1.bind (T.next · a) with
  | none => (none, s.2)
  | some (k, out) => (some k, s.2 ++ out.toList)

def outputs (inputs : List α) : Option κ × List β := inputs.foldl T.feed (some T.opened, [])

theorem outputs_append (inputs : List α) (a : α) : T.outputs (inputs ++ [a]) = T.feed (T.outputs inputs) a := by
  rw [outputs, List.foldl_append]
  rfl

variable {T} {inputs : List α} {k k' : κ} {out : List β} {a : α}

theorem outputs_some {o : Option β} (before : T.outputs inputs = (some k, out)) (next : T.next k a = some (k', o)) :
    T.outputs (inputs ++ [a]) = (some k', out ++ o.toList) := by
  rw [outputs_append, before, feed, Option.bind_some, next]

theorem outputs_none (before : T.outputs inputs = (some k, out)) (next : T.next k a = none) :
    T.outputs (inputs ++ [a]) = (none, out) := by
  rw [outputs_append, before, feed, Option.bind_some, next]

end Transducer
end Lib
