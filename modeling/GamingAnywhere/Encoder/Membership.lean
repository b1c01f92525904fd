import GamingAnywhere.Encoder.Launching
import Mathlib.Data.List.Nodup

namespace GamingAnywhere.Encoder
open Lib

variable {ι : Type*} {cfg : Setup} {s s' : Registry ι} {c d : ι}

def ClientPlace.erased : ClientPlace → Bool
  | .unregTest | .unregJoin _ | .unregJoinAudio | .unregSync | .unregUnlock | .gone => true
  | _ => false

structure Members (s : Registry ι) : Prop where
  nodup : s.clients.Nodup
  erased : ∀ c, (s.place c).erased = true → c ∉ s.clients
  visits : ∀ t ∈ s.threads, ∀ left, t.place = .send left → ∀ c ∈ left, c ∈ s.clients

theorem ThreadStep.visits {t t' : Thread ι} (step : ThreadStep cfg s t t')
    (visits : ∀ left, t.place = .send left → ∀ c ∈ left, c ∈ s.clients) :
    ∀ left, t'.place = .send left → ∀ c ∈ left, c ∈ s.clients := by
  intro left place
  cases step with
  | locked here free =>
      obtain rfl : s.clients = left := ThreadPlace.send.inj place
      exact fun c member => member
  | visited here =>
      obtain rfl := ThreadPlace.send.inj place
      exact fun c member => visits _ here c (List.mem_cons_of_mem _ member)
  | running | noPacket | sent =>
      cases proc : t.proc <;> simp [proc, Proc.body, Proc.next] at place
  | _ => cases place

variable [DecidableEq ι]

theorem ClientStep.erased (step : ClientStep cfg c s s') (erased : (s'.place c).erased = true) :
    (s.place c).erased = true ∨ s.place c = .unregErase := by
  cases step <;> simp_all [ClientPlace.erased]

theorem ClientStep.erase_clients (step : ClientStep cfg c s s') (erase : s.place c = .unregErase) :
    s'.clients = s.clients.erase c := by
  cases step <;> simp_all

theorem Members.client (members : Members s) (exclusive : Exclusive s)
    (step : ClientStep cfg c s s') : Members s' := by
  have silent : s'.clients ≠ s.clients → s.NoReaders := by
    intro changed
    refine exclusive.readers fun free => ?_
    have held : (s.place c).holdsLock = true := by
      rcases step.clients with same | ⟨insert, -⟩ | ⟨erase, -⟩
      · exact absurd same changed
      · rw [insert]
        rfl
      · rw [erase]
        rfl
    rw [(exclusive.holder c).mp held] at free
    cases free
  refine ⟨?_, fun d erased => ?_, fun t member left place => ?_⟩
  · rcases step.clients with same | ⟨-, inserted, -⟩ | ⟨-, erased, -⟩
    · exact same ▸ members.nodup
    · exact inserted ▸ List.Nodup.insert members.nodup
    · exact erased ▸ members.nodup.erase c
  · by_cases self : d = c
    · subst self
      rcases step.erased erased with already | erase
      · have absent := members.erased d already
        rcases step.clients with same | ⟨insert, -⟩ | ⟨erase, -⟩
        · rwa [same]
        · rw [insert] at already
          cases already
        · rw [erase] at already
          cases already
      · rw [step.erase_clients erase]
        exact members.nodup.not_mem_erase
    · rw [step.place_other self] at erased
      rw [step.mem_other self]
      exact members.erased d erased
  · rcases step.place_mem member with first | ⟨u, member, same⟩
    · rw [first] at place
      cases place
    · rw [place] at same
      by_cases changed : s'.clients = s.clients
      · rw [changed]
        exact members.visits u member left same
      · exact absurd ⟨left, same⟩ (silent changed u member)

theorem members (reachable : (encoders ι cfg).Reachable s) : Members s := by
  refine reachable.invariant_of (I := Exclusive) (fun s first => ?_) (fun s => exclusive)
    fun s l t excl holds step => ?_
  · obtain rfl : s = .start := first
    exact ⟨List.nodup_nil, nofun, nofun⟩
  · cases step with
    | client step => exact holds.client excl step
    | thread here step =>
        refine ⟨holds.nodup, holds.erased, fun u member => ?_⟩
        rcases List.mem_or_eq_of_mem_set member with member | rfl
        · exact holds.visits u member
        · exact step.visits (holds.visits _ (List.mem_of_getElem? here))

end GamingAnywhere.Encoder
