import GamingAnywhere.Rtsp.Setup

namespace GamingAnywhere.Rtsp
open Lib

def slash : UInt8 := 47

/-! ## Strings in memory -/

section
variable {m : Mem UInt8} {start : Nat} {x : UInt8} {s t : Bytes}

theorem names_nil : Names m start [] ↔ m start = 0 := by
  simp [Names, Mem.slice_succ]

theorem names_cons : Names m start (x :: s) ↔ m start = x ∧ Names m (start + 1) s := by
  simp [Names, Mem.slice_succ]

theorem names_append (named : Names m start (s ++ t)) : Names m (start + s.length) t := by
  induction s generalizing start with
  | nil => exact named
  | cons y s ih =>
      have shift : start + 1 + s.length = start + (s.length + 1) := by omega
      have rest := ih (names_cons.mp named).2
      rwa [shift] at rest

theorem Names.unique (named : Names m start s) (other : Names m start t) (string : 0 ∉ s)
    (string' : 0 ∉ t) : s = t := by
  induction s generalizing start t with
  | nil =>
      cases t with
      | nil => rfl
      | cons y t =>
          have zero : y = 0 := (names_cons.mp other).1.symm.trans (names_nil.mp named)
          exact absurd (zero ▸ List.mem_cons_self) string'
  | cons y s ih =>
      obtain ⟨first, rest⟩ := names_cons.mp named
      cases t with
      | nil =>
          have zero : y = 0 := first.symm.trans (names_nil.mp other)
          exact absurd (zero ▸ List.mem_cons_self) string
      | cons z t =>
          obtain ⟨first', rest'⟩ := names_cons.mp other
          rw [ih rest rest' (List.not_mem_of_not_mem_cons string)
            (List.not_mem_of_not_mem_cons string'), ← first, ← first']

theorem slice_eq_iff_prefix (named : Names m start s) (string : 0 ∉ t) :
    m.slice start t.length = t ↔ t <+: s := by
  induction t generalizing start s with
  | nil => simp
  | cons y t ih =>
      have nonzero : y ≠ 0 := fun zero => string (zero ▸ List.mem_cons_self)
      cases s with
      | nil =>
          have zero := names_nil.mp named
          simp [Mem.slice_succ, zero, nonzero.symm]
      | cons z s =>
          obtain ⟨first, rest⟩ := names_cons.mp named
          rw [List.length_cons, Mem.slice_succ, List.cons.injEq, first, List.cons_prefix_cons,
          ih rest (List.not_mem_of_not_mem_cons string), eq_comm (a := z)]

theorem names_store (m : Mem UInt8) (s t : Bytes) : Names (m.store 0 (s ++ 0 :: t)) 0 s := by
  have whole := m.slice_store_self 0 (s ++ 0 :: t)
  have cut := congrArg (List.take (s.length + 1)) whole
  rw [Mem.take_slice _ _ _ _ (by simp)] at cut
  rw [Names, cut, List.take_append, List.take_of_length_le (Nat.le_succ _), Nat.add_sub_cancel_left]
  rfl

end

/-! ## Channel names -/

theorem decimal_natCast (k : Nat) :
    decimal k = (Nat.toDigits 10 k).map fun c => UInt8.ofNat c.toNat := by
  rw [decimal, ascii]
  exact congrArg (List.map _) Nat.toList_repr

theorem toNat_of_isDigit {c : Char} (digit : c.isDigit = true) :
    0 < c.toNat ∧ (UInt8.ofNat c.toNat).toNat = c.toNat := by
  obtain ⟨low, high⟩ : 48 ≤ c.toNat ∧ c.toNat ≤ 57 := by
    simpa [Char.isDigit, UInt32.le_iff_toNat_le] using digit
  exact ⟨by omega, by rw [UInt8.toNat_ofNat']; omega⟩

theorem digit_of_mem {k : Nat} {c : Char} (member : c ∈ Nat.toDigits 10 k) : c.isDigit = true :=
  Nat.isDigit_of_mem_toDigits (by decide) (by decide) member

theorem zero_not_mem_decimal (k : Nat) : (0 : UInt8) ∉ decimal k := by
  rw [decimal_natCast]
  intro zero
  obtain ⟨c, member, nul⟩ := List.mem_map.mp zero
  obtain ⟨positive, value⟩ := toNat_of_isDigit (digit_of_mem member)
  rw [nul] at value
  exact absurd value (Nat.ne_of_lt positive)

theorem decimal_injective {k j : Nat} (same : decimal k = decimal j) : k = j := by
  have back (n : Nat) : (decimal n).map (fun b => Char.ofNat b.toNat) = Nat.toDigits 10 n := by
    rw [decimal_natCast, List.map_map]
    calc (Nat.toDigits 10 n).map _ = (Nat.toDigits 10 n).map id := by
          apply List.map_congr_left
          intro c member
          rw [Function.comp_apply, (toNat_of_isDigit (digit_of_mem member)).2, Char.ofNat_toNat, id]
      _ = _ := List.map_id _
  rw [← Nat.ofDigitChars_ten_toDigits (n := k), ← back k, same, back j, Nat.ofDigitChars_ten_toDigits]

theorem zero_not_mem_channelname (k : Nat) : (0 : UInt8) ∉ channelname k := by
  rw [channelname, List.mem_append]
  exact fun zero => zero.elim (by decide) (zero_not_mem_decimal k)

theorem channelname_injective {k j : Nat} (same : channelname k = channelname j) : k = j :=
  decimal_injective (List.append_cancel_left same)

theorem Names.channel {path : Mem UInt8} {start k j : Nat} (named : Names path start (channelname k))
    (other : Names path start (channelname j)) : k = j :=
  channelname_injective
    (named.unique other (zero_not_mem_channelname k) (zero_not_mem_channelname j))

theorem streamid?_eq_some_iff {conf : Conf} {path : Mem UInt8} {k : Nat} :
    streamid? conf path = some k ↔
      k ≤ imageSourceChannelMax ∧ Names path (conf.object.length + 1) (channelname k) := by
  constructor
  · intro found
    have member := List.mem_range.mp (List.mem_of_find?_eq_some found)
    have named := List.find?_some found
    exact ⟨Nat.le_of_lt_succ member, of_decide_eq_true named⟩
  · rintro ⟨le, named⟩
    cases found : streamid? conf path with
    | none =>
        have unnamed := List.find?_eq_none.mp found k (List.mem_range.mpr (Nat.lt_succ_of_le le))
        exact absurd (decide_eq_true named) unnamed
    | some j =>
        have other := List.find?_some found
        rw [Names.channel named (of_decide_eq_true other)]

/-! ## The decision -/

def chosen (conf : Conf) (path : Mem UInt8) : Option Nat :=
  if UnderObject conf path then streamid? conf path else none

theorem reachesStream_eq (conf : Conf) (r : Request) (c : RTSPContext) :
    reachesStream conf r c =
      if c.state = .idle ∨ c.state = .ready then chosen conf r.path else none := by
  unfold reachesStream chosen
  by_cases under : UnderObject conf r.path <;> simp [under]

theorem rtspCmdSetup_of_chosen_none {conf : Conf} {r : Request} (unchosen : chosen conf r.path = none)
    (e : Env) (c : RTSPContext) :
    rtspCmdSetup conf r e c = .ok (c, rtspReplyError c e.date .aggregate) ∨
      rtspCmdSetup conf r e c = .ok (c, rtspReplyError c e.date .service) := by
  unfold chosen at unchosen
  unfold rtspCmdSetup
  split at unchosen
  · rename_i under
    rw [if_neg (not_not.mpr under), unchosen]
    exact .inr rfl
  · rename_i outside
    rw [if_pos outside]
    exact .inl rfl

theorem rtspCmdSetup_of_chosen_some {conf : Conf} {r : Request} {k : Nat}
    (proceeds : chosen conf r.path = some k) (e : Env) (c : RTSPContext) :
    rtspCmdSetup conf r e c =
      if c.state ≠ .idle ∧ c.state ≠ .ready then .ok (c, rtspReplyError c e.date .state)
      else
        .ok (setupStream conf e k (createSession c r.header e.rand).1
          (createSession c r.header e.rand).2) := by
  unfold chosen at proceeds
  split at proceeds
  · rename_i under
    rw [rtspCmdSetup, if_neg (not_not.mpr under), proceeds]
  · cases proceeds

def Addresses (conf : Conf) (s : Bytes) (k : Nat) : Prop :=
  k ≤ imageSourceChannelMax ∧ s = conf.object ++ slash :: channelname k

/-- Wherever the string `s` lies in memory, a SETUP on it goes on with the stream that it addresses,
and is refused where it addresses none. -/
structure MatchedExactly (conf : Conf) (s : Bytes) : Prop where
  proceeds : ∀ path, Names path 0 s → ∀ k, chosen conf path = some k ↔ Addresses conf s k
  refused : ∀ r, Names r.path 0 s → (∀ k, ¬ Addresses conf s k) → ∀ e c,
    ∃ reply, rtspCmdSetup conf r e c = .ok (c, reply) ∧ reply.status ≠ .ok
  terminated : ∀ path path', Names path 0 s → Names path' 0 s → chosen conf path = chosen conf path'

theorem chosen_eq_some_iff {conf : Conf} {path : Mem UInt8} {s : Bytes} (named : Names path 0 s)
    (object : 0 ∉ conf.object) (string : 0 ∉ s) (longer : s ≠ conf.object) {k : Nat} :
    chosen conf path = some k ↔
      k ≤ imageSourceChannelMax ∧ ∃ x, s = conf.object ++ x :: channelname k := by
  have under : UnderObject conf path ↔ conf.object <+: s := slice_eq_iff_prefix named object
  unfold chosen
  split_ifs with inside
  · obtain ⟨rest, rfl⟩ := under.mp inside
    obtain _ | ⟨x, rest⟩ := rest
    · exact absurd (List.append_nil _) longer
    · have behind := (names_cons.mp (names_append named)).2
      have string : 0 ∉ rest :=
        List.not_mem_of_not_mem_cons fun zero => string (List.mem_append_right _ zero)
      rw [Nat.zero_add] at behind
      rw [streamid?_eq_some_iff]
      constructor
      · rintro ⟨le, channel⟩
        rw [behind.unique channel string (zero_not_mem_channelname k)]
        exact ⟨le, x, rfl⟩
      · rintro ⟨le, y, same⟩
        obtain ⟨rfl, rfl⟩ := List.cons_eq_cons.mp (List.append_cancel_left same)
        exact ⟨le, behind⟩
  · refine ⟨nofun, ?_⟩
    rintro ⟨-, x, same⟩
    exact absurd (under.mpr ⟨x :: channelname k, same.symm⟩) inside

/-- The object name alone, with the name of stream 0 behind its terminating zero. -/
theorem chosen_behind_object (conf : Conf) :
    ∃ path, Names path 0 conf.object ∧ chosen conf path = some 0 := by
  let cells := (conf.object ++ 0 :: channelname 0) ++ [0]
  refine ⟨Mem.store (fun _ => 0) 0 cells, ?_, ?_⟩
  · have string := names_store (fun _ => 0) conf.object (channelname 0 ++ [0])
    rwa [← List.cons_append, ← List.append_assoc] at string
  · have whole : Names (Mem.store (fun _ => 0) 0 cells) 0 (conf.object ++ 0 :: channelname 0) := by
      have stored := Mem.slice_store_self (fun _ => 0) 0 cells
      rwa [List.length_append] at stored
    have behind := (names_cons.mp (names_append whole)).2
    rw [Nat.zero_add] at behind
    have under : UnderObject conf (Mem.store (fun _ => 0) 0 cells) := by
      have cut := congrArg (List.take conf.object.length) whole
      rw [Mem.take_slice _ _ _ _ (by simp; omega), List.append_assoc, List.take_left] at cut
      exact cut
    rw [chosen, if_pos under, streamid?_eq_some_iff]
    exact ⟨Nat.zero_le _, behind⟩

theorem rtspCmdSetup_matchedExactly_iff (conf : Conf) (s : Bytes) (object : 0 ∉ conf.object)
    (string : 0 ∉ s) :
    MatchedExactly conf s ↔ s ≠ conf.object ∧
      ∀ x, x ≠ slash → ∀ k ≤ imageSourceChannelMax, s ≠ conf.object ++ x :: channelname k := by
  have stored : Names (Mem.store (fun _ => 0) 0 (s ++ [0])) 0 s := names_store _ s []
  constructor
  · intro exactly
    constructor
    · rintro rfl
      obtain ⟨path, named, some0⟩ := chosen_behind_object conf
      have shorter := congrArg List.length ((exactly.proceeds path named 0).mp some0).2
      simp at shorter
    · rintro x other k le rfl
      have longer : conf.object ++ x :: channelname k ≠ conf.object := by simp
      have proceeded := (chosen_eq_some_iff stored object string longer).mpr ⟨le, x, rfl⟩
      have slashed := List.append_cancel_left ((exactly.proceeds _ stored k).mp proceeded).2
      exact other (List.cons_eq_cons.mp slashed).1
  · rintro ⟨longer, separated⟩
    have addressed (path : Mem UInt8) (named : Names path 0 s) (k : Nat) :
        chosen conf path = some k ↔ Addresses conf s k := by
      rw [chosen_eq_some_iff named object string longer, Addresses]
      constructor
      · rintro ⟨le, x, same⟩
        have slashed : x = slash := by
          by_contra other
          exact separated x other k le same
        exact ⟨le, slashed ▸ same⟩
      · rintro ⟨le, same⟩
        exact ⟨le, slash, same⟩
    refine ⟨addressed, ?_, ?_⟩
    · intro r named unaddressed e c
      have unchosen : chosen conf r.path = none := by
        rw [Option.eq_none_iff_forall_ne_some]
        intro k proceeded
        exact unaddressed k ((addressed r.path named k).mp proceeded)
      rcases rtspCmdSetup_of_chosen_none unchosen e c with answered | answered
      · exact ⟨_, answered, nofun⟩
      · exact ⟨_, answered, nofun⟩
    · intro path path' named named'
      apply Option.ext
      intro k
      rw [addressed path named, addressed path' named']

theorem desktopPath_matchedExactly : MatchedExactly desktopConf (ascii "/desktop/streamid=0") := by
  rw [rtspCmdSetup_matchedExactly_iff _ _ (by decide) (by decide)]
  refine ⟨by decide, ?_⟩
  rintro x other k - same
  have path : ascii "/desktop/streamid=0" = desktopConf.object ++ slash :: channelname 0 := by decide
  have behind := List.append_cancel_left (path.symm.trans same)
  exact other (List.cons_eq_cons.mp behind).1.symm

/-- `/desktop?streamid=0` sets up stream 0. -/
theorem not_rtspCmdSetup_matchedExactly :
    ¬ ∀ (conf : Conf) (s : Bytes), 0 ∉ conf.object → 0 ∉ s → MatchedExactly conf s := by
  intro exactly
  have matched := exactly desktopConf (ascii "/desktop?streamid=0") (by decide) (by decide)
  have named : Names (Mem.store (fun _ => 0) 0 (ascii "/desktop?streamid=0" ++ [0])) 0
      (ascii "/desktop?streamid=0") := names_store _ _ []
  have proceeded : chosen desktopConf
      (Mem.store (fun _ => 0) 0 (ascii "/desktop?streamid=0" ++ [0])) = some 0 := by
    decide +kernel
  have addressed := ((matched.proceeds _ named 0).mp proceeded).2
  exact absurd addressed (by decide)

end GamingAnywhere.Rtsp
