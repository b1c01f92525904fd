import GamingAnywhere.Lib.Composition
import GamingAnywhere.Server.Fanout
import GamingAnywhere.Video.Path

/-!
# From the screen to the clients

The path of a video channel together with the connections and the encoder threads of the server. The encoder of the
path and one of these threads are one thread, from its start to its end, so that the two are always at the same place;
what it takes from the path goes through the codec and on to the clients.
-/

namespace GamingAnywhere.Server
open Lib Rtsp Encoder Video Pipeline

/-! ## One thread -/

/-- The places of the two models of `vencoder_threadproc` that are the same place of the source. -/
def SamePlace {ι α : Type*} : EncoderPlace α → ThreadPlace ι → Prop
  | .top, .init | .top, .running | .top, .load => True
  | .waiting, .timedwait | .woken, .reload => True
  | .loaded _, .convert | .used _ _ _, .convert | .released _, .encode => True
  | .sending, .tryrdlock | .sending, .launchedTest | .sending, .send _ => True
  | .ended, .quit | .ended, .ended => True
  | _, _ => False

/-- `pic_in`, once a frame has been taken, and the state of the codec. -/
structure EncoderContext (κ : Type*) where
  codec : κ
  picIn : Option Picture

structure Broadcast (ι α β κ : Type*) where
  path : VideoPath α
  fan : Fanout ι β
  context : EncoderContext κ

/-- The step of the path and that of the connections and threads. -/
abbrev BroadcastEvent (ι α β : Type*) := Option (VideoEvent α) × Option (FanoutEvent ι β)

def Foreign {α : Type*} : VideoEvent α → Prop
  | .upstream _ | .capture _ | .convert _ _ | .downstream (.other _) => True
  | _ => False

def Passive {ι α : Type*} : EncoderEvent ι α → Prop
  | .other _ | .use _ _ _ | .encode _ _ _ => False
  | _ => True

section
variable {ι α β κ : Type*} [DecidableEq ι] [DecidableEq α]

/-- What goes together: the source and the filter go on alone, and so do the connections and the other threads. The
thread `tid` takes a frame, encodes it with the timestamp that it has computed, or goes on otherwise. -/
inductive Together (codec : Transducer κ (Picture × Int) β) (tid : Nat) (x : EncoderContext κ) :
    BroadcastEvent ι α β → EncoderContext κ → Prop
  | source {l : VideoEvent α} : Foreign l → Together codec tid x (some l, none) x
  | server {m : FanoutEvent ι β} : m.party ≠ .thread tid → Together codec tid x (none, some m) x
  | take {data : α} {picture : Picture} {ret : Option Int} :
      Together codec tid x (some (.use data picture ret), none) { x with picIn := some picture }
  | failed {picture : Picture} {pts synced : Int} {m : FanoutEvent ι β} :
      x.picIn = some picture → codec.next x.codec (picture, pts) = none →
      m.party = .thread tid ∧ encodedBy tid m = none →
      Together codec tid x (some (.downstream (.encode pts synced none)), some m) x
  | buffered {picture : Picture} {pts synced : Int} {k : κ} {m : FanoutEvent ι β} :
      x.picIn = some picture → codec.next x.codec (picture, pts) = some (k, none) →
      m.party = .thread tid ∧ encodedBy tid m = none →
      Together codec tid x (some (.downstream (.encode pts synced (some false))), some m) { x with codec := k }
  | encoded {picture : Picture} {pts synced : Int} {k : κ} {p : β} :
      x.picIn = some picture → codec.next x.codec (picture, pts) = some (k, some p) →
      Together codec tid x (some (.downstream (.encode pts synced (some true))), some (.encoded tid p))
        { x with codec := k }
  | goesOn {e : Option (EncoderEvent Stage α)} {m : Option (FanoutEvent ι β)} :
      (∀ event ∈ e, Passive event) → (∀ event ∈ m, event.party = .thread tid ∧ encodedBy tid event = none) →
      Together codec tid x (e.map .downstream, m) x

variable (c : Conversion) (picture : Fin maxStride → Int) (source filter : Pool α) (conf : Conf) (cfg : Setup)
  (channel : Proc → StreamId) (codec : Transducer κ (Picture × Int) β) (tid : Nat)

def Broadcast.Coupled (tid : Nat) (s : Broadcast ι α β κ) : Prop :=
  ∃ th, s.fan.server.registry.threads[tid]? = some th ∧ SamePlace s.path.downstream.place th.place

structure BroadcastStep (s : Broadcast ι α β κ) (l : BroadcastEvent ι α β) (t : Broadcast ι α β κ) : Prop where
  path : (videoPath c picture source filter).Moves s.path l.1 t.path
  fan : (fanout ι β conf cfg channel).Moves s.fan l.2 t.fan
  context : Together codec tid s.context l t.context
  coupled : t.Coupled tid

/-- A thread of the channel begins, behind anything that has happened before. -/
def broadcast : System (Broadcast ι α β κ) (BroadcastEvent ι α β) where
  Init s := (∃ captured converted before,
      (videoPath c picture source filter).Run (.start source filter captured converted) before s.path) ∧
    (∃ before, (fanout ι β conf cfg channel).Run (.start ι β) before s.fan) ∧ s.path.downstream.place = .top ∧
    (∃ k, s.fan.server.registry.threads[tid]? = some ⟨.video k, .init, 0, false⟩) ∧ s.context = ⟨codec.opened, none⟩
  Step := BroadcastStep c picture source filter conf cfg channel codec tid

/-! ## What the thread takes and what it encodes -/

def takenOf (l : BroadcastEvent ι α β) : Option Picture := l.1.bind VideoEvent.used

def stampOf (l : BroadcastEvent ι α β) : Option Int := l.1.bind VideoEvent.stamp

def encodedOf (tid : Nat) (l : BroadcastEvent ι α β) : Option β := l.2.bind (encodedBy tid)

def receivedOf (tid : Nat) (d : ι) (l : BroadcastEvent ι α β) : Option β := l.2.bind (receivedBy tid d)

def Unencoded (x : EncoderContext κ) (state : Option κ) : EncoderPlace α → List Picture → Prop
  | .used _ _ _, rest | .released _, rest => state = some x.codec ∧ ∃ picture, x.picIn = some picture ∧ rest = [picture]
  | .ended, rest => rest.length ≤ 1
  | _, rest => state = some x.codec ∧ rest = []

omit [DecidableEq α] in
theorem Unencoded.length_le {x : EncoderContext κ} {state : Option κ} {place : EncoderPlace α} {rest : List Picture}
    (holds : Unencoded x state place rest) : rest.length ≤ 1 := by
  unfold Unencoded at holds
  split at holds
  · obtain ⟨-, picture, -, rfl⟩ := holds
    exact Nat.le_refl 1
  · obtain ⟨-, picture, -, rfl⟩ := holds
    exact Nat.le_refl 1
  · exact holds
  · rw [holds.2]
    exact Nat.zero_le 1

structure Encodes (codec : Transducer κ (Picture × Int) β) (taken : List Picture) (stamps : List Int) (out : List β)
    (x : EncoderContext κ) (place : EncoderPlace α) (inputs : List (Picture × Int)) (rest : List Picture)
    (state : Option κ) : Prop where
  taken : taken = inputs.map Prod.fst ++ rest
  stamps : inputs.map Prod.snd = stamps
  outputs : codec.outputs inputs = (state, out)
  place : Unencoded x state place rest

variable {c picture source filter conf cfg channel codec tid} {s t : Broadcast ι α β κ} {l : BroadcastEvent ι α β}
  {ls : List (BroadcastEvent ι α β)}

theorem foreign_place {p q : VideoPath α} {l : VideoEvent α} (step : VideoStep c picture p l q) (other : Foreign l) :
    q.downstream.place = p.downstream.place ∧ l.used = none ∧ l.stamp = none := by
  cases step with
  | upstream | capture | convert => exact ⟨rfl, rfl, rfl⟩
  | allocate _ _ taken | abort _ _ taken | storing _ _ taken | store _ _ taken =>
      exact ⟨taken.of_other.2.2, rfl, rfl⟩
  | @encoder event d plain taken =>
      cases event with
      | other => exact plain.elim
      | _ => exact other.elim
  | use | restart => exact other.elim

theorem own_step {p q : VideoPath α} {event : EncoderEvent Stage α}
    (step : VideoStep c picture p (.downstream event) q) (own : ∀ other, event ≠ .other other) :
    EncoderStep .encoder picture p.downstream event q.downstream := by
  cases step with
  | allocate | abort | storing | store => exact absurd rfl (own _)
  | encoder _ taken => exact taken

theorem use_places {p q : VideoPath α} {data : α} {used : Picture} {ret : Option Int}
    (step : VideoStep c picture p (.use data used ret) q) :
    p.downstream.place = .loaded data ∧ ∃ imgpts copied, q.downstream.place = .used data imgpts copied := by
  cases step with
  | use taken =>
      cases taken with
      | use _ place => exact ⟨place, _, _, rfl⟩

/-- Where the thread is once the codec has failed, has kept the frame, or has made a packet. -/
def placeEncoded : Option Bool → EncoderPlace α
  | none => .ended
  | some false => .top
  | some true => .sending

theorem encode_places {p q : VideoPath α} {pts synced : Int} {got : Option Bool}
    (step : VideoStep c picture p (.downstream (.encode pts synced got)) q) :
    ∃ imgpts, p.downstream.place = .released imgpts ∧ q.downstream.place = placeEncoded got := by
  have taken := own_step step (by rintro _ ⟨⟩)
  generalize q.downstream = d at taken
  cases taken with
  | encode _ place => exact ⟨_, place, rfl⟩

omit [DecidableEq ι] in
theorem encodedBy_of_party {m : FanoutEvent ι β} (other : m.party ≠ .thread tid) : encodedBy tid m = none := by
  cases m with
  | encoded moved p =>
      refine if_neg fun same => other ?_
      rw [FanoutEvent.party, same]
  | _ => rfl

omit [DecidableEq α] in
theorem Passive.encoded {event : EncoderEvent Stage α} (passive : Passive event) : event.encoded = none := by
  cases event with
  | encode => exact passive.elim
  | _ => rfl

theorem unencoded_kept {x : EncoderContext κ} {d d' : EncoderState Stage α} {event : EncoderEvent Stage α}
    {state : Option κ} {rest : List Picture} (step : EncoderStep .encoder picture d event d')
    (passive : Passive event) (holds : Unencoded x state d.place rest) : Unencoded x state d'.place rest := by
  cases step with
  | other | use | encode => exact passive.elim
  | stop _ place =>
      rw [place] at holds
      exact holds.length_le
  | @load found _ place _ | @reload found _ place _ =>
      rw [place] at holds
      cases found <;> exact holds
  | timeout _ place | wake _ place =>
      rw [place] at holds
      exact holds
  | @release _ _ taken _ place _ =>
      rw [place] at holds
      cases taken with
      | true => exact holds
      | false => exact holds.length_le
  | @send sent _ place =>
      rw [place] at holds
      cases sent with
      | true => exact holds
      | false => exact holds.length_le

section
variable {taken : List Picture} {stamps : List Int} {out : List β} {x : EncoderContext κ} {place : EncoderPlace α}
  {inputs : List (Picture × Int)} {rest : List Picture} {state : Option κ} {frame : Picture} {imgpts pts : Int}

omit [DecidableEq α] in
theorem Encodes.moved (holds : Encodes codec taken stamps out x place inputs rest state) {place' : EncoderPlace α}
    (kept : Unencoded x state place' rest) : Encodes codec taken stamps out x place' inputs rest state :=
  ⟨holds.taken, holds.stamps, holds.outputs, kept⟩

omit [DecidableEq α] in
theorem Encodes.took {data : α} (holds : Encodes codec taken stamps out x (.loaded data) inputs rest state)
    (frame : Picture) (imgpts : Int) (copied : Bool) :
    Encodes codec (taken ++ [frame]) stamps out { x with picIn := some frame } (.used data imgpts copied) inputs
      [frame] state := by
  obtain ⟨opened, rfl⟩ := holds.place
  refine ⟨?_, holds.stamps, holds.outputs, opened, frame, rfl, rfl⟩
  rw [holds.taken, List.append_nil]

omit [DecidableEq α] in
theorem Encodes.fed (holds : Encodes codec taken stamps out x (.released imgpts : EncoderPlace α) inputs rest state)
    (picIn : x.picIn = some frame) (pts : Int) :
    taken = (inputs ++ [(frame, pts)]).map Prod.fst ++ [] ∧
      (inputs ++ [(frame, pts)]).map Prod.snd = stamps ++ [pts] ∧ codec.outputs inputs = (some x.codec, out) := by
  obtain ⟨rfl, frame', here, rfl⟩ := holds.place
  obtain rfl := Option.some.inj (picIn.symm.trans here)
  refine ⟨?_, ?_, holds.outputs⟩
  · simp [holds.taken]
  · simp [holds.stamps]

omit [DecidableEq α] in
theorem Encodes.failed (holds : Encodes codec taken stamps out x (.released imgpts : EncoderPlace α) inputs rest state)
    (picIn : x.picIn = some frame) (next : codec.next x.codec (frame, pts) = none) :
    Encodes codec taken (stamps ++ [pts]) out x (placeEncoded none : EncoderPlace α) (inputs ++ [(frame, pts)]) []
      none := by
  obtain ⟨fed, stamped, outputs⟩ := holds.fed picIn pts
  exact ⟨fed, stamped, Transducer.outputs_none outputs next, Nat.zero_le 1⟩

omit [DecidableEq α] in
theorem Encodes.made (holds : Encodes codec taken stamps out x (.released imgpts : EncoderPlace α) inputs rest state)
    (picIn : x.picIn = some frame) {k : κ} {o : Option β} (next : codec.next x.codec (frame, pts) = some (k, o)) :
    Encodes codec taken (stamps ++ [pts]) (out ++ o.toList) { x with codec := k }
      (placeEncoded (some o.isSome) : EncoderPlace α) (inputs ++ [(frame, pts)]) [] (some k) := by
  obtain ⟨fed, stamped, outputs⟩ := holds.fed picIn pts
  refine ⟨fed, stamped, Transducer.outputs_some outputs next, ?_⟩
  cases o <;> exact ⟨rfl, rfl⟩

end

def Broadcast.Encodes (codec : Transducer κ (Picture × Int) β) (s : Broadcast ι α β κ) (taken : List Picture)
    (stamps : List Int) (out : List β) : Prop :=
  ∃ inputs rest state, Server.Encodes codec taken stamps out s.context s.path.downstream.place inputs rest state

theorem BroadcastStep.passes {e : Option (EncoderEvent Stage α)} {p q : VideoPath α} {x : EncoderContext κ}
    {state : Option κ} {rest : List Picture} (path : (videoPath c picture source filter).Moves p (e.map .downstream) q)
    (passive : ∀ event ∈ e, Passive event) (holds : Unencoded x state p.downstream.place rest) :
    Unencoded x state q.downstream.place rest := by
  cases e with
  | none =>
      have same : q = p := path
      rwa [same]
  | some event =>
      have passive := passive event rfl
      refine unencoded_kept (own_step path.2.2.2 fun other same => ?_) passive holds
      rw [same] at passive
      exact passive

theorem BroadcastStep.encodes {taken : List Picture} {stamps : List Int} {out : List β}
    (step : BroadcastStep c picture source filter conf cfg channel codec tid s l t)
    (holds : s.Encodes codec taken stamps out) :
    t.Encodes codec (taken ++ (takenOf l).toList) (stamps ++ (stampOf l).toList)
      (out ++ (encodedOf tid l).toList) := by
  obtain ⟨inputs, rest, state, holds⟩ := holds
  obtain ⟨path, fan, context, -⟩ := step
  unfold Broadcast.Encodes
  generalize t.context = x' at context ⊢
  cases context with
  | @source e other =>
      obtain ⟨same, unused, unstamped⟩ := foreign_place path.2.2.2 other
      rw [← same] at holds
      exact ⟨inputs, rest, state, by simpa [takenOf, stampOf, encodedOf, unused, unstamped] using holds⟩
  | server other =>
      have same : t.path = s.path := path
      rw [← same] at holds
      exact ⟨inputs, rest, state, by simpa [takenOf, stampOf, encodedOf, encodedBy_of_party other] using holds⟩
  | @take data frame ret =>
      obtain ⟨loaded, imgpts, copied, used⟩ := use_places path.2.2.2
      rw [loaded] at holds
      rw [used]
      have took := holds.took frame imgpts copied
      refine ⟨inputs, [frame], state, ?_⟩
      simpa [takenOf, stampOf, encodedOf, VideoEvent.used, VideoEvent.stamp] using took
  | @failed frame pts synced m picIn next own =>
      obtain ⟨imgpts, released, ended⟩ := encode_places path.2.2.2
      rw [released] at holds
      rw [ended]
      refine ⟨inputs ++ [(frame, pts)], [], none, ?_⟩
      simpa [takenOf, stampOf, encodedOf, VideoEvent.used, VideoEvent.stamp, EncoderEvent.encoded, own.2] using
        holds.failed picIn next
  | @buffered frame pts synced k m picIn next own =>
      obtain ⟨imgpts, released, top⟩ := encode_places path.2.2.2
      rw [released] at holds
      rw [top]
      refine ⟨inputs ++ [(frame, pts)], [], some k, ?_⟩
      simpa [takenOf, stampOf, encodedOf, VideoEvent.used, VideoEvent.stamp, EncoderEvent.encoded, own.2] using
        holds.made picIn next
  | @encoded frame pts synced k p picIn next =>
      obtain ⟨imgpts, released, sending⟩ := encode_places path.2.2.2
      rw [released] at holds
      rw [sending]
      refine ⟨inputs ++ [(frame, pts)], [], some k, ?_⟩
      simpa [takenOf, stampOf, encodedOf, encodedBy, VideoEvent.used, VideoEvent.stamp, EncoderEvent.encoded] using
        holds.made picIn next
  | @goesOn event m passive own =>
      have silent : m.bind (encodedBy tid) = none := by
        cases m with
        | none => rfl
        | some m => exact (own m rfl).2
      have kept := holds.moved (BroadcastStep.passes path passive holds.place)
      refine ⟨inputs, rest, state, ?_⟩
      cases event with
      | none => simpa [takenOf, stampOf, encodedOf, silent] using kept
      | some event =>
          simpa [takenOf, stampOf, encodedOf, silent, VideoEvent.used, VideoEvent.stamp,
            (passive event rfl).encoded] using kept

/-! ## The timestamps -/

theorem path_pts {p q : VideoPath α} {l : VideoEvent α} (step : VideoStep c picture p l q) (same : l ≠ .restart) :
    q.downstream.times.pts = l.stamp.getD p.downstream.times.pts ∧ ∀ pts ∈ l.stamp, p.downstream.times.pts < pts := by
  cases step with
  | upstream | capture | convert => exact ⟨rfl, nofun⟩
  | allocate _ _ taken | abort _ _ taken | storing _ _ taken | store _ _ taken | encoder _ taken | use taken =>
      exact taken.pts rfl
  | restart => exact absurd rfl same

omit [DecidableEq ι] [DecidableEq α] in
theorem Together.not_restart {x x' : EncoderContext κ} (together : Together codec tid x l x') :
    l.1 ≠ some .restart := by
  cases together with
  | source other =>
      rintro ⟨⟩
      exact other
  | @goesOn e => cases e <;> nofun
  | server | take | failed | buffered | encoded => nofun

theorem BroadcastStep.pts (step : BroadcastStep c picture source filter conf cfg channel codec tid s l t) :
    t.path.downstream.times.pts = (stampOf l).getD s.path.downstream.times.pts ∧
      ∀ pts ∈ stampOf l, s.path.downstream.times.pts < pts := by
  obtain ⟨path, -, context, -⟩ := step
  have runs := context.not_restart
  obtain ⟨e, m⟩ := l
  cases e with
  | none =>
      have same : t.path = s.path := path
      rw [same]
      exact ⟨rfl, nofun⟩
  | some e => exact path_pts path.2.2.2 fun restart => runs (congrArg some restart)

theorem broadcast_stamps (run : (broadcast c picture source filter conf cfg channel codec tid).Run s ls t) :
    (s.path.downstream.times.pts :: ls.filterMap stampOf).IsChain (· < ·) := by
  refine run.isChain (I := fun _ => True) (fun s b => s.path.downstream.times.pts = b) (fun _ _ _ _ _ => trivial)
    ?_ ?_ trivial rfl
  · rintro s l t b - step silent rfl
    have kept := (BroadcastStep.pts step).1
    rwa [silent] at kept
  · rintro s l t b e - step shown rfl
    obtain ⟨after, later⟩ := BroadcastStep.pts step
    rw [shown] at after
    exact ⟨later e shown, after⟩

/-! ## One step -/

variable {p p' : VideoPath α} {f f' : Fanout ι β} {x : EncoderContext κ} {e : EncoderEvent Stage α}
  {m : FanoutEvent ι β}

omit [DecidableEq ι] [DecidableEq α] in
theorem mine_of_mem (mine : m.party = .thread tid ∧ encodedBy tid m = none) :
    ∀ event ∈ some m, event.party = .thread tid ∧ encodedBy tid event = none := by
  rintro event ⟨⟩
  exact mine

theorem BroadcastStep.alone (fan : FanoutStep conf cfg channel f m f')
    (mine : m.party = .thread tid ∧ encodedBy tid m = none)
    (coupled : Broadcast.Coupled tid (⟨p, f', x⟩ : Broadcast ι α β κ)) :
    BroadcastStep c picture source filter conf cfg channel codec tid ⟨p, f, x⟩ (none, some m) ⟨p, f', x⟩ :=
  ⟨rfl, fan, .goesOn (e := none) nofun (mine_of_mem mine), coupled⟩

theorem BroadcastStep.both (path : (videoPath c picture source filter).Step p (.downstream e) p') (passive : Passive e)
    (fan : FanoutStep conf cfg channel f m f') (mine : m.party = .thread tid ∧ encodedBy tid m = none)
    (coupled : Broadcast.Coupled tid (⟨p', f', x⟩ : Broadcast ι α β κ)) :
    BroadcastStep c picture source filter conf cfg channel codec tid ⟨p, f, x⟩ (some (.downstream e), some m)
      ⟨p', f', x⟩ := by
  refine ⟨path, fan, .goesOn (e := some e) ?_ (mine_of_mem mine), coupled⟩
  rintro event ⟨⟩
  exact passive

theorem BroadcastStep.takes {data : α} {taken : Picture} (ret : Option Int)
    (path : (videoPath c picture source filter).Step p (.use data taken ret) p')
    (coupled : Broadcast.Coupled tid (⟨p', f, x⟩ : Broadcast ι α β κ)) :
    BroadcastStep c picture source filter conf cfg channel codec tid ⟨p, f, x⟩ (some (.use data taken ret), none)
      ⟨p', f, { x with picIn := some taken }⟩ :=
  ⟨path, rfl, .take, coupled⟩

theorem BroadcastStep.makes {taken : Picture} {pts synced : Int} {k : κ} {out : β}
    (path : (videoPath c picture source filter).Step p (.downstream (.encode pts synced (some true))) p')
    (fan : FanoutStep conf cfg channel f (.encoded tid out) f') (picIn : x.picIn = some taken)
    (next : codec.next x.codec (taken, pts) = some (k, some out))
    (coupled : Broadcast.Coupled tid (⟨p', f', x⟩ : Broadcast ι α β κ)) :
    BroadcastStep c picture source filter conf cfg channel codec tid ⟨p, f, x⟩
      (some (.downstream (.encode pts synced (some true))), some (.encoded tid out)) ⟨p', f', { x with codec := k }⟩ :=
  ⟨path, fan, .encoded picIn next, coupled⟩

/-! ## All of the way -/

omit [DecidableEq ι] [DecidableEq α] in
theorem filterMap_encodedOf : ls.filterMap (encodedOf tid) = (ls.filterMap Prod.snd).filterMap (encodedBy tid) :=
  List.filterMap_filterMap.symm

omit [DecidableEq α] in
theorem filterMap_receivedOf {d : ι} :
    ls.filterMap (receivedOf tid d) = (ls.filterMap Prod.snd).filterMap (receivedBy tid d) :=
  List.filterMap_filterMap.symm

theorem Broadcast.path_run (run : (broadcast c picture source filter conf cfg channel codec tid).Run s ls t) :
    (videoPath c picture source filter).Run s.path (ls.filterMap Prod.fst) t.path :=
  run.part Broadcast.path Prod.fst fun _ _ _ step => BroadcastStep.path step

theorem Broadcast.fan_run (run : (broadcast c picture source filter conf cfg channel codec tid).Run s ls t) :
    (fanout ι β conf cfg channel).Run s.fan (ls.filterMap Prod.snd) t.fan :=
  run.part Broadcast.fan Prod.snd fun _ _ _ step => BroadcastStep.fan step

variable (c picture source filter conf cfg channel codec tid) in
def attended (d : ι) : System (Broadcast ι α β κ) (BroadcastEvent ι α β) :=
  (broadcast c picture source filter conf cfg channel codec tid).restrict fun s l _ =>
    (s.fan.server.ctx d).state = .playing ∧ l.2 ≠ some (.failed tid d)

theorem attended_fan {d : ι} (run : (attended c picture source filter conf cfg channel codec tid d).Run s ls t) :
    (playing conf cfg channel tid d).Run s.fan (ls.filterMap Prod.snd) t.fan := by
  refine run.part Broadcast.fan Prod.snd fun s l t step => ?_
  obtain ⟨⟨playing, writes⟩, step⟩ := step
  have fan := step.fan
  obtain ⟨e, m⟩ := l
  cases m with
  | none => exact fan
  | some m => exact ⟨⟨playing, fun failed => writes (congrArg some failed)⟩, fan⟩

variable (c picture source filter conf cfg channel codec tid) in
structure Broadcast.Delivers (s : Broadcast ι α β κ) (ls : List (BroadcastEvent ι α β)) (t : Broadcast ι α β κ) :
    Prop where
  passed : ∀ captured converted before,
    (videoPath c picture source filter).Run (.start source filter captured converted) before s.path →
    System.Passed c.Converts VideoEvent.captured VideoEvent.used VideoEvent.steals (before ++ ls.filterMap Prod.fst)
  encoded : ∃ inputs rest, ls.filterMap takenOf = inputs.map Prod.fst ++ rest ∧ rest.length ≤ 1 ∧
    ls.filterMap stampOf = inputs.map Prod.snd ∧ ls.filterMap (encodedOf tid) = (codec.outputs inputs).2
  increases : (ls.filterMap stampOf).IsChain (· < ·)
  received : ∀ d, (ls.filterMap (receivedOf tid d)).Sublist (ls.filterMap (encodedOf tid))
  all : ∀ d th, d ∈ t.fan.server.registry.clients → t.fan.server.registry.threads[tid]? = some th →
    (t.fan.server.ctx d).fmtctx (channel th.proc) ≠ none →
    ∀ ls' u, (attended c picture source filter conf cfg channel codec tid d).Run t ls' u →
      ∃ early late, early ++ ls'.filterMap (encodedOf tid) = ls'.filterMap (receivedOf tid d) ++ late ∧
        early.length ≤ 1 ∧ late.length ≤ 1

theorem Broadcast.encoded (begins : (broadcast c picture source filter conf cfg channel codec tid).Init s)
    (run : (broadcast c picture source filter conf cfg channel codec tid).Run s ls t) :
    t.Encodes codec (ls.filterMap takenOf) (ls.filterMap stampOf) (ls.filterMap (encodedOf tid)) := by
  obtain ⟨-, -, top, -, context⟩ := begins
  have start : s.Encodes codec [] [] [] := by
    refine ⟨[], [], some codec.opened, rfl, rfl, rfl, ?_⟩
    rw [top, context]
    exact ⟨rfl, rfl⟩
  refine run.history (I := fun ls s => s.Encodes codec (ls.filterMap takenOf) (ls.filterMap stampOf)
    (ls.filterMap (encodedOf tid))) (fun ls s l t holds step => ?_) [] start
  simp only [List.filterMap_append, List.filterMap_eq_flatMap_toList _ [l], List.flatMap_singleton]
  exact BroadcastStep.encodes step holds

end

section
variable {ι α β κ : Type*} [DecidableEq ι] [DecidableEq α]

theorem broadcast_delivers (c : Conversion) (picture : Fin maxStride → Int) (malloc malloc' : Nat → Option α)
    (distinct : Distinct malloc) (distinct' : Distinct malloc') (n n' datasize datasize' : Int) (source filter : Pool α)
    (init : datapoolInit malloc n datasize .start = some source)
    (init' : datapoolInit malloc' n' datasize' .start = some filter) (conf : Conf) (cfg : Setup)
    (channel : Proc → StreamId) (codec : Transducer κ (Picture × Int) β) (tid : Nat) (s t : Broadcast ι α β κ)
    (ls : List (BroadcastEvent ι α β))
    (begins : (broadcast c picture source filter conf cfg channel codec tid).Init s)
    (run : (broadcast c picture source filter conf cfg channel codec tid).Run s ls t) :
    s.Delivers c picture source filter conf cfg channel codec tid ls t := by
  have path := Broadcast.path_run run
  have fan := Broadcast.fan_run run
  obtain ⟨inputs, rest, state, taken, stamped, outputs, place⟩ := Broadcast.encoded begins run
  obtain ⟨-, ⟨served, serves⟩, -, ⟨k, here⟩, -⟩ := begins
  have reachable : (fanout ι β conf cfg channel).Reachable s.fan :=
    serves.invariant (fun s l t => System.Reachable.step) (.init rfl)
  have later : (fanout ι β conf cfg channel).Reachable t.fan :=
    fan.invariant (fun s l t => System.Reachable.step) reachable
  refine ⟨fun captured converted before reached => ?_, ?_, (broadcast_stamps run).of_cons, fun d => ?_,
    fun d th member found opened ls' u attends => ?_⟩
  · exact (videoPath_passed distinct distinct' init init' (reached.append path)).2
  · refine ⟨inputs, rest, taken, place.length_le, stamped.symm, ?_⟩
    rw [outputs]
  · have due : s.fan.due tid [] := by
      unfold Fanout.due
      rw [here]
      rfl
    have onWay : s.fan.onWay tid d = [] := by
      rw [Fanout.onWay, here]
      rfl
    obtain ⟨due', -, account⟩ := locked_account fan due
    have part := received_part reachable fan tid d
    rw [onWay] at part
    rw [filterMap_receivedOf, filterMap_encodedOf]
    have received := (List.sublist_append_left _ _).trans part
    have locked := List.sublist_append_left ((ls.filterMap Prod.snd).filterMap (lockedBy tid)) due'
    rw [account] at locked
    exact received.trans locked
  · have plays := attended_fan attends
    obtain ⟨due, waits⟩ := due_of_reachable later tid
    obtain ⟨due', waits', account⟩ := locked_account (System.Run.of_restrict plays) waits
    have all := received_all later member found opened plays
    refine ⟨t.fan.onWay tid d ++ due, u.fan.onWay tid d ++ due', ?_, Fanout.waiting_le waits d,
      Fanout.waiting_le waits' d⟩
    rw [filterMap_receivedOf, filterMap_encodedOf, List.append_assoc, ← account, ← List.append_assoc, all,
      List.append_assoc]

end

def eachAPacket : Transducer Unit (Picture × Int) Nat := ⟨(), fun _ _ => some ((), some 5)⟩

theorem broadcast_delivers_frame : ∃ (pool : Pool Nat) (s t : Broadcast Unit Nat Nat Unit)
    (ls : List (BroadcastEvent Unit Nat Nat)),
    ls.filterMap takenOf = [copying.convert (blank.capture 3 [7]) blank] ∧ ls.filterMap (receivedOf 0 ()) = [5] ∧
      s.Delivers copying (pictureLinesize 2) pool pool desktopConf oneChannel (fun _ => 0) eachAPacket 0 ls t := by
  obtain ⟨pool, init⟩ : ∃ pool, datapoolInit some 1 1 .start = some pool := ⟨_, rfl⟩
  have delivers (s t : Broadcast Unit Nat Nat Unit) (ls : List (BroadcastEvent Unit Nat Nat)) :=
    broadcast_delivers copying (pictureLinesize 2) some some distinct_some distinct_some 1 1 1 1 pool pool init init
      desktopConf oneChannel (fun _ => 0) eachAPacket 0 s t ls
  have starts {s : Broadcast Unit Nat Nat Unit} (begins : (broadcast copying (pictureLinesize 2) pool pool desktopConf
      oneChannel (fun _ => 0) eachAPacket 0).Init s) : (broadcast copying (pictureLinesize 2) pool pool desktopConf
      oneChannel (fun _ => 0) eachAPacket 0).Run s [] s := .nil s
  have p₀ : (videoPath copying (pictureLinesize 2) pool pool).Run (.start pool pool (fun _ => blank) fun _ => blank) []
    (.start pool pool (fun _ => blank) fun _ => blank) := .nil _
  obtain rfl := Option.some.inj init
  have told {r r' : Registry Unit} {th : Thread Unit} (here : r'.threads[0]? = some th)
      (elsewhere : th.place ≠ .tryrdlock ∧ ∀ left, th.place ≠ .send left) : Untold (.thread 0) r r' := by
    intro tid t t' party before after
    obtain rfl : 0 = tid := Party.thread.inj party
    obtain rfl := Option.some.inj (here.symm.trans after)
    exact ⟨fun _ => elsewhere.1, elsewhere.2⟩
  have quiet {r r' : Registry Unit} : Untold (.client ()) r r' := fun _ _ _ party => nomatch party
  have same {r r' : State Unit} (same : r'.ctx = r.ctx) : Inside desktopConf r r' := inside_of_ctx same
  -- the frame waits for the encoder
  have p₁ := p₀.snoc (l := .upstream (.pool (.allocate .source 0 false)))
    ⟨nofun, rfl, rfl, .upstream trivial (.allocate rfl (.allocate rfl rfl rfl))⟩
  have p₂ := p₁.snoc (l := .capture (blank.capture 3 [7])) ⟨nofun, rfl, rfl, .capture rfl rfl⟩
  have p₃ := p₂.snoc (l := .upstream (.pool (.storing .source 0)))
    ⟨nofun, rfl, rfl, .upstream rfl (.storing rfl (.storing rfl rfl (by decide)))⟩
  have p₄ := p₃.snoc (l := .upstream (.pool (.store .source 0)))
    ⟨nofun, rfl, rfl, .upstream trivial (.store rfl (.store rfl rfl))⟩
  have p₅ := p₄.snoc (l := .upstream .notify) ⟨nofun, rfl, rfl, .upstream trivial (.notify rfl)⟩
  have p₆ := p₅.snoc (l := .upstream (.pool (.load .filter (some 0))))
    ⟨nofun, rfl, rfl, .upstream rfl (.load rfl (.load rfl rfl rfl))⟩
  have p₇ := p₆.snoc (l := .downstream (.other (.allocate .filter 0 false)))
    ⟨nofun, rfl, rfl, .allocate rfl rfl (.other (by decide) (.allocate rfl rfl rfl))⟩
  have p₈ := p₇.snoc (l := .convert 0 0) ⟨nofun, rfl, rfl, .convert rfl rfl⟩
  have p₉ := p₈.snoc (l := .upstream (.pool (.release .filter 0)))
    ⟨nofun, rfl, rfl, .upstream ⟨0, rfl⟩ (.release rfl (.release rfl rfl (by decide)))⟩
  have p₁₀ := p₉.snoc (l := .downstream (.other (.storing .filter 0)))
    ⟨nofun, rfl, rfl, .storing rfl rfl (.other (by decide) (.storing rfl rfl (by decide)))⟩
  have stored := p₁₀.snoc (l := .downstream (.other (.store .filter 0)))
    ⟨nofun, rfl, rfl, .store rfl rfl (.other (by decide) (.store rfl rfl))⟩
  -- the client plays
  have f₀ : (fanout Unit Nat desktopConf oneChannel fun _ => 0).Run (.start Unit Nat) [] (.start Unit Nat) := .nil _
  have f₁ := f₀.snoc (.other (.request (c := ()) (r := desktopRequest .setup []) (e := obligingEnv)
    ⟨⟨none, rfl⟩, rfl⟩ (by decide) (fun registers => nomatch registers.2.1) rfl) quiet
    (inside_of_request (q := desktopRequest .setup []) (e := obligingEnv) rfl (desktopRequest_inside _ _ _)))
  have f₂ := f₁.snoc (.other (.play (c := ()) (r := desktopRequest .play (ascii "12345678"))
    (e := obligingEnv) ⟨⟨none, rfl⟩, rfl⟩ (by decide) ⟨rfl, rfl, rfl⟩) quiet (inside_of_place (c := ()) nofun))
  have f₃ := f₂.snoc
    (.other (.client (c := ()) nofun (.regWrlock rfl rfl (Registry.noReaders_nil rfl))) quiet (same rfl))
  have f₄ := f₃.snoc (.other (.client (c := ()) nofun (.regFirst rfl rfl)) quiet (same rfl))
  have f₅ := f₄.snoc (.other (.client (c := ()) nofun (.regVideo rfl (by decide))) quiet (same rfl))
  have f₆ := f₅.snoc (.other (.client (c := ()) nofun (.regVideoDone rfl)) quiet (same rfl))
  have f₇ := f₆.snoc (.other (.client (c := ()) nofun (.regAudio rfl rfl)) quiet (same rfl))
  have f₈ := f₇.snoc (.other (.client (c := ()) nofun (.regInsert rfl)) quiet (same rfl))
  have f₉ := f₈.snoc (.other (.client (c := ()) nofun (.regUnlock rfl)) quiet (same rfl))
  have played := f₉.snoc (.other (.played (c := ()) rfl rfl) quiet (inside_of_pending (c := ()) nofun))
  have begins : (broadcast copying (pictureLinesize 2) _ _ desktopConf oneChannel (fun _ => 0) eachAPacket 0).Init
      ⟨_, _, ⟨(), none⟩⟩ :=
    ⟨⟨_, _, _, stored⟩, ⟨_, played⟩, rfl, ⟨0, rfl⟩, rfl⟩
  have b₁ := (starts begins).snoc (BroadcastStep.alone
    (.other (.thread (.thread rfl (.started rfl))) (told rfl ⟨nofun, nofun⟩) (same rfl)) ⟨rfl, rfl⟩ ⟨_, rfl, trivial⟩)
  have b₂ := b₁.snoc (BroadcastStep.alone
    (.other (.thread (.thread rfl (.running rfl rfl))) (told rfl ⟨nofun, nofun⟩) (same rfl)) ⟨rfl, rfl⟩ ⟨_, rfl, trivial⟩)
  have b₃ := b₂.snoc (BroadcastStep.both (e := .load (some 0))
    ⟨nofun, rfl, rfl, .encoder trivial (.load rfl (.load rfl rfl rfl))⟩ trivial
    (.other (.thread (.thread rfl (.loaded rfl))) (told rfl ⟨nofun, nofun⟩) (same rfl)) ⟨rfl, rfl⟩ ⟨_, rfl, trivial⟩)
  have b₄ := b₃.snoc (BroadcastStep.takes (some 5) ⟨nofun, rfl, rfl, .use (.use rfl rfl)⟩ ⟨_, rfl, trivial⟩)
  have b₅ := b₄.snoc (BroadcastStep.both (e := .release 0)
    ⟨nofun, rfl, rfl, .encoder trivial (.release rfl (.release rfl rfl (by decide)))⟩ trivial
    (.other (.thread (.thread rfl (.converted rfl))) (told rfl ⟨nofun, nofun⟩) (same rfl)) ⟨rfl, rfl⟩ ⟨_, rfl, trivial⟩)
  have b₆ := b₅.snoc (BroadcastStep.makes
    ⟨nofun, rfl, rfl, .encoder trivial (.encode rfl rfl)⟩ (.encoded rfl rfl) rfl rfl ⟨_, rfl, trivial⟩)
  have b₇ := b₆.snoc (BroadcastStep.alone (.locked rfl rfl rfl rfl) ⟨rfl, rfl⟩ ⟨_, rfl, trivial⟩)
  have b₈ := b₇.snoc (BroadcastStep.alone (@FanoutStep.looked _ _ _ _ _ _ _ 0 _ () _ rfl rfl rfl rfl)
    ⟨rfl, rfl⟩ ⟨_, rfl, trivial⟩)
  have b₉ := b₈.snoc (BroadcastStep.alone (@FanoutStep.written _ _ _ _ _ _ _ 0 _ () _ rfl rfl rfl)
    ⟨rfl, rfl⟩ ⟨_, rfl, trivial⟩)
  exact ⟨_, _, _, _, rfl, rfl, delivers _ _ _ begins b₉⟩

end GamingAnywhere.Server
