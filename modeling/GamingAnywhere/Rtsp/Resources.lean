import GamingAnywhere.Lib.Transition
import GamingAnywhere.Rtsp.AvObjects
import GamingAnywhere.Rtsp.Session

namespace GamingAnywhere.Rtsp
open Lib

/-! ## The handlers -/

/-- What the allocations of one SETUP return besides the pointers of its `Env`: the codec that comes with a
new stream, what opening it allocates and the options it leaves, the buffer of `pb`, and `session_id`. -/
structure NewPtrs where
  codec : Ptr
  priv : Ptr
  io : Ptr
  options : Option Ptr
  session : Ptr

def createSessionOn (x : NewPtrs) (c : RTSPContext) (header : MessageHeader) (h : Heap) : Heap :=
  if c.sessionId = none ∧ header.sessionId = [] then h.strdupSession x.session else h

def freeStream (c : RTSPContext) (streamid : Nat) (h : Heap) : Option Heap :=
  (c.fmtctxAt streamid).elim (some h) h.freeContext

def errorSetupOn (c : RTSPContext) (h : Heap) (streamid : Nat) : Option (RTSPContext × Heap) := do
  let h ← h.freeSession
  let h ← freeStream c streamid h
  some (errorSetup c streamid, h)

structure SdpEnv where
  newStream : Option Ptr
  codec : Ptr
  encoderInit : Bool
  priv : Ptr
  options : Option Ptr

structure ClientEnv where
  guessFormat : Bool
  allocContext : Option Ptr
  streams : List SdpEnv

/-- The loop of `per_client_deinit` leaves the arrays when there are eight channels. -/
def perClientDeinit (conf : Conf) (c : RTSPContext) (sdp : Ptr) (h : Heap) : Option Heap :=
  if rtspChannelMax ≤ conf.videoSourceChannels then none
  else do
    let h ← ((List.finRange rtspChannelMax).filter fun i => i.val ≤ conf.videoSourceChannels).foldlM
      (fun h i => h.closeAv (c.fmtctx i) (c.stream i) (c.encoder i) (c.lowerTransport i)) h
    h.closeAv (some sdp) none none .udp

/-! ## `per_client_init` -/

section
variable {h h' : Heap}

def SdpEnv.left (e : SdpEnv) : List AvObject := (e.options.map .options).toList

def SdpEnv.objects (e : SdpEnv) : List AvObject :=
  e.left ++ (.priv e.priv :: (e.newStream.map .stream).toList ++ [.codec e.codec])

def ClientEnv.objects (e : ClientEnv) : List AvObject :=
  e.streams.flatMap SdpEnv.objects ++ (e.allocContext.map .context).toList

end

/-! ## Opening a stream -/

def NewPtrs.left (x : NewPtrs) : List AvObject := (x.options.map .options).toList

/-- What the allocations return is not in use, and a codec is opened in place. -/
structure Fresh (e : StreamEnv) (x : NewPtrs) (h : Heap) : Prop where
  context : ∀ p, e.allocContext = some p → .context p ∉ h.live
  io : .io x.io ∉ h.live
  stream : ∀ s, e.newStream = some s → .stream s ∉ h.live
  codec : .codec x.codec ∉ h.live
  priv : .priv x.priv ∉ h.live
  options : ∀ o, x.options = some o → .options o ∉ h.live
  inPlace : ∀ k, e.encoderInit = some k → k = x.codec

section
variable {conf : Conf} {e : StreamEnv} {x : NewPtrs} {c : RTSPContext} {h : Heap} {i : StreamId} {codecid : Nat}

/-- What `rtp_new_av_stream` does to the heap: nothing, or it leaves behind what it had allocated when it
failed, or it opens a stream. -/
inductive Opening (x : NewPtrs) (c : RTSPContext) (h : Heap) (i : StreamId) : (RTSPContext × Int) × Heap → Prop
  | refused : Opening x c h i ((c, -1), h)
  | failed {lost : List AvObject} {h' : Heap} : c.fmtctx i = none → lost.length ≤ 3 + x.left.length →
      h'.live.Perm (lost ++ h.live) → h'.live.Nodup → Heap.Untouched h.live h h' →
      Opening x c h i ((c, -1), h')
  | opened {y : Slot} {ret : Int} {lost : List AvObject} {h' : Heap} : c.fmtctx i = none → y.At h' →
      (c.lowerTransport i = .udp ↔ y.udp = true) → lost.length ≤ 1 + x.left.length → ret < 0 ∨ lost = x.left →
      h'.live.Perm (lost ++ (y.objects ++ h.live)) → h'.live.Nodup → Heap.Untouched h.live h h' →
      Opening x c h i ((c.setEntries i y.p y.s y.k, ret), h')

structure Placed (p s k q : Ptr) (h h' : Heap) : Prop where
  streams : h'.streams p = [s]
  pb : h'.pb p = some q
  codec : h'.codec s = some k
  live : h'.live = .stream s :: .codec k :: .io q :: .context p :: h.live
  nodup : h'.live.Nodup
  untouched : Heap.Untouched h.live h h'

theorem Fresh.left (fresh : Fresh e x h) : x.left.Nodup ∧ ∀ o ∈ x.left, o ∉ h.live := by
  unfold NewPtrs.left
  cases options : x.options with
  | none => exact ⟨List.nodup_nil, nofun⟩
  | some o =>
      refine ⟨List.nodup_singleton _, ?_⟩
      intro o' member
      rw [Option.map_some, Option.toList_some, List.mem_singleton] at member
      rw [member]
      exact fresh.options o options

end

/-! ## What a connection owns -/

def Slot.part (slot : Option Slot) : List AvObject := slot.elim [] Slot.objects

/-- The pointers of the context lead to the streams in `slots`. `lost` is what no pointer leads to. -/
structure Owns (sdp : Sdp) (lost : List AvObject) (c : RTSPContext) (h : Heap)
    (slots : StreamId → Option Slot) : Prop where
  live : h.live.Perm ((List.finRange rtspChannelMax).flatMap (fun i => Slot.part (slots i)) ++
    (sdp.objects ++ lost))
  nodup : h.live.Nodup
  sdp : sdp.At h
  each : ∀ i y, slots i = some y → y.At h
  fmtctx : c.fmtctx = fun i => (slots i).map Slot.p
  stream : c.stream = fun i => (slots i).map Slot.s
  encoder : c.encoder = fun i => (slots i).map Slot.k

def Transports (c : RTSPContext) (slots : StreamId → Option Slot) : Prop :=
  ∀ i y, slots i = some y → (c.lowerTransport i = .udp ↔ y.udp = true)

section
variable {sdp : Sdp} {lost : List AvObject} {c d : RTSPContext} {h h' : Heap} {slots : StreamId → Option Slot}
  {i : StreamId} {x : NewPtrs}

theorem map_update {α : Type} (f : Slot → α) (slots : StreamId → Option Slot) (i : StreamId) (slot : Option Slot) :
    (fun j => (Function.update slots i slot j).map f) =
      Function.update (fun j => (slots j).map f) i (slot.map f) :=
  (Function.comp_update (Option.map f) slots i slot)

theorem parts_perm (slots : StreamId → Option Slot) (i : StreamId) : ∃ others : List AvObject,
    ((List.finRange rtspChannelMax).flatMap fun j => Slot.part (slots j)).Perm (Slot.part (slots i) ++ others) ∧
    ∀ slot, ((List.finRange rtspChannelMax).flatMap fun j => Slot.part (Function.update slots i slot j)).Perm
      (Slot.part slot ++ others) := by
  refine ⟨((List.finRange rtspChannelMax).erase i).flatMap fun j => Slot.part (slots j),
    Allocation.flatMap_perm_append (List.mem_finRange i), ?_⟩
  intro slot
  have moved : (fun j => Slot.part (Function.update slots i slot j)) =
      Function.update (fun j => Slot.part (slots j)) i (Slot.part slot) :=
    Function.comp_update Slot.part slots i slot
  rw [moved]
  exact Allocation.flatMap_update_perm (List.nodup_finRange _) (List.mem_finRange i) _

theorem Owns.inside (owns : Owns sdp lost c h slots) {y : Slot} (slot : slots i = some y) :
    y.objects ⊆ h.live := by
  intro o member
  apply owns.live.mem_iff.mpr
  apply List.mem_append_left
  refine List.mem_flatMap.mpr ⟨i, List.mem_finRange i, ?_⟩
  rw [slot]
  exact member

theorem Owns.sdp_inside (owns : Owns sdp lost c h slots) : sdp.objects ⊆ h.live := by
  intro o member
  exact owns.live.mem_iff.mpr (List.mem_append_right _ (List.mem_append_left _ member))

theorem Owns.fmtctx_eq (owns : Owns sdp lost c h slots) (i : StreamId) : c.fmtctx i = (slots i).map Slot.p :=
  congrFun owns.fmtctx i

/-- A stream is freed with its context, and what `avformat_free_context` does not look at is lost. -/
theorem Owns.freeStream (owns : Owns sdp lost c h slots) (i : StreamId) : ∃ h' more,
    freeStream c i h = some h' ∧ h'.session = h.session ∧
    Owns sdp (more ++ lost) (errorSetup c i) h' (Function.update slots i none) ∧
    more.length ≤ 2 ∧ (slots i = none → more = []) := by
  obtain ⟨others, before, after⟩ := parts_perm slots i
  have fmtctx : (errorSetup c i).fmtctx = fun j => (Function.update slots i none j).map Slot.p := by
    rw [errorSetup_slot, map_update, ← owns.fmtctx]
    rfl
  have stream : (errorSetup c i).stream = fun j => (Function.update slots i none j).map Slot.s := by
    rw [errorSetup_slot, map_update, ← owns.stream]
    rfl
  have encoder : (errorSetup c i).encoder = fun j => (Function.update slots i none j).map Slot.k := by
    rw [errorSetup_slot, map_update, ← owns.encoder]
    rfl
  have kept (j : StreamId) (y : Slot) (slot : Function.update slots i none j = some y) : slots j = some y := by
    by_cases same : j = i
    · subst same
      rw [Function.update_self] at slot
      cases slot
    · rwa [Function.update_of_ne same] at slot
  cases slot : slots i with
  | none =>
      have nothing : c.fmtctx i = none := by rw [owns.fmtctx_eq, slot, Option.map_none]
      have same : Function.update slots i none = slots := by rw [← slot, Function.update_eq_self]
      refine ⟨h, [], ?_, rfl, ⟨?_, owns.nodup, owns.sdp, ?_, fmtctx, stream, encoder⟩, Nat.zero_le 2, fun _ => rfl⟩
      · rw [Rtsp.freeStream, RTSPContext.fmtctxAt_slot, nothing]
        rfl
      · rw [same]
        exact owns.live
      · exact fun j y slot => owns.each j y (kept j y slot)
  | some y =>
      have points : c.fmtctx i = some y.p := by rw [owns.fmtctx_eq, slot, Option.map_some]
      have held : h.live.Perm (y.objects ++ (others ++ (sdp.objects ++ lost))) := by
        rw [slot] at before
        rw [← List.append_assoc]
        exact owns.live.trans (before.append_right _)
      obtain ⟨left, freed, perm⟩ := Heap.freeContext_slot (owns.each i y slot) held
      refine ⟨{ h with live := left }, .priv y.v :: y.io, ?_, rfl,
        ⟨?_, ?_, ?_, ?_, fmtctx, stream, encoder⟩, ?_, nofun⟩
      · rw [Rtsp.freeStream, RTSPContext.fmtctxAt_slot, points, Option.elim_some, freed]
      · have rest := after none
        apply perm.trans
        refine .trans ?_ (rest.symm.append_right _)
        apply List.perm_iff_count.mpr
        intro o
        simp only [Slot.part, Option.elim_none, List.nil_append, List.cons_append, List.count_cons,
          List.count_append]
        omega
      · exact perm.nodup_iff.mpr (y.nodup_left (held.nodup_iff.mp owns.nodup))
      · exact ⟨owns.sdp.streams, owns.sdp.pb, fun y member =>
          ⟨(owns.sdp.each y member).codec, (owns.sdp.each y member).priv⟩⟩
      · intro j y' slot'
        have here := owns.each j y' (kept j y' slot')
        exact ⟨here.streams, here.pb, here.codec, here.priv⟩
      · rw [List.length_cons, Slot.io]
        split_ifs <;> simp

theorem Opening.session {ret : Int} (opening : Opening x c h i ((d, ret), h')) :
    d.sessionId = c.sessionId ∧ h'.session = h.session := by
  cases opening with
  | refused => exact ⟨rfl, rfl⟩
  | failed _ _ _ _ untouched => exact ⟨rfl, untouched.session⟩
  | opened _ _ _ _ _ _ _ untouched => exact ⟨RTSPContext.sessionId_setEntries .., untouched.session⟩

/-- What is lost by a call of `rtp_new_av_stream`, and by the `error_setup` that may follow, is at most three
objects besides the options. -/
theorem Owns.opening (owns : Owns sdp lost c h slots) {ret : Int} (opening : Opening x c h i ((d, ret), h')) :
    ∃ slots' more, Owns sdp (more ++ lost) d h' slots' ∧ d.lowerTransport = c.lowerTransport ∧
      (∀ j, j ≠ i → slots' j = slots j) ∧
      more.length + (if slots' i = none then 0 else 2) ≤ 3 + x.left.length ∧
      (ret < 0 ∨ more = x.left ∧ ∀ y, slots' i = some y → (c.lowerTransport i = .udp ↔ y.udp = true)) := by
  cases opening with
  | refused =>
      refine ⟨slots, [], owns, rfl, fun _ _ => rfl, ?_, .inl (by decide)⟩
      rw [List.length_nil]
      split_ifs <;> omega
  | @failed more _ free short perm nodup untouched =>
      have nothing : slots i = none := by
        have := owns.fmtctx_eq i
        rwa [free, eq_comm, Option.map_eq_none_iff] at this
      refine ⟨slots, more, ?_, rfl, fun _ _ => rfl, ?_, .inl (by decide)⟩
      · refine ⟨?_, nodup, owns.sdp.frame owns.sdp_inside untouched, ?_, owns.fmtctx, owns.stream, owns.encoder⟩
        · apply perm.trans
          apply (owns.live.append_left more).trans
          apply List.perm_iff_count.mpr
          intro o
          simp only [List.count_append]
          omega
        · exact fun j y slot => (owns.each j y slot).frame (owns.inside slot) untouched
      · rw [if_pos nothing]
        exact short
  | @opened y _ more _ free here datagrams short accepted perm nodup untouched =>
      obtain ⟨others, before, after⟩ := parts_perm slots i
      have nothing : slots i = none := by
        have := owns.fmtctx_eq i
        rwa [free, eq_comm, Option.map_eq_none_iff] at this
      refine ⟨Function.update slots i (some y), more, ?_, by rw [RTSPContext.setEntries_slot], ?_, ?_, ?_⟩
      · refine ⟨?_, nodup, owns.sdp.frame owns.sdp_inside untouched, ?_, ?_, ?_, ?_⟩
        · rw [nothing] at before
          have live := owns.live.trans (before.append_right _)
          have parts := after (some y)
          apply (perm.trans ((live.append_left y.objects).append_left more)).trans
          refine .trans ?_ (parts.symm.append_right _)
          apply List.perm_iff_count.mpr
          intro o
          simp only [Slot.part, Option.elim_none, Option.elim_some, List.nil_append, List.count_append]
          omega
        · intro j y' slot
          by_cases same : j = i
          · subst same
            rw [Function.update_self] at slot
            obtain rfl := Option.some.inj slot
            exact here
          · rw [Function.update_of_ne same] at slot
            exact (owns.each j y' slot).frame (owns.inside slot) untouched
        · rw [RTSPContext.setEntries_slot, map_update, ← owns.fmtctx]
          rfl
        · rw [RTSPContext.setEntries_slot, map_update, ← owns.stream]
          rfl
        · rw [RTSPContext.setEntries_slot, map_update, ← owns.encoder]
          rfl
      · exact fun j other => Function.update_of_ne other _ _
      · rw [Function.update_self, if_neg (Option.some_ne_none y)]
        omega
      · refine accepted.imp_right fun nothing_lost => ⟨nothing_lost, ?_⟩
        intro y' slot
        rw [Function.update_self] at slot
        obtain rfl := Option.some.inj slot
        exact datagrams

end

/-! ## One request -/

section
variable {conf : Conf} {r : Request} {e : Env} {x : NewPtrs} {sdp : Sdp} {lost : List AvObject}
  {c d : RTSPContext} {h h' : Heap} {slots : StreamId → Option Slot} {i : StreamId} {k : Nat} {header : MessageHeader}

def Heap.sessionObject (h : Heap) : List AvObject := (h.session.map .sessionId).toList

structure Holds (sdp : Sdp) (lost : List AvObject) (c : RTSPContext) (h : Heap) (slots : StreamId → Option Slot) :
    Prop where
  owns : Owns sdp (h.sessionObject ++ lost) c h slots
  session : h.session = none ↔ c.sessionId = none

theorem Holds.createSession (holds : Holds sdp lost c h slots) (fresh : .sessionId x.session ∉ h.live)
    (header : MessageHeader) (rand : Nat × Nat) :
    Holds sdp lost (createSession c header rand).1 (createSessionOn x c header h) slots := by
  unfold Rtsp.createSession createSessionOn
  split_ifs with create
  · have nothing : h.sessionObject = [] := by
      rw [Heap.sessionObject, holds.session.mpr create.1]
      rfl
    have owns := holds.owns
    rw [nothing] at owns
    refine ⟨⟨?_, List.nodup_cons.mpr ⟨fresh, owns.nodup⟩, ?_, ?_, owns.fmtctx, owns.stream, owns.encoder⟩, ?_⟩
    · apply (owns.live.cons (.sessionId x.session)).trans
      apply List.perm_iff_count.mpr
      intro o
      simp only [Heap.sessionObject, Heap.strdupSession, Option.map_some, Option.toList_some, List.cons_append,
        List.nil_append, List.count_cons, List.count_append]
      omega
    · exact ⟨owns.sdp.streams, owns.sdp.pb, fun y member =>
        ⟨(owns.sdp.each y member).codec, (owns.sdp.each y member).priv⟩⟩
    · intro j y slot
      have here := owns.each j y slot
      exact ⟨here.streams, here.pb, here.codec, here.priv⟩
    · exact iff_of_false (Option.some_ne_none _) (Option.some_ne_none _)
  · exact holds

theorem Holds.freeSession (holds : Holds sdp lost c h slots) :
    ∃ h', h.freeSession = some h' ∧ h'.session = none ∧ Owns sdp lost c h' slots := by
  have owns := holds.owns
  cases session : h.session with
  | none =>
      have nothing : h.sessionObject = [] := by
        rw [Heap.sessionObject, session]
        rfl
      rw [nothing] at owns
      refine ⟨h, ?_, session, owns⟩
      rw [Heap.freeSession, session]
      change some { h with session := none } = _
      rw [← session]
  | some a =>
      have here : h.sessionObject = [.sessionId a] := by
        rw [Heap.sessionObject, session]
        rfl
      rw [here] at owns
      have held : h.live.Perm (.sessionId a ::
          ((List.finRange rtspChannelMax).flatMap (fun i => Slot.part (slots i)) ++ (sdp.objects ++ lost))) := by
        apply owns.live.trans
        apply List.perm_iff_count.mpr
        intro o
        simp only [List.cons_append, List.nil_append, List.count_cons, List.count_append]
        omega
      obtain ⟨left, freed, perm⟩ := Heap.free_perm held
      refine ⟨{ h with live := left, session := none }, ?_, rfl,
        ⟨perm, ?_, ?_, ?_, owns.fmtctx, owns.stream, owns.encoder⟩⟩
      · rw [Heap.freeSession, session, Option.map_some, Heap.freep, Option.elim_some, freed]
        rfl
      · exact perm.nodup_iff.mpr (List.nodup_cons.mp (held.nodup_iff.mp owns.nodup)).2
      · exact ⟨owns.sdp.streams, owns.sdp.pb, fun y member =>
          ⟨(owns.sdp.each y member).codec, (owns.sdp.each y member).priv⟩⟩
      · intro j y slot
        have here := owns.each j y slot
        exact ⟨here.streams, here.pb, here.codec, here.priv⟩

theorem Holds.errorSetup (holds : Holds sdp lost c h slots) (i : StreamId) : ∃ h' more,
    errorSetupOn c h i = some (errorSetup c i, h') ∧
    Holds sdp (more ++ lost) (Rtsp.errorSetup c i) h' (Function.update slots i none) ∧
    more.length ≤ 2 ∧ (slots i = none → more = []) := by
  obtain ⟨h₁, freed, gone, owns⟩ := holds.freeSession
  obtain ⟨h₂, more, closed, same, after, short, empty⟩ := owns.freeStream i
  have session : h₂.session = none := same.trans gone
  refine ⟨h₂, more, ?_, ⟨?_, ?_⟩, short, empty⟩
  · rw [errorSetupOn, freed]
    simp only [Option.bind_eq_bind, Option.bind_some, closed]
  · rw [Heap.sessionObject, session]
    exact after
  · exact iff_of_true session rfl

theorem Holds.opening (holds : Holds sdp lost c h slots) {ret : Int} (opening : Opening x c h i ((d, ret), h')) :
    ∃ slots' more, Holds sdp (more ++ lost) d h' slots' ∧ d.lowerTransport = c.lowerTransport ∧
      (∀ j, j ≠ i → slots' j = slots j) ∧
      more.length + (if slots' i = none then 0 else 2) ≤ 3 + x.left.length ∧
      (ret < 0 ∨ more = x.left ∧ ∀ y, slots' i = some y → (c.lowerTransport i = .udp ↔ y.udp = true)) := by
  obtain ⟨session, points⟩ := opening.session
  obtain ⟨slots', more, after, rest⟩ := holds.owns.opening opening
  refine ⟨slots', more,
    ⟨⟨?_, after.nodup, after.sdp, after.each, after.fmtctx, after.stream, after.encoder⟩, ?_⟩, rest⟩
  · rw [Heap.sessionObject, points]
    apply after.live.trans
    apply List.perm_iff_count.mpr
    intro o
    simp only [Heap.sessionObject, List.count_append]
    omega
  · rw [points, session]
    exact holds.session

theorem Fresh.createSession {es : StreamEnv} (fresh : Fresh es x h) (c : RTSPContext) (header : MessageHeader) :
    Fresh es x (createSessionOn x c header h) := by
  unfold createSessionOn
  split_ifs
  · refine ⟨?_, ?_, ?_, ?_, ?_, ?_, fresh.inPlace⟩
    · intro p context
      simpa [Heap.strdupSession] using fresh.context p context
    · simpa [Heap.strdupSession] using fresh.io
    · intro s stream
      simpa [Heap.strdupSession] using fresh.stream s stream
    · simpa [Heap.strdupSession] using fresh.codec
    · simpa [Heap.strdupSession] using fresh.priv
    · intro o options
      simpa [Heap.strdupSession] using fresh.options o options
  · exact fresh

/-! ### The request -/

/-- The options, and three objects if it is refused. -/
def setupLoses (x : NewPtrs) (status : StatusCode) : Nat := x.left.length + if status = .ok then 0 else 3

def requestLoses (r : Request) (x : NewPtrs) (reply : Reply) : Nat :=
  if r.method = .setup then setupLoses x reply.status else 0

theorem closeAll {is : List StreamId} {rest : List AvObject} (transports : Transports c slots)
    (fmtctx : c.fmtctx = fun i => (slots i).map Slot.p) (stream : c.stream = fun i => (slots i).map Slot.s)
    (encoder : c.encoder = fun i => (slots i).map Slot.k) (each : ∀ i ∈ is, ∀ y, slots i = some y → y.At h)
    (nodup : h.live.Nodup) (held : h.live.Perm (is.flatMap (fun i => Slot.part (slots i)) ++ rest)) :
    ∃ h', is.foldlM (fun h i => h.closeAv (c.fmtctx i) (c.stream i) (c.encoder i) (c.lowerTransport i)) h =
        some h' ∧ h'.live.Perm rest ∧ Heap.Untouched rest h h' := by
  induction is generalizing h with
  | nil => exact ⟨h, rfl, held, .refl rest h⟩
  | cons i is ih =>
      have points : c.fmtctx i = (slots i).map Slot.p := congrFun fmtctx i
      have streams : c.stream i = (slots i).map Slot.s := congrFun stream i
      have encodes : c.encoder i = (slots i).map Slot.k := congrFun encoder i
      rw [List.flatMap_cons, List.append_assoc] at held
      rw [List.foldlM_cons, points, streams, encodes]
      cases slot : slots i with
      | none =>
          rw [slot] at held
          exact ih (fun j later => each j (List.mem_cons_of_mem _ later)) nodup held
      | some y =>
          rw [slot] at held
          obtain ⟨h', closed, left, untouched⟩ :=
            Heap.closeAv_slot (each i List.mem_cons_self y slot) (transports i y slot) nodup held
          have apart := (List.nodup_append.mp (held.nodup_iff.mp nodup)).2.1
          have others : ∀ j ∈ is, ∀ y', slots j = some y' → y'.At h' := by
            intro j later y' slot'
            apply (each j (List.mem_cons_of_mem _ later) y' slot').frame _ untouched
            intro o member
            refine List.mem_append_left _ (List.mem_flatMap.mpr ⟨j, later, ?_⟩)
            rw [slot']
            exact member
          obtain ⟨h'', rest_closed, last, later⟩ := ih others (left.nodup_iff.mpr apart) left
          refine ⟨h'', ?_, last, (untouched.mono (List.subset_append_right _ _)).trans later⟩
          simp only [Option.map_some]
          rw [closed]
          exact rest_closed

theorem Owns.deinit (few : conf.videoSourceChannels < rtspChannelMax) (owns : Owns sdp lost c h slots)
    (transports : Transports c slots) : ∃ h' beyond, perClientDeinit conf c sdp.p h = some h' ∧
      h'.live.Perm (beyond ++ lost) ∧
      ((∀ i : StreamId, conf.videoSourceChannels < i.val → c.fmtctx i = none) → beyond = []) := by
  let served (i : StreamId) : Bool := i.val ≤ conf.videoSourceChannels
  have split : ((List.finRange rtspChannelMax).flatMap fun i => Slot.part (slots i)).Perm
      (((List.finRange rtspChannelMax).filter served).flatMap (fun i => Slot.part (slots i)) ++
        ((List.finRange rtspChannelMax).filter fun i => !served i).flatMap fun i => Slot.part (slots i)) := by
    rw [← List.flatMap_append]
    exact (List.filter_append_perm served _).symm.flatMap_right _
  have held := owns.live.trans (split.append_right _)
  rw [List.append_assoc] at held
  obtain ⟨h₁, closed, left, untouched⟩ := closeAll transports owns.fmtctx owns.stream owns.encoder
    (fun i _ y slot => owns.each i y slot) owns.nodup held
  have apart := (List.nodup_append.mp (held.nodup_iff.mp owns.nodup)).2.1
  have inside : sdp.objects ⊆ ((List.finRange rtspChannelMax).filter fun i => !served i).flatMap
      (fun i => Slot.part (slots i)) ++ (sdp.objects ++ lost) := fun o member =>
    List.mem_append_right _ (List.mem_append_left _ member)
  have next : h₁.live.Perm (sdp.objects ++ (((List.finRange rtspChannelMax).filter fun i => !served i).flatMap
      (fun i => Slot.part (slots i)) ++ lost)) := by
    apply left.trans
    apply List.perm_iff_count.mpr
    intro o
    simp only [List.count_append]
    omega
  obtain ⟨h₂, last, perm⟩ := closeAv_sdp (owns.sdp.frame inside untouched) (left.nodup_iff.mpr apart) next
  refine ⟨h₂, _, ?_, perm, ?_⟩
  · rw [perClientDeinit, if_neg (Nat.not_le.mpr few)]
    exact (congrArg (· >>= _) closed).trans last
  · intro unused
    apply List.flatMap_eq_nil_iff.mpr
    intro i member
    have later : conf.videoSourceChannels < i.val := by
      simpa [served] using (List.mem_filter.mp member).2
    have none_there := owns.fmtctx_eq i
    rw [unused i later, eq_comm, Option.map_eq_none_iff] at none_there
    rw [none_there]
    rfl

end

/-! ## A whole connection -/

structure Served where
  request : Request
  env : Env
  ptrs : NewPtrs
  reply : Reply

def Served.loses (l : Served) : Nat := requestLoses l.request l.ptrs l.reply

section
variable {conf : Conf} {sdp : Sdp} {lost : List AvObject} {c d : RTSPContext} {h h' : Heap}
  {slots : StreamId → Option Slot} {ls : List Served}

end

end GamingAnywhere.Rtsp
