import GamingAnywhere.Lib.Transition
import GamingAnywhere.Rtsp.Playing
import Mathlib.Data.List.Permutation

/-!
# The writers of a connection

While a client plays over TCP, the RTSP thread writes its replies and the encoder threads write
interleaved frames to the same socket. A frame is two writes under `rtsp_writer_mutex`; a reply is
several writes, none of them under the mutex. Every `write` is one step and writes all it is given.
-/

namespace GamingAnywhere.Rtsp
open Lib

/-! ## Interleaved frames -/

structure Frame where
  header : Bytes
  payload : Bytes

def Frame.writes (f : Frame) : List Bytes := [f.header, f.payload]

/-- The loop of `rtsp_write_bindata`: the frames of the packets from offset `i` on. A size with the top
bit set is negative in C; the buffers of `ffio_open_dyn_packet_buf` hold none. -/
def bindataFrames (streamid : Nat) (buf : Mem UInt8) (buflen i : Nat) : List Frame :=
  if i < buflen then
    let pktlen := be32 (buf i) (buf (i + 1)) (buf (i + 2)) (buf (i + 3))
    if pktlen = 0 then bindataFrames streamid buf buflen (i + 4)
    else
      ⟨[0x24, UInt8.ofNat (streamid * 2), UInt8.ofNat (pktlen / 256), UInt8.ofNat pktlen],
          buf.slice (i + 4) pktlen⟩ ::
        bindataFrames streamid buf buflen (i + 4 + pktlen)
  else []
termination_by buflen - i

structure Packet where
  buf : Mem UInt8
  buflen : Nat

def rtspWriteBindata (streamid : StreamId) (p : Packet) : List Frame :=
  if p.buflen < 4 then [] else bindataFrames streamid p.buf p.buflen 0

/-! ## The threads -/

inductive Writer (ι : Type*)
  | rtsp
  | encoder (i : ι)
  deriving DecidableEq

/-- The RTSP thread: waiting for a request, before a reply, or in it with the given blocks left.
`quits` tells that `goto quit` follows. -/
inductive Replier
  | idle
  | answer (writes : List Bytes) (quits : Bool)
  | rest (left : List Bytes) (quits : Bool)

/-- An encoder thread with the frames that are left of a packet: outside the mutex, holding it before
the header, between header and payload, and behind the payload. -/
inductive Sender
  | frames (left : List Frame)
  | locked (f : Frame) (left : List Frame)
  | body (f : Frame) (left : List Frame)
  | unlock (left : List Frame)

/-- The state of a connection that several threads write to. `wire` holds the blocks in the order they
were written, each with its writer; `units` the replies and frames that were begun. -/
structure Wire (ι : Type*) where
  ctx : RTSPContext
  requests : List (Request × Env)
  replier : Replier
  mutex : Option ι
  sender : ι → Sender
  packets : ι → List Packet
  units : List (Writer ι × List Bytes)
  wire : List (Writer ι × Bytes)

variable {ι : Type*}

def Wire.start (ctx : RTSPContext) (requests : List (Request × Env)) (packets : ι → List Packet) :
    Wire ι where
  ctx := ctx
  requests := requests
  replier := .idle
  mutex := none
  sender _ := .frames []
  packets := packets
  units := []
  wire := []

def Interleaves (c : RTSPContext) (streamid : StreamId) : Prop :=
  c.fmtctx streamid ≠ none ∧ c.lowerTransport streamid = .tcp

def Sends (c : RTSPContext) (streamid : StreamId) (p : Packet) : Prop :=
  Interleaves c streamid ∧ rtspWriteBindata streamid p ≠ []

/-! ## What was written -/

def tagged (units : List (Writer ι × List Bytes)) : List (Writer ι × Bytes) :=
  units.flatMap fun u => u.2.map (Prod.mk u.1)

theorem tagged_append (us vs : List (Writer ι × List Bytes)) :
    tagged (us ++ vs) = tagged us ++ tagged vs := List.flatMap_append

theorem tagged_singleton (w : Writer ι) (writes : List Bytes) :
    tagged [(w, writes)] = writes.map (Prod.mk w) := by simp [tagged]

structure Quiet (s : Wire ι) : Prop where
  reply : ∀ block left quits, s.replier ≠ .rest (block :: left) quits
  frame : ∀ i f left, s.sender i ≠ .body f left

def Whole (s : Wire ι) : Prop := ∃ order, order.Perm s.units ∧ s.wire = tagged order

/-! ## Steps -/

section Steps
variable [DecidableEq ι]

inductive Wire.Step (conf : Conf) (channel : ι → StreamId) : Wire ι → Writer ι → Wire ι → Prop
  -- the state becomes TEARDOWN before the reply to TEARDOWN, but after that to another version
  | serve {s r e rest d reply} : s.replier = .idle → s.ctx.state ≠ .teardown →
      s.requests = (r, e) :: rest → handle conf r e s.ctx = .ok (d, reply) →
      Step conf channel s .rtsp
        { s with ctx := if r.protocol = ascii "RTSP/1.0" then d else s.ctx,
                 requests := rest,
                 replier := .answer reply.writes (r.protocol ≠ ascii "RTSP/1.0") }
  | begin {s block left quits} : s.replier = .answer (block :: left) quits →
      Step conf channel s .rtsp
        { s with replier := .rest left quits,
                 units := s.units ++ [(.rtsp, block :: left)],
                 wire := s.wire ++ [(.rtsp, block)] }
  | write {s block left quits} : s.replier = .rest (block :: left) quits →
      Step conf channel s .rtsp
        { s with replier := .rest left quits, wire := s.wire ++ [(.rtsp, block)] }
  | finish {s quits} : s.replier = .rest [] quits →
      Step conf channel s .rtsp
        { s with ctx := if quits then { s.ctx with state := .teardown } else s.ctx,
                 replier := .idle }
  -- a client that does not play, a stream that is not set up, and UDP
  | skip {s i p rest} : s.sender i = .frames [] → s.packets i = p :: rest →
      s.ctx.state ≠ .playing ∨ ¬ Interleaves s.ctx (channel i) →
      Step conf channel s (.encoder i) { s with packets := Function.update s.packets i rest }
  | send {s i p rest} : s.sender i = .frames [] → s.packets i = p :: rest →
      s.ctx.state = .playing → Interleaves s.ctx (channel i) →
      Step conf channel s (.encoder i)
        { s with packets := Function.update s.packets i rest,
                 sender := Function.update s.sender i (.frames (rtspWriteBindata (channel i) p)) }
  | lock {s i f left} : s.sender i = .frames (f :: left) → s.mutex = none →
      Step conf channel s (.encoder i)
        { s with mutex := some i, sender := Function.update s.sender i (.locked f left) }
  | header {s i f left} : s.sender i = .locked f left →
      Step conf channel s (.encoder i)
        { s with sender := Function.update s.sender i (.body f left),
                 units := s.units ++ [(.encoder i, f.writes)],
                 wire := s.wire ++ [(.encoder i, f.header)] }
  | body {s i f left} : s.sender i = .body f left →
      Step conf channel s (.encoder i)
        { s with sender := Function.update s.sender i (.unlock left),
                 wire := s.wire ++ [(.encoder i, f.payload)] }
  | unlock {s i left} : s.sender i = .unlock left →
      Step conf channel s (.encoder i)
        { s with mutex := none, sender := Function.update s.sender i (.frames left) }

def wire (conf : Conf) (channel : ι → StreamId) (ctx : RTSPContext)
    (requests : List (Request × Env)) (packets : ι → List Packet) : System (Wire ι) (Writer ι) where
  Init s := s = .start ctx requests packets
  Step := Wire.Step conf channel

end Steps

variable {conf : Conf} {channel : ι → StreamId} {ctx : RTSPContext}
  {requests : List (Request × Env)} {packets : ι → List Packet} {s t : Wire ι} {l : Writer ι}

/-! ## The mutex -/

def Sender.holds : Sender → Bool
  | .frames _ => false
  | _ => true

def Wire.Exclusive (s : Wire ι) : Prop := ∀ i, (s.sender i).holds = true ↔ s.mutex = some i

/-! ## What is left of the units that were begun -/

def Replier.unfinished : Replier → List (Writer ι × Bytes)
  | .rest left _ => left.map (Prod.mk .rtsp)
  | _ => []

def Sender.unfinished (i : ι) : Sender → List (Writer ι × Bytes)
  | .body f _ => [(.encoder i, f.payload)]
  | _ => []

def unfinishedFrame (mutex : Option ι) (sender : ι → Sender) : List (Writer ι × Bytes) :=
  mutex.elim [] fun i => (sender i).unfinished i

def Wire.Tracked (s : Wire ι) : Prop :=
  s.wire ++ unfinishedFrame s.mutex s.sender ++ s.replier.unfinished = tagged s.units

def Wire.Apart (s : Wire ι) : Prop := s.replier = .idle ∨ ∀ i, s.sender i = .frames []

theorem unfinishedFrame_idle {mutex : Option ι} {sender : ι → Sender}
    (senders : ∀ i, sender i = .frames []) : unfinishedFrame mutex sender = [] := by
  cases mutex with
  | none => rfl
  | some i => simp [unfinishedFrame, senders, Sender.unfinished]

theorem Wire.Apart.senders (apart : s.Apart) (busy : s.replier ≠ .idle) :
    ∀ i, s.sender i = .frames [] := apart.resolve_left busy

theorem Wire.Apart.replier (apart : s.Apart) {i : ι} (busy : s.sender i ≠ .frames []) :
    s.replier = .idle := apart.resolve_right fun senders => busy (senders i)

theorem Quiet.unfinished (quiet : Quiet s) :
    unfinishedFrame s.mutex s.sender ++ s.replier.unfinished = [] := by
  have frame : unfinishedFrame s.mutex s.sender = [] := by
    cases s.mutex with
    | none => rfl
    | some i =>
        cases sender : s.sender i with
        | body f left => exact absurd sender (quiet.frame i f left)
        | _ => simp [unfinishedFrame, sender, Sender.unfinished]
  rw [frame]
  cases replier : s.replier with
  | rest left quits =>
      cases left with
      | nil => rfl
      | cons block left => exact absurd replier (quiet.reply block left quits)
  | _ => rfl

theorem Wire.Tracked.whole (tracked : s.Tracked) (quiet : Quiet s) : Whole s := by
  rw [Wire.Tracked, List.append_assoc, quiet.unfinished, List.append_nil] at tracked
  exact ⟨s.units, .refl _, tracked⟩

theorem not_whole_of_cut {i : ι} {f : Frame} {block : Bytes} {left : List Bytes}
    (units : s.units = [(.encoder i, f.writes), (.rtsp, block :: left)])
    (cut : ∃ behind, s.wire = (.encoder i, f.header) :: (.rtsp, block) :: behind) : ¬ Whole s := by
  rintro ⟨order, perm, concatenation⟩
  obtain ⟨behind, cut⟩ := cut
  rw [cut] at concatenation
  rw [units] at perm
  rcases List.perm_pair.mp perm with rfl | rfl
  · simp [tagged, Frame.writes] at concatenation
  · simp [tagged] at concatenation

variable [DecidableEq ι]

theorem Wire.Step.exclusive (step : Wire.Step conf channel s l t) (exclusive : s.Exclusive) :
    t.Exclusive := by
  intro j
  have here := exclusive j
  cases step with
  | serve | begin | write | finish | skip => exact here
  | @send i _ _ before =>
      by_cases same : j = i
      · subst same
        simpa [before, Sender.holds] using here
      · simpa [same] using here
  | @lock i f left before free =>
      by_cases same : j = i
      · subst same
        simp [Sender.holds]
      · simpa [same, free, Ne.symm same] using here
  | @header i f left before | @body i f left before =>
      by_cases same : j = i
      · subst same
        simpa [before, Sender.holds] using here
      · simpa [same] using here
  | @unlock i left before =>
      have held : s.mutex = some i := (exclusive i).mp (by rw [before]; rfl)
      by_cases same : j = i
      · subst same
        simp [Sender.holds]
      · simpa [same, held, Ne.symm same] using here

theorem unfinishedFrame_update {mutex : Option ι} {sender : ι → Sender} {i : ι} {next : Sender}
    (same : next.unfinished i = (sender i).unfinished i) :
    unfinishedFrame mutex (Function.update sender i next) = unfinishedFrame mutex sender := by
  cases mutex with
  | none => rfl
  | some j =>
      by_cases here : j = i
      · subst here
        simpa [unfinishedFrame] using same
      · simp [unfinishedFrame, here]

theorem Wire.Step.tracked (step : Wire.Step conf channel s l t) (exclusive : s.Exclusive)
    (apart : s.Apart) (tracked : s.Tracked) : t.Tracked := by
  unfold Wire.Tracked at tracked ⊢
  cases step with
  | serve before | finish before => simpa [before, Replier.unfinished] using tracked
  | @begin block left quits before =>
      have senders := apart.senders (by rw [before]; nofun)
      rw [before, unfinishedFrame_idle senders] at tracked
      rw [unfinishedFrame_idle senders, tagged_append, tagged_singleton, ← tracked]
      simp [Replier.unfinished]
  | @write block left quits before =>
      have senders := apart.senders (by rw [before]; nofun)
      rw [before, unfinishedFrame_idle senders] at tracked
      rw [unfinishedFrame_idle senders, ← tracked]
      simp [Replier.unfinished]
  | skip => exact tracked
  | @send i p rest before =>
      rwa [unfinishedFrame_update (by rw [before]; rfl)]
  | @lock i f left before free =>
      rw [free] at tracked
      rw [← tracked]
      simp [unfinishedFrame, Sender.unfinished]
  | @header i f left before =>
      have held : s.mutex = some i := (exclusive i).mp (by rw [before]; rfl)
      have idle := apart.replier (show s.sender i ≠ .frames [] by rw [before]; nofun)
      rw [held, idle] at tracked
      rw [tagged_append, tagged_singleton, ← tracked, held, idle]
      simp [unfinishedFrame, before, Sender.unfinished, Frame.writes, Replier.unfinished]
  | @body i f left before =>
      have held : s.mutex = some i := (exclusive i).mp (by rw [before]; rfl)
      rw [held] at tracked
      rw [← tracked, held]
      simp [unfinishedFrame, before, Sender.unfinished]
  | @unlock i left before =>
      have held : s.mutex = some i := (exclusive i).mp (by rw [before]; rfl)
      rw [held] at tracked
      rw [← tracked]
      simp [unfinishedFrame, before, Sender.unfinished]

theorem wire_init (s : Wire ι) (first : (wire conf channel ctx requests packets).Init s) :
    s.Exclusive ∧ s.Tracked := by
  subst first
  exact ⟨fun i => ⟨nofun, nofun⟩, rfl⟩

theorem whole_of_apart {I : Wire ι → Prop} (init : I (.start ctx requests packets))
    (step : ∀ s l t, I s → Wire.Step conf channel s l t → I t) (apart : ∀ s, I s → s.Apart)
    (reachable : (wire conf channel ctx requests packets).Reachable s) (quiet : Quiet s) :
    Whole s := by
  have invariant : I s ∧ s.Exclusive ∧ s.Tracked := by
    refine reachable.invariant (I := fun s => I s ∧ s.Exclusive ∧ s.Tracked)
      (fun s first => ?_) (fun s l t holds taken => ?_)
    · exact ⟨by rw [show s = _ from first]; exact init, wire_init s first⟩
    · exact ⟨step s l t holds.1 taken, Wire.Step.exclusive taken holds.2.1,
        Wire.Step.tracked taken holds.2.1 (apart s holds.1) holds.2.2⟩
  exact invariant.2.2.whole quiet

/-! ## A client that sends no request -/

def Wire.Unasked (s : Wire ι) : Prop := s.requests = [] ∧ s.replier = .idle

theorem Wire.Step.unasked (step : Wire.Step conf channel s l t) (unasked : s.Unasked) :
    t.Unasked := by
  obtain ⟨none, idle⟩ := unasked
  cases step with
  | serve _ _ some => rw [none] at some; cases some
  | begin before | write before | finish before => rw [idle] at before; cases before
  | _ => exact ⟨none, idle⟩

/-! ## Encoders that have nothing to send -/

structure Wire.Silent (ctx : RTSPContext) (channel : ι → StreamId) (s : Wire ι) : Prop where
  played : Played s.ctx
  streams : SameStreams ctx s.ctx
  packets : ∀ i, ∀ p ∈ s.packets i, ¬ Sends ctx (channel i) p
  senders : ∀ i, s.sender i = .frames []

theorem Sends.congr {c d : RTSPContext} (same : SameStreams c d) (streamid : StreamId) (p : Packet) :
    Sends d streamid p ↔ Sends c streamid p := by
  rw [Sends, Sends, Interleaves, Interleaves, same.fmtctx, same.lowerTransport]

theorem Wire.Step.silent (step : Wire.Step conf channel s l t) (silent : s.Silent ctx channel) :
    t.Silent ctx channel := by
  obtain ⟨played, streams, packets, senders⟩ := silent
  have shorter {i : ι} {p : Packet} {rest : List Packet} (before : s.packets i = p :: rest) (j : ι) :
      ∀ q ∈ Function.update s.packets i rest j, ¬ Sends ctx (channel j) q := by
    intro q mem
    by_cases here : j = i
    · subst here
      rw [Function.update_self] at mem
      exact packets j q (before ▸ List.mem_cons_of_mem p mem)
    · rw [Function.update_of_ne here] at mem
      exact packets j q mem
  cases step with
  | @serve r e rest d reply _ _ _ answered =>
      refine ⟨?_, ?_, packets, senders⟩
      · dsimp only
        split_ifs
        · exact handle_keeps_played answered played
        · exact played
      · dsimp only
        split_ifs
        · exact streams.trans (handle_streams answered played.not_idle played.not_ready)
        · exact streams
  | begin | write => exact ⟨played, streams, packets, senders⟩
  | finish =>
      refine ⟨?_, ?_, packets, senders⟩
      · dsimp only
        split_ifs
        · exact .inr (.inr rfl)
        · exact played
      · dsimp only
        split_ifs
        · exact streams.trans ⟨rfl, rfl, rfl, rfl⟩
        · exact streams
  | skip _ before => exact ⟨played, streams, shorter before, senders⟩
  | @send i p rest idle before _ interleaves =>
      have unsent : rtspWriteBindata (channel i) p = [] := by
        have := packets i p (before ▸ List.mem_cons_self)
        rw [← Sends.congr streams] at this
        by_contra some
        exact this ⟨interleaves, some⟩
      refine ⟨played, streams, shorter before, fun j => ?_⟩
      by_cases here : j = i
      · subst here
        simp [unsent]
      · simp [here, senders]
  | lock before => simp [senders] at before
  | header before | body before | unlock before => simp [senders] at before

/-! ## A reply that cuts a frame -/

section Cut
variable {r : Request} {e : Env} {rest : List (Request × Env)} {i : ι}

theorem start_skips {p : Packet} {left : List Packet} (before : packets i = p :: left)
    (unsent : ¬ Sends ctx (channel i) p) :
    Wire.Step conf channel (.start ctx requests packets) (.encoder i)
      (.start ctx requests (Function.update packets i left)) := by
  by_cases taken : ctx.state = .playing ∧ Interleaves ctx (channel i)
  · have empty : rtspWriteBindata (channel i) p = [] := by
      by_contra some
      exact unsent ⟨taken.2, some⟩
    have step : Wire.Step conf channel (.start ctx requests packets) (.encoder i) _ :=
      .send rfl before taken.1 taken.2
    have same : Function.update (fun _ : ι => Sender.frames []) i (.frames []) =
        fun _ => .frames [] := Function.update_eq_self i _
    simp only [Wire.start, empty, same] at step
    exact step
  · exact .skip rfl before (by rw [not_and_or] at taken; exact taken)

theorem start_reaches_sending {initial : ι → List Packet} {p : Packet} {ps : List Packet}
    (reachable : (wire conf channel ctx requests initial).Reachable (.start ctx requests packets))
    (before : packets i = ps) (mem : p ∈ ps) (sends : Sends ctx (channel i) p) :
    ∃ packets' q left, packets' i = q :: left ∧ Sends ctx (channel i) q ∧
      (wire conf channel ctx requests initial).Reachable (.start ctx requests packets') := by
  induction ps generalizing packets with
  | nil => cases mem
  | cons q left ih =>
      by_cases first : Sends ctx (channel i) q
      · exact ⟨packets, q, left, before, first, reachable⟩
      · have later : p ∈ left := by
          rcases List.mem_cons.mp mem with same | later
          · exact absurd (same ▸ sends) first
          · exact later
        exact ih (reachable.step (start_skips before first)) (by simp) later

theorem reaches_header {initial : ι → List Packet} {q : Packet} {later : List Packet} {f : Frame}
    {frames : List Frame}
    (reachable : (wire conf channel ctx requests initial).Reachable s)
    (idle : s.sender i = .frames []) (free : s.mutex = none) (before : s.packets i = q :: later)
    (playing : s.ctx.state = .playing) (interleaves : Interleaves s.ctx (channel i))
    (framed : rtspWriteBindata (channel i) q = f :: frames) :
    (wire conf channel ctx requests initial).Reachable
      { s with mutex := some i,
               packets := Function.update s.packets i later,
               sender := Function.update s.sender i (.body f frames),
               units := s.units ++ [(.encoder i, f.writes)],
               wire := s.wire ++ [(.encoder i, f.header)] } := by
  have sent := reachable.step (Wire.Step.send idle before playing interleaves)
  rw [framed] at sent
  have locked := sent.step (Wire.Step.lock (Function.update_self ..) free)
  have header := locked.step (Wire.Step.header (Function.update_self ..))
  simpa only [Function.update_idem] using header

theorem reaches_end_of_reply {initial : ι → List Packet} {left : List Bytes} {quits : Bool}
    (reachable : (wire conf channel ctx requests initial).Reachable s)
    (before : s.replier = .rest left quits) :
    (wire conf channel ctx requests initial).Reachable
      { s with replier := .rest [] quits, wire := s.wire ++ left.map (Prod.mk .rtsp) } := by
  induction left generalizing s with
  | nil =>
      rw [List.map_nil, List.append_nil, ← before]
      exact reachable
  | cons block left ih =>
      have written := ih (reachable.step (Wire.Step.write before)) rfl
      simpa using written

theorem reaches_reply {initial : ι → List Packet} {d : RTSPContext} {reply : Reply} {block : Bytes}
    {left : List Bytes} (reachable : (wire conf channel ctx requests initial).Reachable s)
    (idle : s.replier = .idle) (state : s.ctx.state ≠ .teardown) (asked : s.requests = (r, e) :: rest)
    (answered : handle conf r e s.ctx = .ok (d, reply)) (writes : reply.writes = block :: left) :
    ∃ c quits, (wire conf channel ctx requests initial).Reachable
      { s with ctx := c,
               requests := rest,
               replier := .rest [] quits,
               units := s.units ++ [(.rtsp, block :: left)],
               wire := s.wire ++ (.rtsp, block) :: left.map (Prod.mk .rtsp) } := by
  have served := reachable.step (Wire.Step.serve idle state asked answered)
  rw [writes] at served
  have written := reaches_end_of_reply (served.step (Wire.Step.begin rfl)) rfl
  exact ⟨_, _, by simpa only [List.append_assoc, List.singleton_append] using written⟩

theorem cut_reachable (conf : Conf) (channel : ι → StreamId) (ctx : RTSPContext) (r : Request)
    (e : Env) (rest : List (Request × Env)) (packets : ι → List Packet) (playing : ctx.state = .playing)
    (session : ctx.sessionId ≠ none)
    {p : Packet} (mem : p ∈ packets i) (sends : Sends ctx (channel i) p) :
    ∃ s, (wire conf channel ctx ((r, e) :: rest) packets).Reachable s ∧ Quiet s ∧ ¬ Whole s := by
  have start : (wire conf channel ctx ((r, e) :: rest) packets).Reachable
      (.start ctx ((r, e) :: rest) packets) := .init rfl
  obtain ⟨remaining, q, later, before, sent, reachable⟩ :=
    start_reaches_sending start rfl mem sends
  obtain ⟨d, reply, answered⟩ : ∃ d reply, handle conf r e ctx = .ok (d, reply) :=
    handle_answers session
  obtain ⟨left, writes⟩ := handle_begins answered
  obtain ⟨f, frames, framed⟩ := List.exists_cons_of_ne_nil sent.2
  have listening : ctx.state ≠ .teardown := by
    rw [playing]
    nofun
  have headed := reaches_header reachable rfl rfl before playing sent.1 framed
  obtain ⟨c, quits, replied⟩ :=
    reaches_reply headed rfl listening rfl answered writes
  have complete := replied.step (Wire.Step.body (Function.update_self ..))
  refine ⟨_, complete, ⟨fun block left quits => nofun, fun j g left here => ?_⟩,
    not_whole_of_cut rfl ⟨_, rfl⟩⟩
  by_cases same : j = i
  · subst same
    simp at here
  · simp [same, Wire.start] at here

end Cut

/-! ## When the stream stays whole -/

theorem wire_whole_iff (conf : Conf) (channel : ι → StreamId) (ctx : RTSPContext)
    (requests : List (Request × Env)) (packets : ι → List Packet) (playing : ctx.state = .playing)
    (session : HasSession ctx) :
    (∀ s, (wire conf channel ctx requests packets).Reachable s → Quiet s → Whole s) ↔
      requests = [] ∨ ∀ i, ∀ p ∈ packets i, ¬ Sends ctx (channel i) p := by
  constructor
  · intro whole
    cases requests with
    | nil => exact .inl rfl
    | cons first rest =>
        refine .inr fun i p mem sends => ?_
        obtain ⟨s, reachable, quiet, cut⟩ :=
          cut_reachable conf channel ctx first.1 first.2 rest packets playing
            (session (.inl playing)) mem sends
        exact cut (whole s reachable quiet)
  · rintro (none | unsent) s reachable quiet
    · exact whole_of_apart ⟨none, rfl⟩ (fun _ _ _ unasked step => step.unasked unasked)
        (fun _ unasked => .inl unasked.2) reachable quiet
    · have init : (Wire.start ctx requests packets).Silent ctx channel :=
        ⟨.inl playing, .refl ctx, unsent, fun _ => rfl⟩
      exact whole_of_apart init (fun _ _ _ silent step => step.silent silent)
        (fun _ silent => .inr silent.senders) reachable quiet

/-! ## A frame of one RTP packet -/

def overTcp : RTSPContext where
  state := .playing
  seq := 4
  sessionId := some (ascii "12345678")
  lowerTransport _ := .tcp
  fmtctx _ := some 1
  stream _ := some 2
  encoder _ := some 3

def onePacket : Packet := ⟨fun i => [0, 0, 0, 1, 0x80].getD i 0, 5⟩

theorem onePacket_frames (streamid : StreamId) :
    rtspWriteBindata streamid onePacket = [⟨[0x24, UInt8.ofNat (streamid * 2), 0, 1], [0x80]⟩] := by
  have last : bindataFrames streamid onePacket.buf 5 5 = [] := by
    rw [bindataFrames]
    rfl
  have first : bindataFrames streamid onePacket.buf 5 0 =
      [⟨[0x24, UInt8.ofNat (streamid * 2), 0, 1], [0x80]⟩] := by
    rw [bindataFrames]
    exact congrArg (List.cons _) last
  exact first

theorem onePacket_sends (streamid : StreamId) : Sends overTcp streamid onePacket :=
  ⟨⟨nofun, rfl⟩, by rw [onePacket_frames]; nofun⟩

theorem options_cuts_frame :
    ¬ ∀ (conf : Conf) (channel : Unit → StreamId) (ctx : RTSPContext)
      (requests : List (Request × Env)) (packets : Unit → List Packet), ctx.state = .playing →
      HasSession ctx → (∀ i, ctx.lowerTransport i = .tcp) →
      ∀ s, (wire conf channel ctx requests packets).Reachable s → Quiet s → Whole s := by
  intro whole
  obtain ⟨s, reachable, quiet, cut⟩ := cut_reachable (i := ()) desktopConf (fun _ => 0)
    overTcp (desktopRequest .options []) obligingEnv [] (fun _ => [onePacket]) rfl nofun
    List.mem_cons_self (onePacket_sends 0)
  exact cut (whole desktopConf _ overTcp _ _ rfl (fun _ => nofun) (fun _ => rfl) s reachable quiet)

theorem overTcp_whole_until_asked :
    (∀ s, (wire desktopConf (fun _ : Unit => 0) overTcp [] fun _ => [onePacket]).Reachable s →
        Quiet s → Whole s) ∧
      ¬ ∀ s, (wire desktopConf (fun _ : Unit => 0) overTcp
        [(desktopRequest .options [], obligingEnv)] fun _ => [onePacket]).Reachable s →
        Quiet s → Whole s := by
  constructor
  · exact (wire_whole_iff desktopConf _ overTcp [] _ rfl fun _ => nofun).mpr (.inl rfl)
  · intro whole
    rcases (wire_whole_iff desktopConf _ overTcp _ _ rfl fun _ => nofun).mp whole with none | unsent
    · cases none
    · exact unsent () onePacket List.mem_cons_self (onePacket_sends 0)

end GamingAnywhere.Rtsp
