import GamingAnywhere.Lib.Allocation
import GamingAnywhere.Rtsp.Context

/-!
# Objects of libavformat and libavcodec

What the pointers of a connection lead to, and `close_av`. A second free and a use behind a free are faults.
What the libraries keep for themselves behind a context or a stream is not among the objects.
-/

namespace GamingAnywhere.Rtsp
open Lib

/-! ## Objects -/

/-- `priv` is what `avcodec_open2` allocates for a codec and `avcodec_close` frees, `io` the buffer behind
`pb`, `options` the dictionary that `avcodec_open2` has left of its options. -/
inductive AvObject
  | context (p : Ptr)
  | stream (s : Ptr)
  | codec (k : Ptr)
  | priv (v : Ptr)
  | io (q : Ptr)
  | options (o : Ptr)
  | sessionId (a : Ptr)
  deriving DecidableEq

/-- `session` is where `session_id` points. -/
structure Heap where
  live : List AvObject
  streams : Ptr → List Ptr
  pb : Ptr → Option Ptr
  codec : Ptr → Option Ptr
  priv : Ptr → Option Ptr
  session : Option Ptr

namespace Heap

def free (h : Heap) (o : AvObject) : Option Heap :=
  (Allocation.free h.live o).map fun live => { h with live }

def freep (h : Heap) (o : Option AvObject) : Option Heap := o.elim (some h) h.free

def openPb (h : Heap) (p q : Ptr) : Heap :=
  { h with live := .io q :: h.live, pb := Function.update h.pb p (some q) }

/-- `avformat_new_stream`, which allocates the stream and its codec. -/
def newStream (h : Heap) (p s k : Ptr) : Heap :=
  { h with live := .stream s :: .codec k :: h.live,
           streams := Function.update h.streams p (h.streams p ++ [s]),
           codec := Function.update h.codec s (some k),
           priv := Function.update h.priv k none }

def strdupSession (h : Heap) (a : Ptr) : Heap := { h with live := .sessionId a :: h.live, session := some a }

def freeSession (h : Heap) : Option Heap :=
  (h.freep (h.session.map .sessionId)).map fun h => { h with session := none }

def avcodecClose (h : Heap) (k : Ptr) : Option Heap :=
  if .codec k ∈ h.live then
    (h.freep ((h.priv k).map .priv)).map fun h => { h with priv := Function.update h.priv k none }
  else none

def gaAvcodecClose (h : Heap) (ctx : Option Ptr) : Option Heap := ctx.elim (some h) h.avcodecClose

def codecOf (h : Heap) (s : Ptr) : Option (Option Ptr) :=
  if .stream s ∈ h.live then some (h.codec s) else none

def freeStreams (h : Heap) : List Ptr → Option Heap
  | [] => some h
  | s :: rest => do
      let codec ← h.codecOf s
      let h ← h.freep (codec.map .codec)
      let h ← h.free (.stream s)
      h.freeStreams rest

/-- `avformat_free_context` frees the streams and their codecs, but neither closes these nor `pb`. -/
def freeContext (h : Heap) (p : Ptr) : Option Heap := do
  let h ← h.freeStreams (h.streams p)
  h.free (.context p)

/-! ## `close_av` -/

structure Closing where
  h : Heap
  st : Option Ptr
  cctx : Option Ptr

def closeStreams (c : Closing) : List Ptr → Option Closing
  | [] => some c
  | s :: rest => do
      let codec ← c.h.codecOf s
      let h ← if c.cctx ≠ codec then c.h.gaAvcodecClose codec else some c.h
      let h ← h.freep (codec.map .codec)
      let h := { h with codec := Function.update h.codec s none }
      let h ← h.free (.stream s)
      closeStreams ⟨h, if c.st = some s then none else c.st, if c.cctx ≠ codec then c.cctx else none⟩ rest

def closeStream (h : Heap) (cctx : Option Ptr) (s : Ptr) : Option Heap := do
  let codec ← h.codecOf s
  let h ← if codec ≠ cctx then h.gaAvcodecClose codec else some h
  some { h with codec := Function.update h.codec s none }

/-- `avio_close`, where `close_av` calls it. -/
def avioClose (h : Heap) (transport : LowerTransport) (f : Ptr) : Option Heap :=
  if transport = .udp then h.freep ((h.pb f).map .io) else some h

def closeContext (c : Closing) (transport : LowerTransport) (f : Ptr) : Option Closing := do
  let c ← if .context f ∈ c.h.live then closeStreams c (c.h.streams f) else none
  let h ← c.h.avioClose transport f
  let h ← h.free (.context f)
  some { c with h }

def closeAv (h : Heap) (fctx st cctx : Option Ptr) (transport : LowerTransport) : Option Heap := do
  let h ← h.gaAvcodecClose cctx
  let h ← st.elim (some h) (h.closeStream cctx)
  let c ← fctx.elim (some ⟨h, st, cctx⟩) (closeContext ⟨h, st, cctx⟩ transport)
  let h ← c.h.freep (c.cctx.map .codec)
  h.freep (c.st.map .stream)

end Heap

/-! ## Parts of the heap -/

namespace Heap

variable {h h' : Heap} {os os' rest : List AvObject} {o : AvObject}

structure Untouched (os : List AvObject) (h h' : Heap) : Prop where
  streams : ∀ p, .context p ∈ os → h'.streams p = h.streams p
  pb : ∀ p, .context p ∈ os → h'.pb p = h.pb p
  codec : ∀ s, .stream s ∈ os → h'.codec s = h.codec s
  priv : ∀ k, .codec k ∈ os → h'.priv k = h.priv k
  session : h'.session = h.session

theorem Untouched.refl (os : List AvObject) (h : Heap) : Untouched os h h :=
  ⟨fun _ _ => rfl, fun _ _ => rfl, fun _ _ => rfl, fun _ _ => rfl, rfl⟩

theorem Untouched.trans {h'' : Heap} (first : Untouched os h h') (second : Untouched os h' h'') :
    Untouched os h h'' where
  streams p member := (second.streams p member).trans (first.streams p member)
  pb p member := (second.pb p member).trans (first.pb p member)
  codec s member := (second.codec s member).trans (first.codec s member)
  priv k member := (second.priv k member).trans (first.priv k member)
  session := second.session.trans first.session

theorem Untouched.mono (untouched : Untouched os h h') (part : os' ⊆ os) : Untouched os' h h' where
  streams p member := untouched.streams p (part member)
  pb p member := untouched.pb p (part member)
  codec s member := untouched.codec s (part member)
  priv k member := untouched.priv k (part member)
  session := untouched.session

theorem free_perm (held : h.live.Perm (o :: rest)) :
    ∃ left, h.free o = some { h with live := left } ∧ left.Perm rest := by
  obtain ⟨left, freed, perm⟩ := Allocation.free_perm held
  exact ⟨left, by rw [free, freed]; rfl, perm⟩

theorem codecOf_live {s : Ptr} (live : .stream s ∈ h.live) : h.codecOf s = some (h.codec s) := if_pos live

theorem avcodecClose_perm {k v : Ptr} (opened : h.priv k = some v) (live : .codec k ∈ h.live)
    (held : h.live.Perm (.priv v :: rest)) :
    ∃ left, h.avcodecClose k = some { h with live := left, priv := Function.update h.priv k none } ∧
      left.Perm rest := by
  obtain ⟨left, freed, perm⟩ := free_perm held
  refine ⟨left, ?_, perm⟩
  rw [avcodecClose, if_pos live, opened, Option.map_some, freep, Option.elim_some, freed]
  rfl

end Heap

/-! ## A stream that is set up -/

structure Slot where
  p : Ptr
  s : Ptr
  k : Ptr
  v : Ptr
  q : Ptr
  udp : Bool

namespace Slot

/-- The buffer of a stream over TCP is freed as soon as the header is written. -/
def io (x : Slot) : List AvObject := if x.udp then [.io x.q] else []

def objects (x : Slot) : List AvObject :=
  .priv x.v :: .stream x.s :: (x.io ++ [.context x.p, .codec x.k])

structure At (x : Slot) (h : Heap) : Prop where
  streams : h.streams x.p = [x.s]
  pb : h.pb x.p = some x.q
  codec : h.codec x.s = some x.k
  priv : h.priv x.k = some x.v

variable {x : Slot} {h h' : Heap} {rest os : List AvObject}

theorem context_mem (x : Slot) : .context x.p ∈ x.objects := by simp [objects]

theorem stream_mem (x : Slot) : .stream x.s ∈ x.objects := by simp [objects]

theorem codec_mem (x : Slot) : .codec x.k ∈ x.objects := by simp [objects]

theorem nodup_left (x : Slot) (nodup : (x.objects ++ rest).Nodup) : (.priv x.v :: (x.io ++ rest)).Nodup := by
  refine List.Nodup.sublist ?_ nodup
  rw [objects, List.cons_append, List.cons_append, List.append_assoc]
  have behind : rest.Sublist ([.context x.p, .codec x.k] ++ rest) := List.sublist_append_right _ _
  exact .cons_cons _ (.cons _ (behind.append_left x.io))

theorem At.frame (here : x.At h) (inside : x.objects ⊆ os) (untouched : Heap.Untouched os h h') : x.At h' where
  streams := (untouched.streams _ (inside x.context_mem)).trans here.streams
  pb := (untouched.pb _ (inside x.context_mem)).trans here.pb
  codec := (untouched.codec _ (inside x.stream_mem)).trans here.codec
  priv := (untouched.priv _ (inside x.codec_mem)).trans here.priv

theorem untouched_rest (nodup : (x.objects ++ rest).Nodup) (live : List AvObject) (codec priv : Option Ptr) :
    Heap.Untouched rest h { h with live := live, codec := Function.update h.codec x.s codec,
                                   priv := Function.update h.priv x.k priv } := by
  have apart := List.disjoint_of_nodup_append nodup
  refine ⟨fun _ _ => rfl, fun _ _ => rfl, ?_, ?_, rfl⟩
  · intro s' member
    exact Function.update_of_ne (by rintro rfl; exact apart x.stream_mem member) _ _
  · intro k' member
    exact Function.update_of_ne (by rintro rfl; exact apart x.codec_mem member) _ _

end Slot

namespace Heap

variable {h h' : Heap} {rest : List AvObject} {x : Slot} {transport : LowerTransport}

theorem closeStreams_one {s : Ptr} (cctx : Ptr) (taken : h.codec s = none)
    (held : h.live.Perm (.stream s :: rest)) :
    ∃ left, closeStreams ⟨h, some s, some cctx⟩ [s] = some ⟨{ h with live := left }, none, some cctx⟩ ∧
      left.Perm rest := by
  have live : .stream s ∈ h.live := held.mem_iff.mpr List.mem_cons_self
  obtain ⟨left, freed, perm⟩ := free_perm held
  refine ⟨left, ?_, perm⟩
  have other : some cctx ≠ (none : Option Ptr) := Option.some_ne_none cctx
  have same : { h with codec := Function.update h.codec s none } = h := by
    rw [← taken, Function.update_eq_self]
  rw [closeStreams, codecOf_live live, taken]
  simp only [Option.bind_eq_bind, Option.bind_some, if_pos other, gaAvcodecClose, Option.elim_none, freep,
    Option.map_none, same, freed, if_true, closeStreams]

theorem avioClose_perm {p q : Ptr} (points : h.pb p = some q) (udp : transport = .udp ↔ x.udp = true) (same : x.q = q)
    (held : h.live.Perm (x.io ++ rest)) :
    ∃ left, h.avioClose transport p = some { h with live := left } ∧ left.Perm rest := by
  by_cases datagrams : x.udp = true
  · have io : x.io = [.io q] := by rw [Slot.io, if_pos datagrams, same]
    rw [io] at held
    obtain ⟨left, freed, perm⟩ := free_perm held
    refine ⟨left, ?_, perm⟩
    rw [avioClose, if_pos (udp.mpr datagrams), points]
    exact freed
  · have io : x.io = [] := by rw [Slot.io, if_neg datagrams]
    rw [io] at held
    exact ⟨h.live, if_neg fun tcp => datagrams (udp.mp tcp), held⟩

theorem closeAv_slot (here : x.At h) (udp : transport = .udp ↔ x.udp = true) (nodup : h.live.Nodup)
    (held : h.live.Perm (x.objects ++ rest)) :
    ∃ h', h.closeAv (some x.p) (some x.s) (some x.k) transport = some h' ∧ h'.live.Perm rest ∧
      Untouched rest h h' := by
  have apart : (x.objects ++ rest).Nodup := held.nodup_iff.mp nodup
  have codec : .codec x.k ∈ h.live := held.mem_iff.mpr (List.mem_append_left _ x.codec_mem)
  have inOrder : x.objects ++ rest =
      .priv x.v :: .stream x.s :: (x.io ++ .context x.p :: .codec x.k :: rest) := by simp [Slot.objects]
  rw [inOrder] at held
  obtain ⟨first, closed, without_priv⟩ := avcodecClose_perm here.priv codec held
  have stream : .stream x.s ∈ first := without_priv.mem_iff.mpr List.mem_cons_self
  -- The heap once `cctx` has been closed and taken away from the stream.
  let detached (live : List AvObject) : Heap :=
    { h with live := live, codec := Function.update h.codec x.s none, priv := Function.update h.priv x.k none }
  have taken : ({ h with live := first, priv := Function.update h.priv x.k none } : Heap).closeStream
      (some x.k) x.s = some (detached first) := by
    rw [closeStream, codecOf_live stream]
    simp only [here.codec, Option.bind_eq_bind, Option.bind_some, ne_eq, not_true_eq_false, if_false]
    rfl
  obtain ⟨second, looped, without_stream⟩ :=
    closeStreams_one (h := detached first) x.k (Function.update_self ..) without_priv
  obtain ⟨third, freed_io, without_io⟩ :=
    avioClose_perm (h := detached second) here.pb udp rfl without_stream
  obtain ⟨fourth, freed_context, without_context⟩ := free_perm (h := detached third) without_io
  obtain ⟨last, freed_codec, without_codec⟩ := free_perm (h := detached fourth) without_context
  have context : .context x.p ∈ (detached first).live := without_priv.mem_iff.mpr (by simp)
  have streams : (detached first).streams x.p = [x.s] := here.streams
  have inner : closeContext ⟨detached first, some x.s, some x.k⟩ transport x.p =
      some ⟨detached fourth, none, some x.k⟩ := by
    rw [closeContext]
    simp only [if_pos context, streams, looped, Option.bind_eq_bind, Option.bind_some]
    rw [freed_io, Option.bind_some]
    exact congrArg (Option.bind · _) freed_context
  refine ⟨detached last, ?_, without_codec, Slot.untouched_rest apart last none none⟩
  rw [closeAv]
  simp only [gaAvcodecClose, Option.elim_some, closed, Option.bind_eq_bind, Option.bind_some, taken, inner,
    Option.map_some, Option.map_none, freep, Option.elim_none, freed_codec]
  rfl

/-- `error_setup` frees neither what opening the codec has allocated nor the buffer of `pb`. -/
theorem freeContext_slot (here : x.At h) (held : h.live.Perm (x.objects ++ rest)) :
    ∃ left, h.freeContext x.p = some { h with live := left } ∧ left.Perm (.priv x.v :: (x.io ++ rest)) := by
  have inOrder : (x.objects ++ rest).Perm
      (.codec x.k :: .stream x.s :: .context x.p :: .priv x.v :: (x.io ++ rest)) := by
    apply List.perm_iff_count.mpr
    intro o
    simp only [Slot.objects, List.cons_append, List.append_assoc, List.nil_append, List.count_cons,
      List.count_append]
    omega
  replace held := held.trans inOrder
  have stream : .stream x.s ∈ h.live := held.mem_iff.mpr (by simp)
  obtain ⟨first, freed_codec, without_codec⟩ := free_perm held
  obtain ⟨second, freed_stream, without_stream⟩ := free_perm (h := { h with live := first }) without_codec
  obtain ⟨last, freed_context, without_context⟩ := free_perm (h := { h with live := second }) without_stream
  refine ⟨last, ?_, without_context⟩
  rw [freeContext, here.streams, freeStreams, codecOf_live stream, here.codec]
  simp only [Option.bind_eq_bind, Option.bind_some, Option.map_some, freep, Option.elim_some, freed_codec,
    freed_stream, freeStreams]
  exact freed_context

end Heap

/-! ## The streams of the description -/

structure SdpStream where
  s : Ptr
  k : Ptr
  v : Ptr

def SdpStream.objects (y : SdpStream) : List AvObject := [.priv y.v, .codec y.k, .stream y.s]

structure SdpStream.At (y : SdpStream) (h : Heap) : Prop where
  codec : h.codec y.s = some y.k
  priv : h.priv y.k = some y.v

structure Sdp where
  p : Ptr
  streams : List SdpStream

def Sdp.objects (sdp : Sdp) : List AvObject := sdp.streams.flatMap SdpStream.objects ++ [.context sdp.p]

structure Sdp.At (sdp : Sdp) (h : Heap) : Prop where
  streams : h.streams sdp.p = sdp.streams.map SdpStream.s
  pb : h.pb sdp.p = none
  each : ∀ y ∈ sdp.streams, y.At h

section
variable {h h' : Heap} {rest os : List AvObject} {sdp : Sdp} {y : SdpStream} {ys : List SdpStream}

theorem SdpStream.At.frame (here : y.At h) (inside : y.objects ⊆ os) (untouched : Heap.Untouched os h h') :
    y.At h' where
  codec := (untouched.codec _ (inside (by simp [SdpStream.objects]))).trans here.codec
  priv := (untouched.priv _ (inside (by simp [SdpStream.objects]))).trans here.priv

theorem Sdp.At.frame (here : sdp.At h) (inside : sdp.objects ⊆ os) (untouched : Heap.Untouched os h h') :
    sdp.At h' where
  streams := (untouched.streams _ (inside (by simp [Sdp.objects]))).trans here.streams
  pb := (untouched.pb _ (inside (by simp [Sdp.objects]))).trans here.pb
  each y member := by
    apply (here.each y member).frame _ untouched
    intro o held
    exact inside (List.mem_append_left _ (List.mem_flatMap.mpr ⟨y, member, held⟩))

theorem closeStreams_sdp (each : ∀ y ∈ ys, y.At h) (nodup : h.live.Nodup)
    (held : h.live.Perm (ys.flatMap SdpStream.objects ++ rest)) :
    ∃ h', Heap.closeStreams ⟨h, none, none⟩ (ys.map SdpStream.s) = some ⟨h', none, none⟩ ∧
      h'.live.Perm rest ∧ Heap.Untouched rest h h' := by
  induction ys generalizing h with
  | nil => exact ⟨h, rfl, held, .refl rest h⟩
  | cons y ys ih =>
      have here := each y List.mem_cons_self
      have inOrder : (y :: ys).flatMap SdpStream.objects ++ rest =
          .priv y.v :: .codec y.k :: .stream y.s :: (ys.flatMap SdpStream.objects ++ rest) := by
        simp [SdpStream.objects]
      rw [inOrder] at held
      have apart := held.nodup_iff.mp nodup
      have codec : .codec y.k ∈ h.live := held.mem_iff.mpr (by simp)
      have stream : .stream y.s ∈ h.live := held.mem_iff.mpr (by simp)
      obtain ⟨first, closed, without_priv⟩ := Heap.avcodecClose_perm here.priv codec held
      obtain ⟨second, freed_codec, without_codec⟩ := Heap.free_perm
        (h := { h with live := first, priv := Function.update h.priv y.k none }) without_priv
      let detached (live : List AvObject) : Heap :=
        { h with live := live, priv := Function.update h.priv y.k none,
                 codec := Function.update h.codec y.s none }
      obtain ⟨third, freed_stream, without_stream⟩ := Heap.free_perm (h := detached second) without_codec
      have untouched : Heap.Untouched (ys.flatMap SdpStream.objects ++ rest) h (detached third) := by
        refine ⟨fun _ _ => rfl, fun _ _ => rfl, ?_, ?_, rfl⟩
        · intro s' member
          refine Function.update_of_ne ?_ _ _
          rintro rfl
          simp only [List.nodup_cons] at apart
          exact apart.2.2.1 member
        · intro k' member
          refine Function.update_of_ne ?_ _ _
          rintro rfl
          simp only [List.nodup_cons] at apart
          exact apart.2.1 (List.mem_cons_of_mem _ member)
      have left_nodup : (detached third).live.Nodup := by
        simp only [List.nodup_cons] at apart
        exact without_stream.nodup_iff.mpr apart.2.2.2
      have others : ∀ y' ∈ ys, y'.At (detached third) := by
        intro y' member
        apply (each y' (List.mem_cons_of_mem _ member)).frame _ untouched
        intro o held
        exact List.mem_append_left _ (List.mem_flatMap.mpr ⟨y', member, held⟩)
      obtain ⟨h', looped, perm, later⟩ := ih others left_nodup without_stream
      refine ⟨h', ?_, perm, (untouched.mono (List.subset_append_right _ _)).trans later⟩
      have other : (none : Option Ptr) ≠ some y.k := (Option.some_ne_none _).symm
      rw [List.map_cons, Heap.closeStreams, Heap.codecOf_live stream, here.codec]
      simp only [Option.bind_eq_bind, Option.bind_some, if_pos other, Heap.gaAvcodecClose, Option.elim_some,
        closed, Heap.freep, Option.map_some, freed_codec, ite_self]
      rw [freed_stream, Option.bind_some]
      exact looped

theorem closeAv_sdp (here : sdp.At h) (nodup : h.live.Nodup) (held : h.live.Perm (sdp.objects ++ rest)) :
    ∃ h', h.closeAv (some sdp.p) none none .udp = some h' ∧ h'.live.Perm rest := by
  have inOrder : sdp.objects ++ rest =
      sdp.streams.flatMap SdpStream.objects ++ (.context sdp.p :: rest) := by simp [Sdp.objects]
  rw [inOrder] at held
  have context : .context sdp.p ∈ h.live := held.mem_iff.mpr (by simp)
  obtain ⟨h', looped, perm, untouched⟩ := closeStreams_sdp here.each nodup held
  obtain ⟨left, freed, last⟩ := Heap.free_perm perm
  have pb : h'.pb sdp.p = none := (untouched.pb _ List.mem_cons_self).trans here.pb
  refine ⟨{ h' with live := left }, ?_, last⟩
  have inner : Heap.closeContext ⟨h, none, none⟩ .udp sdp.p = some ⟨{ h' with live := left }, none, none⟩ := by
    rw [Heap.closeContext]
    simp only [if_pos context, here.streams, looped, Option.bind_eq_bind, Option.bind_some, Heap.avioClose,
      if_true, pb, Option.map_none, Heap.freep, Option.elim_none, freed]
  rw [Heap.closeAv]
  simp only [Heap.gaAvcodecClose, Option.elim_none, Option.elim_some, Option.bind_eq_bind, Option.bind_some,
    inner, Option.map_none, Heap.freep]

end

end GamingAnywhere.Rtsp
