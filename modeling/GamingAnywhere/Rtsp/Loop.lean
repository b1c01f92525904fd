import GamingAnywhere.Lib.Transition
import GamingAnywhere.Rtsp.Calls
import GamingAnywhere.Rtsp.Setup

/-!
# The loop of `rtspserver`

The loop waits in `select` before every request line and every interleaved frame. `select` knows of the
socket only: what an earlier `read` has brought already is in `ctx.rbuffer`. The split of the stream
into `read` results is the socket's; the bytes of the next one may come after `select` has begun to wait.
-/

namespace GamingAnywhere.Rtsp
open Lib Framing

/-! ## Request lines -/

def isSpace (c : UInt8) : Prop := c = 32 ∨ 9 ≤ c ∧ c ≤ 13

instance (c : UInt8) : Decidable (isSpace c) := inferInstanceAs (Decidable (_ ∨ _))

def skipSpaces (p : Bytes) : Bytes := p.dropWhile fun c => c = 32 ∨ c = 9

def getWord (bufSize : Nat) (p : Bytes) : Bytes × Bytes :=
  let p := skipSpaces p
  let word := p.takeWhile fun c => ¬ isSpace c ∧ c ≠ 0
  (word.take (bufSize - 1), p.drop word.length)

def methodOf (cmd : Bytes) : Method :=
  if cmd = ascii "DESCRIBE" then .describe
  else if cmd = ascii "OPTIONS" then .options
  else if cmd = ascii "SETUP" then .setup
  else if cmd = ascii "PLAY" then .play
  else if cmd = ascii "PAUSE" then .pause
  else if cmd = ascii "TEARDOWN" then .teardown
  else .unknown

/-- `av_url_split` on the URL, and `ff_rtsp_parse_line` with what follows it on the header lines. -/
structure Parsers where
  avUrlSplit : Bytes → Mem UInt8
  header : List Bytes → MessageHeader

def Parsers.request (parsers : Parsers) (line : Bytes) (lines : List Bytes) : Request :=
  let cmd := getWord 32 line
  let url := getWord 1024 cmd.2
  let protocol := getWord 32 url.2
  { method := methodOf cmd.1, url := url.1, path := parsers.avUrlSplit url.1, protocol := protocol.1,
    header := parsers.header lines }

def blank (buf : Bytes) : Prop := buf.head? = some newline ∨ buf.take 2 = [13, newline]

instance (buf : Bytes) : Decidable (blank buf) := inferInstanceAs (Decidable (_ ∨ _))

/-! ## The loop -/

/-- `headers` has the request line and the header lines so far. -/
inductive Place
  | select
  | headers (line : Bytes) (lines : List Bytes)
  | quit
  deriving DecidableEq

structure Connection where
  context : RTSPContext
  place : Place
  rbuf : Option ReadBuffer
  sock : Socket UInt8

def RTSPContext.quit (c : RTSPContext) : Place × RTSPContext := (.quit, { c with state := .teardown })

/-- What the loop does with the `buf` that `rtsp_getnext` has filled, up to the next call. -/
def received (parsers : Parsers) (conf : Conf) (e : Env) (c : RTSPContext) (buf : Bytes) :
    Place → Place × RTSPContext
  | .select =>
      if buf.head? = some dollar then (.select, c)
      else if (parsers.request buf []).protocol ≠ ascii "RTSP/1.0" then c.quit
      else (.headers buf [], c)
  | .headers line lines =>
      if blank buf then
        match handle conf (parsers.request line lines) e c with
        | .error _ => c.quit
        | .ok (c, _) => if c.state = .teardown then c.quit else (.select, c)
      else (.headers line (lines ++ [buf]), c)
  | .quit => c.quit

def Connection.turn (malloc : Option (Mem UInt8)) (parsers : Parsers) (conf : Conf) (e : Env)
    (c : Connection) : Connection :=
  let o := rtspGetnext malloc c.rbuf bufSize c.sock
  let next := if o.ret < 0 then c.context.quit else received parsers conf e c.context o.stored c.place
  { context := next.2, place := next.1, rbuf := o.rbuf, sock := o.sock }

inductive LoopEvent
  | getnext (e : Env)
  | selectFailed

inductive LoopStep (malloc : Option (Mem UInt8)) (parsers : Parsers) (conf : Conf) :
    Connection → LoopEvent → Connection → Prop
  | getnext {c : Connection} {e : Env} : c.place ≠ .quit →
      LoopStep malloc parsers conf c (.getnext e) (c.turn malloc parsers conf e)
  | selectFailed {c : Connection} : c.place = .select →
      LoopStep malloc parsers conf c .selectFailed
        { c with place := .quit, context := c.context.quit.2 }

def rtspserverLoop (malloc : Option (Mem UInt8)) (parsers : Parsers) (conf : Conf) :
    System Connection LoopEvent where
  Init c := c.context = .start ∧ c.place = .select ∧ c.rbuf = none
  Step := LoopStep malloc parsers conf

/-- Where a unit sends the loop back to `select`, the `read` that brings its end brings no whole unit
behind it. -/
def ReadAlone (parsers : Parsers) (conf : Conf) (c : Connection) (l : LoopEvent) (_ : Connection) :
    Prop :=
  match l with
  | .getnext e =>
      ∀ u, nextUnit (window c.rbuf c.sock) = some u →
        (received parsers conf e c.context (handed u).2 c.place).1 = .select →
        nextUnit (((buffered c.rbuf ++ c.sock.unread).take (Socket.gathered rbufSize u.length
          (buffered c.rbuf).length c.sock.cuts)).drop u.length) = none
  | .selectFailed => True

/-! ## What stays in the buffer -/

theorem isUnit_nextUnit {p u : Bytes} (unit : nextUnit p = some u) : rtspFraming.IsUnit u := by
  obtain ⟨rest, joined⟩ := rtspFraming.next_prefix unit
  have nonempty := rtspFraming.next_ne_nil unit
  have kind := isFrame_append nonempty rest
  rw [joined] at kind
  rw [isUnit_iff]
  unfold nextUnit at unit ⊢
  by_cases frame : IsFrame p
  · rw [if_pos frame] at unit
    rw [if_pos (kind.mp frame)]
    split_ifs at unit with whole
    have taken : u.length = 4 + frameLength p := by
      rw [← Option.some.inj unit, List.length_take]
      omega
    have announced : frameLength u = frameLength p := by
      rw [← joined, frameLength_append (by omega)]
    rw [if_pos ⟨by omega, by omega⟩, announced, ← taken, List.take_length]
  · rw [if_neg frame] at unit
    rw [if_neg (mt kind.mpr frame)]
    split_ifs at unit with line
    have before := List.idxOf_lt_length_of_mem line
    have taken : u.length = p.idxOf newline + 1 := by
      rw [← Option.some.inj unit, List.length_take]
      omega
    have member : newline ∈ u := by
      rw [← Option.some.inj unit, List.mem_take_iff_getElem]
      exact ⟨p.idxOf newline, by omega, List.getElem_idxOf before⟩
    have position : u.idxOf newline = p.idxOf newline := by
      rw [← joined, List.idxOf_append_of_mem member]
    rw [if_pos member, position, ← taken, List.take_length]

section
variable {ctx : Option ReadBuffer} {s : Socket UInt8} {u bytes : Bytes} {stale : Mem UInt8}
  {count : Nat}

theorem rtspGetnext_rest (intact : Intact ctx) (unit : nextUnit (window ctx s) = some u)
    (accepted : accepts count u = some bytes) :
    buffered (rtspGetnext (some stale) ctx count s).rbuf =
      ((buffered ctx ++ s.unread).take
        (Socket.gathered rbufSize u.length (buffered ctx).length s.cuts)).drop u.length := by
  have bound := intact.length_buffered
  have arrives := (rtspFraming.next_prefix unit).trans (List.take_prefix rbufSize _)
  have fits := (length_next (F := rtspFraming) unit).2
  rw [window, List.length_take] at fits
  obtain ⟨s', pulled⟩ := pull_rest (s := s) (p := buffered ctx) (n := (buffered ctx).length)
    (isUnit_nextUnit unit) (by omega) arrives List.take_left.symm bound
  obtain ⟨-, -, b, rbuf, -, pending⟩ :=
    (rtspGetnext_realizes stale intact count s).accepted (congrArg Prod.fst pulled) accepted
  rw [rbuf]
  exact pending

theorem accepts_eq {count : Nat} (accepted : accepts count u = some bytes) :
    bytes = (handed u).2 := by
  unfold accepts acceptBinary acceptText at accepted
  unfold handed
  dsimp only
  split_ifs at accepted ⊢ with frame long
  · exact (Option.some.inj accepted).symm
  · exact (Option.some.inj accepted).symm

theorem rtspGetnext_malloc (count : Nat) (malloc : Option (Mem UInt8)) (ctx : Option ReadBuffer)
    (s : Socket UInt8) :
    (ctx = none ∧ malloc = none ∧ rtspGetnext malloc ctx count s = ⟨-1, [], none, s⟩) ∨
      ∃ stale, rtspGetnext malloc ctx count s = rtspGetnext (some stale) ctx count s := by
  cases malloc with
  | some stale => exact Or.inr ⟨stale, rfl⟩
  | none =>
      cases ctx with
      | some b => exact Or.inr ⟨fun _ => 0, rfl⟩
      | none => exact Or.inl ⟨rfl, rfl, rfl⟩

end

/-! ## Nothing waits -/

section
variable {malloc : Option (Mem UInt8)} {parsers : Parsers} {conf : Conf} {e : Env} {c d : Connection}
  {l : LoopEvent}

theorem turn_intact (intact : Intact c.rbuf) : Intact (c.turn malloc parsers conf e).rbuf := by
  change Intact (rtspGetnext malloc c.rbuf bufSize c.sock).rbuf
  obtain ⟨-, -, failed⟩ | ⟨stale, same⟩ := rtspGetnext_malloc bufSize malloc c.rbuf c.sock
  · rw [failed]
    exact intact_none
  · rw [same]
    exact rtspGetnext_intact stale bufSize intact

theorem turn_accepted (stale : Mem UInt8) (parsers : Parsers) (conf : Conf) (e : Env)
    {u bytes : Bytes} (intact : Intact c.rbuf)
    (unit : nextUnit (window c.rbuf c.sock) = some u) (accepted : accepts bufSize u = some bytes) :
    (c.turn (some stale) parsers conf e).place =
        (received parsers conf e c.context (handed u).2 c.place).1 ∧
      (c.turn (some stale) parsers conf e).context =
        (received parsers conf e c.context (handed u).2 c.place).2 ∧
      buffered (c.turn (some stale) parsers conf e).rbuf =
        ((buffered c.rbuf ++ c.sock.unread).take (Socket.gathered rbufSize u.length
          (buffered c.rbuf).length c.sock.cuts)).drop u.length ∧
      u ++ (buffered (c.turn (some stale) parsers conf e).rbuf ++
        (c.turn (some stale) parsers conf e).sock.unread) = buffered c.rbuf ++ c.sock.unread := by
  obtain ⟨ret, stored, kept⟩ := rtspGetnext_accepted stale bufSize intact unit accepted
  have read : ¬(rtspGetnext (some stale) c.rbuf bufSize c.sock).ret < 0 := by omega
  simp only [Connection.turn, if_neg read, stored, accepts_eq accepted, true_and]
  exact ⟨rtspGetnext_rest intact unit accepted, kept⟩

theorem turn_select (intact : Intact c.rbuf)
    (select : (c.turn malloc parsers conf e).place = .select) :
    ∃ u, nextUnit (window c.rbuf c.sock) = some u ∧
      (received parsers conf e c.context (handed u).2 c.place).1 = .select ∧
      buffered (c.turn malloc parsers conf e).rbuf =
        ((buffered c.rbuf ++ c.sock.unread).take (Socket.gathered rbufSize u.length
          (buffered c.rbuf).length c.sock.cuts)).drop u.length := by
  have read : ¬(rtspGetnext malloc c.rbuf bufSize c.sock).ret < 0 := by
    intro failed
    simp only [Connection.turn, if_pos failed] at select
    cases select
  obtain ⟨-, -, failed⟩ | ⟨stale, same⟩ := rtspGetnext_malloc bufSize malloc c.rbuf c.sock
  · rw [failed] at read
    exact absurd (Int.negSucc_lt_zero 0) read
  · have turn : c.turn malloc parsers conf e = c.turn (some stale) parsers conf e := by
      simp only [Connection.turn, same]
    rw [turn] at select ⊢
    rw [same] at read
    cases unit : nextUnit (window c.rbuf c.sock) with
    | none =>
        rw [(rtspGetnext_none stale bufSize intact unit).1] at read
        exact absurd (Int.negSucc_lt_zero 0) read
    | some u =>
        cases accepted : accepts bufSize u with
        | none =>
            rw [(rtspGetnext_refused stale bufSize intact unit accepted).1] at read
            exact absurd (Int.negSucc_lt_zero 0) read
        | some bytes =>
            obtain ⟨place, -, rest, -⟩ := turn_accepted stale parsers conf e intact unit accepted
            rw [place] at select
            exact ⟨u, rfl, select, rest⟩

theorem turn_waiting_iff (intact : Intact c.rbuf)
    (select : (c.turn malloc parsers conf e).place = .select) :
    nextUnit (buffered (c.turn malloc parsers conf e).rbuf) = none ↔
      ReadAlone parsers conf c (.getnext e) (c.turn malloc parsers conf e) := by
  obtain ⟨u, unit, back, rest⟩ := turn_select intact select
  rw [rest]
  constructor
  · intro nothing v other _
    obtain rfl := Option.some.inj (unit.symm.trans other)
    exact nothing
  · intro alone
    exact alone u unit back

structure Connection.Idle (c : Connection) : Prop where
  intact : Intact c.rbuf
  waits : c.place = .select → nextUnit (buffered c.rbuf) = none

theorem LoopStep.idle (step : LoopStep malloc parsers conf c l d) (alone : ReadAlone parsers conf c l d)
    (idle : c.Idle) : d.Idle := by
  cases step with
  | getnext going =>
      refine ⟨turn_intact idle.intact, ?_⟩
      intro select
      exact (turn_waiting_iff idle.intact select).mpr alone
  | selectFailed select => exact ⟨idle.intact, nofun⟩

end

theorem rtspserver_nothing_waits (malloc : Option (Mem UInt8)) (parsers : Parsers) (conf : Conf)
    (c : Connection)
    (reachable : ((rtspserverLoop malloc parsers conf).restrict (ReadAlone parsers conf)).Reachable c)
    (select : c.place = .select) : nextUnit (buffered c.rbuf) = none := by
  have idle : c.Idle := by
    apply reachable.invariant
    · rintro c ⟨-, -, empty⟩
      constructor
      · rw [empty]
        exact intact_none
      · intro _
        rw [empty]
        exact next_nil (F := rtspFraming)
    · rintro c l d idle ⟨alone, step⟩
      exact step.idle alone idle
  exact idle.waits select

def plainParsers : Parsers := ⟨fun _ _ => 0, fun _ => ⟨1, [], []⟩⟩

def optionsRequest : Bytes := ascii "OPTIONS * RTSP/1.0\r\n\r\n"

def pipelined : Connection := ⟨.start, .select, none, ⟨[36, 0, 0, 0] ++ optionsRequest, [26], []⟩⟩

def unhurried : Connection := ⟨.start, .select, none, ⟨optionsRequest ++ [36, 0, 0, 0], [24, 2], []⟩⟩

theorem unhurried_nothing_waits : ∃ c,
    ((rtspserverLoop (some fun _ => 0) plainParsers desktopConf).restrict
      (ReadAlone plainParsers desktopConf)).Reachable c ∧
    c.place = .select ∧ buffered c.rbuf = [36, 0] ∧ nextUnit (buffered c.rbuf) = none := by
  let line := ascii "OPTIONS * RTSP/1.0\r\n"
  have unit : nextUnit (window unhurried.rbuf unhurried.sock) = some line := by
    decide +kernel
  obtain ⟨headers, context, rest, kept⟩ := turn_accepted (fun _ => 0) plainParsers desktopConf
    obligingEnv intact_none unit rfl
  have got : ((buffered unhurried.rbuf ++ unhurried.sock.unread).take (Socket.gathered rbufSize
      line.length (buffered unhurried.rbuf).length unhurried.sock.cuts)).drop line.length =
      [13, 10, 36, 0] := by
    decide +kernel
  have stream : buffered unhurried.rbuf ++ unhurried.sock.unread =
      line ++ ([13, 10, 36, 0] ++ [0, 0]) := by
    decide +kernel
  have buffer := rest.trans got
  rw [buffer, stream] at kept
  have left := List.append_cancel_left (List.append_cancel_left kept)
  have alone : ReadAlone plainParsers desktopConf unhurried (.getnext obligingEnv)
      (unhurried.turn (some fun _ => 0) plainParsers desktopConf obligingEnv) := by
    intro u other back
    obtain rfl := Option.some.inj (unit.symm.trans other)
    exact absurd back (by decide +kernel)
  have read : ((rtspserverLoop (some fun _ => 0) plainParsers desktopConf).restrict
      (ReadAlone plainParsers desktopConf)).Reachable
      (unhurried.turn (some fun _ => 0) plainParsers desktopConf obligingEnv) :=
    .step (.init ⟨rfl, rfl, rfl⟩) ⟨alone, .getnext (by decide)⟩
  have intact : Intact (unhurried.turn (some fun _ => 0) plainParsers desktopConf obligingEnv).rbuf :=
    turn_intact intact_none
  generalize unhurried.turn (some fun _ => 0) plainParsers desktopConf obligingEnv = c at *
  have blank : nextUnit (window c.rbuf c.sock) = some [13, 10] := by
    rw [window, buffer, left]
    decide +kernel
  have served : (received plainParsers desktopConf obligingEnv c.context (handed [13, 10]).2
      c.place).1 = .select := by
    rw [headers, context]
    decide +kernel
  have brought : ((buffered c.rbuf ++ c.sock.unread).take (Socket.gathered rbufSize 2
      (buffered c.rbuf).length c.sock.cuts)).drop 2 = [36, 0] := by
    rw [buffer, left, Socket.gathered_of_le (by decide)]
    rfl
  obtain ⟨place, -, rest', -⟩ := turn_accepted (fun _ => 0) plainParsers desktopConf obligingEnv
    intact blank rfl
  have alone' : ReadAlone plainParsers desktopConf c (.getnext obligingEnv)
      (c.turn (some fun _ => 0) plainParsers desktopConf obligingEnv) := by
    intro u other back
    obtain rfl := Option.some.inj (blank.symm.trans other)
    exact (congrArg nextUnit brought).trans (by decide +kernel)
  have going : c.place ≠ .quit := by
    rw [headers]
    decide +kernel
  have reached := read.step ⟨alone', .getnext going⟩
  exact ⟨_, reached, place.trans served, rest'.trans brought,
    rtspserver_nothing_waits _ _ _ _ reached (place.trans served)⟩

theorem pipelined_waits : ¬∀ (malloc : Option (Mem UInt8)) (parsers : Parsers) (conf : Conf)
    (c : Connection), (rtspserverLoop malloc parsers conf).Reachable c → c.place = .select →
    c.sock.unread = [] → nextUnit (buffered c.rbuf) = none := by
  intro nothing
  have unit : nextUnit (window pipelined.rbuf pipelined.sock) = some [36, 0, 0, 0] := by
    decide +kernel
  obtain ⟨place, -, rest, kept⟩ := turn_accepted (fun _ => 0) plainParsers desktopConf obligingEnv
    intact_none unit rfl
  have waiting : (((buffered pipelined.rbuf ++ pipelined.sock.unread).take (Socket.gathered rbufSize 4
      (buffered pipelined.rbuf).length pipelined.sock.cuts)).drop 4) = optionsRequest := by
    decide +kernel
  have buffer := rest.trans waiting
  rw [buffer] at kept
  have none_left := List.append_right_eq_self.mp (List.append_cancel_left kept)
  have reached : (rtspserverLoop (some fun _ => 0) plainParsers desktopConf).Reachable
      (pipelined.turn (some fun _ => 0) plainParsers desktopConf obligingEnv) :=
    .step (.init ⟨rfl, rfl, rfl⟩) (.getnext (by decide))
  have found := nothing _ _ _ _ reached place none_left
  rw [buffer] at found
  exact absurd found (by decide +kernel)

end GamingAnywhere.Rtsp
