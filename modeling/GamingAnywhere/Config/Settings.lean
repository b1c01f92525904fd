import GamingAnywhere.Config.Rtspconf
import GamingAnywhere.Config.Writing
import GamingAnywhere.Lib.Decimal

namespace GamingAnywhere.Config
open Lib Text

/-! ## Texts that can be written -/

def textChar (c : UInt8) : Bool :=
  !isDelim c && c != 0 && c != hash && c != semicolon && c != slash

section
variable {s : Bytes} {names : List Bytes}

theorem noComment_of_chars (chars : ∀ c ∈ s, textChar c = true) : NoComment s := by
  induction s with
  | nil => trivial
  | cons c s ih =>
      obtain ⟨here, later⟩ := List.forall_mem_cons.mp chars
      refine ⟨?_, ih later⟩
      rw [startsComment_cons]
      rintro (rfl | rfl | ⟨rfl, -⟩) <;> exact absurd here (by decide)

theorem writable_of_chars (nonempty : s ≠ []) (chars : ∀ c ∈ s, textChar c = true)
    (first : ∀ c ∈ s.head?, isSpace c = false ∧ c ≠ leftBracket)
    (last : isSpace (s.getLast nonempty) = false) : Writable s := by
  obtain _ | ⟨c, rest⟩ := s
  · exact absurd rfl nonempty
  · obtain ⟨nonblank, noSection⟩ := first c rfl
    have kept : (c :: rest).dropWhile isSpace = c :: rest := by
      rw [List.dropWhile_cons, nonblank, if_neg Bool.false_ne_true]
    refine ⟨⟨fun x member => ?_, noComment_of_chars chars, fun blank => ?_, ?_⟩, ?_, fun zero => ?_⟩
    · have here := chars x member
      unfold textChar at here
      simp only [Bool.and_eq_true] at here
      exact here.1.1.1.1
    · rw [blank c List.mem_cons_self] at nonblank
      cases nonblank
    · rw [kept, List.head?_cons, ne_eq, Option.some_inj]
      exact noSection
    · rw [trim, kept, List.rdropWhile_eq_self_iff]
      intro _ blank
      rw [blank] at last
      cases last
    · exact absurd (chars 0 zero) (by decide)

theorem textChar_of_isdigit {c : UInt8} (here : isdigit c = true) :
    textChar c = true ∧ isSpace c = false ∧ c ≠ leftBracket := by
  have digits : ∀ n < 10, textChar (UInt8.ofNat (48 + n)) = true ∧ isSpace (UInt8.ofNat (48 + n)) = false ∧
      UInt8.ofNat (48 + n) ≠ leftBracket := by decide
  obtain ⟨n, lt, rfl⟩ := exists_ofNat_of_isdigit here
  exact digits n lt

theorem writable_decimalOf (n : Nat) : Writable (decimalOf n) := by
  have nonempty : decimalOf n ≠ [] := by
    rw [decimalOf, ne_eq, List.map_eq_nil_iff]
    exact Nat.toDigits_ne_nil
  have digits (c : UInt8) (member : c ∈ decimalOf n) := textChar_of_isdigit (isdigit_of_mem_decimalOf member)
  exact writable_of_chars nonempty (fun c member => (digits c member).1)
    (fun c first => (digits c (List.mem_of_head? first)).2)
    (digits _ (List.getLast_mem nonempty)).2.1

/-! ## Lists of names -/

def joined (names : List Bytes) : Bytes := [32].intercalate names

structure CodecName (name : Bytes) : Prop where
  nonempty : name ≠ []
  chars : ∀ c ∈ name, textChar c = true ∧ isSpace c = false ∧ c ≠ leftBracket

theorem joined_cons_cons (name name' : Bytes) :
    joined (name :: name' :: names) = name ++ 32 :: joined (name' :: names) := by
  simp [joined, List.intercalate_cons_cons]

theorem joined_singleton (name : Bytes) : joined [name] = name := List.intercalate_singleton

theorem isSpace_of_isDelimiter {c : UInt8} (blank : isDelimiter c = true) : isSpace c = true := by
  unfold isDelimiter at blank
  rcases of_decide_eq_true blank with rfl | rfl | rfl | rfl <;> rfl

theorem CodecName.inside {name : Bytes} (plain : CodecName name) : All (fun c => !isDelimiter c) name := by
  intro c member
  rw [Bool.not_eq_true', Bool.eq_false_iff]
  intro blank
  have nonblank := (plain.chars c member).2.1
  rw [isSpace_of_isDelimiter blank] at nonblank
  cases nonblank

theorem tokens_joined {room : Nat} (few : names.length ≤ room) (plain : ∀ name ∈ names, CodecName name) :
    tokens room (joined names) = names := by
  induction names generalizing room with
  | nil =>
      cases room with
      | zero => rfl
      | succ room => rfl
  | cons name names ih =>
      obtain ⟨here, later⟩ := List.forall_mem_cons.mp plain
      cases room with
      | zero => exact absurd few (Nat.not_succ_le_zero _)
      | succ room =>
          have rest := ih (Nat.le_of_succ_le_succ few) later
          cases names with
          | nil =>
              have found : word isDelimiter (name ++ []) = some (name, []) :=
                word_append_ends here.nonempty here.inside ends_nil
              rw [List.append_nil] at found
              rw [joined_singleton, tokens, found]
              exact congrArg _ rest
          | cons name' names =>
              have found : word isDelimiter (name ++ 32 :: joined (name' :: names)) =
                  some (name, joined (name' :: names)) :=
                word_append_ends here.nonempty here.inside (ends_cons.mpr (by decide))
              rw [joined_cons_cons, tokens, found]
              exact congrArg _ rest

theorem writable_joined (nonempty : names ≠ []) (plain : ∀ name ∈ names, CodecName name) :
    Writable (joined names) := by
  have spec : joined names ≠ [] ∧ (∀ c ∈ joined names, textChar c = true) ∧
      (∀ c ∈ (joined names).head?, isSpace c = false ∧ c ≠ leftBracket) ∧
      ∀ c ∈ (joined names).getLast?, isSpace c = false := by
    induction names with
    | nil => exact absurd rfl nonempty
    | cons name names ih =>
        obtain ⟨here, later⟩ := List.forall_mem_cons.mp plain
        cases names with
        | nil =>
            rw [joined_singleton]
            exact ⟨here.nonempty, fun c member => (here.chars c member).1,
              fun c first => (here.chars c (List.mem_of_head? first)).2,
              fun c last => (here.chars c (List.mem_of_getLast? last)).2.1⟩
        | cons name' names =>
            obtain ⟨some', chars, -, last⟩ := ih (List.cons_ne_nil _ _) later
            rw [joined_cons_cons]
            refine ⟨by simp [here.nonempty], fun c member => ?_, fun c first => ?_, fun c found => ?_⟩
            · rcases List.mem_append.mp member with before | behind
              · exact (here.chars c before).1
              · rcases List.mem_cons.mp behind with rfl | behind
                · decide
                · exact chars c behind
            · obtain ⟨x, name, rfl⟩ := List.exists_cons_of_ne_nil here.nonempty
              exact (here.chars c (List.mem_of_head? first)).2
            · rw [List.getLast?_append_of_ne_nil _ (List.cons_ne_nil _ _),
                List.getLast?_cons_of_ne_nil some'] at found
              exact last c found
  obtain ⟨some', chars, first, last⟩ := spec
  exact writable_of_chars some' chars first (last _ (List.getLast?_eq_some_getLast some'))

end

/-! ## Settings -/

structure Value where
  text : Bytes
  writable : Writable text
  short : text.length < 1024

abbrev Number (max : Nat) := { n : Nat // 0 < n ∧ n ≤ max }

def Number.value {max : Nat} (le : max < 2147483648) (n : Number max) : Value where
  text := decimalOf n.1
  writable := writable_decimalOf n.1
  short := by
    have digits : (decimalOf n.1).length ≤ 10 := length_decimalOf_le (by decide) (by have := n.2.2; omega)
    omega

section
variable {γ κ : Type}

structure CodecList (byName : Bytes → Option γ) where
  names : List Bytes
  nonempty : names ≠ []
  few : names.length ≤ rtspconfCodecnameSize
  plain : ∀ name ∈ names, CodecName name
  short : (joined names).length < 1024
  codec : γ
  found : names.findSome? byName = some codec

def CodecList.value {byName : Bytes → Option γ} (list : CodecList byName) : Value :=
  ⟨joined list.names, writable_joined list.nonempty list.plain, list.short⟩

structure Known (find : Bytes → Int) (unknown : Int) where
  value : Value
  known : find value.text ≠ unknown

structure Control where
  port : Number 65535
  proto : Proto
  motion : Bool

structure VideoOption (e : Bytes × Bytes) : Prop where
  key : Writable (Assign.entry videoSpecific e.1 e.2).option
  value : Writable e.2
  form : rightBracket ∉ e.1 ∧ e.1 ≠ []
  short : e.1.length < 1024 ∧ e.2.length < 1024

structure Settings (lib : Ffmpeg γ κ) where
  servername : Option Value
  object : Value
  title : Value
  display : Value
  serverport : Number 65535
  proto : Proto
  control : Option Control
  videoEncoder : Option (CodecList lib.findEncoderByName)
  videoDecoder : Option (CodecList lib.findDecoderByName)
  audioEncoder : Option (CodecList lib.findEncoderByName)
  audioDecoder : Option (CodecList lib.findDecoderByName)
  videoFps : Number 120
  software : Bool
  audioBitrate : Number 1024000
  audioSamplerate : Number 1024000
  audioChannels : Number 2147483647
  deviceFormat : Known lib.getSampleFmt (-1)
  deviceLayout : Known lib.getChannelLayout 0
  codecFormat : Known lib.getSampleFmt (-1)
  codecLayout : Known lib.getChannelLayout 0
  options : OrderedMap Bytes Bytes
  optionsFit : ∀ e ∈ options.entries, VideoOption e
  few : options.entries.length < 2147483000

def CodecList.codecs {byName : Bytes → Option γ} (list : Option (CodecList byName)) : Codecs γ :=
  list.elim ⟨[], none⟩ fun list => ⟨list.names, some list.codec⟩

variable {lib : Ffmpeg γ κ}

def Settings.conf (s : Settings lib) : RTSPConf γ where
  initialized := 1
  object := strncpy s.object.text rtspconfObjectSize
  title := strncpy s.title.text rtspconfTitleSize
  display := strncpy s.display.text rtspconfDisplaySize
  servername := s.servername.map Value.text
  serverport := s.serverport.1
  proto := s.proto
  ctrlenable := if s.control.isSome then 1 else 0
  ctrlport := s.control.elim 555 fun control => control.port.1
  ctrlproto := s.control.elim .tcp Control.proto
  sendmousemotion := s.control.elim 0 fun control => if control.motion then 1 else 0
  videoEncoder := CodecList.codecs s.videoEncoder
  videoDecoder := CodecList.codecs s.videoDecoder
  videoFps := s.videoFps.1
  videoRendererSoftware := if s.software then 1 else 0
  audioEncoder := CodecList.codecs s.audioEncoder
  audioDecoder := CodecList.codecs s.audioDecoder
  audioBitrate := s.audioBitrate.1
  audioSamplerate := s.audioSamplerate.1
  audioChannels := s.audioChannels.1
  audioDeviceFormat := lib.getSampleFmt s.deviceFormat.value.text
  audioDeviceChannelLayout := lib.getChannelLayout s.deviceLayout.value.text
  audioCodecFormat := lib.getSampleFmt s.codecFormat.value.text
  audioCodecChannelLayout := lib.getChannelLayout s.codecLayout.value.text
  vso := inTurn s.options.entries

/-! ## The file -/

instance (s : Bytes) : Decidable (Opens s) :=
  decidable_of_iff (¬ All isSpace s ∧ (s.dropWhile isSpace).head? ≠ some leftBracket)
    ⟨fun both => ⟨both.1, both.2⟩, fun opens => ⟨opens.nonblank, opens.noSection⟩⟩

instance (s : Bytes) : Decidable (Word s) :=
  decidable_of_iff (All (fun c => !isDelim c) s ∧ NoComment s ∧ Opens s)
    ⟨fun all => ⟨all.1, all.2.1, all.2.2⟩, fun word => ⟨word.inside, word.free, word.opens⟩⟩

instance (s : Bytes) : Decidable (Writable s) :=
  decidable_of_iff (Word s ∧ trim isSpace s = s ∧ s.contains 0 = false)
    ⟨fun all => ⟨all.1, all.2.1, by simpa using all.2.2⟩,
      fun writable => ⟨writable.word, writable.trimmed, by simpa using writable.plain⟩⟩

def Proto.value : Proto → Value
  | .tcp => ⟨literal "tcp", by decide +kernel, by decide⟩
  | .udp => ⟨literal "udp", by decide +kernel, by decide⟩

def flag (b : Bool) : Value :=
  if b then ⟨literal "true", by decide +kernel, by decide⟩ else ⟨literal "false", by decide +kernel, by decide⟩

def renderer (software : Bool) : Value :=
  if software then ⟨literal "software", by decide +kernel, by decide⟩
  else ⟨literal "hardware", by decide +kernel, by decide⟩

def Settings.values (s : Settings lib) : List (Bytes × Option Value) :=
  [(literal "server-name", s.servername),
   (literal "base-object", some s.object),
   (literal "title", some s.title),
   (literal "display", some s.display),
   (literal "server-port", some (s.serverport.value (by decide))),
   (literal "proto", some s.proto.value),
   (literal "control-enabled", some (flag s.control.isSome)),
   (literal "control-port", s.control.map fun control => control.port.value (by decide)),
   (literal "control-proto", s.control.map fun control => control.proto.value),
   (literal "control-send-mouse-motion", s.control.map fun control => flag control.motion),
   (literal "video-encoder", s.videoEncoder.map CodecList.value),
   (literal "video-decoder", s.videoDecoder.map CodecList.value),
   (literal "audio-encoder", s.audioEncoder.map CodecList.value),
   (literal "audio-decoder", s.audioDecoder.map CodecList.value),
   (literal "video-fps", some (s.videoFps.value (by decide))),
   (literal "video-renderer", some (renderer s.software)),
   (literal "audio-bitrate", some (s.audioBitrate.value (by decide))),
   (literal "audio-samplerate", some (s.audioSamplerate.value (by decide))),
   (literal "audio-channels", some (s.audioChannels.value (by decide))),
   (literal "audio-device-format", some s.deviceFormat.value),
   (literal "audio-device-channel-layout", some s.deviceLayout.value),
   (literal "audio-codec-format", some s.codecFormat.value),
   (literal "audio-codec-channel-layout", some s.codecLayout.value)]

def assigned (values : List (Bytes × Option Value)) : List Assign :=
  values.filterMap fun e => e.2.map fun value => .var e.1 value.text

def Settings.assigns (s : Settings lib) : List Assign := assigned s.values ++ entries videoSpecific s.options

def Settings.file (s : Settings lib) : Bytes := fileOf s.assigns

/-! ## The store -/

theorem find_assigned {values : List (Bytes × Option Value)} (nodup : (values.map Prod.fst).Nodup)
    {gaVars : GaVars} {key : Bytes} {value : Option Value} (member : (key, value) ∈ values)
    (absent : gaVars.find key = none) :
    OrderedMap.find (((assigned values).map Assign.call).foldl Call.apply gaVars) key =
      value.map fun value => .assign value.text := by
  induction values generalizing gaVars with
  | nil => cases member
  | cons e values ih =>
      obtain ⟨others, rest⟩ := List.nodup_cons.mp nodup
      rcases List.mem_cons.mp member with rfl | later
      · have behind : ∀ a ∈ assigned values, a.name ≠ key := by
          intro a member same
          obtain ⟨e', there, written⟩ := List.mem_filterMap.mp member
          obtain ⟨_, _, rfl⟩ := Option.map_eq_some_iff.mp written
          have listed : e'.1 ∈ values.map Prod.fst := List.mem_map_of_mem there
          exact others (same ▸ listed)
        cases value with
        | none => exact (find_of_absent behind).trans absent
        | some value => exact @find_var _ gaVars key _ [] _ rfl behind
      · have listed : key ∈ values.map Prod.fst := List.mem_map_of_mem later
        have other : e.1 ≠ key := fun same => others (same ▸ listed)
        obtain ⟨name, value'⟩ := e
        cases value' with
        | none => exact ih rest later absent
        | some value' =>
            refine ih rest later ?_
            exact (OrderedMap.find_insert ..).trans ((if_neg (Ne.symm other)).trans absent)

/-! ## What is read -/

structure Reads (gaVars : GaVars) (key : Bytes) (text : Option Bytes) : Prop where
  found : gaVars.find key = text.map .assign
  plain : ∀ s ∈ text, 0 ∉ s ∧ s.length < 1024

variable {gaVars : GaVars} {key : Bytes} {behind : Behind}

theorem Reads.string {text : Option Bytes} (reads : Reads gaVars key text) :
    readString behind gaVars key = text := by
  rw [readString, gaConfReadv, reads.found]
  cases text with
  | none => rfl
  | some s =>
      obtain ⟨plain, short⟩ := reads.plain s rfl
      exact congrArg some (cstr_strncpy plain short _)

theorem Reads.field {text : Bytes} (reads : Reads gaVars key (some text)) (dflt : Bytes) (size : Nat)
    (behind : Bytes) : rtspconfField gaVars key dflt size behind = strncpy text size := by
  obtain ⟨plain, short⟩ := reads.plain text rfl
  rw [rtspconfField, gaConfReadv, reads.found]
  exact congrArg (strncpy · size) (cstr_strncpy plain short _)

theorem Reads.int {n : Nat} (reads : Reads gaVars key (some (decimalOf n))) (positive : 0 < n)
    (lt : n < 2147483648) (behind : Bytes) : gaConfReadint gaVars key behind = n := by
  have digits : (decimalOf n).length ≤ 10 := length_decimalOf_le (by decide) (by omega)
  rw [gaConfReadint, gaConfReadv, reads.found]
  change int32 (strtol (cstr (strncpy (decimalOf n) 64 ++ behind))).1 = n
  rw [cstr_strncpy (reads.plain _ rfl).1 (by omega), strtol_decimalOf positive (by omega)]
  exact int32_of_lt (by omega) (by omega)

theorem Reads.port {n : Number 65535} (reads : Reads gaVars key (some (decimalOf n.1))) :
    readPort behind gaVars key = .ok (n.1 : Int) := by
  have bounds := n.2
  refine readInt_eq_ok.mpr ⟨reads.int bounds.1 (by omega) _, ?_⟩
  simp only [Bool.or_eq_false_iff, decide_eq_false_iff_not]
  omega

theorem Reads.upTo {max : Nat} {n : Number max} (reads : Reads gaVars key (some (decimalOf n.1)))
    (lt : max < 2147483648) : readUpTo behind gaVars key max = .ok (n.1 : Int) := by
  have bounds := n.2
  refine readInt_eq_ok.mpr ⟨reads.int bounds.1 (by omega) _, ?_⟩
  simp only [Bool.or_eq_false_iff, decide_eq_false_iff_not]
  omega

theorem Reads.proto {proto : Proto} (reads : Reads gaVars key (some proto.value.text)) :
    readProto behind gaVars key = proto := by
  rw [readProto, reads.string]
  cases proto
  · exact if_pos rfl
  · exact if_neg (by decide)

theorem Reads.flag {b : Bool} (reads : Reads gaVars key (some (flag b).text)) (defval : Int) (behind : Bytes) :
    gaConfReadbool gaVars key defval behind = if b then 1 else 0 := by
  have short : (Config.flag b).text.length < 64 := by cases b <;> decide
  rw [gaConfReadbool, gaConfReadv, reads.found]
  change gaConfBoolval (cstr (strncpy (Config.flag b).text 64 ++ behind)) defval = _
  rw [cstr_strncpy (reads.plain _ rfl).1 short]
  cases b <;> rfl

theorem Reads.named {find : Bytes → Int} {unknown : Int} {named : Known find unknown}
    (reads : Reads gaVars key (some named.value.text)) :
    readNamed behind gaVars key find unknown = .ok (find named.value.text) := by
  rw [readNamed, reads.string]
  exact if_neg named.known

theorem Reads.codecs {byName : Bytes → Option γ} {byId : κ → Option γ} {list : Option (CodecList byName)}
    (reads : Reads gaVars key (list.map fun list => list.value.text)) :
    readCodec behind gaVars key ⟨[], none⟩ (findCodec byName byId) = .ok (CodecList.codecs list) := by
  rw [readCodec, reads.string]
  cases list with
  | none => rfl
  | some list =>
      have plain : 0 ∉ joined list.names := list.value.writable.plain
      have copied := cstr_strncpy plain list.short (behind.codec key)
      have found := tokens_joined list.few list.plain
      change rtspconfLoadCodec behind key (joined list.names) (findCodec byName byId) = _
      unfold rtspconfLoadCodec
      dsimp only
      rw [copied, found]
      obtain ⟨name, names, split⟩ := List.exists_cons_of_ne_nil list.nonempty
      have chosen := list.found
      rw [split] at chosen ⊢
      dsimp only
      rw [findCodec_none, chosen]
      dsimp only
      rw [← split]
      rfl

/-! ## What is parsed -/

/-- The store holds the settings, but for the name and the port of the server, which a URL can give. -/
structure Stores (s : Settings lib) (servername : Option Bytes) (serverport : Number 65535) (gaVars : GaVars) :
    Prop where
  servername : Reads gaVars (literal "server-name") servername
  serverport : Reads gaVars (literal "server-port") (some (decimalOf serverport.1))
  values : ∀ e ∈ s.values, e.1 ≠ literal "server-name" → e.1 ≠ literal "server-port" →
    Reads gaVars e.1 (e.2.map Value.text)
  options : gaVars.find videoSpecific =
    if s.options.entries = [] then none else some { GaConfVar.clear with mapdata := s.options }
  plain : Plain gaVars

variable {s : Settings lib} {servername : Option Bytes} {serverport : Number 65535}

theorem Stores.at (stores : Stores s servername serverport gaVars) (i : Nat) {value : Option Value}
    (listed : s.values[i]? = some (key, value))
    (other : key ≠ literal "server-name" ∧ key ≠ literal "server-port") :
    Reads gaVars key (value.map Value.text) :=
  stores.values _ (List.mem_of_getElem? listed) other.1 other.2

theorem ok_bind {ε α β : Type} (a : α) (f : α → Except ε β) : (Except.ok a >>= f) = f a := rfl

theorem Stores.server (stores : Stores s servername serverport gaVars) (conf : RTSPConf γ)
    (unnamed : conf.servername = none) :
    parseServer behind gaVars conf = .ok { conf with
      servername := servername, object := s.conf.object, title := s.conf.title, display := s.conf.display,
      serverport := serverport.1, proto := s.proto } := by
  have object := (stores.at 1 rfl (by decide)).field (literal "/desktop") rtspconfObjectSize
    (behind.buf (literal "base-object"))
  have title := (stores.at 2 rfl (by decide)).field (literal "Real-Time Desktop") rtspconfTitleSize
    (behind.buf (literal "title"))
  have display := (stores.at 3 rfl (by decide)).field (literal ":0") rtspconfDisplaySize
    (behind.buf (literal "display"))
  have proto : readProto behind gaVars (literal "proto") = s.proto := (stores.at 5 rfl (by decide)).proto
  rw [parseServer, stores.serverport.port, ok_bind, stores.servername.string, rtspconfObject, rtspconfTitle,
    rtspconfDisplay, object, title, display, proto, unnamed, Option.or_none]
  rfl

theorem Stores.controller (stores : Stores s servername serverport gaVars) (conf : RTSPConf γ)
    (dflt : conf.ctrlport = 555 ∧ conf.ctrlproto = .tcp ∧ conf.sendmousemotion = 0) :
    parseController behind gaVars conf = .ok { conf with
      ctrlenable := s.conf.ctrlenable, ctrlport := s.conf.ctrlport, ctrlproto := s.conf.ctrlproto,
      sendmousemotion := s.conf.sendmousemotion } := by
  have enabled := (stores.at 6 rfl (by decide)).flag 0 (behind.buf (literal "control-enabled"))
  have port := stores.at 7 rfl (by decide)
  have proto := stores.at 8 rfl (by decide)
  have motion := stores.at 9 rfl (by decide)
  unfold parseController
  dsimp only
  rw [enabled]
  cases control : s.control with
  | none =>
      obtain ⟨ctrlport, ctrlproto, sendmousemotion⟩ := dflt
      have disabled : ¬ (if (none : Option Control).isSome = true then (1 : Int) else 0) ≠ 0 := by decide
      rw [if_neg disabled]
      simp only [Settings.conf, control, ← ctrlport, ← ctrlproto, ← sendmousemotion, Option.elim_none]
      rfl
  | some control' =>
      rw [control] at port proto motion
      have some' : (if (some control').isSome = true then (1 : Int) else 0) ≠ 0 := one_ne_zero
      have port : readPort behind gaVars (literal "control-port") = .ok (control'.port.1 : Int) := Reads.port port
      rw [if_pos some', port, ok_bind, Reads.proto proto, Reads.flag motion]
      simp only [Settings.conf, control, Option.elim_some]
      rfl

theorem Stores.codecs (stores : Stores s servername serverport gaVars) (conf : RTSPConf γ)
    (unlisted : conf.videoEncoder = ⟨[], none⟩ ∧ conf.videoDecoder = ⟨[], none⟩ ∧
      conf.audioEncoder = ⟨[], none⟩ ∧ conf.audioDecoder = ⟨[], none⟩) :
    parseCodecs lib behind gaVars conf = .ok { conf with
      videoEncoder := s.conf.videoEncoder, videoDecoder := s.conf.videoDecoder,
      audioEncoder := s.conf.audioEncoder, audioDecoder := s.conf.audioDecoder } := by
  have first := stores.at 10 rfl (by decide)
  have second := stores.at 11 rfl (by decide)
  have third := stores.at 12 rfl (by decide)
  have fourth := stores.at 13 rfl (by decide)
  rw [Option.map_map] at first second third fourth
  obtain ⟨videoEncoder, videoDecoder, audioEncoder, audioDecoder⟩ := unlisted
  unfold parseCodecs
  rw [videoEncoder, videoDecoder, audioEncoder, audioDecoder, gaAvcodecFindEncoder, gaAvcodecFindDecoder,
    Reads.codecs first, ok_bind, Reads.codecs second, ok_bind, Reads.codecs third, ok_bind,
    Reads.codecs fourth, ok_bind]
  rfl

theorem Stores.rates (stores : Stores s servername serverport gaVars) (conf : RTSPConf γ) :
    parseRates behind gaVars conf = .ok { conf with
      videoFps := s.conf.videoFps, videoRendererSoftware := s.conf.videoRendererSoftware,
      audioBitrate := s.conf.audioBitrate, audioSamplerate := s.conf.audioSamplerate,
      audioChannels := s.conf.audioChannels } := by
  have fps : readUpTo behind gaVars (literal "video-fps") 120 = .ok (s.videoFps.1 : Int) :=
    (stores.at 14 rfl (by decide)).upTo (n := s.videoFps) (by decide)
  have software : readString behind gaVars (literal "video-renderer") = some (renderer s.software).text :=
    (stores.at 15 rfl (by decide)).string
  have bitrate : readUpTo behind gaVars (literal "audio-bitrate") 1024000 = .ok (s.audioBitrate.1 : Int) :=
    (stores.at 16 rfl (by decide)).upTo (n := s.audioBitrate) (by decide)
  have samplerate : readUpTo behind gaVars (literal "audio-samplerate") 1024000 =
      .ok (s.audioSamplerate.1 : Int) :=
    (stores.at 17 rfl (by decide)).upTo (n := s.audioSamplerate) (by decide)
  have channels : readInt behind gaVars (literal "audio-channels") (fun v => v < 1) .notPositive =
      .ok (s.audioChannels.1 : Int) := by
    have bounds := s.audioChannels.2
    refine readInt_eq_ok.mpr ⟨Reads.int (stores.at 18 rfl (by decide)) bounds.1 (by omega) _, ?_⟩
    simp only [decide_eq_false_iff_not]
    omega
  have rendered : (if some (renderer s.software).text = some (literal "software") then (1 : Int) else 0) =
      if s.software then 1 else 0 := by
    cases s.software <;> rfl
  unfold parseRates
  rw [fps, ok_bind, bitrate, ok_bind, samplerate, ok_bind, channels, ok_bind, software, rendered]
  rfl

theorem Stores.formats (stores : Stores s servername serverport gaVars) (conf : RTSPConf γ) :
    parseFormats lib behind gaVars conf = .ok { conf with
      audioDeviceFormat := s.conf.audioDeviceFormat, audioDeviceChannelLayout := s.conf.audioDeviceChannelLayout,
      audioCodecFormat := s.conf.audioCodecFormat, audioCodecChannelLayout := s.conf.audioCodecChannelLayout } := by
  have first : readNamed behind gaVars (literal "audio-device-format") lib.getSampleFmt (-1) =
      .ok (lib.getSampleFmt s.deviceFormat.value.text) := Reads.named (stores.at 19 rfl (by decide))
  have second : readNamed behind gaVars (literal "audio-device-channel-layout") lib.getChannelLayout 0 =
      .ok (lib.getChannelLayout s.deviceLayout.value.text) := Reads.named (stores.at 20 rfl (by decide))
  have third : readNamed behind gaVars (literal "audio-codec-format") lib.getSampleFmt (-1) =
      .ok (lib.getSampleFmt s.codecFormat.value.text) := Reads.named (stores.at 21 rfl (by decide))
  have fourth : readNamed behind gaVars (literal "audio-codec-channel-layout") lib.getChannelLayout 0 =
      .ok (lib.getChannelLayout s.codecLayout.value.text) := Reads.named (stores.at 22 rfl (by decide))
  unfold parseFormats
  rw [first, ok_bind, second, ok_bind, third, ok_bind, fourth, ok_bind]
  rfl

theorem Stores.vso (stores : Stores s servername serverport gaVars) (behind' valbehind : Bytes) {fuel : Nat}
    (enough : s.options.entries.length ≤ fuel) :
    rtspconfVso behind' valbehind fuel gaVars = some (inTurn s.options.entries) := by
  have found := stores.options
  cases split : s.options.entries with
  | nil =>
      rw [if_pos split] at found
      have size : gaConfMapsize gaVars videoSpecific = 0 := by simp only [gaConfMapsize, found]
      rw [rtspconfVso, size]
      rfl
  | cons e rest =>
      rw [if_neg (by rw [split]; exact List.cons_ne_nil _ _)] at found
      have short : Short gaVars := by
        constructor
        · rw [sub_dictOf found]
          cases unnamed : s.options.find [] with
          | none => rfl
          | some value => exact absurd rfl (s.optionsFit _ (s.options.find_eq_some_iff.mp unnamed)).form.2
        · intro k value entry
          rw [sub_dictOf found] at entry
          exact (s.optionsFit _ (s.options.find_eq_some_iff.mp entry)).short
      have valued : optionsOf s.options.entries = s.options.entries := by
        refine List.filter_eq_self.mpr fun e member => ?_
        exact decide_eq_true (s.optionsFit e member).value.word.ne_nil
      have few := s.few
      have all : rtspconfVso behind' valbehind fuel gaVars = some (inTurn (optionsOf s.options.entries)) :=
        rtspconfVso_eq stores.plain short found (by dsimp only; omega) enough
      rw [all, valued, split]

theorem Stores.parse (stores : Stores s servername serverport gaVars) (behind : Behind) {fuel : Nat}
    (enough : s.options.entries.length ≤ fuel) :
    rtspconfParse lib behind gaVars fuel =
      some (.ok { s.conf with servername := servername, serverport := serverport.1 }) := by
  have options : parseOptions lib behind gaVars =
      .ok { s.conf with servername := servername, serverport := serverport.1, vso := [] } := by
    unfold parseOptions
    rw [stores.server _ rfl, ok_bind, stores.controller _ ⟨rfl, rfl, rfl⟩, ok_bind,
      stores.codecs _ ⟨rfl, rfl, rfl, rfl⟩, ok_bind, stores.rates, ok_bind, stores.formats]
    rfl
  rw [rtspconfParse, options]
  dsimp only
  rw [stores.vso _ _ enough]
  rfl

/-! ## From the file to the configuration -/

def optionNames : List Bytes :=
  ["server-name", "base-object", "title", "display", "server-port", "proto", "control-enabled", "control-port",
    "control-proto", "control-send-mouse-motion", "video-encoder", "video-decoder", "audio-encoder",
    "audio-decoder", "video-fps", "video-renderer", "audio-bitrate", "audio-samplerate", "audio-channels",
    "audio-device-format", "audio-device-channel-layout", "audio-codec-format",
    "audio-codec-channel-layout"].map literal

theorem optionNames_plain : ∀ key ∈ optionNames, Writable key ∧ leftBracket ∉ key ∧ key ≠ includeOption ∧
    key.length ≤ 27 ∧ key ≠ videoSpecific := by
  decide +kernel

theorem optionNames_nodup : optionNames.Nodup := by decide +kernel

theorem Settings.names (s : Settings lib) : s.values.map Prod.fst = optionNames := rfl

theorem name_of_mem_assigned {a : Assign} (member : a ∈ assigned s.values) :
    ∃ key, ∃ value : Value, a = .var key value.text ∧ key ∈ optionNames := by
  obtain ⟨e, listed, written⟩ := List.mem_filterMap.mp member
  obtain ⟨value, -, rfl⟩ := Option.map_eq_some_iff.mp written
  exact ⟨e.1, value, rfl, s.names ▸ List.mem_map_of_mem listed⟩

theorem entry_of_mem_entries {a : Assign} {m : OrderedMap Bytes Bytes} (member : a ∈ entries videoSpecific m) :
    ∃ e ∈ m.entries, a = .entry videoSpecific e.1 e.2 := by
  obtain ⟨e, listed, rfl⟩ := List.mem_map.mp member
  exact ⟨e, listed, rfl⟩

theorem Settings.writable (s : Settings lib) : ∀ a ∈ s.assigns, a.Writable := by
  intro a member
  rcases List.mem_append.mp member with var | entry
  · obtain ⟨key, value, rfl, listed⟩ := name_of_mem_assigned var
    obtain ⟨writable, plain, other, short, -⟩ := optionNames_plain key listed
    refine ⟨writable, value.writable, plain, other, ?_⟩
    have few := value.short
    change key.length + value.text.length ≤ 8187
    omega
  · obtain ⟨e, listed, rfl⟩ := entry_of_mem_entries entry
    obtain ⟨key, value, form, short⟩ := s.optionsFit e listed
    refine ⟨key, value, ⟨by decide, form⟩, fun same => ?_, ?_⟩
    · have bracket : leftBracket ∈ (Assign.entry videoSpecific e.1 e.2).option :=
        List.mem_append_right _ List.mem_cons_self
      rw [same] at bracket
      exact absurd bracket (by decide)
    · change (videoSpecific ++ leftBracket :: (e.1 ++ [rightBracket])).length + e.2.length ≤ 8187
      have name : videoSpecific.length = 14 := rfl
      simp only [List.length_append, List.length_cons, List.length_nil]
      omega

def Settings.store (s : Settings lib) : GaVars := stored (s.assigns.map Assign.call)

theorem Settings.store_eq (s : Settings lib) : s.store =
    ((entries videoSpecific s.options).map Assign.call).foldl Call.apply
      (((assigned s.values).map Assign.call).foldl Call.apply .empty) := by
  rw [Settings.store, stored, Settings.assigns, List.map_append, List.foldl_append]

theorem Settings.reads (s : Settings lib) {key : Bytes} {value : Option Value} (listed : (key, value) ∈ s.values) :
    Reads s.store key (value.map Value.text) := by
  have named : key ∈ optionNames := s.names ▸ List.mem_map_of_mem listed
  have other : key ≠ videoSpecific := (optionNames_plain key named).2.2.2.2
  constructor
  · have behind : ∀ a ∈ entries videoSpecific s.options, a.name ≠ key := by
      intro a member
      obtain ⟨e, -, rfl⟩ := entry_of_mem_entries member
      exact Ne.symm other
    rw [s.store_eq, find_of_absent behind, find_assigned (s.names ▸ optionNames_nodup) listed rfl,
      Option.map_map]
    rfl
  · intro text found
    obtain ⟨value, rfl, rfl⟩ := Option.map_eq_some_iff.mp found
    exact ⟨value.writable.plain, value.short⟩

theorem Settings.plain (s : Settings lib) : Plain s.store := by
  refine plain_stored fun call member => ?_
  obtain ⟨a, listed, rfl⟩ := List.mem_map.mp member
  have writable := s.writable a listed
  rcases List.mem_append.mp listed with var | entry
  · obtain ⟨key, value, rfl, -⟩ := name_of_mem_assigned var
    exact writable.value.plain
  · obtain ⟨e, -, rfl⟩ := entry_of_mem_entries entry
    have key : 0 ∉ e.1 := fun zero =>
      writable.option.plain (List.mem_append_right _ (List.mem_cons_of_mem _ (List.mem_append_left _ zero)))
    exact ⟨key, writable.value.plain⟩

theorem Settings.stores (s : Settings lib) : Stores s (s.servername.map Value.text) s.serverport s.store where
  servername := s.reads (List.mem_of_getElem? (i := 0) rfl)
  serverport := s.reads (List.mem_of_getElem? (i := 4) rfl)
  values e listed _ _ := s.reads listed
  options := by
    rw [s.store_eq]
    refine find_entries ?_ s.options
    refine (find_of_absent fun a member => ?_).trans rfl
    obtain ⟨key, value, rfl, listed⟩ := name_of_mem_assigned member
    exact (optionNames_plain key listed).2.2.2.2
  plain := s.plain

/-! ## `ga_init` -/

/-- `behind` is the memory behind the name of the server, where the URL is parsed. -/
def gaInit (fs : FileSystem) (depth : Nat) (behind : Bytes) (config url : Option Bytes) (gaVars : GaVars) :
    Option (Int × GaVars) := do
  let loaded ← if config.isSome then gaConfLoad fs depth config gaVars else some (0, gaVars)
  if loaded.1 < 0 then return (-1, loaded.2)
  if url.isSome then
    let parsed := gaUrlParse loaded.2 behind url
    return (if parsed.ret < 0 then -1 else 0, parsed.gaVars)
  return (0, loaded.2)

structure Located (url : Bytes) (port : Option (Number 65535)) : Prop where
  rtsp : RtspUrl url
  plain : 0 ∉ url
  fits : UrlFits url
  port : portKept url = port.map fun n => decimalOf n.1

theorem Settings.load (s : Settings lib) {fs : FileSystem} {filename : Bytes}
    (opened : fs.fopen filename = some s.file) (depth : Nat) :
    ∃ lines, 0 ≤ lines ∧ gaConfLoad fs (depth + 1) (some filename) .empty = some (lines, s.store) := by
  refine ⟨_, ?_, gaConfLoad_fileOf s.writable opened depth .empty⟩
  have few := s.few
  have vars : (assigned s.values).length ≤ 23 := List.length_filterMap_le _ s.values
  have length : s.assigns.length < 2147483648 := by
    rw [Settings.assigns, List.length_append, entries, List.length_map]
    omega
  rw [int32_of_lt (by omega) (by omega)]
  exact Int.natCast_nonneg _

theorem Stores.locate (s : Settings lib) {url : Bytes} {port : Option (Number 65535)} (located : Located url port)
    (behind : Bytes) :
    Stores s (some (hostOf url)) (port.getD s.serverport) (gaUrlParse s.store behind (some url)).gaVars := by
  have left := scanHost_of_fits located.plain located.fits behind
  have find (key : Bytes) :=
    (find_gaUrlParse located.rtsp left key : (gaUrlParse s.store behind (some url)).gaVars.find key = _)
  have stores := s.stores
  have host : 0 ∉ hostOf url := plain_hostOf located.plain
  refine ⟨⟨(find _).trans (if_pos rfl), ?_⟩, ⟨?_, ?_⟩, ?_, ?_, ?_⟩
  · intro text found
    obtain rfl := Option.some.inj found
    exact ⟨host, located.fits.host⟩
  · rw [find, if_neg (by decide), if_neg (by decide), if_pos rfl, located.port]
    cases port with
    | none => exact stores.serverport.found
    | some port => rfl
  · intro text found
    obtain rfl := Option.some.inj found
    exact ⟨(writable_decimalOf _).plain, (Number.value (by decide) (port.getD s.serverport)).short⟩
  · intro e listed name port'
    have other : e.1 ≠ literal "server-url" := by
      have named : e.1 ∈ optionNames := s.names ▸ List.mem_map_of_mem listed
      rintro same
      rw [same] at named
      exact absurd named (by decide +kernel)
    have before := stores.values e listed name port'
    exact ⟨by rw [find, if_neg name, if_neg other, if_neg port']; exact before.found, before.plain⟩
  · rw [find, if_neg (by decide), if_neg (by decide), if_neg (by decide)]
    exact stores.options
  · rw [gaUrlParse, if_pos ((sameStart_rtsp_iff url).mpr located.rtsp)]
    dsimp only
    rw [left]
    have serverport : Plain ((portKept url).elim s.store (gaConfWritev s.store (literal "server-port"))) := by
      rw [located.port]
      cases port with
      | none => exact stores.plain
      | some port => exact stores.plain.insert (.assign (writable_decimalOf _).plain)
    exact (serverport.insert (.assign located.plain)).insert (.assign host)

/-- A file with the settings in it is loaded and parsed to the configuration that they mean; and where there
is a URL too, the name and the port of the server are those of the URL, and all else that of the file. -/
theorem rtspconf_roundtrip (s : Settings lib) (fs : FileSystem) (filename : Bytes)
    (opened : fs.fopen filename = some s.file) (depth : Nat) (behind' : Bytes) :
    (∃ gaVars, gaInit fs (depth + 1) behind' (some filename) none .empty = some (0, gaVars) ∧
      ∀ behind, ∀ fuel ≥ s.options.entries.length,
        rtspconfParse lib behind gaVars fuel = some (.ok s.conf)) ∧
    ∀ url port, Located url port →
      ∃ gaVars, gaInit fs (depth + 1) behind' (some filename) (some url) .empty = some (0, gaVars) ∧
        ∀ behind, ∀ fuel ≥ s.options.entries.length, rtspconfParse lib behind gaVars fuel =
          some (.ok { s.conf with
            servername := some (hostOf url), serverport := (port.getD s.serverport).1 }) := by
  obtain ⟨lines, loads, loaded⟩ := s.load opened depth
  constructor
  · refine ⟨s.store, ?_, fun behind fuel enough => s.stores.parse behind enough⟩
    simp [gaInit, loaded, Int.not_lt.mpr loads]
  · intro url port located
    have accepted : (gaUrlParse s.store behind' (some url)).ret = 0 := by
      rw [gaUrlParse, if_pos ((sameStart_rtsp_iff url).mpr located.rtsp)]
    refine ⟨_, ?_, fun behind fuel enough => (Stores.locate s located behind').parse behind enough⟩
    simp [gaInit, loaded, Int.not_lt.mpr loads, accepted]

end

/-! ## The files under `config` -/

def ffmpeg : Ffmpeg Bytes Unit where
  findEncoderByName name := if name ∈ [literal "libx264", literal "libmp3lame"] then some name else none
  findEncoder _ := none
  findDecoderByName name := if name ∈ [literal "h264", literal "mp3"] then some name else none
  findDecoder _ := none
  getSampleFmt name := if name = literal "s16" then 1 else if name = literal "s16p" then 6 else -1
  getChannelLayout name := if name = literal "stereo" then 3 else 0

/-- `server-common.conf`, `controller.conf`, `video-x264.conf` and `audio-lame.conf`, with one of the
options for the encoder. -/
def desktopSettings : Settings ffmpeg where
  servername := none
  object := ⟨literal "/desktop", by decide +kernel, by decide⟩
  title := ⟨literal "Real-Time Desktop", by decide +kernel, by decide⟩
  display := ⟨literal ":0", by decide +kernel, by decide⟩
  serverport := ⟨8554, by decide⟩
  proto := .udp
  control := some ⟨⟨8555, by decide⟩, .udp, true⟩
  videoEncoder := some ⟨[literal "libx264"], by decide, by decide,
    fun name member => List.mem_singleton.mp member ▸ ⟨by decide, by decide +kernel⟩, by decide, literal "libx264", rfl⟩
  videoDecoder := some ⟨[literal "h264"], by decide, by decide,
    fun name member => List.mem_singleton.mp member ▸ ⟨by decide, by decide +kernel⟩, by decide, literal "h264", rfl⟩
  audioEncoder := some ⟨[literal "libmp3lame"], by decide, by decide,
    fun name member => List.mem_singleton.mp member ▸ ⟨by decide, by decide +kernel⟩, by decide, literal "libmp3lame", rfl⟩
  audioDecoder := none
  videoFps := ⟨24, by decide⟩
  software := false
  audioBitrate := ⟨128000, by decide⟩
  audioSamplerate := ⟨44100, by decide⟩
  audioChannels := ⟨2, by decide⟩
  deviceFormat := ⟨⟨literal "s16", by decide +kernel, by decide⟩, by decide⟩
  deviceLayout := ⟨⟨literal "stereo", by decide +kernel, by decide⟩, by decide⟩
  codecFormat := ⟨⟨literal "s16p", by decide +kernel, by decide⟩, by decide⟩
  codecLayout := ⟨⟨literal "stereo", by decide +kernel, by decide⟩, by decide⟩
  options := OrderedMap.empty.insert (literal "refs") (literal "1")
  optionsFit e member := by
    obtain rfl : e = (literal "refs", literal "1") := List.mem_singleton.mp member
    exact ⟨by decide +kernel, by decide +kernel, ⟨by decide, by decide⟩, ⟨by decide, by decide⟩⟩
  few := by decide

theorem rtspconf_roundtrip_desktop : ∃ fs filename, fs.fopen filename = some desktopSettings.file ∧
    (∃ gaVars, gaInit fs 1 [] (some filename) none .empty = some (0, gaVars) ∧
      ∀ behind, rtspconfParse ffmpeg behind gaVars 1 = some (.ok desktopSettings.conf)) ∧
    ∃ gaVars, gaInit fs 1 [] (some filename) (some (literal "rtsp://server:554/desktop")) .empty =
        some (0, gaVars) ∧
      ∀ behind, rtspconfParse ffmpeg behind gaVars 1 = some (.ok { desktopSettings.conf with
        servername := some (literal "server"), serverport := 554 }) := by
  let fs : FileSystem :=
    ⟨fun name => if name = [97] then some desktopSettings.file else none, fun name long => if_neg fun same => by
      rw [same] at long
      exact absurd long (by decide)⟩
  have url : Located (literal "rtsp://server:554/desktop") (some ⟨554, by decide⟩) := by
    refine ⟨rfl, by decide, ⟨by decide, fun serverport kept => ?_⟩, by decide +kernel⟩
    have read : portKept (literal "rtsp://server:554/desktop") = some (literal "554") := by decide
    obtain rfl := Option.some.inj (read.symm.trans kept)
    decide
  obtain ⟨⟨gaVars, loaded, parses⟩, located⟩ := rtspconf_roundtrip desktopSettings fs [97] rfl 0 []
  obtain ⟨gaVars', loaded', parses'⟩ := located _ _ url
  exact ⟨fs, [97], rfl, ⟨gaVars, loaded, fun behind => parses behind 1 (Nat.le_refl 1)⟩,
    gaVars', loaded', fun behind => parses' behind 1 (Nat.le_refl 1)⟩

end GamingAnywhere.Config
