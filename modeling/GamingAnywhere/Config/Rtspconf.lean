import GamingAnywhere.Config.Options
import GamingAnywhere.Config.Url
import GamingAnywhere.Lib.Text

namespace GamingAnywhere.Config
open Lib Text

/-! ## Codecs -/

/-- A format that is unknown is -1, a layout 0. -/
structure Ffmpeg (γ κ : Type) where
  findEncoderByName : Bytes → Option γ
  findEncoder : κ → Option γ
  findDecoderByName : Bytes → Option γ
  findDecoder : κ → Option γ
  getSampleFmt : Bytes → Int
  getChannelLayout : Bytes → Int

section
variable {γ κ : Type}

def findCodec (byName : Bytes → Option γ) (byId : κ → Option γ) (names : Option (List Bytes))
    (cid : Option κ) : Option γ :=
  match (names.getD []).findSome? byName with
  | some codec => some codec
  | none => cid.bind byId

def gaAvcodecFindEncoder (lib : Ffmpeg γ κ) : Option (List Bytes) → Option κ → Option γ :=
  findCodec lib.findEncoderByName lib.findEncoder

def gaAvcodecFindDecoder (lib : Ffmpeg γ κ) : Option (List Bytes) → Option κ → Option γ :=
  findCodec lib.findDecoderByName lib.findDecoder

end

/-! ## The configuration -/

inductive Proto
  | tcp
  | udp
  deriving DecidableEq

/-- `video_encoder_name` and `video_encoder_codec`, and the like. -/
structure Codecs (γ : Type) where
  names : List Bytes
  codec : Option γ

structure RTSPConf (γ : Type) where
  initialized : Int
  object : Bytes
  title : Bytes
  display : Bytes
  servername : Option Bytes
  serverport : Int
  proto : Proto
  ctrlenable : Int
  ctrlport : Int
  ctrlproto : Proto
  sendmousemotion : Int
  videoEncoder : Codecs γ
  videoDecoder : Codecs γ
  videoFps : Int
  videoRendererSoftware : Int
  audioEncoder : Codecs γ
  audioDecoder : Codecs γ
  audioBitrate : Int
  audioSamplerate : Int
  audioChannels : Int
  audioDeviceFormat : Int
  audioDeviceChannelLayout : Int
  audioCodecFormat : Int
  audioCodecChannelLayout : Int
  vso : List Bytes

def avSampleFmtS16 : Int := 1

def avChLayoutStereo : Int := 3

/-- The layout for the codec is left at zero, and that of the device set twice. -/
def rtspconfInit (γ : Type) : RTSPConf γ where
  initialized := 1
  object := strncpy (literal "/desktop") rtspconfObjectSize
  title := strncpy (literal "Real-Time Desktop") rtspconfTitleSize
  display := strncpy (literal ":0") rtspconfDisplaySize
  servername := none
  serverport := 554
  proto := .udp
  ctrlenable := 0
  ctrlport := 555
  ctrlproto := .tcp
  sendmousemotion := 0
  videoEncoder := ⟨[], none⟩
  videoDecoder := ⟨[], none⟩
  videoFps := 24
  videoRendererSoftware := 0
  audioEncoder := ⟨[], none⟩
  audioDecoder := ⟨[], none⟩
  audioBitrate := 128000
  audioSamplerate := 44100
  audioChannels := 2
  audioDeviceFormat := avSampleFmtS16
  audioDeviceChannelLayout := avChLayoutStereo
  audioCodecFormat := avSampleFmtS16
  audioCodecChannelLayout := 0
  vso := []

/-! ## Options -/

inductive Refusal
  | invalidPort (key : Bytes) (v : Int)
  | noCodecs (key : Bytes)
  | noAvailable (key value : Bytes)
  | outOfRange (key : Bytes) (v : Int)
  | notPositive (key : Bytes) (v : Int)
  | notSpecified (key : Bytes)
  | unsupported (key value : Bytes)

/-- The memory behind the buffers: behind the one that is filled for an option, behind the copy that is
made of a list of codecs, and behind those of a video-specific option. -/
structure Behind where
  buf : Bytes → Bytes
  codec : Bytes → Bytes
  key : Bytes
  value : Bytes

section
variable {γ κ : Type} (lib : Ffmpeg γ κ) (behind : Behind) (gaVars : GaVars)

def readString (key : Bytes) : Option Bytes :=
  (gaConfReadv gaVars key (some 1024)).map fun buf => cstr (buf ++ behind.buf key)

def readInt (key : Bytes) (wrong : Int → Bool) (refusal : Bytes → Int → Refusal) : Except Refusal Int :=
  let v := gaConfReadint gaVars key (behind.buf key)
  if wrong v then .error (refusal key v) else .ok v

def readPort (key : Bytes) : Except Refusal Int :=
  readInt behind gaVars key (fun v => v ≤ 0 || v ≥ 65536) .invalidPort

def readUpTo (key : Bytes) (max : Int) : Except Refusal Int :=
  readInt behind gaVars key (fun v => v ≤ 0 || v > max) .outOfRange

def readProto (key : Bytes) : Proto :=
  if readString behind gaVars key = some (literal "tcp") then .tcp else .udp

def readNamed (key : Bytes) (find : Bytes → Int) (unknown : Int) : Except Refusal Int :=
  match readString behind gaVars key with
  | none => .error (.notSpecified key)
  | some ptr => if find ptr = unknown then .error (.unsupported key ptr) else .ok (find ptr)

def isDelimiter (c : UInt8) : Bool := c = 32 ∨ c = 9 ∨ c = 10 ∨ c = 13

def tokens : Nat → Bytes → List Bytes
  | 0, _ => []
  | room + 1, s =>
      match word isDelimiter s with
      | none => []
      | some (token, saveptr) => token :: tokens room saveptr

def rtspconfCodecnameSize : Nat := 8

def rtspconfLoadCodec (key value : Bytes) (finder : Option (List Bytes) → Option κ → Option γ) :
    Except Refusal (Codecs γ) :=
  let buf := strncpy value 1024
  match tokens rtspconfCodecnameSize (cstr (buf ++ behind.codec key)) with
  | [] => .error (.noCodecs key)
  | name :: names =>
      match finder (some (name :: names)) none with
      | none => .error (.noAvailable key value)
      | some codec => .ok ⟨name :: names, some codec⟩

/-- `dflt` is what `rtspconf_init` has left. -/
def readCodec (key : Bytes) (dflt : Codecs γ) (finder : Option (List Bytes) → Option κ → Option γ) :
    Except Refusal (Codecs γ) :=
  match readString behind gaVars key with
  | none => .ok dflt
  | some ptr => rtspconfLoadCodec behind key ptr finder

/-! ## `rtspconf_parse` -/

def parseServer (conf : RTSPConf γ) : Except Refusal (RTSPConf γ) := do
  let serverport ← readPort behind gaVars (literal "server-port")
  return { conf with
    servername := (readString behind gaVars (literal "server-name")).or conf.servername
    object := rtspconfObject gaVars (behind.buf (literal "base-object"))
    title := rtspconfTitle gaVars (behind.buf (literal "title"))
    display := rtspconfDisplay gaVars (behind.buf (literal "display"))
    serverport := serverport
    proto := readProto behind gaVars (literal "proto") }

def parseController (conf : RTSPConf γ) : Except Refusal (RTSPConf γ) := do
  let enabled := literal "control-enabled"
  let conf := { conf with ctrlenable := gaConfReadbool gaVars enabled 0 (behind.buf enabled) }
  if conf.ctrlenable ≠ 0 then
    let ctrlport ← readPort behind gaVars (literal "control-port")
    let motion := literal "control-send-mouse-motion"
    return { conf with
      ctrlport := ctrlport
      ctrlproto := readProto behind gaVars (literal "control-proto")
      sendmousemotion := gaConfReadbool gaVars motion 1 (behind.buf motion) }
  else return conf

def parseCodecs (conf : RTSPConf γ) : Except Refusal (RTSPConf γ) := do
  let videoEncoder ← readCodec behind gaVars (literal "video-encoder") conf.videoEncoder (gaAvcodecFindEncoder lib)
  let videoDecoder ← readCodec behind gaVars (literal "video-decoder") conf.videoDecoder (gaAvcodecFindDecoder lib)
  let audioEncoder ← readCodec behind gaVars (literal "audio-encoder") conf.audioEncoder (gaAvcodecFindEncoder lib)
  let audioDecoder ← readCodec behind gaVars (literal "audio-decoder") conf.audioDecoder (gaAvcodecFindDecoder lib)
  return { conf with
    videoEncoder := videoEncoder
    videoDecoder := videoDecoder
    audioEncoder := audioEncoder
    audioDecoder := audioDecoder }

def parseRates (conf : RTSPConf γ) : Except Refusal (RTSPConf γ) := do
  let videoFps ← readUpTo behind gaVars (literal "video-fps") 120
  let renderer := readString behind gaVars (literal "video-renderer")
  let audioBitrate ← readUpTo behind gaVars (literal "audio-bitrate") 1024000
  let audioSamplerate ← readUpTo behind gaVars (literal "audio-samplerate") 1024000
  let audioChannels ← readInt behind gaVars (literal "audio-channels") (fun v => v < 1) .notPositive
  return { conf with
    videoFps := videoFps
    videoRendererSoftware := if renderer = some (literal "software") then 1 else 0
    audioBitrate := audioBitrate
    audioSamplerate := audioSamplerate
    audioChannels := audioChannels }

def parseFormats (conf : RTSPConf γ) : Except Refusal (RTSPConf γ) := do
  let deviceFormat ← readNamed behind gaVars (literal "audio-device-format") lib.getSampleFmt (-1)
  let deviceLayout ← readNamed behind gaVars (literal "audio-device-channel-layout") lib.getChannelLayout 0
  let codecFormat ← readNamed behind gaVars (literal "audio-codec-format") lib.getSampleFmt (-1)
  let codecLayout ← readNamed behind gaVars (literal "audio-codec-channel-layout") lib.getChannelLayout 0
  return { conf with
    audioDeviceFormat := deviceFormat
    audioDeviceChannelLayout := deviceLayout
    audioCodecFormat := codecFormat
    audioCodecChannelLayout := codecLayout }

/-- All but the video-specific options. -/
def parseOptions : Except Refusal (RTSPConf γ) := do
  let conf ← parseServer behind gaVars (rtspconfInit γ)
  let conf ← parseController behind gaVars conf
  let conf ← parseCodecs lib behind gaVars conf
  let conf ← parseRates behind gaVars conf
  parseFormats lib behind gaVars conf

/-- `none` where `fuel` rounds do not go through the video-specific options. -/
def rtspconfParse (fuel : Nat) : Option (Except Refusal (RTSPConf γ)) :=
  match parseOptions lib behind gaVars with
  | .error refusal => some (.error refusal)
  | .ok conf => (rtspconfVso behind.key behind.value fuel gaVars).map fun vso => .ok { conf with vso := vso }

end

/-! ## What is accepted -/

section
variable {γ κ : Type}

inductive Codecs.Chosen (byName : Bytes → Option γ) : Codecs γ → Prop
  | unlisted : Chosen byName ⟨[], none⟩
  | listed {names : List Bytes} {codec : γ} : names ≠ [] → names.length ≤ rtspconfCodecnameSize →
      (∀ name ∈ names, name ≠ [] ∧ All (fun c => !isDelimiter c) name) →
      names.findSome? byName = some codec → Chosen byName ⟨names, some codec⟩

def IsPort (v : Int) : Prop := 0 < v ∧ v < 65536

structure WellFormed (lib : Ffmpeg γ κ) (conf : RTSPConf γ) : Prop where
  serverport : IsPort conf.serverport
  ctrlport : IsPort conf.ctrlport
  flags : (conf.ctrlenable = 0 ∨ conf.ctrlenable = 1) ∧ (conf.sendmousemotion = 0 ∨ conf.sendmousemotion = 1)
  videoEncoder : conf.videoEncoder.Chosen lib.findEncoderByName
  videoDecoder : conf.videoDecoder.Chosen lib.findDecoderByName
  audioEncoder : conf.audioEncoder.Chosen lib.findEncoderByName
  audioDecoder : conf.audioDecoder.Chosen lib.findDecoderByName
  videoFps : 0 < conf.videoFps ∧ conf.videoFps ≤ 120
  audioRates : (0 < conf.audioBitrate ∧ conf.audioBitrate ≤ 1024000) ∧
    (0 < conf.audioSamplerate ∧ conf.audioSamplerate ≤ 1024000) ∧ 0 < conf.audioChannels
  formats : conf.audioDeviceFormat ≠ -1 ∧ conf.audioCodecFormat ≠ -1
  layouts : conf.audioDeviceChannelLayout ≠ 0 ∧ conf.audioCodecChannelLayout ≠ 0
  vso : ∃ pairs, conf.vso = inTurn pairs ∧ ∀ e ∈ pairs, e.2 ≠ []

inductive Port : Bytes → Prop
  | server : Port (literal "server-port")
  | control : Port (literal "control-port")

inductive Limit : Bytes → Int → Prop
  | videoFps : Limit (literal "video-fps") 120
  | audioBitrate : Limit (literal "audio-bitrate") 1024000
  | audioSamplerate : Limit (literal "audio-samplerate") 1024000

inductive Names (lib : Ffmpeg γ κ) : Bytes → (Bytes → Option γ) → Prop
  | videoEncoder : Names lib (literal "video-encoder") lib.findEncoderByName
  | videoDecoder : Names lib (literal "video-decoder") lib.findDecoderByName
  | audioEncoder : Names lib (literal "audio-encoder") lib.findEncoderByName
  | audioDecoder : Names lib (literal "audio-decoder") lib.findDecoderByName

inductive Format (lib : Ffmpeg γ κ) : Bytes → (Bytes → Int) → Int → Prop
  | deviceFormat : Format lib (literal "audio-device-format") lib.getSampleFmt (-1)
  | deviceLayout : Format lib (literal "audio-device-channel-layout") lib.getChannelLayout 0
  | codecFormat : Format lib (literal "audio-codec-format") lib.getSampleFmt (-1)
  | codecLayout : Format lib (literal "audio-codec-channel-layout") lib.getChannelLayout 0

/-- The option that is named has the value that is reported, and is not to have it. -/
inductive Justified (lib : Ffmpeg γ κ) (behind : Behind) (gaVars : GaVars) : Refusal → Prop
  | invalidPort {key : Bytes} {v : Int} : Port key → gaConfReadint gaVars key (behind.buf key) = v →
      ¬ IsPort v → Justified lib behind gaVars (.invalidPort key v)
  | noCodecs {key value : Bytes} {byName : Bytes → Option γ} : Names lib key byName →
      readString behind gaVars key = some value →
      All isDelimiter (cstr (strncpy value 1024 ++ behind.codec key)) →
      Justified lib behind gaVars (.noCodecs key)
  | noAvailable {key value : Bytes} {byName : Bytes → Option γ} : Names lib key byName →
      readString behind gaVars key = some value →
      (∀ name ∈ tokens rtspconfCodecnameSize (cstr (strncpy value 1024 ++ behind.codec key)),
        byName name = none) → Justified lib behind gaVars (.noAvailable key value)
  | outOfRange {key : Bytes} {max v : Int} : Limit key max → gaConfReadint gaVars key (behind.buf key) = v →
      ¬ (0 < v ∧ v ≤ max) → Justified lib behind gaVars (.outOfRange key v)
  | notPositive {v : Int} :
      gaConfReadint gaVars (literal "audio-channels") (behind.buf (literal "audio-channels")) = v →
      ¬ 0 < v → Justified lib behind gaVars (.notPositive (literal "audio-channels") v)
  | notSpecified {key : Bytes} {find : Bytes → Int} {unknown : Int} : Format lib key find unknown →
      gaVars.find key = none → Justified lib behind gaVars (.notSpecified key)
  | unsupported {key value : Bytes} {find : Bytes → Int} {unknown : Int} : Format lib key find unknown →
      readString behind gaVars key = some value → find value = unknown →
      Justified lib behind gaVars (.unsupported key value)

variable {lib : Ffmpeg γ κ} {behind : Behind} {gaVars : GaVars} {key : Bytes} {refusal : Refusal}

theorem bind_eq_ok {ε α β : Type} {x : Except ε α} {f : α → Except ε β} {b : β} :
    x >>= f = .ok b ↔ ∃ a, x = .ok a ∧ f a = .ok b := by
  cases x with
  | error e => exact ⟨nofun, fun ⟨_, fails, _⟩ => nomatch fails⟩
  | ok a => exact ⟨fun same => ⟨a, rfl, same⟩, fun ⟨_, rfl, same⟩ => same⟩

theorem bind_eq_error {ε α β : Type} {x : Except ε α} {f : α → Except ε β} {e : ε} :
    x >>= f = .error e ↔ x = .error e ∨ ∃ a, x = .ok a ∧ f a = .error e := by
  cases x with
  | error e' =>
      constructor
      · intro same
        exact .inl (congrArg Except.error (Except.error.inj same))
      · rintro (same | ⟨_, fails, -⟩)
        · exact congrArg Except.error (Except.error.inj same)
        · cases fails
  | ok a =>
      constructor
      · exact fun same => .inr ⟨a, rfl, same⟩
      · rintro (fails | ⟨b, here, same⟩)
        · cases fails
        · obtain rfl := Except.ok.inj here
          exact same

theorem readInt_eq_ok {wrong : Int → Bool} {refuse : Bytes → Int → Refusal} {v : Int} :
    readInt behind gaVars key wrong refuse = .ok v ↔
      gaConfReadint gaVars key (behind.buf key) = v ∧ wrong v = false := by
  unfold readInt
  dsimp only
  split_ifs with bad
  · refine ⟨nofun, ?_⟩
    rintro ⟨rfl, good⟩
    rw [good] at bad
    cases bad
  · refine ⟨fun same => ?_, fun both => congrArg Except.ok both.1⟩
    obtain rfl := Except.ok.inj same
    exact ⟨rfl, Bool.eq_false_iff.mpr bad⟩

theorem readInt_eq_error {wrong : Int → Bool} {refuse : Bytes → Int → Refusal} :
    readInt behind gaVars key wrong refuse = .error refusal ↔
      refuse key (gaConfReadint gaVars key (behind.buf key)) = refusal ∧
        wrong (gaConfReadint gaVars key (behind.buf key)) = true := by
  unfold readInt
  dsimp only
  split_ifs with bad
  · exact ⟨fun same => ⟨Except.error.inj same, bad⟩, fun both => congrArg Except.error both.1⟩
  · exact ⟨nofun, fun both => absurd both.2 bad⟩

theorem readPort_ok {v : Int} (read : readPort behind gaVars key = .ok v) : IsPort v := by
  obtain ⟨-, right⟩ := readInt_eq_ok.mp read
  simpa [IsPort] using right

theorem readPort_error (port : Port key) (read : readPort behind gaVars key = .error refusal) :
    Justified lib behind gaVars refusal := by
  obtain ⟨rfl, wrong⟩ := readInt_eq_error.mp read
  refine .invalidPort port rfl ?_
  simp only [Bool.or_eq_true, decide_eq_true_eq] at wrong
  unfold IsPort
  omega

theorem readUpTo_ok {max v : Int} (read : readUpTo behind gaVars key max = .ok v) : 0 < v ∧ v ≤ max := by
  obtain ⟨-, right⟩ := readInt_eq_ok.mp read
  simpa using right

theorem readUpTo_error {max : Int} (limit : Limit key max)
    (read : readUpTo behind gaVars key max = .error refusal) : Justified lib behind gaVars refusal := by
  obtain ⟨rfl, wrong⟩ := readInt_eq_error.mp read
  refine .outOfRange limit rfl ?_
  simp only [Bool.or_eq_true, decide_eq_true_eq] at wrong
  omega

theorem readNamed_ok {find : Bytes → Int} {unknown v : Int}
    (read : readNamed behind gaVars key find unknown = .ok v) : v ≠ unknown := by
  unfold readNamed at read
  split at read
  · cases read
  · split_ifs at read with absent
    obtain rfl := Except.ok.inj read
    exact absent

theorem readNamed_error {find : Bytes → Int} {unknown : Int} (format : Format lib key find unknown)
    (read : readNamed behind gaVars key find unknown = .error refusal) : Justified lib behind gaVars refusal := by
  unfold readNamed at read
  split at read
  · next missing =>
      obtain rfl := Except.error.inj read
      refine .notSpecified format ?_
      simpa [readString, gaConfReadv] using missing
  · next value found =>
      split_ifs at read with absent
      obtain rfl := Except.error.inj read
      exact .unsupported format found absent

/-! ## Lists of codecs -/

theorem tokens_spec (room : Nat) (s : Bytes) :
    (tokens room s).length ≤ room ∧
      ∀ token ∈ tokens room s, token ≠ [] ∧ All (fun c => !isDelimiter c) token := by
  induction room generalizing s with
  | zero => exact ⟨Nat.le_refl 0, nofun⟩
  | succ room ih =>
      rw [tokens]
      split
      · exact ⟨Nat.zero_le _, nofun⟩
      · next token saveptr found =>
          obtain ⟨few, later⟩ := ih saveptr
          refine ⟨Nat.succ_le_succ few, List.forall_mem_cons.mpr ⟨⟨?_, word_inside found⟩, later⟩⟩
          unfold word at found
          split at found
          · cases found
          · next c rest dropped =>
              obtain ⟨rfl, -⟩ := Prod.mk.inj (Option.some.inj found)
              have inside := not_head_dropWhile dropped
              simp [inside]

theorem tokens_eq_nil {room : Nat} {s : Bytes} (none' : tokens (room + 1) s = []) : All isDelimiter s := by
  by_contra other
  obtain ⟨d, w, rest, -, -, -, -, -, found⟩ := word_split other
  rw [tokens, found] at none'
  cases none'

theorem findCodec_none (byName : Bytes → Option γ) (byId : κ → Option γ) (names : List Bytes) :
    findCodec byName byId (some names) none = names.findSome? byName := by
  rw [findCodec, Option.getD_some]
  cases names.findSome? byName <;> rfl

theorem rtspconfLoadCodec_ok {value : Bytes} {byName : Bytes → Option γ} {byId : κ → Option γ} {codecs : Codecs γ}
    (loaded : rtspconfLoadCodec behind key value (findCodec byName byId) = .ok codecs) :
    codecs.Chosen byName := by
  have spec := tokens_spec rtspconfCodecnameSize (cstr (strncpy value 1024 ++ behind.codec key))
  unfold rtspconfLoadCodec at loaded
  dsimp only at loaded
  split at loaded
  · cases loaded
  · next name names found =>
      rw [found] at spec
      rw [findCodec_none] at loaded
      split at loaded
      · cases loaded
      · next codec chosen =>
          obtain rfl := Except.ok.inj loaded
          exact .listed (List.cons_ne_nil _ _) spec.1 spec.2 chosen

theorem rtspconfLoadCodec_error {value : Bytes} {byName : Bytes → Option γ} {byId : κ → Option γ}
    (named : Names lib key byName)
    (found : readString behind gaVars key = some value)
    (loaded : rtspconfLoadCodec behind key value (findCodec byName byId) = .error refusal) :
    Justified lib behind gaVars refusal := by
  unfold rtspconfLoadCodec at loaded
  dsimp only at loaded
  split at loaded
  · next none' =>
      obtain rfl := Except.error.inj loaded
      exact .noCodecs named found (tokens_eq_nil none')
  · next name names listed =>
      rw [findCodec_none] at loaded
      split at loaded
      · next absent =>
          obtain rfl := Except.error.inj loaded
          refine .noAvailable named found ?_
          rw [listed]
          exact List.findSome?_eq_none_iff.mp absent
      · cases loaded

theorem readCodec_ok {byName : Bytes → Option γ} {byId : κ → Option γ} {codecs : Codecs γ}
    (read : readCodec behind gaVars key ⟨[], none⟩ (findCodec byName byId) = .ok codecs) :
    codecs.Chosen byName := by
  unfold readCodec at read
  split at read
  · obtain rfl := Except.ok.inj read
    exact .unlisted
  · exact rtspconfLoadCodec_ok read

theorem readCodec_error {byName : Bytes → Option γ} {byId : κ → Option γ} {dflt : Codecs γ}
    (named : Names lib key byName)
    (read : readCodec behind gaVars key dflt (findCodec byName byId) = .error refusal) :
    Justified lib behind gaVars refusal := by
  unfold readCodec at read
  split at read
  · cases read
  · next found => exact rtspconfLoadCodec_error named found read

/-! ## The parts of the configuration -/

theorem gaConfReadbool_flag (gaVars : GaVars) (key behind : Bytes) {defval : Int}
    (flag : defval = 0 ∨ defval = 1) :
    gaConfReadbool gaVars key defval behind = 0 ∨ gaConfReadbool gaVars key defval behind = 1 := by
  unfold gaConfReadbool boolOf
  cases gaConfReadv gaVars key (some 64) with
  | none => exact flag
  | some buf =>
      rw [Option.elim_some, gaConfBoolval]
      split_ifs
      · exact .inr rfl
      · exact .inl rfl
      · exact flag

variable {conf conf' : RTSPConf γ}

theorem parseServer_ok (parsed : parseServer behind gaVars conf = .ok conf') :
    ∃ servername object title display serverport proto, IsPort serverport ∧
      conf' = { conf with
        servername := servername, object := object, title := title, display := display,
        serverport := serverport, proto := proto } := by
  obtain ⟨serverport, port, rest⟩ := bind_eq_ok.mp parsed
  exact ⟨_, _, _, _, _, _, readPort_ok port, (Except.ok.inj rest).symm⟩

theorem parseServer_error (parsed : parseServer behind gaVars conf = .error refusal) :
    Justified lib behind gaVars refusal := by
  rcases bind_eq_error.mp parsed with port | ⟨_, _, rest⟩
  · exact readPort_error .server port
  · cases rest

theorem parseController_ok (parsed : parseController behind gaVars conf = .ok conf') (port : IsPort conf.ctrlport)
    (flag : conf.sendmousemotion = 0 ∨ conf.sendmousemotion = 1) :
    ∃ ctrlenable ctrlport ctrlproto sendmousemotion, IsPort ctrlport ∧ (ctrlenable = 0 ∨ ctrlenable = 1) ∧
      (sendmousemotion = 0 ∨ sendmousemotion = 1) ∧
      conf' = { conf with
        ctrlenable := ctrlenable, ctrlport := ctrlport, ctrlproto := ctrlproto,
        sendmousemotion := sendmousemotion } := by
  unfold parseController at parsed
  dsimp only at parsed
  split_ifs at parsed
  · obtain ⟨ctrlport, read, rest⟩ := bind_eq_ok.mp parsed
    exact ⟨_, _, _, _, readPort_ok read, gaConfReadbool_flag _ _ _ (.inl rfl),
      gaConfReadbool_flag _ _ _ (.inr rfl), (Except.ok.inj rest).symm⟩
  · exact ⟨_, _, _, _, port, gaConfReadbool_flag _ _ _ (.inl rfl), flag, (Except.ok.inj parsed).symm⟩

theorem parseController_error (parsed : parseController behind gaVars conf = .error refusal) :
    Justified lib behind gaVars refusal := by
  unfold parseController at parsed
  dsimp only at parsed
  split_ifs at parsed
  · rcases bind_eq_error.mp parsed with port | ⟨_, _, rest⟩
    · exact readPort_error .control port
    · cases rest
  · cases parsed

theorem parseCodecs_ok (parsed : parseCodecs lib behind gaVars conf = .ok conf')
    (unlisted : conf.videoEncoder = ⟨[], none⟩ ∧ conf.videoDecoder = ⟨[], none⟩ ∧
      conf.audioEncoder = ⟨[], none⟩ ∧ conf.audioDecoder = ⟨[], none⟩) :
    ∃ videoEncoder videoDecoder audioEncoder audioDecoder,
      (videoEncoder.Chosen lib.findEncoderByName ∧ videoDecoder.Chosen lib.findDecoderByName) ∧
      (audioEncoder.Chosen lib.findEncoderByName ∧ audioDecoder.Chosen lib.findDecoderByName) ∧
      conf' = { conf with
        videoEncoder := videoEncoder, videoDecoder := videoDecoder,
        audioEncoder := audioEncoder, audioDecoder := audioDecoder } := by
  unfold parseCodecs at parsed
  obtain ⟨first, second, third, fourth⟩ := unlisted
  rw [first, second, third, fourth] at parsed
  obtain ⟨videoEncoder, read, rest⟩ := bind_eq_ok.mp parsed
  obtain ⟨videoDecoder, read', rest⟩ := bind_eq_ok.mp rest
  obtain ⟨audioEncoder, read'', rest⟩ := bind_eq_ok.mp rest
  obtain ⟨audioDecoder, read''', rest⟩ := bind_eq_ok.mp rest
  exact ⟨_, _, _, _, ⟨readCodec_ok read, readCodec_ok read'⟩, ⟨readCodec_ok read'', readCodec_ok read'''⟩,
    (Except.ok.inj rest).symm⟩

theorem parseCodecs_error (parsed : parseCodecs lib behind gaVars conf = .error refusal) :
    Justified lib behind gaVars refusal := by
  unfold parseCodecs at parsed
  rcases bind_eq_error.mp parsed with read | ⟨_, _, rest⟩
  · exact readCodec_error .videoEncoder read
  · rcases bind_eq_error.mp rest with read | ⟨_, _, rest⟩
    · exact readCodec_error .videoDecoder read
    · rcases bind_eq_error.mp rest with read | ⟨_, _, rest⟩
      · exact readCodec_error .audioEncoder read
      · rcases bind_eq_error.mp rest with read | ⟨_, _, rest⟩
        · exact readCodec_error .audioDecoder read
        · cases rest

theorem parseRates_ok (parsed : parseRates behind gaVars conf = .ok conf') :
    ∃ videoFps videoRendererSoftware audioBitrate audioSamplerate audioChannels,
      (0 < videoFps ∧ videoFps ≤ 120) ∧ (0 < audioBitrate ∧ audioBitrate ≤ 1024000) ∧
      (0 < audioSamplerate ∧ audioSamplerate ≤ 1024000) ∧ 0 < audioChannels ∧
      conf' = { conf with
        videoFps := videoFps, videoRendererSoftware := videoRendererSoftware, audioBitrate := audioBitrate,
        audioSamplerate := audioSamplerate, audioChannels := audioChannels } := by
  unfold parseRates at parsed
  obtain ⟨videoFps, fps, rest⟩ := bind_eq_ok.mp parsed
  obtain ⟨audioBitrate, bitrate, rest⟩ := bind_eq_ok.mp rest
  obtain ⟨audioSamplerate, samplerate, rest⟩ := bind_eq_ok.mp rest
  obtain ⟨audioChannels, channels, rest⟩ := bind_eq_ok.mp rest
  have positive : 0 < audioChannels := by
    have right := (readInt_eq_ok.mp channels).2
    simp only [decide_eq_false_iff_not] at right
    omega
  exact ⟨_, _, _, _, _, readUpTo_ok fps, readUpTo_ok bitrate, readUpTo_ok samplerate, positive,
    (Except.ok.inj rest).symm⟩

theorem parseRates_error (parsed : parseRates behind gaVars conf = .error refusal) :
    Justified lib behind gaVars refusal := by
  unfold parseRates at parsed
  rcases bind_eq_error.mp parsed with read | ⟨_, _, rest⟩
  · exact readUpTo_error .videoFps read
  · rcases bind_eq_error.mp rest with read | ⟨_, _, rest⟩
    · exact readUpTo_error .audioBitrate read
    · rcases bind_eq_error.mp rest with read | ⟨_, _, rest⟩
      · exact readUpTo_error .audioSamplerate read
      · rcases bind_eq_error.mp rest with read | ⟨_, _, rest⟩
        · obtain ⟨rfl, wrong⟩ := readInt_eq_error.mp read
          refine .notPositive rfl ?_
          simp only [decide_eq_true_eq] at wrong
          omega
        · cases rest

theorem parseFormats_ok (parsed : parseFormats lib behind gaVars conf = .ok conf') :
    ∃ deviceFormat deviceLayout codecFormat codecLayout, (deviceFormat ≠ -1 ∧ codecFormat ≠ -1) ∧
      (deviceLayout ≠ 0 ∧ codecLayout ≠ 0) ∧
      conf' = { conf with
        audioDeviceFormat := deviceFormat, audioDeviceChannelLayout := deviceLayout,
        audioCodecFormat := codecFormat, audioCodecChannelLayout := codecLayout } := by
  unfold parseFormats at parsed
  obtain ⟨deviceFormat, first, rest⟩ := bind_eq_ok.mp parsed
  obtain ⟨deviceLayout, second, rest⟩ := bind_eq_ok.mp rest
  obtain ⟨codecFormat, third, rest⟩ := bind_eq_ok.mp rest
  obtain ⟨codecLayout, fourth, rest⟩ := bind_eq_ok.mp rest
  exact ⟨_, _, _, _, ⟨readNamed_ok first, readNamed_ok third⟩, ⟨readNamed_ok second, readNamed_ok fourth⟩,
    (Except.ok.inj rest).symm⟩

theorem parseFormats_error (parsed : parseFormats lib behind gaVars conf = .error refusal) :
    Justified lib behind gaVars refusal := by
  unfold parseFormats at parsed
  rcases bind_eq_error.mp parsed with read | ⟨_, _, rest⟩
  · exact readNamed_error .deviceFormat read
  · rcases bind_eq_error.mp rest with read | ⟨_, _, rest⟩
    · exact readNamed_error .deviceLayout read
    · rcases bind_eq_error.mp rest with read | ⟨_, _, rest⟩
      · exact readNamed_error .codecFormat read
      · rcases bind_eq_error.mp rest with read | ⟨_, _, rest⟩
        · exact readNamed_error .codecLayout read
        · cases rest

theorem parseOptions_error (parsed : parseOptions lib behind gaVars = .error refusal) :
    Justified lib behind gaVars refusal := by
  unfold parseOptions at parsed
  rcases bind_eq_error.mp parsed with read | ⟨_, _, rest⟩
  · exact parseServer_error read
  · rcases bind_eq_error.mp rest with read | ⟨_, _, rest⟩
    · exact parseController_error read
    · rcases bind_eq_error.mp rest with read | ⟨_, _, rest⟩
      · exact parseCodecs_error read
      · rcases bind_eq_error.mp rest with read | ⟨_, _, rest⟩
        · exact parseRates_error read
        · exact parseFormats_error rest

theorem parseOptions_ok {vso : List Bytes} {pairs : List (Bytes × Bytes)}
    (parsed : parseOptions lib behind gaVars = .ok conf)
    (options : vso = inTurn pairs) (valued : ∀ e ∈ pairs, e.2 ≠ []) :
    WellFormed lib { conf with vso := vso } := by
  unfold parseOptions at parsed
  obtain ⟨conf₁, server, rest⟩ := bind_eq_ok.mp parsed
  obtain ⟨conf₂, controller, rest⟩ := bind_eq_ok.mp rest
  obtain ⟨conf₃, codecs, rest⟩ := bind_eq_ok.mp rest
  obtain ⟨conf₄, rates, formats⟩ := bind_eq_ok.mp rest
  have initial : IsPort 555 := ⟨by decide, by decide⟩
  obtain ⟨_, _, _, _, _, _, port, rfl⟩ := parseServer_ok server
  obtain ⟨_, _, _, _, ctrlport, enabled, motion, rfl⟩ :=
    parseController_ok controller initial (.inl rfl)
  obtain ⟨_, _, _, _, video, audio, rfl⟩ := parseCodecs_ok codecs ⟨rfl, rfl, rfl, rfl⟩
  obtain ⟨_, _, _, _, _, fps, bitrate, samplerate, channels, rfl⟩ := parseRates_ok rates
  obtain ⟨_, _, _, _, fmts, layouts, rfl⟩ := parseFormats_ok formats
  exact ⟨port, ctrlport, ⟨enabled, motion⟩, video.1, video.2, audio.1, audio.2, fps,
    ⟨bitrate, samplerate, channels⟩, fmts, layouts, pairs, options, valued⟩

/-! ## The video-specific options -/

theorem pushOption_pushes (behind' valbehind : Bytes) (gaVars : GaVars) (buf : Bytes) (vso : List Bytes) :
    ∃ pairs, pushOption behind' valbehind gaVars buf vso = vso ++ inTurn pairs ∧ ∀ e ∈ pairs, e.2 ≠ [] := by
  have nothing : vso = vso ++ inTurn [] := (List.append_nil vso).symm
  unfold pushOption
  split
  · exact ⟨[], nothing, nofun⟩
  · next valbuf _ =>
      dsimp only
      split_ifs with empty
      · exact ⟨[], nothing, nofun⟩
      · exact ⟨[(cstr (buf ++ behind'), cstr (valbuf ++ valbehind))], rfl,
          fun e member => List.mem_singleton.mp member ▸ empty⟩

theorem pushOptions_ends (behind' valbehind : Bytes) {v : GaConfVar} {k : Bytes} {before rest : List Bytes}
    (found : gaVars.find videoSpecific = some v) (at_k : v.mi = some k)
    (visited : v.mapdata.keys = before ++ k :: rest) (buf : Bytes) (vso : List Bytes) {fuel : Nat}
    (enough : rest.length < fuel) :
    ∃ pairs, pushOptions behind' valbehind fuel gaVars (some buf) vso = some (vso ++ inTurn pairs) ∧
      ∀ e ∈ pairs, e.2 ≠ [] := by
  induction rest generalizing gaVars v before k fuel buf vso with
  | nil =>
      obtain _ | fuel := fuel
      · exact absurd enough (Nat.not_lt_zero _)
      · obtain ⟨pairs, pushed, valued⟩ := pushOption_pushes behind' valbehind gaVars buf vso
        refine ⟨pairs, ?_, valued⟩
        rw [pushOptions, gaConfMapnextkey_eq found at_k, v.mapdata.next?_eq visited, pushed]
        simp [pushOptions]
  | cons k' rest ih =>
      obtain _ | fuel := fuel
      · exact absurd enough (Nat.not_lt_zero _)
      · obtain ⟨pairs, pushed, valued⟩ := pushOption_pushes behind' valbehind gaVars buf vso
        have next := v.mapdata.next?_eq visited
        rw [List.head?_cons] at next
        have here : (gaVars.insert videoSpecific { v with mi := some k' }).find videoSpecific =
            some { v with mi := some k' } := by
          rw [OrderedMap.find_insert, if_pos rfl]
        have visited' : v.mapdata.keys = (before ++ [k]) ++ k' :: rest := by
          rw [visited, List.append_assoc, List.singleton_append]
        rw [pushOptions, gaConfMapnextkey_eq found at_k, next, pushed]
        dsimp only
        rw [Option.getD_some]
        by_cases unnamed : k' = []
        · rw [if_pos unnamed]
          exact ⟨pairs, by rw [pushOptions], valued⟩
        · rw [if_neg unnamed]
          obtain ⟨more, all, valued'⟩ := ih here rfl visited' (copyOut (some 1024) k') (vso ++ inTurn pairs)
            (Nat.lt_of_succ_lt_succ enough)
          refine ⟨pairs ++ more, ?_, fun e member => (List.mem_append.mp member).elim (valued e) (valued' e)⟩
          rw [all, inTurn, inTurn, inTurn, List.flatMap_append, List.append_assoc]

theorem pushOptions_mono {behind' valbehind : Bytes} {fuel fuel' : Nat} (le : fuel ≤ fuel') {ptr : Option Bytes}
    {vso all : List Bytes} (ends : pushOptions behind' valbehind fuel gaVars ptr vso = some all) :
    pushOptions behind' valbehind fuel' gaVars ptr vso = some all := by
  induction fuel generalizing gaVars ptr vso fuel' with
  | zero =>
      cases ptr with
      | none => rwa [pushOptions] at ends ⊢
      | some buf => cases ends
  | succ fuel ih =>
      cases ptr with
      | none => rwa [pushOptions] at ends ⊢
      | some buf =>
          obtain ⟨fuel', rfl⟩ := Nat.exists_eq_succ_of_ne_zero (Nat.ne_zero_of_lt le)
          rw [pushOptions] at ends ⊢
          exact ih (Nat.le_of_succ_le_succ le) ends

theorem rtspconfVso_ends (behind' valbehind : Bytes) (gaVars : GaVars) :
    ∃ enough pairs, (∀ fuel ≥ enough, rtspconfVso behind' valbehind fuel gaVars = some (inTurn pairs)) ∧
      ∀ e ∈ pairs, e.2 ≠ [] := by
  unfold rtspconfVso
  split_ifs with some'
  · cases found : gaVars.find videoSpecific with
    | none => simp [gaConfMapsize, found] at some'
    | some v =>
        have reset := find_mapreset found
        have key : gaConfMapkey (gaConfMapreset gaVars videoSpecific) videoSpecific (some 1024) =
            if v.mreset.mkey = [] then none else some (copyOut (some 1024) v.mreset.mkey) := by
          simp only [gaConfMapkey, reset]
        dsimp only
        rw [key]
        by_cases unnamed : v.mreset.mkey = []
        · rw [if_pos unnamed]
          exact ⟨0, [], fun fuel _ => by rw [pushOptions]; rfl, fun _ member => absurd member List.not_mem_nil⟩
        · rw [if_neg unnamed]
          cases keys : v.mapdata.keys with
          | nil =>
              have at_end : v.mreset.mkey = [] := by simp [GaConfVar.mreset, GaConfVar.mkey, OrderedMap.first?, keys]
              exact absurd at_end unnamed
          | cons k rest =>
              have first : v.mreset.mi = some k := by simp [GaConfVar.mreset, OrderedMap.first?, keys]
              have visited : v.mreset.mapdata.keys = [] ++ k :: rest := keys
              obtain ⟨pairs, all, valued⟩ := pushOptions_ends behind' valbehind reset first visited
                (copyOut (some 1024) v.mreset.mkey) [] (Nat.lt_succ_self _)
              exact ⟨rest.length + 1, pairs, fun fuel le => pushOptions_mono le all, valued⟩
  · exact ⟨0, [], fun _ _ => rfl, fun _ member => absurd member List.not_mem_nil⟩

theorem rtspconfParse_sound (lib : Ffmpeg γ κ) (behind : Behind) (gaVars : GaVars) :
    ∃ enough result, (∀ fuel ≥ enough, rtspconfParse lib behind gaVars fuel = some result) ∧
      (∀ conf, result = .ok conf → WellFormed lib conf) ∧
      ∀ refusal, result = .error refusal → Justified lib behind gaVars refusal := by
  cases parsed : parseOptions lib behind gaVars with
  | error refusal =>
      refine ⟨0, .error refusal, fun fuel _ => by rw [rtspconfParse, parsed], (fun _ same => nomatch same), ?_⟩
      rintro _ same
      obtain rfl := Except.error.inj same
      exact parseOptions_error parsed
  | ok conf =>
      obtain ⟨enough, pairs, ends, valued⟩ := rtspconfVso_ends behind.key behind.value gaVars
      refine ⟨enough, .ok { conf with vso := inTurn pairs }, fun fuel le => ?_, ?_, fun _ same => nomatch same⟩
      · rw [rtspconfParse, parsed]
        dsimp only
        rw [ends fuel le, Option.map_some]
      · rintro _ same
        obtain rfl := Except.ok.inj same
        exact parseOptions_ok parsed rfl valued

end

end GamingAnywhere.Config
