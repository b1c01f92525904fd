import GamingAnywhere.Config.Copies

namespace GamingAnywhere.Config
open Lib

/-! ## Parsing -/

def servernameSize : Nat := 1024

def serverportSize : Nat := 64

/-- The loop over the digits, with the turns that `i` leaves it: what it puts in `serverport`. -/
def scanPort : Nat → Bytes → Bytes
  | i + 1, c :: ptr => if isdigit c then c :: scanPort i ptr else []
  | _, _ => []

/-- The loop over `servername`: what is left of it, and `serverport` where a `':'` ends the host. -/
def scanHost : Bytes → Bytes × Option Bytes
  | [] => ([], none)
  | c :: ptr =>
      if c = 0 ∨ c = 47 then ([], none)
      else if c = 58 then ([], some (scanPort (serverportSize - 1) ptr))
      else
        let r := scanHost ptr
        (c :: r.1, r.2)

/-- The bytes from `servername` on that the two loops look at: each of them one more than it takes. -/
def scanned (r : Bytes × Option Bytes) : Nat :=
  r.1.length + 1 + r.2.elim 0 fun serverport => serverport.length + 1

structure UrlParse where
  ret : Int
  gaVars : GaVars
  read : Nat

/-- `behind` is the memory behind `servername`. -/
def gaUrlParse (gaVars : GaVars) (behind : Bytes) : Option Bytes → UrlParse
  | none => ⟨-1, gaVars, 0⟩
  | some url =>
      if sameStart 7 (literal "rtsp://") url then
        let servername := strncpy (url.drop 7) servernameSize
        let r := scanHost (servername ++ behind)
        let ported := r.2.elim gaVars (gaConfWritev gaVars (literal "server-port"))
        let located := gaConfWritev ported (literal "server-url") url
        ⟨0, gaConfWritev located (literal "server-name") r.1, scanned r⟩
      else ⟨-1, gaVars, 0⟩

/-! ## The parts of a URL -/

def RtspUrl (url : Bytes) : Prop := (url.take 7).map tolower = literal "rtsp://"

instance (url : Bytes) : Decidable (RtspUrl url) := inferInstanceAs (Decidable (_ = _))

def inHost (c : UInt8) : Bool := c != 47 && c != 58

def hostOf (url : Bytes) : Bytes := (url.drop 7).takeWhile inHost

def afterColon : Bytes → Option Bytes
  | 58 :: rest => some rest
  | _ => none

def portOf (url : Bytes) : Option Bytes :=
  (afterColon ((url.drop 7).dropWhile inHost)).map (List.takeWhile isdigit)

def urlVars (gaVars : GaVars) (url : Bytes) (port : Option Bytes) (key : Bytes) : Option GaConfVar :=
  if key = literal "server-name" then some (.assign (hostOf url))
  else if key = literal "server-url" then some (.assign url)
  else if key = literal "server-port" then
    port.elim (gaVars.find key) fun serverport => some (.assign serverport)
  else gaVars.find key

/-- What the parser is for, where `port` is what a URL sets `server-port` to. -/
structure UrlParse.Right (gaVars : GaVars) (url : Bytes) (port : Option Bytes) (p : UrlParse) : Prop where
  refused : ¬RtspUrl url → p.ret = -1 ∧ p.gaVars = gaVars
  accepted : RtspUrl url → p.ret = 0 ∧ ∀ key, p.gaVars.find key = urlVars gaVars url port key
  inside : p.read ≤ servernameSize

def portKept (url : Bytes) : Option Bytes := (portOf url).map (List.take (serverportSize - 1))

structure UrlFits (url : Bytes) : Prop where
  host : (hostOf url).length < servernameSize
  port : ∀ serverport, portKept url = some serverport →
    (hostOf url).length + 1 + serverport.length < servernameSize

/-! ## The loops -/

theorem scanPort_eq (i : Nat) (ptr : Bytes) : scanPort i ptr = (ptr.takeWhile isdigit).take i := by
  induction i generalizing ptr with
  | zero => simp [scanPort]
  | succ i ih =>
      cases ptr with
      | nil => simp [scanPort]
      | cons c ptr =>
          rw [scanPort, List.takeWhile_cons]
          split_ifs with first
          · rw [ih, List.take_succ_cons]
          · rfl

theorem scanHost_append {host : Bytes} (plain : 0 ∉ host) (all : ∀ c ∈ host, inHost c = true) (ptr : Bytes) :
    scanHost (host ++ ptr) = (host ++ (scanHost ptr).1, (scanHost ptr).2) := by
  induction host with
  | nil => rfl
  | cons c host ih =>
      obtain ⟨here, later⟩ := List.forall_mem_cons.mp all
      obtain ⟨nonzero, plain⟩ := List.ne_and_not_mem_of_not_mem_cons plain
      obtain ⟨not_slash, not_colon⟩ : c ≠ 47 ∧ c ≠ 58 := by simpa [inHost] using here
      rw [List.cons_append, scanHost, if_neg (not_or.mpr ⟨nonzero.symm, not_slash⟩), if_neg not_colon,
        ih plain later, List.cons_append]

/-! ## In the array -/

section
variable {url : Bytes}

theorem hostOf_append (url : Bytes) : hostOf url ++ (url.drop 7).dropWhile inHost = url.drop 7 :=
  List.takeWhile_append_dropWhile

theorem inHost_hostOf : ∀ c ∈ hostOf url, inHost c = true := fun _ => List.mem_takeWhile_imp

theorem portKept_eq (url : Bytes) : portKept url =
    (afterColon ((url.drop 7).dropWhile inHost)).map fun rest =>
      (rest.takeWhile isdigit).take (serverportSize - 1) :=
  Option.map_map ..

theorem plain_hostOf (plain : 0 ∉ url) : 0 ∉ hostOf url := fun member =>
  plain (List.mem_of_mem_drop (List.takeWhile_subset _ member))

theorem scanHost_of_lt (plain : 0 ∉ url) (lt : (hostOf url).length < servernameSize) (behind : Bytes) :
    scanHost (strncpy (url.drop 7) servernameSize ++ behind) =
      (hostOf url, (afterColon ((url.drop 7).dropWhile inHost)).map fun rest =>
        scanPort (serverportSize - 1)
          (strncpy rest (servernameSize - 1 - (hostOf url).length) ++ behind)) := by
  obtain ⟨m, room⟩ : ∃ m, servernameSize - (hostOf url).length = m + 1 :=
    Nat.exists_eq_add_one.mpr (Nat.sub_pos_of_lt lt)
  have left : servernameSize - 1 - (hostOf url).length = m := by omega
  have cut : strncpy (url.drop 7) servernameSize =
      hostOf url ++ strncpy ((url.drop 7).dropWhile inHost) (m + 1) := by
    rw [← hostOf_append url, strncpy_append_of_lt lt, room, hostOf_append]
  rw [cut, left, List.append_assoc, scanHost_append (plain_hostOf plain) inHost_hostOf]
  have ended := List.head?_dropWhile_not inHost (url.drop 7)
  cases tail : (url.drop 7).dropWhile inHost with
  | nil => simp [strncpy_nil_succ, scanHost, afterColon]
  | cons c rest =>
      rw [tail, List.head?_cons] at ended
      obtain rfl | rfl : c = 47 ∨ c = 58 := by
        by_contra other
        rw [not_or] at other
        simp [inHost, other] at ended
      · simp [strncpy_cons_succ, scanHost, afterColon]
      · simp [strncpy_cons_succ, scanHost, afterColon]

theorem takeWhile_strncpy_of_lt {rest : Bytes} {m : Nat} (lt : (rest.takeWhile isdigit).length < m)
    (behind : Bytes) : (strncpy rest m ++ behind).takeWhile isdigit = rest.takeWhile isdigit := by
  have all : ∀ c ∈ rest.takeWhile isdigit, isdigit c = true := fun _ => List.mem_takeWhile_imp
  obtain ⟨k, room⟩ : ∃ k, m - (rest.takeWhile isdigit).length = k + 1 :=
    Nat.exists_eq_add_one.mpr (Nat.sub_pos_of_lt lt)
  have cut : strncpy rest m = rest.takeWhile isdigit ++ strncpy (rest.dropWhile isdigit) (k + 1) := by
    conv_lhs => rw [← List.takeWhile_append_dropWhile (p := isdigit) (l := rest)]
    rw [strncpy_append_of_lt lt, room]
  rw [cut, List.append_assoc, List.takeWhile_append_of_pos all]
  have ended := List.head?_dropWhile_not isdigit rest
  cases tail : rest.dropWhile isdigit with
  | nil => simp [strncpy_nil_succ, isdigit]
  | cons c after =>
      rw [tail, List.head?_cons] at ended
      simp [strncpy_cons_succ, ended]

theorem takeWhile_strncpy_of_le {rest : Bytes} {m : Nat} (le : m ≤ (rest.takeWhile isdigit).length)
    (behind : Bytes) : (strncpy rest m ++ behind).takeWhile isdigit =
      (rest.takeWhile isdigit).take m ++ behind.takeWhile isdigit := by
  have all : ∀ c ∈ (rest.takeWhile isdigit).take m, isdigit c = true := fun _ member =>
    List.mem_takeWhile_imp (List.mem_of_mem_take member)
  have filled : strncpy rest m = (rest.takeWhile isdigit).take m := by
    conv_lhs => rw [← List.takeWhile_append_dropWhile (p := isdigit) (l := rest)]
    rw [strncpy_append_of_le le]
  rw [filled, List.takeWhile_append_of_pos all]

theorem length_scanPort_lt_iff (rest behind : Bytes) (i m : Nat) :
    (scanPort i (strncpy rest m ++ behind)).length < m ↔ ((rest.takeWhile isdigit).take i).length < m := by
  rw [scanPort_eq]
  rcases Nat.lt_or_ge (rest.takeWhile isdigit).length m with short | long
  · rw [takeWhile_strncpy_of_lt short]
  · rw [takeWhile_strncpy_of_le long]
    simp only [List.length_take, List.length_append]
    omega

theorem scanPort_strncpy {rest : Bytes} {i m : Nat} (lt : ((rest.takeWhile isdigit).take i).length < m)
    (behind : Bytes) : scanPort i (strncpy rest m ++ behind) = (rest.takeWhile isdigit).take i := by
  rw [scanPort_eq]
  rcases Nat.lt_or_ge (rest.takeWhile isdigit).length m with short | long
  · rw [takeWhile_strncpy_of_lt short]
  · rw [List.length_take] at lt
    have le : i ≤ m := by omega
    rw [takeWhile_strncpy_of_le long, List.take_append_of_le_length (by rw [List.length_take]; omega),
      List.take_take, Nat.min_eq_left le]

/-! ## What is stored -/

variable {gaVars : GaVars} {behind : Bytes}

theorem sameStart_rtsp_iff (url : Bytes) : sameStart 7 (literal "rtsp://") url = true ↔ RtspUrl url := by
  have scheme : ((literal "rtsp://").take 7).map tolower = literal "rtsp://" := by decide
  rw [sameStart_iff, scheme, RtspUrl, eq_comm]

theorem gaUrlParse_of_not (not_rtsp : ¬RtspUrl url) :
    gaUrlParse gaVars behind (some url) = ⟨-1, gaVars, 0⟩ := by
  rw [gaUrlParse, if_neg]
  rwa [sameStart_rtsp_iff]

theorem gaUrlParse_read (rtsp : RtspUrl url) : (gaUrlParse gaVars behind (some url)).read =
    scanned (scanHost (strncpy (url.drop 7) servernameSize ++ behind)) := by
  rw [gaUrlParse, if_pos ((sameStart_rtsp_iff url).mpr rtsp)]

theorem find_gaUrlParse {r : Bytes × Option Bytes} (rtsp : RtspUrl url)
    (left : scanHost (strncpy (url.drop 7) servernameSize ++ behind) = r) (key : Bytes) :
    (gaUrlParse gaVars behind (some url)).gaVars.find key =
      if key = literal "server-name" then some (.assign r.1)
      else if key = literal "server-url" then some (.assign url)
      else if key = literal "server-port" then
        r.2.elim (gaVars.find key) fun serverport => some (.assign serverport)
      else gaVars.find key := by
  rw [gaUrlParse, if_pos ((sameStart_rtsp_iff url).mpr rtsp)]
  simp only [left, gaConfWritev, OrderedMap.find_insert]
  cases r.2 with
  | none => split_ifs <;> rfl
  | some serverport =>
      simp only [Option.elim_some, gaConfWritev, OrderedMap.find_insert]
      split_ifs <;> rfl

theorem scanned_of_long (plain : 0 ∉ url) (long : servernameSize ≤ (hostOf url).length) (behind : Bytes) :
    servernameSize < scanned (scanHost (strncpy (url.drop 7) servernameSize ++ behind)) := by
  have filled : strncpy (url.drop 7) servernameSize = (hostOf url).take servernameSize := by
    rw [← hostOf_append url, strncpy_append_of_le long]
  have cut_plain : 0 ∉ (hostOf url).take servernameSize := fun member =>
    plain_hostOf plain (List.mem_of_mem_take member)
  have cut_host : ∀ c ∈ (hostOf url).take servernameSize, inHost c = true := fun c member =>
    inHost_hostOf c (List.mem_of_mem_take member)
  have length_cut : ((hostOf url).take servernameSize).length = servernameSize := List.length_take_of_le long
  rw [filled, scanHost_append cut_plain cut_host, scanned, List.length_append, length_cut]
  omega

theorem scanned_le_iff (plain : 0 ∉ url) (behind : Bytes) :
    scanned (scanHost (strncpy (url.drop 7) servernameSize ++ behind)) ≤ servernameSize ↔ UrlFits url := by
  rcases Nat.lt_or_ge (hostOf url).length servernameSize with host | long
  · have port := portKept_eq url
    rw [scanHost_of_lt plain host]
    cases colon : afterColon ((url.drop 7).dropWhile inHost) with
    | none =>
        rw [colon, Option.map_none] at port
        constructor
        · intro _
          exact ⟨host, fun serverport kept => absurd (port.symm.trans kept) nofun⟩
        · intro _
          exact host
    | some rest =>
        rw [colon, Option.map_some] at port
        have digits := length_scanPort_lt_iff rest behind (serverportSize - 1)
          (servernameSize - 1 - (hostOf url).length)
        change (hostOf url).length + 1 + ((scanPort _ _).length + 1) ≤ servernameSize ↔ _
        constructor
        · intro inside
          refine ⟨host, ?_⟩
          intro serverport kept
          obtain rfl := Option.some.inj (port.symm.trans kept)
          have := digits.mp (by omega)
          omega
        · intro fits
          have kept := fits.port _ port
          have := digits.mpr (by omega)
          omega
  · constructor
    · intro inside
      exact absurd inside (Nat.not_le_of_gt (scanned_of_long plain long behind))
    · intro fits
      exact absurd fits.host (Nat.not_lt_of_ge long)

theorem scanHost_of_fits (plain : 0 ∉ url) (fits : UrlFits url) (behind : Bytes) :
    scanHost (strncpy (url.drop 7) servernameSize ++ behind) = (hostOf url, portKept url) := by
  have port := portKept_eq url
  rw [scanHost_of_lt plain fits.host]
  cases colon : afterColon ((url.drop 7).dropWhile inHost) with
  | none => rw [port, colon, Option.map_none, Option.map_none]
  | some rest =>
      rw [colon, Option.map_some] at port
      have inside := fits.port _ port
      rw [Option.map_some, scanPort_strncpy (by omega), port]

theorem right_of_fits (gaVars : GaVars) (behind : Bytes) (plain : 0 ∉ url)
    (fits : RtspUrl url → UrlFits url) :
    (gaUrlParse gaVars behind (some url)).Right gaVars url (portKept url) := by
  by_cases rtsp : RtspUrl url
  · have left := scanHost_of_fits plain (fits rtsp) behind
    refine ⟨fun not_rtsp => absurd rtsp not_rtsp, ?_, ?_⟩
    · intro _
      constructor
      · rw [gaUrlParse, if_pos ((sameStart_rtsp_iff url).mpr rtsp)]
      · intro key
        rw [find_gaUrlParse rtsp left, urlVars]
    · rw [gaUrlParse_read rtsp]
      exact (scanned_le_iff plain behind).mpr (fits rtsp)
  · rw [gaUrlParse_of_not rtsp]
    exact ⟨fun _ => ⟨rfl, rfl⟩, fun is_rtsp => absurd is_rtsp rtsp, Nat.zero_le _⟩

theorem gaUrlParse_right_iff (gaVars : GaVars) (behind : Bytes) (plain : 0 ∉ url) :
    (gaUrlParse gaVars behind (some url)).Right gaVars url (portKept url) ↔
      (RtspUrl url → UrlFits url) := by
  constructor
  · intro right rtsp
    have inside := right.inside
    rwa [gaUrlParse_read rtsp, scanned_le_iff plain] at inside
  · exact right_of_fits gaVars behind plain

theorem gaUrlParse_right_short : (gaUrlParse .empty [] (some (literal "RTSP://a:1/x"))).Right .empty
    (literal "RTSP://a:1/x") (portKept (literal "RTSP://a:1/x")) := by
  refine (gaUrlParse_right_iff .empty [] (by decide)).mpr fun _ => ⟨by decide, ?_⟩
  intro serverport kept
  have read : portKept (literal "RTSP://a:1/x") = some (literal "1") := by decide
  cases read.symm.trans kept
  decide

theorem not_gaUrlParse_right :
    ¬(gaUrlParse .empty [] (some (literal "rtsp://a:" ++ List.replicate 64 49))).Right .empty
        (literal "rtsp://a:" ++ List.replicate 64 49) (portOf (literal "rtsp://a:" ++ List.replicate 64 49)) ∧
      ¬(gaUrlParse .empty [] (some (literal "rtsp://" ++ List.replicate 1024 97))).Right .empty
        (literal "rtsp://" ++ List.replicate 1024 97)
        (portOf (literal "rtsp://" ++ List.replicate 1024 97)) := by
  constructor
  · intro right
    have rtsp : RtspUrl (literal "rtsp://a:" ++ List.replicate 64 49) := rfl
    have stored := (right.accepted rtsp).2 (literal "server-port")
    have left :
        scanHost (strncpy ((literal "rtsp://a:" ++ List.replicate 64 49).drop 7) servernameSize ++ []) =
          (literal "a", some (List.replicate 63 49)) := by decide +kernel
    have port : portOf (literal "rtsp://a:" ++ List.replicate 64 49) = some (List.replicate 64 49) := by
      decide +kernel
    rw [find_gaUrlParse rtsp left, urlVars, port] at stored
    have whole := congrArg GaConfVar.data (Option.some.inj stored)
    exact absurd (congrArg List.length whole) (by decide)
  · intro right
    have rtsp : RtspUrl (literal "rtsp://" ++ List.replicate 1024 97) := rfl
    have plain : 0 ∉ literal "rtsp://" ++ List.replicate 1024 97 := by
      rw [List.mem_append, List.mem_replicate]
      decide
    have host : hostOf (literal "rtsp://" ++ List.replicate 1024 97) = List.replicate 1024 97 := by
      have text : (literal "rtsp://" ++ List.replicate 1024 (97 : UInt8)).drop 7 = List.replicate 1024 97 :=
        List.drop_left' rfl
      rw [hostOf, text, List.takeWhile_replicate]
      rfl
    have inside := right.inside
    rw [gaUrlParse_read rtsp, scanned_le_iff plain] at inside
    have short := inside.host
    rw [host, List.length_replicate] at short
    exact Nat.lt_irrefl _ short

end

end GamingAnywhere.Config
