import RtspServer.Request
import RtspServer.RequestLine

/-!
# The URL of a request line and of `parseRtspUrl`

Two functions take a URL apart, the request parser and `Rtsp::parseRtspUrl`,
with the same two formats and arrays of different lengths. Both are given the
text `host[:port]/suffix` behind the scheme (`UrlText`).

With a port the first format reads the text. Without one the first format
still reads up to the first colon, which may stand in the suffix: the text is
taken apart right if and only if what is read as a host fits its array and
the suffix does not go on, after its first colon, with a number and a slash
(`readsBack_iff`).
-/

open Scanf RequestLine

/-- `struct RtspUrlInfo`. -/
structure RtspUrlInfo where
  url : Bytes := []
  ip : Bytes := []
  port : UInt16
  suffix : Bytes := []

/-- `Rtsp::parseRtspUrl`, on `_rtspUrlInfo`. The URL is read from its eighth
byte on, whether it has one or not. -/
def RtspUrlInfo.parseRtspUrl (info : RtspUrlInfo) (url : Bytes) :
    Except Fault (Bool × RtspUrlInfo) :=
  if url.length < 7 then .error .outOfBounds
  else do
    let rest := url.drop 7
    match ← sscanf rest [.upTo 0x3a 16, .lit 0x3a, .hu, .lit 0x2f, .str 128] with
    | [.str ip, .num port, .str suffix] =>
      return (true, { url := url, ip := ip, port := port.toUInt16, suffix := suffix })
    | _ =>
      match ← sscanf rest [.upTo 0x2f 16, .lit 0x2f, .str 128] with
      | [.str ip, .str suffix] =>
        return (true, { url := url, ip := ip, port := 554, suffix := suffix })
      | _ => return (false, info)

/-- **A host, a port or none, and a suffix**, as a URL names them. -/
structure UrlText where
  host : Bytes
  port : Option Bytes
  suffix : Bytes
  isWord_host : IsWord host
  colon_notMem : 0x3a ∉ host
  slash_notMem : 0x2f ∉ host
  isNumeral_port : ∀ digits ∈ port, IsNumeral digits ∧ decimalValue digits < 65536
  isWord_suffix : IsWord suffix

namespace UrlText

/-- What follows the scheme. -/
def rest (u : UrlText) : Bytes :=
  match u.port with
  | some digits => u.host ++ 0x3a :: (digits ++ 0x2f :: u.suffix)
  | none => u.host ++ 0x2f :: u.suffix

/-- The URL as it is written. -/
def bytes (u : UrlText) : Bytes := ascii "rtsp://" ++ u.rest

/-- The number of the port, 554 when there is none. -/
def portNumber (u : UrlText) : ℕ := (u.port.map decimalValue).getD 554

/-- The URL and its parts fit the arrays of the request parser: 16 bytes for the host,
64 for the suffix and 128 for the whole, with the 0 that ends them. -/
structure Fits (u : UrlText) : Prop where
  host : u.host.length < 16
  suffix : u.suffix.length < 64
  bytes : u.bytes.length < 128

end UrlText

/-! ## The text without a port -/

/-- **After its first colon the suffix goes on** like a port and a path: a number,
with a sign or without, a slash and something behind it. In a URL that has no port the
first pattern of the scan then fits, and takes all that stands before this colon for
the host. -/
def NamesPort (suffix : Bytes) : Prop :=
  ∃ name sign digits path, suffix = name ++ 0x3a :: (sign ++ (digits ++ 0x2f :: path)) ∧
    0x3a ∉ name ∧ (sign = [] ∨ sign = [0x2d] ∨ sign = [0x2b]) ∧ IsNumeral digits ∧ path ≠ []

namespace Scanf

theorem dropWhile_isSpace_of_forall {bs : Bytes} (h : ∀ b ∈ bs, isSpace b = false) :
    bs.dropWhile isSpace = bs := by
  cases bs with
  | nil => rfl
  | cons b bs =>
    exact List.dropWhile_cons_of_neg (by rw [h b List.mem_cons_self]; exact Bool.false_ne_true)

/-- A string without white space is its first word. -/
theorem firstWord_of_forall {bs : Bytes} (h : ∀ b ∈ bs, isSpace b = false) :
    firstWord bs = bs := by
  unfold firstWord
  rw [dropWhile_isSpace_of_forall h]
  exact List.takeWhile_eq_self_iff.mpr fun b hb => by rw [h b hb]; rfl

/-- **What follows a colon reads as a port and a path.** -/
theorem portPath_ne_none_iff {tail : Bytes} (h : ∀ b ∈ tail, isSpace b = false) :
    portPath tail ≠ none ↔ ∃ sign digits path, tail = sign ++ (digits ++ 0x2f :: path) ∧
      (sign = [] ∨ sign = [0x2d] ∨ sign = [0x2b]) ∧ IsNumeral digits ∧ path ≠ [] := by
  unfold portPath
  rw [dropWhile_isSpace_of_forall h]
  constructor
  · intro hne
    cases hnumber : number tail with
    | none => rw [hnumber] at hne; exact absurd rfl hne
    | some res =>
      obtain ⟨v, rest⟩ := res
      rw [hnumber] at hne
      cases rest with
      | nil => exact absurd rfl hne
      | cons b path =>
        dsimp only at hne
        split at hne
        · next hslash =>
          obtain ⟨rfl, hpath⟩ := hslash
          obtain ⟨sign, digits, hsign, hdigits, htail, -⟩ := number_eq_some_iff.mp ⟨v, hnumber⟩
          refine ⟨sign, digits, path, htail, hsign, hdigits, ?_⟩
          rintro rfl
          exact hpath rfl
        · exact absurd rfl hne
  · rintro ⟨sign, digits, path, rfl, hsign, hdigits, hpath⟩
    have hslash : ∀ b, (0x2f :: path).head? = some b → isDigit b = false := by
      rintro b ⟨rfl⟩
      rfl
    obtain ⟨v, hv⟩ := number_eq_some_iff.mpr ⟨sign, digits, hsign, hdigits, rfl, hslash⟩
    have hword : firstWord path = path := firstWord_of_forall fun b hb => h b (by simp [hb])
    rw [hv]
    dsimp only
    rw [if_pos ⟨rfl, hword.symm ▸ hpath⟩]
    exact Option.some_ne_none _

end Scanf

namespace UrlText

/-- The first colon of a text without a port stands in the suffix. -/
theorem takeWhile_colon (u : UrlText) :
    (u.host ++ 0x2f :: u.suffix).takeWhile (· ≠ 0x3a)
      = u.host ++ 0x2f :: u.suffix.takeWhile (· ≠ 0x3a) ∧
    (u.host ++ 0x2f :: u.suffix).dropWhile (· ≠ 0x3a) = u.suffix.dropWhile (· ≠ 0x3a) := by
  have hhost : ∀ b ∈ u.host ++ [0x2f], decide (b ≠ 0x3a) = true := by
    intro b hb
    rcases List.mem_append.mp hb with hb | hb
    · exact decide_eq_true fun h => u.colon_notMem (h ▸ hb)
    · rw [List.mem_singleton.mp hb]
      rfl
  rw [show u.host ++ 0x2f :: u.suffix = u.host ++ [0x2f] ++ u.suffix by simp,
    List.takeWhile_append_of_pos hhost, List.dropWhile_append_of_pos hhost]
  exact ⟨by simp, rfl⟩

/-- The first slash ends the host. -/
theorem takeWhile_slash (u : UrlText) :
    (u.host ++ 0x2f :: u.suffix).takeWhile (· ≠ 0x2f) = u.host ∧
    (u.host ++ 0x2f :: u.suffix).dropWhile (· ≠ 0x2f) = 0x2f :: u.suffix :=
  takeWhile_ne_append u.slash_notMem u.suffix

/-- **A text without a port is read as one with a port** when its suffix names
one. -/
theorem portParts_ne_none_iff (u : UrlText) :
    portParts (u.host ++ 0x2f :: u.suffix) ≠ none ↔ NamesPort u.suffix := by
  have hspace : ∀ b ∈ u.suffix, isSpace b = false := u.isWord_suffix.not_isSpace
  unfold portParts
  rw [u.takeWhile_colon.1, u.takeWhile_colon.2]
  constructor
  · intro hne
    cases hdrop : u.suffix.dropWhile (· ≠ 0x3a) with
    | nil => rw [hdrop] at hne; exact absurd rfl hne
    | cons b tail =>
      have hsuffix : u.suffix = u.suffix.takeWhile (· ≠ 0x3a) ++ b :: tail := by
        rw [← hdrop, List.takeWhile_append_dropWhile]
      have hb := dropWhile_eq_cons hdrop
      have htail : ∀ b ∈ tail, isSpace b = false := fun b hb =>
        hspace b (by rw [hsuffix]; simp [hb])
      have hport : portPath tail ≠ none := by
        intro hnone
        rw [hdrop] at hne
        simp [hnone] at hne
      obtain ⟨sign, digits, path, rfl, hsign, hdigits, hpath⟩ :=
        (portPath_ne_none_iff htail).mp hport
      refine ⟨_, sign, digits, path, hb ▸ hsuffix, fun hmem => ?_, hsign, hdigits, hpath⟩
      simpa using List.mem_takeWhile_imp hmem
  · rintro ⟨name, sign, digits, path, hsuffix, hname, hsign, hdigits, hpath⟩
    have htail : ∀ b ∈ sign ++ (digits ++ 0x2f :: path), isSpace b = false := fun b hb =>
      hspace b (by rw [hsuffix]; exact List.mem_append_right _ (List.mem_cons_of_mem _ hb))
    have hport := (portPath_ne_none_iff htail).mpr ⟨sign, digits, path, rfl, hsign, hdigits, hpath⟩
    rw [hsuffix, (takeWhile_ne_append hname _).2]
    simpa using hport

/-! ## What is read back -/

/-- **A text with a port** is read by the first format. -/
theorem urlParts_of_port {u : UrlText} {digits : Bytes} (hport : u.port = some digits) {size : ℕ}
    (hhost : u.host.length < 16) (hsuffix : u.suffix.length < size) :
    UrlFits size u.rest ∧
      urlParts u.rest = some (u.host, .ofNat (decimalValue digits), u.suffix) := by
  have hrest : u.rest = u.host ++ 0x3a :: (digits ++ 0x2f :: u.suffix) := by
    unfold rest
    rw [hport]
  obtain ⟨hdigits, hlt⟩ := u.isNumeral_port digits hport
  obtain ⟨htake, hdrop⟩ : u.rest.takeWhile (· ≠ 0x3a) = u.host ∧
      u.rest.dropWhile (· ≠ 0x3a) = 0x3a :: (digits ++ 0x2f :: u.suffix) := by
    rw [hrest]
    exact takeWhile_ne_append u.colon_notMem _
  have hslash : ∀ b, (0x2f :: u.suffix).head? = some b → isDigit b = false := by
    rintro b ⟨rfl⟩
    rfl
  have hword : firstWord u.suffix = u.suffix := firstWord_of_forall u.isWord_suffix.not_isSpace
  have hpath : portPath (digits ++ 0x2f :: u.suffix)
      = some (.ofNat (decimalValue digits), u.suffix) := by
    unfold portPath
    rw [hdigits.isWord.dropWhile, hdigits.number hslash, strtoul_of_lt (by omega)]
    dsimp only
    rw [hword, if_pos ⟨rfl, u.isWord_suffix.ne_nil⟩, Nat.mod_eq_of_lt hlt]
  have hparts : portParts u.rest = some (u.host, .ofNat (decimalValue digits), u.suffix) := by
    unfold portParts
    rw [htake, hdrop]
    dsimp only
    rw [if_neg u.isWord_host.ne_nil, hpath]
    rfl
  refine ⟨⟨htake.symm ▸ hhost, fun parts h => ?_, fun h => ?_⟩, ?_⟩
  · rw [hparts, Option.some.injEq] at h
    rw [← h]
    exact hsuffix
  · rw [hparts] at h
    cases h
  · unfold urlParts
    rw [hparts]

/-- **A text without a port** is read by the second format when the first one
does not find a port in the suffix. -/
theorem urlParts_of_noPort {u : UrlText} (hport : u.port = none) {size : ℕ}
    (hhost : (u.host ++ 0x2f :: u.suffix.takeWhile (· ≠ 0x3a)).length < 16)
    (hsuffix : u.suffix.length < size) (hnames : ¬ NamesPort u.suffix) :
    UrlFits size u.rest ∧ urlParts u.rest = some (u.host, 554, u.suffix) := by
  have hrest : u.rest = u.host ++ 0x2f :: u.suffix := by
    unfold rest
    rw [hport]
  have hnone : portParts (u.host ++ 0x2f :: u.suffix) = none :=
    Classical.not_not.mp fun h => hnames (u.portParts_ne_none_iff.mp h)
  have hword : firstWord u.suffix = u.suffix := firstWord_of_forall u.isWord_suffix.not_isSpace
  have hparts : pathParts (u.host ++ 0x2f :: u.suffix) = some (u.host, u.suffix) := by
    unfold pathParts
    rw [u.takeWhile_slash.1, u.takeWhile_slash.2]
    dsimp only
    rw [hword, if_neg (not_or.mpr ⟨u.isWord_host.ne_nil, u.isWord_suffix.ne_nil⟩)]
  rw [hrest]
  refine ⟨⟨?_, fun parts h => ?_, fun _ => ⟨?_, fun parts h => ?_⟩⟩, ?_⟩
  · rw [u.takeWhile_colon.1]
    exact hhost
  · rw [hnone] at h
    cases h
  · rw [u.takeWhile_slash.1]
    simp only [List.length_append, List.length_cons] at hhost
    omega
  · rw [hparts, Option.some.injEq] at h
    rw [← h]
    exact hsuffix
  · unfold urlParts
    rw [hnone, hparts]
    rfl

/-- What the two formats may read as the host of a text without a port. -/
theorem isWord_rest (u : UrlText) : IsWord u.rest := by
  unfold rest
  cases hport : u.port with
  | none => exact u.isWord_host.append (.append (by decide : IsWord [0x2f]) u.isWord_suffix)
  | some digits =>
    have hdigits := (u.isNumeral_port digits hport).1.isWord
    exact u.isWord_host.append (.append (by decide : IsWord [0x3a])
      (hdigits.append (.append (by decide : IsWord [0x2f]) u.isWord_suffix)))

theorem isWord_bytes (u : UrlText) : IsWord u.bytes :=
  .append (by decide : IsWord (ascii "rtsp://")) u.isWord_rest

/-- `METHOD rtsp://host[:port]/suffix VERSION`. -/
def requestLine (u : UrlText) (m : Method) (version : Bytes) : Bytes :=
  m.name ++ 0x20 :: (u.bytes ++ 0x20 :: version)

/-- A request line with such a URL. -/
theorem parseRequestLine_eq {u : UrlText} (hfits : u.Fits) {m : Method} (hm : m ∈ Method.supported)
    {version : Bytes} (hversion : IsWord version) (hlen : version.length < 16) (p : RtspRequest) :
    p.parseRequestLine (u.requestLine m version) =
      if UrlFits 64 u.rest then
        .ok (match urlParts u.rest with
          | none => (false, { p with method := m })
          | some parts => (true, enter p (u.requestLine m version) parts))
      else .error .outOfBounds := by
  have hname := (Method.isToken_name hm).isWord
  obtain ⟨hmethod, hurl, hthird⟩ := words_of_line hname u.isWord_bytes hversion
  have hnone : Method.ofName m.name ≠ .none := by
    rw [Method.ofName_name hm]
    rintro rfl
    exact absurd hm (by decide)
  have hscheme : ascii "rtsp://" <+: u.bytes := List.prefix_append _ _
  have hrest : cstr (u.bytes.drop 7) = u.rest := cstr_of_notMem u.isWord_rest.nul_notMem
  have hiff : RequestLine.Fits (u.requestLine m version) ↔ UrlFits 64 u.rest := by
    unfold RequestLine.Fits requestLine
    rw [hmethod, hurl, hthird, hrest]
    exact ⟨fun h => h.2.2.2 hversion.ne_nil hnone hscheme,
      fun h => ⟨m.length_name_lt, hfits.bytes, hlen, fun _ _ _ => h⟩⟩
  rw [RequestLine.parseRequestLine_eq]
  by_cases h : UrlFits 64 u.rest
  · rw [if_pos (hiff.mpr h), if_pos h]
    unfold readLine requestLine
    rw [hmethod, hurl, hthird, hrest, if_neg hversion.ne_nil, if_neg hnone,
      if_neg (not_not_intro hscheme)]
    cases urlParts u.rest with
    | none =>
      dsimp only
      rw [Method.ofName_name hm]
    | some parts => rfl
  · rw [if_neg fun hline => h (hiff.mp hline), if_neg h]

/-- `parseRtspUrl` gives the suffix 128 bytes. -/
theorem parseRtspUrl_eq (info : RtspUrlInfo) (u : UrlText) :
    info.parseRtspUrl u.bytes =
      if UrlFits 128 u.rest then
        .ok (match urlParts u.rest with
          | none => (false, info)
          | some parts => (true, ⟨u.bytes, parts.1, parts.2.1.toUInt16, parts.2.2⟩))
      else .error .outOfBounds := by
  have hrest : cstr u.rest = u.rest := cstr_of_notMem u.isWord_rest.nul_notMem
  have hlen : ¬ u.bytes.length < 7 := by
    unfold bytes
    rw [List.length_append, show (ascii "rtsp://").length = 7 from rfl]
    omega
  have hparts : info.parseRtspUrl u.bytes = (scanParts 128 u.rest).map fun parts =>
      match parts with
      | none => (false, info)
      | some parts => (true, ⟨u.bytes, parts.1, parts.2.1.toUInt16, parts.2.2⟩) := by
    unfold RtspUrlInfo.parseRtspUrl scanParts
    rw [if_neg hlen, show u.bytes.drop 7 = u.rest from rfl]
    dsimp only
    cases sscanf u.rest [.upTo 0x3a 16, .lit 0x3a, .hu, .lit 0x2f, .str 128] with
    | error e => rfl
    | ok vs =>
      simp only [Except.ok_bind]
      split
      · rfl
      · next hshape =>
        rw [hostPortPath_eq_none hshape]
        dsimp only
        cases sscanf u.rest [.upTo 0x2f 16, .lit 0x2f, .str 128] with
        | error e => rfl
        | ok ws =>
          simp only [Except.ok_bind]
          split
          · rfl
          · next hshape' => rw [hostPath_eq_none hshape']; rfl
  rw [hparts, scanParts_eq, hrest]
  by_cases h : UrlFits 128 u.rest
  · rw [if_pos h, if_pos h]
    rfl
  · rw [if_neg h, if_neg h]
    rfl

/-- **Both functions find the parts that the text names.** -/
structure ReadsBack (u : UrlText) (m : Method) (version : Bytes) (p : RtspRequest)
    (info : RtspUrlInfo) : Prop where
  request : ∃ q, p.parseRequestLine (u.requestLine m version) = .ok (true, q) ∧
    q.requestLineParam .urlIp = some (u.host, 0) ∧
    q.requestLineParam .urlPort = some ([], .ofNat u.portNumber) ∧
    q.requestLineParam .urlSuffix = some (u.suffix, 0)
  parseRtspUrl : ∃ info', info.parseRtspUrl u.bytes = .ok (true, info') ∧
    info'.ip = u.host ∧ info'.port = .ofNat u.portNumber ∧ info'.suffix = u.suffix

/-- A text whose parts are found is read back by both functions. -/
theorem readsBack_of_urlParts {u : UrlText} (hfits : u.Fits) {m : Method}
    (hm : m ∈ Method.supported) {version : Bytes} (hversion : IsWord version)
    (hlen : version.length < 16) {p : RtspRequest} (hp : p.IsInitial) (info : RtspUrlInfo)
    (hurl : ∀ size, u.suffix.length < size → UrlFits size u.rest)
    (hparts : urlParts u.rest = some (u.host, .ofNat u.portNumber, u.suffix))
    (hport : u.portNumber < 65536) : u.ReadsBack m version p info := by
  have hsuffix : u.suffix.length < 128 := by have := hfits.suffix; omega
  obtain ⟨-, hip, hurlPort, hurlSuffix⟩ := enter_spec hp.requestLineParam
    (u.requestLine m version) (u.host, .ofNat u.portNumber, u.suffix)
  constructor
  · rw [parseRequestLine_eq hfits hm hversion hlen, if_pos (hurl 64 hfits.suffix), hparts]
    exact ⟨_, rfl, hip, hurlPort, hurlSuffix⟩
  · rw [parseRtspUrl_eq, if_pos (hurl 128 hsuffix), hparts]
    refine ⟨_, rfl, rfl, ?_, rfl⟩
    apply UInt16.toNat.inj
    simp [Nat.mod_eq_of_lt hport]

/-- A URL with a port is read back. -/
theorem readsBack_of_port {u : UrlText} (hfits : u.Fits) {m : Method} (hm : m ∈ Method.supported)
    {version : Bytes} (hversion : IsWord version) (hlen : version.length < 16)
    {p : RtspRequest} (hp : p.IsInitial) (info : RtspUrlInfo) {digits : Bytes}
    (hport : u.port = some digits) : u.ReadsBack m version p info := by
  have hnumber : u.portNumber = decimalValue digits := by
    unfold portNumber
    rw [hport]
    rfl
  refine readsBack_of_urlParts hfits hm hversion hlen hp info
    (fun _ hsize => (urlParts_of_port hport hfits.host hsize).1) ?_ ?_
  · rw [hnumber]
    exact (urlParts_of_port hport hfits.host hfits.suffix).2
  · rw [hnumber]
    exact (u.isNumeral_port digits hport).2

/-- A URL without a port is read back when its suffix cannot be taken for one. -/
theorem readsBack_of_noPort {u : UrlText} (hfits : u.Fits) {m : Method}
    (hm : m ∈ Method.supported) {version : Bytes} (hversion : IsWord version)
    (hlen : version.length < 16) {p : RtspRequest} (hp : p.IsInitial) (info : RtspUrlInfo)
    (hport : u.port = none) (hhost : (u.host ++ 0x2f :: u.suffix.takeWhile (· ≠ 0x3a)).length < 16)
    (hnames : ¬ NamesPort u.suffix) : u.ReadsBack m version p info := by
  have hnumber : u.portNumber = 554 := by
    unfold portNumber
    rw [hport]
    rfl
  refine readsBack_of_urlParts hfits hm hversion hlen hp info
    (fun _ hsize => (urlParts_of_noPort hport hhost hsize hnames).1) ?_ ?_
  · rw [hnumber]
    exact (urlParts_of_noPort hport hhost hfits.suffix hnames).2
  · rw [hnumber]
    decide

/-- A suffix that names a port does not come back as the suffix: what is read
as the host goes on to the colon in it. -/
theorem not_namesPort_of_readsBack {u : UrlText} (hfits : u.Fits) {m : Method}
    (hm : m ∈ Method.supported) {version : Bytes} (hversion : IsWord version)
    (hlen : version.length < 16) {p : RtspRequest} (hp : p.IsInitial) {info : RtspUrlInfo}
    (hport : u.port = none) (h : u.ReadsBack m version p info) :
    (u.host ++ 0x2f :: u.suffix.takeWhile (· ≠ 0x3a)).length < 16 ∧ ¬ NamesPort u.suffix := by
  have hrest : u.rest = u.host ++ 0x2f :: u.suffix := by
    unfold rest
    rw [hport]
  obtain ⟨q, hq, hip, -⟩ := h.request
  rw [parseRequestLine_eq hfits hm hversion hlen] at hq
  by_cases hurl : UrlFits 64 u.rest
  · rw [if_pos hurl] at hq
    refine ⟨?_, fun hnames => ?_⟩
    · rw [← u.takeWhile_colon.1, ← hrest]
      exact hurl.1
    · obtain ⟨parts, hparts⟩ :=
        Option.ne_none_iff_exists'.mp (u.portParts_ne_none_iff.mpr hnames)
      have hhost : parts.1 = u.host ++ 0x2f :: u.suffix.takeWhile (· ≠ 0x3a) := by
        rw [← u.takeWhile_colon.1]
        exact portParts_fst hparts
      have hurlParts : urlParts u.rest = some parts := by
        unfold urlParts
        rw [hrest, hparts]
      rw [hurlParts] at hq
      obtain ⟨-, hread, -⟩ := enter_spec hp.requestLineParam (u.requestLine m version) parts
      cases hq
      rw [hread, Option.some.injEq, Prod.mk.injEq, hhost] at hip
      -- the host would be longer than itself
      have hlong := congrArg List.length hip.1
      simp only [List.length_append, List.length_cons] at hlong
      omega
  · rw [if_neg hurl] at hq
    cases hq

/-- **A URL is read back exactly when** it has a port, or what stands in front
of the first colon of its text fits the host's array and its suffix names no
port. -/
theorem readsBack_iff {u : UrlText} (hfits : u.Fits) {m : Method} (hm : m ∈ Method.supported)
    {version : Bytes} (hversion : IsWord version) (hlen : version.length < 16)
    {p : RtspRequest} (hp : p.IsInitial) (info : RtspUrlInfo) :
    u.ReadsBack m version p info ↔
      u.port.isSome ∨ ((u.host ++ 0x2f :: u.suffix.takeWhile (· ≠ 0x3a)).length < 16 ∧
        ¬ NamesPort u.suffix) := by
  cases hport : u.port with
  | some digits =>
    exact ⟨fun _ => .inl rfl,
      fun _ => readsBack_of_port hfits hm hversion hlen hp info hport⟩
  | none =>
    constructor
    · intro h
      exact .inr (not_namesPort_of_readsBack hfits hm hversion hlen hp hport h)
    · intro h
      obtain ⟨hhost, hnames⟩ := h.resolve_left Bool.false_ne_true
      exact readsBack_of_noPort hfits hm hversion hlen hp info hport hhost hnames

/-- `host/suffix`, for a host and a suffix without a port. -/
def withoutPort (host suffix : Bytes) (hhost : IsWord host) (hcolon : 0x3a ∉ host)
    (hslash : 0x2f ∉ host) (hsuffix : IsWord suffix) : UrlText where
  host := host
  port := none
  suffix := suffix
  isWord_host := hhost
  colon_notMem := hcolon
  slash_notMem := hslash
  isNumeral_port := nofun
  isWord_suffix := hsuffix

theorem isWord_address : IsWord (ascii "10.0.0.1") := by decide

theorem colon_notMem_address : 0x3a ∉ ascii "10.0.0.1" := by decide

theorem slash_notMem_address : 0x2f ∉ ascii "10.0.0.1" := by decide

theorem isWord_live : IsWord (ascii "live") := by decide

theorem isWord_camera : IsWord (ascii "cam:1/live") := by decide

/-- `10.0.0.1/live`. -/
def live : UrlText := withoutPort (ascii "10.0.0.1") (ascii "live") isWord_address
  colon_notMem_address slash_notMem_address isWord_live

/-- `10.0.0.1/cam:1/live`. -/
def camera : UrlText := withoutPort (ascii "10.0.0.1") (ascii "cam:1/live") isWord_address
  colon_notMem_address slash_notMem_address isWord_camera

theorem fits_live : live.Fits := ⟨by decide, by decide, by decide⟩

theorem fits_camera : camera.Fits := ⟨by decide, by decide, by decide⟩

/-- `live` has no colon, and is read back. -/
theorem readsBack_iff_live : live.ReadsBack .describe (ascii "RTSP/1.0")
      ⟨.none, .channel0, .rtpOverTcp, fun _ => none, fun _ => none, .parseRequestLine⟩
      ⟨[], [], 0, []⟩ := by
  refine (readsBack_iff fits_live (by decide) (by decide) (by decide) ⟨rfl, rfl, rfl⟩ _).mpr
    (.inr ⟨by decide, ?_⟩)
  rintro ⟨name, sign, digits, path, h, -⟩
  have hcolon : 0x3a ∈ live.suffix := by
    rw [h]
    exact List.mem_append_right _ List.mem_cons_self
  exact absurd hcolon (by decide)

/-- Of `10.0.0.1/cam:1/live` the stream `live` of the host `10.0.0.1/cam` is
read. -/
theorem not_readsBack_camera : ¬ ∀ (u : UrlText) (m : Method) (version : Bytes) (p : RtspRequest)
    (info : RtspUrlInfo), u.Fits → m ∈ Method.supported → IsWord version → version.length < 16 →
      p.IsInitial → u.ReadsBack m version p info := by
  intro h
  obtain ⟨q, hq, hip, -⟩ := (h camera .describe (ascii "RTSP/1.0")
    ⟨.none, .channel0, .rtpOverTcp, fun _ => none, fun _ => none, .parseRequestLine⟩
    ⟨[], [], 0, []⟩ fits_camera (by decide) (by decide) (by decide) ⟨rfl, rfl, rfl⟩).request
  rw [parseRequestLine_eq fits_camera (by decide) (by decide) (by decide), if_pos (by decide),
    show urlParts camera.rest = some (ascii "10.0.0.1/cam", 1, ascii "live") by decide +kernel] at hq
  cases hq
  exact absurd hip (by decide)

end UrlText
