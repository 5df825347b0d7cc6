import Mathlib.Data.List.DropRight
import Mathlib.Data.List.TakeWhile
import RtspServer.RtspMessage
import RtspServer.ScanfWords

/-!
# Requests as clients write them

A request is a request line, header lines and a blank line. The structures
here carry what makes them well formed, so that `Request.bytes` is always a
well-formed request of a supported method: the URL and the version are
non-empty strings of visible characters, a header line has a name without a
colon and a value on one line, and there is a CSeq header with a number.
Header names do not depend on case.

This is the client's side. What the server reads out of the bytes is the
subject of the modules that follow; of the request line it is said here
which lines the server accepts (`Request.Accepted`), and that it accepts no
others.
-/

/-- A byte that is neither a control character nor a blank. -/
def isVisible (b : UInt8) : Bool := 0x21 ≤ b && b ≤ 0x7e

/-- A non-empty string of visible bytes. -/
structure IsToken (bs : Bytes) : Prop where
  ne_nil : bs ≠ []
  visible : ∀ b ∈ bs, isVisible b = true

instance (bs : Bytes) : Decidable (IsToken bs) :=
  decidable_of_iff (bs ≠ [] ∧ bs.all isVisible = true)
    ⟨fun ⟨h, h'⟩ => ⟨h, List.all_eq_true.mp h'⟩, fun ⟨h, h'⟩ => ⟨h, List.all_eq_true.mpr h'⟩⟩

/-- **A header line.** -/
structure HeaderLine where
  name : Bytes
  value : Bytes
  isToken_name : IsToken name
  colon_notMem : 0x3a ∉ name
  isLine_value : IsLine value
  nul_notMem : 0 ∉ value

/-- A letter in lower case. -/
def toLower (b : UInt8) : UInt8 := if 0x41 ≤ b && b ≤ 0x5a then b + 0x20 else b

/-- A blank or a tab. -/
def isBlank (b : UInt8) : Bool := b == 0x20 || b == 0x09

namespace HeaderLine

/-- The line as it is sent. -/
def line (h : HeaderLine) : Bytes := h.name ++ [0x3a] ++ h.value

/-- The number of a `CSeq` header. -/
def cseq? (h : HeaderLine) : Option ℕ :=
  let digits := (h.value.dropWhile isBlank).rdropWhile isBlank
  if h.name.map toLower = ascii "cseq" ∧ digits ≠ [] ∧ digits.all Scanf.isDigit = true then
    some (Scanf.decimalValue digits)
  else none

end HeaderLine

/-- **A well-formed request of a supported method.** -/
structure Request where
  method : Method
  url : Bytes
  version : Bytes
  headers : List HeaderLine
  cseq : ℕ
  supported : method ∈ Method.supported
  isToken_url : IsToken url
  isToken_version : IsToken version
  cseq_eq : headers.findSome? HeaderLine.cseq? = some cseq

namespace Request

def requestLine (r : Request) : Bytes :=
  r.method.name ++ [0x20] ++ r.url ++ [0x20] ++ r.version

/-- The header lines, each with its end. -/
def headerText (r : Request) : Bytes := r.headers.flatMap fun h => h.line ++ crlf

/-- The bytes of the request. -/
def bytes (r : Request) : Bytes := r.requestLine ++ crlf ++ (r.headerText ++ crlf)

end Request

/-! ## Tokens and lines -/

theorem isSpace_of_isVisible {b : UInt8} (h : isVisible b = true) : Scanf.isSpace b = false := by
  simp only [isVisible, Bool.and_eq_true, decide_eq_true_eq, UInt8.le_iff_toNat_le] at h
  simp only [Scanf.isSpace, Bool.or_eq_false_iff, beq_eq_false_iff_ne, Bool.and_eq_false_iff,
    decide_eq_false_iff_not, UInt8.le_iff_toNat_le, ne_eq, ← UInt8.toNat_inj]
  simp only [UInt8.reduceToNat] at h ⊢
  omega

theorem ne_of_isVisible {b c : UInt8} (h : isVisible b = true) (hc : isVisible c = false) :
    b ≠ c := by
  rintro rfl
  rw [h] at hc
  cases hc

theorem IsToken.isLine {bs : Bytes} (h : IsToken bs) : IsLine bs := fun b hb =>
  ⟨ne_of_isVisible (h.visible b hb) rfl, ne_of_isVisible (h.visible b hb) rfl⟩

theorem IsToken.nul_notMem {bs : Bytes} (h : IsToken bs) : 0 ∉ bs := fun hb =>
  ne_of_isVisible (h.visible 0 hb) rfl rfl

theorem Method.isToken_name {m : Method} (h : m ∈ Method.supported) : IsToken m.name := by
  simp only [Method.supported, List.mem_cons, List.not_mem_nil, or_false] at h
  rcases h with rfl | rfl | rfl | rfl | rfl | rfl <;> decide

/-- A method's name fits the array it is read into. -/
theorem Method.length_name_lt (m : Method) : m.name.length < 32 := by
  cases m <;> decide

theorem Request.isLine_requestLine (r : Request) : IsLine r.requestLine :=
  ((((Method.isToken_name r.supported).isLine.append (by decide)).append
    r.isToken_url.isLine).append (by decide)).append r.isToken_version.isLine

theorem Request.nul_notMem_requestLine (r : Request) : 0 ∉ r.requestLine := by
  have hname := (Method.isToken_name r.supported).nul_notMem
  have hurl := r.isToken_url.nul_notMem
  have hversion := r.isToken_version.nul_notMem
  simp [requestLine, hname, hurl, hversion]

/-- A request does not begin like an interleaved frame. -/
theorem Request.head_requestLine (r : Request) (rest : Bytes) :
    (r.requestLine ++ rest).head? ≠ some 0x24 := by
  have h := r.supported
  simp only [Method.supported, List.mem_cons, List.not_mem_nil, or_false] at h
  unfold requestLine
  rcases h with h | h | h | h | h | h <;> rw [h] <;>
    exact fun hhead => absurd (Option.some.inj hhead) (by decide)

/-! ## Scanning a token -/

theorem IsToken.isWord {bs : Bytes} (h : IsToken bs) : Scanf.IsWord bs :=
  ⟨h.ne_nil, fun b hb => isSpace_of_isVisible (h.visible b hb), h.nul_notMem⟩

namespace Scanf

/-- `%s` in front of a token that fits. -/
theorem scan_str {token rest : Bytes} (htoken : IsToken token)
    (hrest : ∀ b, rest.head? = some b → isSpace b = true) {size : ℕ} (hsize : token.length < size)
    (ds : List Directive) :
    scan (.str size :: ds) (token ++ rest) = (scan ds rest).map (.str token :: ·) :=
  scan_str_word htoken.isWord hrest hsize ds

/-- `%s` in front of a token that does not fit. -/
theorem scan_str_of_le {token rest : Bytes} (htoken : IsToken token)
    (hrest : ∀ b, rest.head? = some b → isSpace b = true) {size : ℕ} (hsize : size ≤ token.length)
    (ds : List Directive) : scan (.str size :: ds) (token ++ rest) = .error .outOfBounds :=
  scan_str_word_of_le htoken.isWord hrest hsize ds

/-- A blank in front of a token is skipped. -/
theorem scan_space {token : Bytes} (h : IsToken token) (rest : Bytes) (ds : List Directive) :
    scan (.space :: ds) ([0x20] ++ (token ++ rest)) = scan ds (token ++ rest) :=
  scan_space_word h.isWord rest ds

end Scanf

/-! ## The request line -/

namespace Request

/-- **The request lines that the server accepts.** -/
structure Accepted (r : Request) : Prop where
  url_fits : r.url.length < 128
  version_fits : r.version.length < 16
  scheme : ascii "rtsp://" <+: r.url
  parts : ∃ parts, RtspRequest.scanUrl r.url = .ok (some parts)

/-- The method is read, and the URL and the version follow. -/
theorem sscanf_requestLine_eq (r : Request) :
    Scanf.sscanf r.requestLine [.str 32, .space, .str 128, .space, .str 16]
      = (Scanf.scan [.str 128, .space, .str 16] (r.url ++ ([0x20] ++ r.version))).map
        (.str r.method.name :: ·) := by
  have hline : r.requestLine = r.method.name ++ ([0x20] ++ (r.url ++ ([0x20] ++ r.version))) := by
    simp only [requestLine, List.append_assoc]
  have hblank : ∀ b, ([0x20] ++ (r.url ++ ([0x20] ++ r.version))).head? = some b →
      Scanf.isSpace b = true := by
    rintro b ⟨rfl⟩
    rfl
  rw [Scanf.sscanf, Scanf.cstr_of_notMem r.nul_notMem_requestLine, hline,
    Scanf.scan_str (Method.isToken_name r.supported) hblank r.method.length_name_lt,
    Scanf.scan_space r.isToken_url]

/-- The three parts of a request line are read back if they fit; a part that
does not is written past the end of its array. -/
theorem sscanf_requestLine (r : Request) :
    Scanf.sscanf r.requestLine [.str 32, .space, .str 128, .space, .str 16]
      = if r.url.length < 128 ∧ r.version.length < 16 then
          .ok [.str r.method.name, .str r.url, .str r.version]
        else .error .outOfBounds := by
  have hblank : ∀ b, ([0x20] ++ r.version).head? = some b → Scanf.isSpace b = true := by
    rintro b ⟨rfl⟩
    rfl
  have hversion : Scanf.scan [.space, .str 16] ([0x20] ++ r.version)
      = Scanf.scan [.str 16] (r.version ++ []) := by
    rw [← List.append_nil r.version, Scanf.scan_space r.isToken_version]
    simp only [List.append_nil]
  rw [sscanf_requestLine_eq]
  by_cases hurl : r.url.length < 128
  · rw [Scanf.scan_str r.isToken_url hblank hurl, hversion]
    by_cases hfits : r.version.length < 16
    · rw [Scanf.scan_str r.isToken_version (fun _ h => by cases h) hfits, if_pos ⟨hurl, hfits⟩]
      rfl
    · rw [Scanf.scan_str_of_le r.isToken_version (fun _ h => by cases h) (Nat.le_of_not_lt hfits),
        if_neg fun h => hfits h.2]
      rfl
  · rw [Scanf.scan_str_of_le r.isToken_url hblank (Nat.le_of_not_lt hurl),
      if_neg fun h => hurl h.1]
    rfl

theorem method_ne_none (r : Request) : r.method ≠ .none := by
  intro hnone
  have hsupported := r.supported
  rw [hnone] at hsupported
  exact absurd hsupported (by decide)

end Request

/-- What an accepted request line leaves in the parser. -/
structure RtspRequest.LineRead (p : RtspRequest) (r : Request) (q : RtspRequest) : Prop where
  method : q.method = r.method
  state : q.state = .parseHeadersLine
  headerLineParam : q.headerLineParam = p.headerLineParam
  channelId : q.channelId = p.channelId
  transport : q.transport = p.transport
  url : p.requestLineParam .url = none → q.requestLineParam .url = some (r.url, 0)

namespace Request

/-- **An accepted request line** is read. -/
theorem Accepted.parseRequestLine {r : Request} (h : r.Accepted) (p : RtspRequest) :
    ∃ q, p.parseRequestLine r.requestLine = .ok (true, q) ∧ p.LineRead r q := by
  obtain ⟨⟨ip, port, suffix⟩, hparts⟩ := h.parts
  have hmethod : Method.ofName r.method.name = r.method := Method.ofName_name r.supported
  unfold RtspRequest.parseRequestLine
  simp only [r.sscanf_requestLine, if_pos (And.intro h.url_fits h.version_fits), Except.ok_bind,
    hmethod, if_neg r.method_ne_none, not_true, h.scheme, if_false, hparts, pure, Except.pure]
  refine ⟨_, rfl, ?_⟩
  constructor
  · rfl
  · rfl
  · rfl
  · rfl
  · rfl
  · intro hurl
    -- the five parameters entered after the URL have other keys
    simp only [Params.emplace_of_ne, ne_eq, reduceCtorEq, not_false_eq_true]
    exact Params.emplace_of_none hurl _

/-- **No other request line is**: the parser fails, or stays where it is. -/
theorem parseRequestLine_of_not_accepted {r : Request} (h : ¬ r.Accepted) (p : RtspRequest) :
    (∃ e, p.parseRequestLine r.requestLine = .error e) ∨
      ∃ q, p.parseRequestLine r.requestLine = .ok (false, q) ∧ q.state = p.state := by
  have hmethod : Method.ofName r.method.name = r.method := Method.ofName_name r.supported
  unfold RtspRequest.parseRequestLine
  rw [r.sscanf_requestLine]
  by_cases hfits : r.url.length < 128 ∧ r.version.length < 16
  · simp only [if_pos hfits, Except.ok_bind, hmethod, if_neg r.method_ne_none, pure, Except.pure]
    by_cases hscheme : ascii "rtsp://" <+: r.url
    · simp only [hscheme, not_true, if_false]
      cases hparts : RtspRequest.scanUrl r.url with
      | error e => exact .inl ⟨e, rfl⟩
      | ok parts =>
        cases parts with
        | none => exact .inr ⟨_, rfl, rfl⟩
        | some parts => exact absurd ⟨hfits.1, hfits.2, hscheme, parts, hparts⟩ h
    · simp only [hscheme, not_false_iff, if_true]
      exact .inr ⟨_, rfl, rfl⟩
  · rw [if_neg hfits]
    exact .inl ⟨_, rfl⟩

end Request

/-! ## Plain requests -/

/-- A CSeq header. -/
def HeaderLine.plainCSeq (value : Bytes) (isLine_value : IsLine value)
    (nul_notMem : 0 ∉ value) : HeaderLine where
  name := ascii "CSeq"
  value := value
  isToken_name := by decide
  colon_notMem := by decide
  isLine_value := isLine_value
  nul_notMem := nul_notMem

namespace Request

/-- A DESCRIBE without an `Accept` header. -/
def plainDescribe : Request where
  method := .describe
  url := ascii "rtsp://10.0.0.1/live"
  version := ascii "RTSP/1.0"
  headers := [HeaderLine.plainCSeq (ascii " 1") (by decide) (by decide)]
  cseq := 1
  supported := by decide
  isToken_url := by decide
  isToken_version := by decide
  cseq_eq := by decide

/-- An OPTIONS. -/
def plainOptions : Request where
  method := .options
  url := ascii "rtsp://10.0.0.1/live"
  version := ascii "RTSP/1.0"
  headers := [HeaderLine.plainCSeq (ascii " 2") (by decide) (by decide)]
  cseq := 2
  supported := by decide
  isToken_url := by decide
  isToken_version := by decide
  cseq_eq := by decide

/-- A SETUP over UDP with these client ports. -/
def plainSetup (ports : Bytes)
    (isLine_value : IsLine (ascii " RTP/AVP;unicast;client_port=" ++ ports))
    (nul_notMem : 0 ∉ ascii " RTP/AVP;unicast;client_port=" ++ ports) : Request where
  method := .setup
  url := ascii "rtsp://10.0.0.1/live"
  version := ascii "RTSP/1.0"
  headers := [HeaderLine.plainCSeq (ascii " 2") (by decide) (by decide),
    { name := ascii "Transport"
      value := ascii " RTP/AVP;unicast;client_port=" ++ ports
      isToken_name := by decide
      colon_notMem := by decide
      isLine_value := isLine_value
      nul_notMem := nul_notMem }]
  cseq := 2
  supported := by decide
  isToken_url := by decide
  isToken_version := by decide
  cseq_eq := rfl

/-- The header line that a DESCRIBE needs. -/
def plainAccept : HeaderLine where
  name := ascii "Accept"
  value := ascii " application/sdp"
  isToken_name := by decide
  colon_notMem := by decide
  isLine_value := by decide
  nul_notMem := by decide

/-- A DESCRIBE with that line in front of its `CSeq`. -/
def acceptingDescribe : Request :=
  { plainDescribe with
    headers := plainAccept :: plainDescribe.headers
    cseq_eq := by decide }

/-- The header line that a PLAY needs. -/
def plainSession : HeaderLine where
  name := ascii "Session"
  value := ascii " 1"
  isToken_name := by decide
  colon_notMem := by decide
  isLine_value := by decide
  nul_notMem := by decide

/-- A PLAY. -/
def plainPlay : Request :=
  { plainOptions with
    method := .play
    headers := plainOptions.headers ++ [plainSession]
    supported := by decide
    cseq_eq := by decide }

/-- A TEARDOWN. -/
def plainTeardown : Request := { plainPlay with method := .teardown, supported := by decide }

theorem accepted_plain {r : Request} (hurl : r.url = ascii "rtsp://10.0.0.1/live")
    (hversion : r.version = ascii "RTSP/1.0") : r.Accepted := by
  constructor
  · rw [hurl]; decide
  · rw [hversion]; decide
  · rw [hurl]; decide
  · rw [hurl]
    exact ⟨(ascii "10.0.0.1", 554, ascii "live"), rfl⟩

end Request
