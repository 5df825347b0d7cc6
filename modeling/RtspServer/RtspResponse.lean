import RtspServer.RtspUrl
import RtspServer.HeaderReading

/-!
# `RtspResponse`: requests the other way round

`RtspResponse` is the client side of the protocol: it counts responses and
builds the next request. Its requests are well formed (`exists_request`), and
the server's parser reads the OPTIONS and the DESCRIBE as they were meant.
The SETUP it never completes: the builder puts `mode=record` in front of
`interleaved=`, and the parser takes the first `=` behind the second
semicolon for the one before the numbers (`understood_iff`).

The strings of the class come from C strings, and `%s` prints them whole.
-/

/-- `RtspResponse::Method`. -/
inductive RtspResponse.Method where
  | options
  | describe
  | announce
  | setup
  | record
  | rtcp
  | none
deriving DecidableEq, Repr

/-- The fields of `class RtspResponse`. -/
structure RtspResponse where
  method : RtspResponse.Method
  cseq : UInt32 := 0
  userAgent : Bytes := []
  rtspUrl : Bytes := []
  session : Bytes := []

namespace RtspResponse

open RtspRequest (decimal line snprintf)

/-! ## The builders -/

/-- A request made of a request line and header lines. -/
def request (requestLine : Bytes) (headers : List Bytes) : Bytes :=
  line requestLine ++ (headers.map line).flatten ++ crlf

/-- `CSeq: %u`, of the counter plus one. -/
def cseqLine (c : RtspResponse) : Bytes := ascii "CSeq: " ++ decimal (c.cseq + 1).toNat

/-- `User-Agent: %s`. -/
def userAgentLine (c : RtspResponse) : Bytes := ascii "User-Agent: " ++ c.userAgent

/-- `Session: %s`. -/
def sessionLine (c : RtspResponse) : Bytes := ascii "Session: " ++ c.session

def buildOptionReq (c : RtspResponse) (bufSize : ℕ) : Bytes × RtspResponse :=
  (snprintf [] bufSize <| request (ascii "OPTIONS " ++ c.rtspUrl ++ ascii " RTSP/1.0")
    [c.cseqLine, c.userAgentLine], { c with method := .options })

def buildDescribeReq (c : RtspResponse) (bufSize : ℕ) : Bytes × RtspResponse :=
  (snprintf [] bufSize <| request (ascii "DESCRIBE " ++ c.rtspUrl ++ ascii " RTSP/1.0")
    [c.cseqLine, ascii "Accept: application/sdp", c.userAgentLine],
    { c with method := .describe })

/-- The channel numbers that a SETUP asks for. -/
def interleaved (trackId : ℕ) : ℕ × ℕ := if trackId = 1 then (2, 3) else (0, 1)

def buildSetupTcpReq (c : RtspResponse) (bufSize trackId : ℕ) : Bytes × RtspResponse :=
  (snprintf [] bufSize <| request
    (ascii "SETUP " ++ c.rtspUrl ++ ascii "/track" ++ decimal trackId ++ ascii " RTSP/1.0")
    [ascii "Transport: RTP/AVP/TCP;unicast;mode=record;interleaved="
        ++ decimal (interleaved trackId).1 ++ ascii "-" ++ decimal (interleaved trackId).2,
      c.cseqLine, c.userAgentLine, c.sessionLine], { c with method := .setup })

end RtspResponse

/-! ## The requests -/

/-- A request that the client builds. -/
inductive ClientRequest where
  | options
  | describe
  | setupTcp (track : MediaChannelId)
deriving DecidableEq

namespace ClientRequest

open RtspRequest (decimal line)
open RtspResponse (interleaved request)

def method : ClientRequest → Method
  | .options => .options
  | .describe => .describe
  | .setupTcp _ => .setup

/-- The URL on the request line. -/
def url (c : RtspResponse) : ClientRequest → Bytes
  | .options | .describe => c.rtspUrl
  | .setupTcp track => c.rtspUrl ++ ascii "/track" ++ decimal track.index

/-- The header lines. -/
def headers (c : RtspResponse) : ClientRequest → List Bytes
  | .options => [c.cseqLine, c.userAgentLine]
  | .describe => [c.cseqLine, ascii "Accept: application/sdp", c.userAgentLine]
  | .setupTcp track =>
    [ascii "Transport: RTP/AVP/TCP;unicast;mode=record;interleaved="
        ++ decimal (interleaved track.index).1 ++ ascii "-" ++ decimal (interleaved track.index).2,
      c.cseqLine, c.userAgentLine, c.sessionLine]

/-- The text before it is cut to the buffer. -/
def text (c : RtspResponse) (k : ClientRequest) : Bytes :=
  request (k.method.name ++ ascii " " ++ k.url c ++ ascii " RTSP/1.0") (k.headers c)

/-- The builder of a request. -/
def build (c : RtspResponse) (bufSize : ℕ) : ClientRequest → Bytes × RtspResponse
  | .options => c.buildOptionReq bufSize
  | .describe => c.buildDescribeReq bufSize
  | .setupTcp track => c.buildSetupTcpReq bufSize track.index

/-- A builder whose buffer is large enough prints the whole text. -/
theorem build_of_fits {c : RtspResponse} {k : ClientRequest} {bufSize : ℕ}
    (h : (k.text c).length < bufSize) : (k.build c bufSize).1 = k.text c := by
  have hcut : (k.build c bufSize).1 = RtspRequest.snprintf [] bufSize (k.text c) := by
    cases k with
    | options =>
      have hname : ascii "OPTIONS " = (method .options).name ++ ascii " " := by decide
      unfold build RtspResponse.buildOptionReq text url headers
      rw [hname]
    | describe =>
      have hname : ascii "DESCRIBE " = (method .describe).name ++ ascii " " := by decide
      unfold build RtspResponse.buildDescribeReq text url headers
      rw [hname]
    | setupTcp track =>
      have hname : ascii "SETUP " = (method (.setupTcp track)).name ++ ascii " " := by
        cases track <;> decide
      unfold build RtspResponse.buildSetupTcpReq text url headers
      rw [hname]
      simp only [List.append_assoc]
  rw [hcut, RtspRequest.snprintf_of_lt h]

/-! ## As requests of a client -/

/-- The strings stay on their line. -/
structure Clean (c : RtspResponse) : Prop where
  userAgent : IsLine c.userAgent ∧ 0 ∉ c.userAgent
  session : IsLine c.session ∧ 0 ∉ c.session

/-- A header line with a blank in front of its value. -/
def headerLine (name value : Bytes) (hname : IsToken name ∧ 0x3a ∉ name)
    (hvalue : IsLine value ∧ 0 ∉ value) : HeaderLine where
  name := name
  value := 0x20 :: value
  isToken_name := hname.1
  colon_notMem := hname.2
  isLine_value := (show IsLine [0x20] by decide).append hvalue.1
  nul_notMem h := by
    rcases List.mem_cons.mp h with h | h
    · cases h
    · exact hvalue.2 h

/-- The number of a CSeq header is the number printed. -/
theorem cseq?_headerLine (n : ℕ) (hname : IsToken (ascii "CSeq") ∧ 0x3a ∉ ascii "CSeq")
    (hvalue : IsLine (decimal n) ∧ 0 ∉ decimal n) :
    (headerLine (ascii "CSeq") (decimal n) hname hvalue).cseq? = some n := by
  have hblank : ∀ b ∈ decimal n, isBlank b = false := by
    intro b hb
    have hdigit := Scanf.isDigit_of_mem_decimal hb
    cases hspace : isBlank b with
    | false => rfl
    | true =>
      unfold isBlank at hspace
      rw [Bool.or_eq_true, beq_iff_eq, beq_iff_eq] at hspace
      rcases hspace with rfl | rfl
      · cases hdigit
      · cases hdigit
  obtain ⟨b, bs, hcons⟩ := List.exists_cons_of_ne_nil (Scanf.decimal_ne_nil n)
  have hfront : (0x20 :: decimal n).dropWhile isBlank = decimal n := by
    rw [List.dropWhile_cons_of_pos (by decide), hcons]
    refine List.dropWhile_cons_of_neg ?_
    rw [hblank b (hcons ▸ List.mem_cons_self)]
    exact Bool.false_ne_true
  have hback : (decimal n).rdropWhile isBlank = decimal n := by
    refine List.rdropWhile_eq_self_iff.mpr fun hne hlast => ?_
    rw [hblank _ (List.getLast_mem hne)] at hlast
    cases hlast
  unfold HeaderLine.cseq? headerLine
  dsimp only
  rw [hfront, hback, if_pos, Scanf.decimalValue_decimal]
  exact ⟨by decide, Scanf.decimal_ne_nil n, List.all_eq_true.mpr fun b hb =>
    Scanf.isDigit_of_mem_decimal hb⟩

/-- The header lines of a request. -/
def headerLines {c : RtspResponse} (hclean : Clean c) (k : ClientRequest) : List HeaderLine :=
  let cseq := headerLine (ascii "CSeq") (decimal (c.cseq + 1).toNat) (by decide)
    ⟨(isToken_decimal _).isLine, Scanf.nul_notMem_decimal _⟩
  let accept := headerLine (ascii "Accept") (ascii "application/sdp") (by decide) (by decide)
  let userAgent := headerLine (ascii "User-Agent") c.userAgent (by decide) hclean.userAgent
  let session := headerLine (ascii "Session") c.session (by decide) hclean.session
  match k with
  | .options => [cseq, userAgent]
  | .describe => [cseq, accept, userAgent]
  | .setupTcp track =>
    have htransport := (((show IsToken (ascii "RTP/AVP/TCP;unicast;mode=record;interleaved=")
      by decide).append (isToken_decimal (interleaved track.index).1)).append
        (show IsToken (ascii "-") by decide)).append (isToken_decimal (interleaved track.index).2)
    [headerLine (ascii "Transport") _ (by decide) ⟨htransport.isLine, htransport.nul_notMem⟩,
      cseq, userAgent, session]

theorem line_headerLines {c : RtspResponse} (hclean : Clean c) (k : ClientRequest) :
    (headerLines hclean k).map HeaderLine.line = k.headers c := by
  cases k with
  | options => rfl
  | describe => rfl
  | setupTcp track => rfl

theorem cseq_headerLines {c : RtspResponse} (hclean : Clean c) (k : ClientRequest) :
    (headerLines hclean k).findSome? HeaderLine.cseq? = some (c.cseq + 1).toNat := by
  have hcseq := fun hname hvalue => cseq?_headerLine (c.cseq + 1).toNat hname hvalue
  cases k with
  | options => exact (List.findSome?_cons_of_isSome (by rw [hcseq]; rfl)).trans (hcseq _ _)
  | describe => exact (List.findSome?_cons_of_isSome (by rw [hcseq]; rfl)).trans (hcseq _ _)
  | setupTcp track =>
    exact (List.findSome?_cons_of_isNone rfl).trans
      ((List.findSome?_cons_of_isSome (by rw [hcseq]; rfl)).trans (hcseq _ _))

theorem isToken_url {c : RtspResponse} {u : RtspUrl} (hurl : c.rtspUrl = u.bytes)
    (k : ClientRequest) : IsToken (k.url c) := by
  have htoken : IsToken c.rtspUrl := hurl ▸ u.isToken_bytes
  cases k with
  | options => exact htoken
  | describe => exact htoken
  | setupTcp track => exact (htoken.append (by decide)).append (isToken_decimal _)

theorem method_mem_supported (k : ClientRequest) : k.method ∈ Method.supported := by
  cases k with
  | options => decide
  | describe => decide
  | setupTcp track =>
    show Method.setup ∈ Method.supported
    decide

theorem isToken_rtspVersion : IsToken (ascii "RTSP/1.0") := by decide

/-- The request as a client writes it. -/
def toRequest {c : RtspResponse} (hclean : Clean c) {u : RtspUrl} (hurl : c.rtspUrl = u.bytes)
    (k : ClientRequest) : Request where
  method := k.method
  url := k.url c
  version := ascii "RTSP/1.0"
  headers := headerLines hclean k
  cseq := (c.cseq + 1).toNat
  supported := k.method_mem_supported
  isToken_url := isToken_url hurl k
  isToken_version := isToken_rtspVersion
  cseq_eq := cseq_headerLines hclean k

theorem headerText_toRequest {c : RtspResponse} (hclean : Clean c) {u : RtspUrl}
    (hurl : c.rtspUrl = u.bytes) (k : ClientRequest) :
    (toRequest hclean hurl k).headerText = ((k.headers c).map line).flatten := by
  rw [← line_headerLines hclean k, List.map_map, ← List.flatMap_def]
  rfl

/-- **A request that the client builds is a well-formed request.** -/
theorem bytes_toRequest {c : RtspResponse} (hclean : Clean c) {u : RtspUrl}
    (hurl : c.rtspUrl = u.bytes) (k : ClientRequest) :
    (toRequest hclean hurl k).bytes = k.text c := by
  have hversion : ascii " RTSP/1.0" = [0x20] ++ ascii "RTSP/1.0" := rfl
  unfold Request.bytes
  rw [headerText_toRequest, text, request, hversion]
  unfold Request.requestLine line
  simp only [List.append_assoc]
  rfl

end ClientRequest

/-! ## What the server reads -/

namespace RtspRequest

/-- **An accepted request** is read to its end. -/
theorem parseRequest_accepted {p : RtspRequest} (hp : p.state = .parseRequestLine) {q : Request}
    (h : q.Accepted) : ∃ line, p.LineRead q line ∧ p.parseRequest q.bytes
      = .ok ((line.parseHeadersLine q.headerText).1, line.headersRead q.headerText, []) := by
  obtain ⟨line, hline, hread⟩ := h.parseRequestLine p
  exact ⟨line, hread, parseRequest_whole hp q.isLine_requestLine hline hread.state q.headerText⟩

/-- A request line that is not accepted ends the call without success. -/
theorem parseRequest_not_accepted {p : RtspRequest} (hp : p.state = .parseRequestLine)
    {q : Request} (h : ¬ q.Accepted) (r : RtspRequest) (buf : Buffer) :
    p.parseRequest q.bytes ≠ .ok (true, r, buf) := by
  intro hok
  rw [Request.bytes, parseRequest_lineText hp q.isLine_requestLine q.head_requestLine] at hok
  rcases Request.parseRequestLine_of_not_accepted h p with ⟨e, he⟩ | ⟨line, hline, hstate⟩
  · rw [he] at hok
    cases hok
  · rw [hline, Except.ok_bind] at hok
    dsimp only at hok
    rw [if_neg (by rw [hstate, hp]; decide)] at hok
    cases hok

/-- **The number behind the first `CSeq`** of a header text. -/
theorem cseqOf_append {before rest : Bytes} {n : ℕ} (hn : n < 4294967296)
    (hrest : ∀ b, rest.head? = some b → Scanf.isDigit b = false)
    (hfirst : Search.find (ascii "CSeq") (before ++ ascii "CSeq") = some before.length) :
    cseqOf (before ++ (ascii "CSeq: " ++ (decimal n ++ rest))) = some (.ofNat n) := by
  have hfind : Search.find (ascii "CSeq") (before ++ (ascii "CSeq: " ++ (decimal n ++ rest)))
      = some before.length := by
    rw [show ascii "CSeq: " = ascii "CSeq" ++ ascii ": " from rfl, List.append_assoc,
      ← List.append_assoc]
    exact Search.find_append_of_some hfirst
  have hdrop : (before ++ (ascii "CSeq: " ++ (decimal n ++ rest))).drop before.length
      = ascii "CSeq: " ++ (decimal n ++ rest) := List.drop_left
  have hlt : Scanf.decimalValue (decimal n) < 4294967296 := by
    rw [Scanf.decimalValue_decimal]
    exact hn
  rw [cseqOf_of_find hfind hdrop (Scanf.isNumeral_decimal n) hlt hrest,
    Scanf.decimalValue_decimal]

/-- The numbers of a transport with `mode=record` are not found. -/
theorem scanPair_record (rest : Bytes) :
    scanPair (ascii "RTP/AVP/TCP;unicast;mode=record;" ++ rest) = none := by
  have hcstr : Scanf.cstr (ascii "RTP/AVP/TCP;unicast;mode=record;" ++ rest)
      = ascii "RTP/AVP/TCP" ++ 0x3b :: (ascii "unicast" ++ 0x3b ::
        (ascii "mode" ++ 0x3d :: (ascii "record;" ++ Scanf.cstr rest))) := by
    rw [Scanf.cstr_append (by decide)]
    rfl
  unfold scanPair Scanf.sscanfNumbers Scanf.sscanf
  rw [hcstr, Scanf.scan_skipUpTo (by decide) (by decide), Scanf.scan_lit,
    Scanf.scan_skipUpTo (by decide) (by decide), Scanf.scan_lit,
    Scanf.scan_skipUpTo (by decide) (by decide), Scanf.scan_lit]
  rfl

end RtspRequest

namespace ClientRequest

open RtspRequest (decimal line readTransport)
open RtspResponse (interleaved request)

/-- **The server reads the request as it was meant**: `parseRequest` succeeds
and completes the request, with the method, the URL and the number of the
client, and for a SETUP with its track and its channel numbers. -/
def Understood (p : RtspRequest) (c : RtspResponse) (bufSize : ℕ) (k : ClientRequest) : Prop :=
  ∃ r buf, p.parseRequest (k.build c bufSize).1 = .ok (true, r, buf) ∧ r.gotAll = true ∧
    r.method = k.method ∧ r.getRtspUrl = k.url c ∧ r.getCSeq.toNat = c.cseq.toNat + 1 ∧
    ∀ track, k = .setupTcp track → r.transport = .rtpOverTcp ∧ r.channelId = track ∧
      r.getRtpChannel.toNat = (interleaved track.index).1 ∧
      r.getRtcpChannel.toNat = (interleaved track.index).2

/-- The header text of a SETUP does not complete it. -/
theorem completes_setupTcp (c : RtspResponse) (track : MediaChannelId) :
    RtspRequest.completes .setup (((setupTcp track).headers c).map line).flatten = false := by
  have hprefix : ascii "Transport: " ++ ascii "RTP/AVP/TCP;unicast;mode=record;"
      <+: (((setupTcp track).headers c).map line).flatten := by
    unfold headers line
    simp only [List.map_cons, List.flatten_cons, List.append_assoc]
    exact (show _ <+: ascii "Transport: RTP/AVP/TCP;unicast;mode=record;interleaved=" by
      decide).trans (List.prefix_append _ _)
  obtain ⟨rest, hrest⟩ := hprefix
  rw [List.append_assoc] at hrest
  have htransport : Search.find (ascii "Transport")
      (ascii "Transport: " ++ (ascii "RTP/AVP/TCP;unicast;mode=record;" ++ rest)) = some 0 :=
    Search.find_append_of_some (by decide)
  have htcp : Search.find (ascii "RTP/AVP/TCP")
      (ascii "Transport: " ++ (ascii "RTP/AVP/TCP;unicast;mode=record;" ++ rest)) = some 11 := by
    rw [← List.append_assoc]
    exact Search.find_append_of_some (by decide)
  have hpair := RtspRequest.scanPair_record rest
  unfold RtspRequest.completes readTransport
  rw [← hrest, htransport, htcp, if_neg (by decide)]
  dsimp only
  rw [show (ascii "Transport: " ++ (ascii "RTP/AVP/TCP;unicast;mode=record;" ++ rest)).drop 11
    = ascii "RTP/AVP/TCP;unicast;mode=record;" ++ rest from rfl, hpair]
  rfl

/-- The header text of an OPTIONS or a DESCRIBE begins with the number, and
completes the request. -/
theorem completes_headers {c : RtspResponse} (hcseq : c.cseq.toNat < 2 ^ 32 - 1) {k : ClientRequest}
    (hk : ∀ track, k ≠ .setupTcp track) :
    RtspRequest.cseqOf ((k.headers c).map line).flatten = some (.ofNat (c.cseq.toNat + 1)) ∧
      RtspRequest.completes k.method ((k.headers c).map line).flatten = true := by
  have hnext : (c.cseq + 1).toNat = c.cseq.toNat + 1 := by
    rw [UInt32.toNat_add, UInt32.toNat_one]
    exact Nat.mod_eq_of_lt (by omega)
  have hnumber : ∀ rest : Bytes, RtspRequest.cseqOf (line c.cseqLine ++ rest)
      = some (.ofNat (c.cseq.toNat + 1)) := by
    intro rest
    have hcrlf : ∀ b, (crlf ++ rest).head? = some b → Scanf.isDigit b = false := by
      rintro b ⟨rfl⟩
      rfl
    have htext : line c.cseqLine ++ rest
        = [] ++ (ascii "CSeq: " ++ (decimal (c.cseq.toNat + 1) ++ (crlf ++ rest))) := by
      unfold line RtspResponse.cseqLine
      rw [hnext, List.nil_append]
      simp only [List.append_assoc]
    rw [htext]
    exact RtspRequest.cseqOf_append (by omega) hcrlf (by decide)
  cases k with
  | options => exact ⟨hnumber _, rfl⟩
  | describe =>
    refine ⟨hnumber _, ?_⟩
    have hfound : ∀ pat : Bytes, pat <:+: ascii "Accept: application/sdp" →
        (Search.findLast pat ((describe.headers c).map line).flatten).isSome = true := by
      intro pat hpat
      rw [Option.isSome_iff_ne_none]
      refine fun hnone => Search.findLast_eq_none_iff_not_isInfix.mp hnone (hpat.trans ?_)
      refine ⟨line c.cseqLine, crlf ++ line c.userAgentLine, ?_⟩
      unfold headers
      simp only [List.map_cons, List.map_nil, List.flatten_cons, List.flatten_nil, List.append_nil,
        List.append_assoc]
      unfold line
      simp only [List.append_assoc]
    unfold method RtspRequest.completes RtspRequest.parseAccept
    dsimp only
    rw [hfound _ (by decide), hfound _ (by decide)]
    rfl
  | setupTcp track => exact absurd rfl (hk track)

/-- No SETUP is understood. -/
theorem not_understood_setupTcp {p : RtspRequest} (hp : p.IsInitial) {c : RtspResponse}
    (hclean : Clean c) {u : RtspUrl} (hurl : c.rtspUrl = u.bytes) {track : MediaChannelId}
    {bufSize : ℕ} (hbuf : ((setupTcp track).text c).length < bufSize) :
    ¬ Understood p c bufSize (.setupTcp track) := by
  rintro ⟨r, buf, hparse, hgot, -⟩
  rw [build_of_fits hbuf, ← bytes_toRequest hclean hurl] at hparse
  by_cases hacc : (toRequest hclean hurl (.setupTcp track)).Accepted
  · obtain ⟨line, hline, hread⟩ := RtspRequest.parseRequest_accepted hp.state hacc
    rw [hread] at hparse
    have hr : line.headersRead (toRequest hclean hurl (.setupTcp track)).headerText = r :=
      congrArg (fun x => x.2.1) (Except.ok.inj hparse)
    obtain ⟨hspec, -⟩ := hline.headersRead_spec hp
      (toRequest hclean hurl (.setupTcp track)).headerText
    rw [hr, hgot, headerText_toRequest, show (toRequest hclean hurl (.setupTcp track)).method
      = .setup from rfl, completes_setupTcp, Bool.and_false] at hspec
    cases hspec
  · exact RtspRequest.parseRequest_not_accepted hp.state hacc _ _ hparse

/-- Every OPTIONS and DESCRIBE is. -/
theorem understood_of_ne {p : RtspRequest} (hp : p.IsInitial) {c : RtspResponse}
    (hclean : Clean c) {u : RtspUrl} (hurl : c.rtspUrl = u.bytes) (hfits : u.Fits)
    (hcseq : c.cseq.toNat < 2 ^ 32 - 1) {k : ClientRequest} (hk : ∀ track, k ≠ .setupTcp track)
    {bufSize : ℕ} (hbuf : (k.text c).length < bufSize) : Understood p c bufSize k := by
  obtain ⟨hnumber, hcompletes⟩ := completes_headers hcseq hk
  have hurl' : k.url c = u.bytes := by
    cases k with
    | options => exact hurl
    | describe => exact hurl
    | setupTcp track => exact absurd rfl (hk track)
  have hacc : (toRequest hclean hurl k).Accepted := RtspUrl.accepted hfits hurl' (by
    show (ascii "RTSP/1.0").length < 16
    decide)
  obtain ⟨line, hline, hread⟩ := RtspRequest.parseRequest_accepted hp.state hacc
  obtain ⟨hgot, hmethod, hurlRead, hcseqRead⟩ := hline.headersRead_spec hp
    (toRequest hclean hurl k).headerText
  have hgotAll : (line.headersRead (toRequest hclean hurl k).headerText).gotAll = true := by
    rw [hgot, headerText_toRequest, hnumber, show (toRequest hclean hurl k).method = k.method
      from rfl, hcompletes]
    rfl
  rw [RtspRequest.parseHeadersLine_of_gotAll hline.state hgotAll] at hread
  unfold Understood
  rw [build_of_fits hbuf, ← bytes_toRequest hclean hurl]
  refine ⟨_, _, hread, hgotAll, hmethod, hurlRead, ?_, fun track h => absurd h (hk track)⟩
  rw [hcseqRead, headerText_toRequest, hnumber]
  exact UInt32.toNat_ofNat_of_lt' (show _ < 4294967296 by omega)

/-- **The server understands what the client builds**, except for a SETUP. Its
transport has `mode=record` in front of the numbers of the channels, and the scan
of the server, which counts semicolons and goes to the next `=`, looks for the
numbers there. The client is any one whose texts fit and whose counter has a next
number. -/
theorem understood_iff {p : RtspRequest} (hp : p.IsInitial) {c : RtspResponse}
    (hclean : Clean c) {u : RtspUrl} (hurl : c.rtspUrl = u.bytes) (hfits : u.Fits)
    (hcseq : c.cseq.toNat < 2 ^ 32 - 1) {k : ClientRequest} {bufSize : ℕ}
    (hbuf : (k.text c).length < bufSize) :
    Understood p c bufSize k ↔ ∀ track, k ≠ .setupTcp track := by
  constructor
  · rintro hunderstood track rfl
    exact not_understood_setupTcp hp hclean hurl hbuf hunderstood
  · exact fun hk => understood_of_ne hp hclean hurl hfits hcseq hk hbuf

/-! ## A client -/

/-- The URL rtsp://10.0.0.1:554/live. -/
def liveUrl : RtspUrl where
  host := ascii "10.0.0.1"
  port := 554
  suffix := ascii "live"
  isToken_host := by decide
  colon_notMem := by decide
  slash_notMem := by decide
  isToken_suffix := by decide

theorem fits_liveUrl : liveUrl.Fits := ⟨by decide, by decide, by decide⟩

/-- A client that has sent nothing yet. -/
def player : RtspResponse where
  method := .none
  userAgent := ascii "player"
  rtspUrl := liveUrl.bytes

theorem clean_player : Clean player := ⟨by decide, by decide⟩

/-- A parser before its first request. -/
def fresh : RtspRequest where
  method := .none
  channelId := .channel0
  transport := .rtpOverTcp

theorem isInitial_fresh : fresh.IsInitial := ⟨rfl, rfl, rfl⟩

/-- `understood_iff` for an OPTIONS. -/
theorem understood_iff_options : Understood fresh player 1024 .options :=
  (understood_iff isInitial_fresh clean_player rfl fits_liveUrl (by decide) (by decide)).mpr nofun

/-- **A SETUP of the first track**: the parser does not complete it. -/
theorem setup_not_understood : ¬ ∀ (p : RtspRequest), p.IsInitial → ∀ (c : RtspResponse),
    Clean c → ∀ u : RtspUrl, c.rtspUrl = u.bytes → u.Fits → c.cseq.toNat < 2 ^ 32 - 1 →
    ∀ (k : ClientRequest) (bufSize : ℕ), (k.text c).length < bufSize →
      Understood p c bufSize k := by
  intro h
  have hbuf : ((setupTcp .channel0).text player).length < 1024 := by decide +kernel
  exact not_understood_setupTcp isInitial_fresh clean_player rfl hbuf
    (h fresh isInitial_fresh player clean_player liveUrl rfl fits_liveUrl (by decide)
      (.setupTcp .channel0) 1024 hbuf)

end ClientRequest
