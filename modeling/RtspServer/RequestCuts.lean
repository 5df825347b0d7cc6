import RtspServer.RequestReading

/-!
# One request in several reads

TCP cuts a request anywhere, and `handleRtspMessage` is called for each piece.
Between the calls the parser keeps its state and the buffer what was not read
yet; but of the header lines it reads all up to the last CRLF there is, looks
for what the method asks for in this text alone, and takes the request for
complete as soon as the text of one call passes the test.

`Reassembled` is what should hold for every cut: the command of the whole
request, once, and nothing left. Which cuts are reassembled is said by
`ArrivesWhole`, in terms of the texts that the single calls read
(`reassembled_iff_arrivesWhole`).
-/

/-- What a command handler reads of a request. -/
@[ext]
structure Command where
  method : Method
  url : Bytes
  cseq : UInt32
  transport : TransportMode
  channelId : MediaChannelId
  rtpChannel : UInt8
  rtcpChannel : UInt8
  rtpPort : UInt16
  rtcpPort : UInt16
deriving DecidableEq

namespace RtspRequest

def command (q : RtspRequest) : Command where
  method := q.method
  url := q.getRtspUrl
  cseq := q.getCSeq
  transport := q.transport
  channelId := q.channelId
  rtpChannel := q.getRtpChannel
  rtcpChannel := q.getRtcpChannel
  rtpPort := q.getRtpPort
  rtcpPort := q.getRtcpPort

/-- The number that a header text gives to a key of the transport. -/
def transportNumber (message : Bytes) (k : HeaderLineKey) : UInt32 :=
  match (readTransport message).2 with
  | some ((k₁, a), (k₂, b)) => if k = k₁ then a else if k = k₂ then b else 0
  | none => 0

/-- **What a header text says of the transport**: the mode, the two channel
numbers and the two ports. -/
def setupOf (message : Bytes) : Option TransportMode × UInt8 × UInt8 × UInt16 × UInt16 :=
  ((readTransport message).1, (transportNumber message .rtpChannel).toUInt8,
    (transportNumber message .rtcpChannel).toUInt8, (transportNumber message .rtpPort).toUInt16,
    (transportNumber message .rtcpPort).toUInt16)

/-- **The text of a call completes a request** of the method `m`: a `CSeq` was
seen before or is in the text, and the text passes the test. -/
def Completing (m : Method) (seen : Option UInt32) (text : Bytes) : Prop :=
  ((seen <|> cseqOf text).isSome && completes m text) = true

instance (m : Method) (seen : Option UInt32) (text : Bytes) : Decidable (Completing m seen text) :=
  inferInstanceAs (Decidable (_ = true))

end RtspRequest

namespace RtspReader

/-- The reads of a connection, one after another: the parser and the buffer
after them, and the requests dispatched. -/
def readAll (p : RtspRequest) (buf : Buffer) :
    List Bytes → Except Fault (RtspRequest × Buffer × List RtspRequest)
  | [] => .ok (p, buf, [])
  | c :: cs => do
    let (p, buf, dispatched) ← readStep p (buf ++ c)
    let (p, buf, rs) ← readAll p buf cs
    return (p, buf, dispatched.toList ++ rs)

/-- **The reads dispatch the requests `rs`**, and leave the parser in its
initial state and nothing in the buffer. -/
def Yields (p : RtspRequest) (buf : Buffer) (cs : List Bytes) (rs : List RtspRequest) : Prop :=
  ∃ q, readAll p buf cs = .ok (q, [], rs) ∧ q.IsInitial

/-- A line that is no request line. -/
def NoRequestLine (line : Bytes) : Prop :=
  ∀ p : RtspRequest, ∃ q, p.parseRequestLine line = .ok (false, q)

/-- **The rest of a request that was dispatched too early** comes to nothing:
each call drops the first line there is, or a frame, or waits for more, and
nothing is left at the end. -/
inductive Drains : Buffer → List Bytes → Prop where
  | done : Drains [] []
  | line {buf c : Bytes} {cs : List Bytes} {k : ℕ} (hline : Buffer.findCRLF (buf ++ c) = some k)
      (hhead : (buf ++ c).head? ≠ some 0x24) (hno : NoRequestLine ((buf ++ c).take k))
      (hrest : Drains (trim ((buf ++ c).drop (k + 2))) cs) : Drains buf (c :: cs)
  | waits {buf c : Bytes} {cs : List Bytes} (hline : Buffer.findCRLF (buf ++ c) = none)
      (hhead : (buf ++ c).head? ≠ some 0x24) (hrest : Drains (trim (buf ++ c)) cs) :
      Drains buf (c :: cs)
  | frame {buf c : Bytes} {cs : List Bytes} (hhead : (buf ++ c).head? = some 0x24)
      (hrest : Drains (trim (handleRtcp (buf ++ c))) cs) : Drains buf (c :: cs)

end RtspReader

namespace Request

open RtspRequest (cseqOf completes Completing setupOf)
open RtspReader (trim Drains)

/-- **A text that completes the request as the whole header text does**: with
the same number, and for a SETUP the same transport. -/
structure LikeWhole (r : Request) (seen : Option UInt32) (text : Bytes) : Prop where
  cseq : (seen <|> cseqOf text) = cseqOf r.headerText
  setup : r.method = .setup → setupOf text = setupOf r.headerText

/-- **The header lines arrive well**, from a call that finds `buf` in the
header state on: the text of each call goes up to the last CRLF. The first
text that completes the request does so like the whole header text, and what
comes behind it comes to nothing. -/
inductive HeadersArrive (r : Request) : Option UInt32 → Buffer → List Bytes → Prop where
  | complete {seen : Option UInt32} {text rest : Bytes} {cs : List Bytes}
      (hrest : ¬ crlf <:+: rest) (hdone : Completing r.method seen text)
      (hlike : r.LikeWhole seen text) (hdrain : Drains (trim rest) cs) :
      HeadersArrive r seen (text ++ crlf ++ rest) cs
  | more {seen : Option UInt32} {text rest c : Bytes} {cs : List Bytes}
      (hrest : ¬ crlf <:+: rest) (hdone : ¬ Completing r.method seen text)
      (hhead : (trim rest ++ c).head? ≠ some 0x24)
      (hnext : HeadersArrive r (seen <|> cseqOf text) (trim rest ++ c) cs) :
      HeadersArrive r seen (text ++ crlf ++ rest) (c :: cs)
  | waits {seen : Option UInt32} {buf c : Bytes} {cs : List Bytes} (hbuf : ¬ crlf <:+: buf)
      (hhead : (trim buf ++ c).head? ≠ some 0x24)
      (hnext : HeadersArrive r seen (trim buf ++ c) cs) : HeadersArrive r seen buf (c :: cs)

/-- The reads up to the end of the request line, and the header lines from
there on. -/
inductive LineArrives (r : Request) : Buffer → List Bytes → Prop where
  | waits {buf c : Bytes} {cs : List Bytes}
      (hshort : (buf ++ c).length < r.requestLine.length + 2) (hnext : LineArrives r (buf ++ c) cs) :
      LineArrives r buf (c :: cs)
  | line {buf c first : Bytes} {cs : List Bytes} (hbuf : buf ++ c = r.requestLine ++ crlf ++ first)
      (hnext : HeadersArrive r none first cs) : LineArrives r buf (c :: cs)

/-- **The cuts that do no harm.** The request is one that the server answers
when it arrives in one read, and its lines arrive well. -/
structure ArrivesWhole (r : Request) (cs : List Bytes) : Prop where
  accepted : r.Accepted
  completing : Completing r.method none r.headerText
  arrives : r.LineArrives [] cs

/-- **The request is put together from its pieces**: the reads dispatch one
command, the one that the whole request in one read leads to, and leave
nothing behind. -/
def Reassembled (p : RtspRequest) (r : Request) (cs : List Bytes) : Prop :=
  ∃ q whole, RtspReader.Yields p [] cs [q] ∧ RtspReader.Yields p [] [r.bytes] [whole] ∧
    q.command = whole.command

end Request

/-! ## One read after another -/

namespace RtspReader

theorem yields_nil {p : RtspRequest} {buf : Buffer} {rs : List RtspRequest} :
    Yields p buf [] rs ↔ buf = [] ∧ rs = [] ∧ p.IsInitial := by
  constructor
  · rintro ⟨q, hall, hq⟩
    cases hall
    exact ⟨rfl, rfl, hq⟩
  · rintro ⟨rfl, rfl, hp⟩
    exact ⟨p, rfl, hp⟩

/-- The first read, and those after it. -/
theorem yields_cons {p p' : RtspRequest} {buf buf' c : Bytes} {d : Option RtspRequest}
    (h : readStep p (buf ++ c) = .ok (p', buf', d)) {cs : List Bytes} {rs : List RtspRequest} :
    Yields p buf (c :: cs) rs ↔ ∃ rs', rs = d.toList ++ rs' ∧ Yields p' buf' cs rs' := by
  unfold Yields
  rw [readAll, h, Except.ok_bind]
  dsimp only
  constructor
  · rintro ⟨q, hall, hq⟩
    obtain ⟨⟨q', buf'', rs'⟩, hrest, heq⟩ := Except.bind_eq_ok_iff.mp hall
    cases heq
    exact ⟨rs', rfl, _, hrest, hq⟩
  · rintro ⟨rs', rfl, q, hrest, hq⟩
    refine ⟨q, ?_, hq⟩
    rw [hrest]
    rfl

/-- A read that faults ends the connection. -/
theorem not_yields_of_error {p : RtspRequest} {buf c : Bytes} {e : Fault}
    (h : readStep p (buf ++ c) = .error e) {cs : List Bytes} {rs : List RtspRequest} :
    ¬ Yields p buf (c :: cs) rs := by
  rintro ⟨q, hall, -⟩
  rw [readAll, h] at hall
  cases hall

/-- A read that dispatches nothing. -/
theorem yields_cons_none {p p' : RtspRequest} {buf buf' c : Bytes}
    (h : readStep p (buf ++ c) = .ok (p', buf', none)) {cs : List Bytes} {rs : List RtspRequest} :
    Yields p buf (c :: cs) rs ↔ Yields p' buf' cs rs := by
  rw [yields_cons h]
  constructor
  · rintro ⟨rs', rfl, hrest⟩
    exact hrest
  · exact fun hrest => ⟨rs, rfl, hrest⟩

/-- **A request that is not complete** leaves the parser in the header state:
nothing dispatched and the parser in its initial state do not go together. -/
theorem not_yields_nil_of_header {p : RtspRequest} (hp : p.state = .parseHeadersLine)
    {buf : Buffer} (cs : List Bytes) : ¬ Yields p buf cs [] := by
  induction cs generalizing p buf with
  | nil =>
    intro h
    have hstate := (yields_nil.mp h).2.2.state
    rw [hp] at hstate
    cases hstate
  | cons c cs ih =>
    rcases readStep_of_header hp (buf ++ c) with ⟨q, buf', hstep, hq, -⟩ | ⟨q, buf', r, hstep, -⟩
    · rw [yields_cons_none hstep]
      exact ih hq
    · rw [yields_cons hstep]
      rintro ⟨rs', hrs, -⟩
      cases hrs

/-- **A frame between the header lines** is the end of the request: nothing is
dispatched any more. -/
theorem not_yields_of_rtcp {p : RtspRequest} (hp : p.state = .parseHeadersLine)
    (hm : p.method = .rtcp) {buf : Buffer} (cs : List Bytes) {q : RtspRequest} :
    ¬ Yields p buf cs [q] := by
  induction cs generalizing p buf with
  | nil =>
    intro h
    cases (yields_nil.mp h).2.1
  | cons c cs ih =>
    rcases readStep_of_header hp (buf ++ c) with ⟨q', buf', hstep, hq, hrtcp⟩ | ⟨-, -, -, -, hne⟩
    · rw [yields_cons_none hstep]
      exact ih hq (hrtcp hm)
    · exact absurd hm hne

theorem drains_frame_iff {buf c : Bytes} {cs : List Bytes} (hhead : (buf ++ c).head? = some 0x24) :
    Drains buf (c :: cs) ↔ Drains (trim (handleRtcp (buf ++ c))) cs := by
  refine ⟨fun h => ?_, .frame hhead⟩
  cases h with
  | line _ hhead' => exact absurd hhead hhead'
  | waits _ hhead' => exact absurd hhead hhead'
  | frame _ hrest => exact hrest

theorem drains_noLine_iff {buf c : Bytes} {cs : List Bytes}
    (hline : Buffer.findCRLF (buf ++ c) = none) (hhead : (buf ++ c).head? ≠ some 0x24) :
    Drains buf (c :: cs) ↔ Drains (trim (buf ++ c)) cs := by
  refine ⟨fun h => ?_, .waits hline hhead⟩
  cases h with
  | line hline' => rw [hline] at hline'; cases hline'
  | waits _ _ hrest => exact hrest
  | frame hhead' => exact absurd hhead' hhead

theorem drains_line_iff {buf c : Bytes} {cs : List Bytes} {k : ℕ}
    (hline : Buffer.findCRLF (buf ++ c) = some k) (hhead : (buf ++ c).head? ≠ some 0x24) :
    Drains buf (c :: cs) ↔
      NoRequestLine ((buf ++ c).take k) ∧ Drains (trim ((buf ++ c).drop (k + 2))) cs := by
  refine ⟨fun h => ?_, fun ⟨hno, hrest⟩ => .line hline hhead hno hrest⟩
  cases h with
  | line hline' _ hno hrest =>
    rw [hline] at hline'
    cases hline'
    exact ⟨hno, hrest⟩
  | waits hline' => rw [hline] at hline'; cases hline'
  | frame hhead' => exact absurd hhead' hhead

/-- **When the rest comes to nothing.** -/
theorem yields_nil_iff_drains {p : RtspRequest} (hp : p.IsInitial) (buf : Buffer)
    (cs : List Bytes) : Yields p buf cs [] ↔ Drains buf cs := by
  induction cs generalizing p buf with
  | nil =>
    rw [yields_nil]
    constructor
    · rintro ⟨rfl, -, -⟩
      exact .done
    · rintro ⟨⟩
      exact ⟨rfl, rfl, hp⟩
  | cons c cs ih =>
    by_cases hhead : (buf ++ c).head? = some 0x24
    · have hinitial : ({ p with method := .rtcp } : RtspRequest).IsInitial :=
        ⟨hp.state, hp.requestLineParam, hp.headerLineParam⟩
      rw [yields_cons_none (readStep_frame p hhead), ih hinitial, drains_frame_iff hhead]
    · cases hline : Buffer.findCRLF (buf ++ c) with
      | none =>
        rw [yields_cons_none (readStep_noLine hp.state hline hhead), ih hp,
          drains_noLine_iff hline hhead]
      | some k =>
        rw [drains_line_iff hline hhead]
        rcases RtspRequest.parseRequestLine_cases ((buf ++ c).take k) with
          ⟨e, herror⟩ | hrejected | haccepted
        · refine iff_of_false (not_yields_of_error (readStep_error hp.state hline hhead
            (herror p))) fun ⟨hno, _⟩ => ?_
          obtain ⟨q, hq⟩ := hno p
          rw [herror p] at hq
          cases hq
        · obtain ⟨q, hq, hstate, hrequest, hheader⟩ := hrejected p
          have hinitial : q.IsInitial := ⟨hstate.trans hp.state,
            hrequest.trans hp.requestLineParam, hheader.trans hp.headerLineParam⟩
          have hno : NoRequestLine ((buf ++ c).take k) := by
            intro p'
            obtain ⟨q', hq', -⟩ := hrejected p'
            exact ⟨q', hq'⟩
          rw [yields_cons_none (readStep_rejected hp.state hline hhead hq hinitial.state),
            ih hinitial, and_iff_right hno]
        · -- a request line: the parser waits for its header lines, or dispatches it
          obtain ⟨q, hq, hstate, hmethod⟩ := haccepted p
          have hstep := readStep_requestLine hp.state hline hhead hq hstate hmethod
          refine iff_of_false (fun h => ?_) fun ⟨hno, _⟩ => ?_
          · rcases readHeaders_cases hstate ((buf ++ c).drop (k + 2)) with
              ⟨q', buf', hread, hq'⟩ | ⟨q', buf', r, hread⟩
            · rw [yields_cons_none (hstep.trans (congrArg Except.ok hread))] at h
              exact not_yields_nil_of_header hq' cs h
            · obtain ⟨rs', hrs, -⟩ := (yields_cons (hstep.trans (congrArg Except.ok hread))).mp h
              cases hrs
          · obtain ⟨q', hq'⟩ := hno p
            rw [hq] at hq'
            cases hq'

end RtspReader

/-! ## The parser between two texts -/

namespace RtspRequest

/-- **The parser in the middle of the header lines** of `r`, when `seen` is
the number of the first `CSeq` up to there. The parameters of the transport
are not set before the request is complete. -/
structure Reading (p : RtspRequest) (r : Request) (seen : Option UInt32) (q : RtspRequest) :
    Prop where
  state : q.state = .parseHeadersLine
  method : q.method = r.method
  url : q.requestLineParam .url = some (r.url, 0)
  cseq : q.headerLineParam .cseq = seen.map fun n => ([], n)
  others : ∀ k, k ≠ .cseq → q.headerLineParam k = none
  channelId : q.channelId = p.channelId
  transport : r.method ≠ .setup → q.transport = p.transport

variable {p q : RtspRequest} {r : Request} {seen : Option UInt32}

theorem Reading.method_ne (h : Reading p r seen q) : q.method ≠ .rtcp := by
  rw [h.method]
  intro hrtcp
  have hsupported := r.supported
  rw [hrtcp] at hsupported
  exact absurd hsupported (by decide)

/-- The parser after the request line. -/
theorem LineRead.reading (h : p.LineRead r q) (hp : p.IsInitial) : Reading p r none q := by
  refine ⟨h.state, h.method, h.url (by rw [hp.requestLineParam]), ?_, fun k _ => ?_, h.channelId,
    fun _ => h.transport⟩
  · rw [h.headerLineParam, hp.headerLineParam]
    rfl
  · rw [h.headerLineParam, hp.headerLineParam]

/-- The `CSeq` of a text. -/
theorem Reading.seeCSeq (h : Reading p r seen q) (text : Bytes) :
    Reading p r (seen <|> cseqOf text) (q.seeCSeq text) := by
  obtain ⟨hstate, hmethod, hline, hcseq⟩ := q.seeCSeq_spec text
  have hothers : ∀ k, k ≠ .cseq → (q.seeCSeq text).headerLineParam k = none := by
    intro k hk
    rw [← h.others k hk]
    unfold RtspRequest.seeCSeq
    split
    · rfl
    · exact Params.emplace_of_ne _ hk _
  have hkeep : (q.seeCSeq text).channelId = q.channelId ∧
      (q.seeCSeq text).transport = q.transport := by
    unfold RtspRequest.seeCSeq
    split <;> exact ⟨rfl, rfl⟩
  refine ⟨hstate.trans h.state, hmethod.trans h.method, hline ▸ h.url, ?_, hothers,
    hkeep.1.trans h.channelId, fun hm => hkeep.2.trans (h.transport hm)⟩
  rw [hcseq, h.cseq]
  cases seen with
  | none => rfl
  | some n => rfl

/-- **When the text of a call completes the request.** -/
theorem Reading.gotAll_iff (h : Reading p r seen q) (text : Bytes) :
    (q.headersRead text).gotAll = true ↔ Completing r.method seen text := by
  obtain ⟨hstate, -, -, -⟩ := headersRead_spec h.state text
  have hsome : (q.headerLineParam .cseq <|> (cseqOf text).map fun n => (([] : Bytes), n)).isSome
      = (seen <|> cseqOf text).isSome := by
    rw [h.cseq]
    cases seen with
    | none => exact Option.isSome_map
    | some n => rfl
  rw [hsome, h.method] at hstate
  unfold Completing gotAll
  rw [hstate]
  cases (seen <|> cseqOf text).isSome && completes r.method text with
  | false => exact iff_of_false (by decide) Bool.false_ne_true
  | true => exact iff_of_true (by decide) rfl

/-- **A text that does not complete the request** is forgotten, up to the
`CSeq` in it. -/
theorem Reading.step (h : Reading p r seen q) {text : Bytes}
    (hdone : ¬ Completing r.method seen text) :
    Reading p r (seen <|> cseqOf text) (q.headersRead text) := by
  have hsee := h.seeCSeq text
  unfold headersRead
  rw [parseHeadersLine_eq]
  split
  · next hsome =>
    have htest : completes (q.seeCSeq text).method text = false := by
      rw [hsee.cseq, Option.isSome_map] at hsome
      unfold Completing at hdone
      rw [hsome, Bool.true_and, Bool.not_eq_true] at hdone
      rw [hsee.method, hdone]
    rcases completeHeaders_of_not_completes htest with heq | ⟨hsetup, mode, heq⟩
    · rw [heq]
      exact hsee
    · rw [heq]
      exact ⟨hsee.state, hsee.method, hsee.url, hsee.cseq, hsee.others, hsee.channelId,
        fun hm => absurd (hsee.method.symm.trans hsetup) hm⟩
  · exact hsee

/-! ## The command of a text -/

/-- The channel that a URL names. -/
def trackOf (url : Bytes) : MediaChannelId :=
  if (Search.find (ascii "track1") url).isSome then .channel1 else .channel0

/-- The command of a request with the number `n`, when its header text reads
as `text`; what a request does not set is what it was before. -/
def commandOf (p : RtspRequest) (r : Request) (n : UInt32) (text : Bytes) : Command :=
  if r.method = .setup then
    { method := r.method
      url := r.url
      cseq := n
      transport := (setupOf text).1.getD p.transport
      channelId := trackOf r.url
      rtpChannel := (setupOf text).2.1
      rtcpChannel := (setupOf text).2.2.1
      rtpPort := (setupOf text).2.2.2.1
      rtcpPort := (setupOf text).2.2.2.2 }
  else
    { method := r.method
      url := r.url
      cseq := n
      transport := p.transport
      channelId := p.channelId
      rtpChannel := 0
      rtcpChannel := 0
      rtpPort := 0
      rtcpPort := 0 }

/-- The numbers of the transport that are read from a text. -/
theorem Reading.numberParam_seeTransport (h : Reading p r seen q) {text : Bytes}
    (htransport : (readTransport text).2.isSome = true) {k : HeaderLineKey} (hk : k ≠ .cseq) :
    (q.seeTransport text).numberParam k = transportNumber text k := by
  obtain ⟨⟨⟨k₁, a⟩, ⟨k₂, b⟩⟩, hpair⟩ := Option.isSome_iff_exists.mp htransport
  obtain ⟨hk₁, hk₂⟩ := keys_of_readTransport hpair
  have hne : k₁ ≠ k₂ := by
    rcases readTransport_cases hpair with ⟨-, rfl, rfl⟩ | ⟨-, rfl, rfl⟩ | ⟨-, rfl, rfl⟩ <;> decide
  have hparams : (q.seeTransport text).headerLineParam
      = (q.headerLineParam.emplace k₁ ([], a)).emplace k₂ ([], b) := by
    unfold seeTransport
    rw [hpair]
  obtain ⟨ha, hb⟩ := numberParam_emplace hne (h.others k₁ hk₁.symm) (h.others k₂ hk₂.symm) hparams
  unfold transportNumber
  rw [hpair]
  dsimp only
  by_cases h₁ : k = k₁
  · rw [if_pos h₁, h₁, ha]
  · by_cases h₂ : k = k₂
    · rw [if_neg h₁, if_pos h₂, h₂, hb]
    · rw [if_neg h₁, if_neg h₂]
      unfold numberParam
      rw [hparams, Params.emplace_of_ne _ h₂, Params.emplace_of_ne _ h₁, h.others k hk]
      rfl

/-- The track of the URL. -/
theorem parseMediaChannel_of_url {q : RtspRequest} {url : Bytes}
    (h : q.requestLineParam .url = some (url, 0)) :
    q.parseMediaChannel = { q with channelId := trackOf url } := by
  unfold parseMediaChannel trackOf
  rw [h]
  dsimp only
  split <;> rfl

/-- A text that completes a request without a transport sets the state. -/
theorem completeHeaders_of_completes {q : RtspRequest} (hm : q.method ≠ .setup) {text : Bytes}
    (h : completes q.method text = true) :
    q.completeHeaders text = { q with state := .gotAll } := by
  unfold completes at h
  unfold completeHeaders
  cases hq : q.method with
  | setup => exact absurd hq hm
  | rtcp => rw [hq] at h; cases h
  | none => rw [hq] at h; cases h
  | describe => rw [hq] at h; exact if_pos h
  | play => rw [hq] at h; exact if_pos h
  | options => rfl
  | teardown => rfl
  | getParameter => rfl

/-- A text with a transport has a mode. -/
theorem setupOf_mode {text : Bytes} (h : (readTransport text).2.isSome = true) :
    ∃ mode, (setupOf text).1 = some mode := by
  obtain ⟨⟨⟨k₁, a⟩, ⟨k₂, b⟩⟩, hpair⟩ := Option.isSome_iff_exists.mp h
  rcases readTransport_cases hpair with ⟨hmode, -⟩ | ⟨hmode, -⟩ | ⟨hmode, -⟩ <;> exact ⟨_, hmode⟩

/-- The URL and the number of a parser with the parameters of the request. -/
theorem url_cseq_of_params {q : RtspRequest} {url : Bytes} {n : UInt32}
    (hurl : q.requestLineParam .url = some (url, 0)) (hcseq : q.headerLineParam .cseq = some ([], n)) :
    q.getRtspUrl = url ∧ q.getCSeq = n := by
  unfold getRtspUrl stringParam getCSeq numberParam
  rw [hurl, hcseq]
  exact ⟨rfl, rfl⟩

/-- The command of a SETUP. -/
theorem Reading.command_setup (h : Reading p r seen q) {text : Bytes} (hm : r.method = .setup)
    {n : UInt32} (hn : (seen <|> cseqOf text) = some n)
    (htransport : (readTransport text).2.isSome = true) :
    (q.headersRead text).command = commandOf p r n text := by
  have hsee := h.seeCSeq text
  have hcseq : (q.seeCSeq text).headerLineParam .cseq = some ([], n) := by
    rw [hsee.cseq, hn]
    rfl
  have hkept := (q.seeCSeq text).sameRequest_seeTransport text
  have hread : q.headersRead text = { (q.seeCSeq text).seeTransport text with
      channelId := trackOf r.url
      state := .gotAll } := by
    rw [headersRead_setup (h.method.trans hm) (by rw [hcseq]; rfl) htransport,
      parseMediaChannel_of_url (show ((q.seeCSeq text).seeTransport text).requestLineParam .url
        = some (r.url, 0) from hsee.url)]
  have hparam : ∀ k, k ≠ .cseq →
      ((q.seeCSeq text).seeTransport text).numberParam k = transportNumber text k := fun k hk =>
    hsee.numberParam_seeTransport htransport hk
  obtain ⟨hurl, hnumber⟩ := @url_cseq_of_params (q.headersRead text) r.url n
    (by rw [hread]; exact hsee.url) (by rw [hread]; exact hkept.cseq.trans hcseq)
  obtain ⟨mode, hmode⟩ := setupOf_mode htransport
  unfold commandOf
  rw [if_pos hm]
  refine Command.ext (by rw [hread]; exact hsee.method) hurl hnumber ?_ (by rw [hread]; rfl) ?_ ?_
    ?_ ?_
  · rw [hmode, hread]
    show (readTransport text).1.getD _ = mode
    rw [show (readTransport text).1 = some mode from hmode]
    rfl
  · rw [hread]
    exact congrArg UInt32.toUInt8 (hparam .rtpChannel (by decide))
  · rw [hread]
    exact congrArg UInt32.toUInt8 (hparam .rtcpChannel (by decide))
  · rw [hread]
    exact congrArg UInt32.toUInt16 (hparam .rtpPort (by decide))
  · rw [hread]
    exact congrArg UInt32.toUInt16 (hparam .rtcpPort (by decide))

/-- The command of a request without a transport. -/
theorem Reading.command_other (h : Reading p r seen q) {text : Bytes} (hm : r.method ≠ .setup)
    {n : UInt32} (hn : (seen <|> cseqOf text) = some n) (htest : completes r.method text = true) :
    (q.headersRead text).command = commandOf p r n text := by
  have hsee := h.seeCSeq text
  have hcseq : (q.seeCSeq text).headerLineParam .cseq = some ([], n) := by
    rw [hsee.cseq, hn]
    rfl
  have hread : q.headersRead text = { q.seeCSeq text with state := .gotAll } := by
    unfold headersRead
    rw [parseHeadersLine_eq, if_pos (by rw [hcseq]; rfl)]
    exact completeHeaders_of_completes (by rw [hsee.method]; exact hm)
      (by rw [hsee.method]; exact htest)
  have hzero : ∀ k, k ≠ .cseq → (q.seeCSeq text).numberParam k = 0 := by
    intro k hk
    unfold numberParam
    rw [hsee.others k hk]
    rfl
  obtain ⟨hurl, hnumber⟩ := url_cseq_of_params hsee.url hcseq
  unfold commandOf
  rw [if_neg hm, hread]
  exact Command.ext hsee.method hurl hnumber (hsee.transport hm) hsee.channelId
    (congrArg UInt32.toUInt8 (hzero .rtpChannel (by decide)))
    (congrArg UInt32.toUInt8 (hzero .rtcpChannel (by decide)))
    (congrArg UInt32.toUInt16 (hzero .rtpPort (by decide)))
    (congrArg UInt32.toUInt16 (hzero .rtcpPort (by decide)))

/-- **The command that a text completes.** -/
theorem Reading.command (h : Reading p r seen q) {text : Bytes}
    (hdone : Completing r.method seen text) : ∃ n, (seen <|> cseqOf text) = some n ∧
      (q.headersRead text).command = commandOf p r n text := by
  obtain ⟨hsome, htest⟩ := Bool.and_eq_true_iff.mp hdone
  obtain ⟨n, hn⟩ := Option.isSome_iff_exists.mp hsome
  refine ⟨n, hn, ?_⟩
  by_cases hm : r.method = .setup
  · rw [hm] at htest
    exact h.command_setup hm hn htest
  · exact h.command_other hm hn htest

theorem commandOf_eq_iff {n n' : UInt32} {text text' : Bytes}
    (h : completes r.method text = true) (h' : completes r.method text' = true) :
    commandOf p r n text = commandOf p r n' text' ↔
      n = n' ∧ (r.method = .setup → setupOf text = setupOf text') := by
  unfold commandOf
  by_cases hm : r.method = .setup
  · rw [hm] at h h'
    obtain ⟨mode, hmode⟩ := setupOf_mode h
    obtain ⟨mode', hmode'⟩ := setupOf_mode h'
    rw [if_pos hm, if_pos hm]
    constructor
    · intro heq
      refine ⟨congrArg Command.cseq heq, fun _ => ?_⟩
      have hsame : mode = mode' := by
        have := congrArg Command.transport heq
        dsimp only at this
        rwa [hmode, hmode'] at this
      exact Prod.ext (by rw [hmode, hmode', hsame]) (Prod.ext (congrArg Command.rtpChannel heq)
        (Prod.ext (congrArg Command.rtcpChannel heq) (Prod.ext (congrArg Command.rtpPort heq)
          (congrArg Command.rtcpPort heq))))
    · rintro ⟨rfl, hsetup⟩
      rw [hsetup hm]
  · rw [if_neg hm, if_neg hm]
    exact ⟨fun heq => ⟨congrArg Command.cseq heq, fun hsetup => absurd hsetup hm⟩,
      fun ⟨hn, _⟩ => by rw [hn]⟩

/-- **The command of a text is that of the whole request** when the text
reads like the whole header text. -/
theorem Reading.command_eq_iff {q₀ : RtspRequest} (h : Reading p r seen q)
    (h₀ : Reading p r none q₀) {text : Bytes} (hdone : Completing r.method seen text)
    (hdone₀ : Completing r.method none r.headerText) :
    (q.headersRead text).command = (q₀.headersRead r.headerText).command ↔
      r.LikeWhole seen text := by
  obtain ⟨n, hn, hcommand⟩ := h.command hdone
  obtain ⟨n₀, hn₀, hcommand₀⟩ := h₀.command hdone₀
  rw [hcommand, hcommand₀, commandOf_eq_iff (Bool.and_eq_true_iff.mp hdone).2
    (Bool.and_eq_true_iff.mp hdone₀).2]
  have hn₀ : cseqOf r.headerText = some n₀ := hn₀
  constructor
  · rintro ⟨rfl, hsetup⟩
    exact ⟨hn.trans hn₀.symm, hsetup⟩
  · intro hlike
    exact ⟨Option.some.inj (hn.symm.trans (hlike.cseq.trans hn₀)), hlike.setup⟩

end RtspRequest

/-! ## The header lines -/

namespace Request

open RtspRequest (cseqOf Completing Reading)
open RtspReader

variable {r : Request} {seen : Option UInt32}

theorem headersArrive_of_completing {text rest : Bytes} {cs : List Bytes}
    (hrest : ¬ crlf <:+: rest) (hdone : Completing r.method seen text) :
    HeadersArrive r seen (text ++ crlf ++ rest) cs ↔
      r.LikeWhole seen text ∧ Drains (trim rest) cs := by
  refine ⟨fun h => ?_, fun ⟨hlike, hdrain⟩ => .complete hrest hdone hlike hdrain⟩
  generalize hbuf : text ++ crlf ++ rest = buf at h
  cases h with
  | complete hrest' _ hlike hdrain =>
    obtain ⟨rfl, rfl⟩ := Buffer.last_crlf_unique hrest hrest' hbuf
    exact ⟨hlike, hdrain⟩
  | more hrest' hdone' =>
    obtain ⟨rfl, rfl⟩ := Buffer.last_crlf_unique hrest hrest' hbuf
    exact absurd hdone hdone'
  | waits hbuf' => exact absurd ⟨text, rest, hbuf⟩ hbuf'

theorem headersArrive_of_not_completing {text rest c : Bytes} {cs : List Bytes}
    (hrest : ¬ crlf <:+: rest) (hdone : ¬ Completing r.method seen text) :
    HeadersArrive r seen (text ++ crlf ++ rest) (c :: cs) ↔
      (trim rest ++ c).head? ≠ some 0x24 ∧
        HeadersArrive r (seen <|> cseqOf text) (trim rest ++ c) cs := by
  refine ⟨fun h => ?_, fun ⟨hhead, hnext⟩ => .more hrest hdone hhead hnext⟩
  generalize hbuf : text ++ crlf ++ rest = buf at h
  cases h with
  | complete hrest' hdone' =>
    obtain ⟨rfl, rfl⟩ := Buffer.last_crlf_unique hrest hrest' hbuf
    exact absurd hdone' hdone
  | more hrest' _ hhead hnext =>
    obtain ⟨rfl, rfl⟩ := Buffer.last_crlf_unique hrest hrest' hbuf
    exact ⟨hhead, hnext⟩
  | waits hbuf' => exact absurd ⟨text, rest, hbuf⟩ hbuf'

theorem headersArrive_of_no_crlf {buf c : Bytes} {cs : List Bytes} (hbuf : ¬ crlf <:+: buf) :
    HeadersArrive r seen buf (c :: cs) ↔
      (trim buf ++ c).head? ≠ some 0x24 ∧ HeadersArrive r seen (trim buf ++ c) cs := by
  refine ⟨fun h => ?_, fun ⟨hhead, hnext⟩ => .waits hbuf hhead hnext⟩
  cases h with
  | complete => exact absurd ⟨_, _, rfl⟩ hbuf
  | more => exact absurd ⟨_, _, rfl⟩ hbuf
  | waits _ hhead hnext => exact ⟨hhead, hnext⟩

/-- Without another read an incomplete request does not arrive. -/
theorem not_headersArrive_nil {buf : Bytes}
    (h : ∀ text rest, ¬ crlf <:+: rest → buf = text ++ crlf ++ rest →
      ¬ Completing r.method seen text) : ¬ HeadersArrive r seen buf [] := by
  intro harrive
  cases harrive with
  | complete hrest hdone => exact h _ _ hrest rfl hdone

/-- The reads dispatch one request, with this command, and leave nothing. -/
def YieldsCommand (p : RtspRequest) (buf : Buffer) (cs : List Bytes) (command : Command) :
    Prop :=
  ∃ x, Yields p buf cs [x] ∧ x.command = command

/-- The same of a call in the header state that finds `buf`, and the reads
after it. -/
def HeadersYield (q : RtspRequest) (buf : Buffer) (cs : List Bytes) (command : Command) :
    Prop :=
  ∃ x rs, (readHeaders q buf).2.2.toList ++ rs = [x] ∧
    Yields (readHeaders q buf).1 (readHeaders q buf).2.1 cs rs ∧ x.command = command

section Headers

variable {p q q' : RtspRequest} {buf buf' c : Bytes} {cs : List Bytes} {command : Command}

theorem headersYield_of_none (h : readHeaders q buf = (q', buf', none)) :
    HeadersYield q buf cs command ↔ YieldsCommand q' buf' cs command := by
  unfold HeadersYield YieldsCommand
  rw [h]
  constructor
  · rintro ⟨x, rs, rfl, hrest, hcommand⟩
    exact ⟨x, hrest, hcommand⟩
  · rintro ⟨x, hrest, hcommand⟩
    exact ⟨x, [x], rfl, hrest, hcommand⟩

theorem headersYield_of_some {x : RtspRequest} (h : readHeaders q buf = (q', buf', some x)) :
    HeadersYield q buf cs command ↔ x.command = command ∧ Yields q' buf' cs [] := by
  unfold HeadersYield
  rw [h]
  constructor
  · rintro ⟨y, rs, hrs, hrest, hcommand⟩
    cases hrs
    exact ⟨hcommand, hrest⟩
  · rintro ⟨hcommand, hrest⟩
    exact ⟨x, [], rfl, hrest, hcommand⟩

theorem not_yieldsCommand_nil : ¬ YieldsCommand q buf [] command := by
  rintro ⟨x, hx, -⟩
  cases (yields_nil.mp hx).2.1

/-- A read that reads header lines. -/
theorem yieldsCommand_of_step (h : readStep p (buf ++ c) = .ok (readHeaders q buf')) :
    YieldsCommand p buf (c :: cs) command ↔ HeadersYield q buf' cs command := by
  unfold YieldsCommand HeadersYield
  refine exists_congr fun x => ?_
  rw [yields_cons h]
  constructor
  · rintro ⟨⟨rs, hrs, hrest⟩, hcommand⟩
    exact ⟨rs, hrs.symm, hrest, hcommand⟩
  · rintro ⟨rs, hrs, hrest, hcommand⟩
    exact ⟨⟨rs, hrs.symm, hrest⟩, hcommand⟩

/-- A call that follows in the header state reads on, if it finds no frame. -/
theorem yieldsCommand_cons (hq : Reading p r seen q) :
    YieldsCommand q buf (c :: cs) command ↔
      (buf ++ c).head? ≠ some 0x24 ∧ HeadersYield q (buf ++ c) cs command := by
  by_cases hhead : (buf ++ c).head? = some 0x24
  · refine iff_of_false ?_ fun h => h.1 hhead
    rintro ⟨x, hx, -⟩
    rw [yields_cons_none (readStep_frame q hhead)] at hx
    exact not_yields_of_rtcp (p := { q with method := .rtcp }) hq.state rfl cs hx
  · rw [and_iff_right hhead]
    exact yieldsCommand_of_step (readStep_headers hq.state hq.method_ne hhead)

/-- **One call in the header state**, by the text up to the last CRLF in its
buffer. -/
theorem readHeaders_text (hq : Reading p r seen q) {text rest : Bytes} (hrest : ¬ crlf <:+: rest) :
    (Completing r.method seen text → readHeaders q (text ++ crlf ++ rest)
      = ((q.headersRead text).reset, trim rest, some (q.headersRead text))) ∧
    (¬ Completing r.method seen text → readHeaders q (text ++ crlf ++ rest)
      = (q.headersRead text, trim rest, none)) := by
  rw [readHeaders_append q text hrest]
  unfold finish
  exact ⟨fun hdone => if_pos ((hq.gotAll_iff text).mpr hdone),
    fun hdone => if_neg fun hgot => hdone ((hq.gotAll_iff text).mp hgot)⟩

/-- A call without a CRLF waits. -/
theorem readHeaders_no_crlf (hq : Reading p r seen q) (hbuf : ¬ crlf <:+: buf) :
    readHeaders q buf = (q, trim buf, none) := by
  unfold readHeaders
  rw [Buffer.findLastCRLF_eq_none_iff.mpr hbuf]
  unfold finish RtspRequest.gotAll
  rw [hq.state]
  rfl

/-- **The header lines from one call on**: when the call and the reads after it
dispatch the command of the whole request. The induction is on the reads that
are left. -/
theorem headersYield_iff {q₀ : RtspRequest} (hq : Reading p r seen q)
    (hq₀ : Reading p r none q₀) (hwhole : Completing r.method none r.headerText) (buf : Buffer)
    (cs : List Bytes) :
    HeadersYield q buf cs (q₀.headersRead r.headerText).command ↔
      HeadersArrive r seen buf cs := by
  induction cs generalizing q seen buf with
  | nil =>
    by_cases hbuf : crlf <:+: buf
    · obtain ⟨text, rest, rfl, hrest⟩ := Buffer.exists_last_crlf hbuf
      obtain ⟨hcomplete, hmore⟩ := readHeaders_text hq hrest
      by_cases hdone : Completing r.method seen text
      · rw [headersYield_of_some (hcomplete hdone), hq.command_eq_iff hq₀ hdone hwhole,
          yields_nil_iff_drains (RtspRequest.isInitial_reset _),
          headersArrive_of_completing hrest hdone]
      · rw [headersYield_of_none (hmore hdone)]
        refine iff_of_false not_yieldsCommand_nil (not_headersArrive_nil ?_)
        intro text' rest' hrest' hsplit
        obtain ⟨rfl, rfl⟩ := Buffer.last_crlf_unique hrest hrest' hsplit
        exact hdone
    · rw [headersYield_of_none (readHeaders_no_crlf hq hbuf)]
      refine iff_of_false not_yieldsCommand_nil (not_headersArrive_nil ?_)
      rintro text rest - rfl
      exact absurd ⟨text, rest, rfl⟩ hbuf
  | cons c cs ih =>
    by_cases hbuf : crlf <:+: buf
    · obtain ⟨text, rest, rfl, hrest⟩ := Buffer.exists_last_crlf hbuf
      obtain ⟨hcomplete, hmore⟩ := readHeaders_text hq hrest
      by_cases hdone : Completing r.method seen text
      · rw [headersYield_of_some (hcomplete hdone), hq.command_eq_iff hq₀ hdone hwhole,
          yields_nil_iff_drains (RtspRequest.isInitial_reset _),
          headersArrive_of_completing hrest hdone]
      · rw [headersYield_of_none (hmore hdone), yieldsCommand_cons (hq.step hdone),
          ih (hq.step hdone), headersArrive_of_not_completing hrest hdone]
    · rw [headersYield_of_none (readHeaders_no_crlf hq hbuf), yieldsCommand_cons hq, ih hq,
        headersArrive_of_no_crlf hbuf]

/-! ## The request line -/

/-- What comes of a request line up to its end has no end of a line in it. -/
theorem findCRLF_of_short {rest : Bytes} (hbytes : buf ++ rest = r.bytes)
    (hshort : buf.length < r.requestLine.length + 2) : Buffer.findCRLF buf = none := by
  have hprefix : buf <+: r.requestLine ++ [0x0d] := by
    have hline : r.requestLine ++ [0x0d] <+: r.bytes :=
      ⟨0x0a :: (r.headerText ++ crlf), by simp [bytes, crlf]⟩
    refine List.prefix_of_prefix_length_le ⟨rest, hbytes⟩ hline ?_
    rw [List.length_append, List.length_singleton]
    omega
  rw [Buffer.findCRLF_eq_none_iff]
  rintro ⟨before, after, rfl⟩
  have hmem : (0x0a : UInt8) ∈ r.requestLine ++ [0x0d] :=
    hprefix.subset (by simp [crlf])
  rcases List.mem_append.mp hmem with hmem | hmem
  · exact (r.isLine_requestLine _ hmem).2 rfl
  · cases List.mem_singleton.mp hmem

/-- Nor does it look like a frame. -/
theorem head_ne_frame {rest : Bytes} (hbytes : buf ++ rest = r.bytes) :
    buf.head? ≠ some 0x24 := by
  intro hhead
  refine r.head_requestLine (crlf ++ (r.headerText ++ crlf)) ?_
  rw [← List.append_assoc, show r.requestLine ++ crlf ++ (r.headerText ++ crlf) = r.bytes from rfl,
    ← hbytes, List.head?_append, hhead]
  rfl

/-- An accepted request line fits the buffer. -/
theorem Accepted.length_lt (h : r.Accepted) : r.requestLine.length + 2 ≤ maxRtspMessageSize := by
  have hname := r.method.length_name_lt
  have hurl := h.url_fits
  have hversion := h.version_fits
  simp only [requestLine, List.length_append, List.length_singleton, maxRtspMessageSize]
  omega

/-- **The request line and the header lines.** The reads up to the end of the
request line only fill the buffer. -/
theorem yieldsCommand_iff (hp : p.IsInitial) (hacc : r.Accepted) {q₀ : RtspRequest}
    (hq₀ : Reading p r none q₀) (hwhole : Completing r.method none r.headerText)
    (hbytes : buf ++ cs.flatten = r.bytes) (hshort : buf.length < r.requestLine.length + 2) :
    YieldsCommand p buf cs (q₀.headersRead r.headerText).command ↔ LineArrives r buf cs := by
  induction cs generalizing buf with
  | nil =>
    rw [List.flatten_nil, List.append_nil] at hbytes
    have hlength := congrArg List.length hbytes
    simp only [bytes, crlf, List.length_append, List.length_cons, List.length_nil] at hlength
    omega
  | cons c cs ih =>
    rw [List.flatten_cons, ← List.append_assoc] at hbytes
    by_cases hlen : (buf ++ c).length < r.requestLine.length + 2
    · have hkeep : trim (buf ++ c) = buf ++ c :=
        if_neg (Nat.not_lt.mpr (hlen.le.trans hacc.length_lt))
      have hstep := readStep_noLine hp.state (findCRLF_of_short hbytes hlen) (head_ne_frame hbytes)
      rw [hkeep] at hstep
      have hcons : YieldsCommand p buf (c :: cs) (q₀.headersRead r.headerText).command ↔
          YieldsCommand p (buf ++ c) cs (q₀.headersRead r.headerText).command :=
        exists_congr fun x => and_congr_left' (yields_cons_none hstep)
      rw [hcons, ih hbytes hlen]
      refine ⟨.waits hlen, fun h => ?_⟩
      cases h with
      | waits _ hnext => exact hnext
      | line hbuf =>
        rw [hbuf] at hlen
        simp only [crlf, List.length_append, List.length_cons, List.length_nil] at hlen
        omega
    · obtain ⟨first, hfirst⟩ : r.requestLine ++ crlf <+: buf ++ c := by
        refine List.prefix_of_prefix_length_le ⟨r.headerText ++ crlf, rfl⟩ ⟨_, hbytes⟩ ?_
        rw [List.length_append]
        exact Nat.le_of_not_lt hlen
      obtain ⟨q, hq, hstep⟩ := readStep_acceptedLine hp.state hacc first
      rw [hfirst] at hstep
      rw [yieldsCommand_of_step hstep, headersYield_iff (hq.reading hp) hq₀ hwhole]
      refine ⟨.line hfirst.symm, fun h => ?_⟩
      cases h with
      | waits hshort' => exact absurd hshort' hlen
      | line hbuf hnext =>
        rw [hbuf, List.append_right_inj] at hfirst
        rw [hfirst]
        exact hnext

/-- A request that is not accepted is not dispatched when it arrives in one
read. -/
theorem accepted_of_yields (hp : p.IsInitial) {whole : RtspRequest}
    (h : Yields p [] [r.bytes] [whole]) : r.Accepted := by
  by_contra hacc
  have hstep := readStep_not_accepted hp.state hacc []
  rw [List.append_nil] at hstep
  rcases hstep with ⟨e, he⟩ | ⟨q, -, hq⟩
  · exact not_yields_of_error he h
  · cases (yields_nil.mp ((yields_cons_none hq).mp h)).2.1

/-- **The whole request in one read**: it is dispatched if its header text
completes it, and nothing is left. -/
theorem yields_whole (hp : p.IsInitial) (hacc : r.Accepted) : ∃ q₀, Reading p r none q₀ ∧
    ∀ whole, Yields p [] [r.bytes] [whole] ↔
      Completing r.method none r.headerText ∧ whole = q₀.headersRead r.headerText := by
  obtain ⟨q₀, hline, hstep⟩ := readStep_acceptedLine hp.state hacc (r.headerText ++ crlf)
  have hq₀ := hline.reading hp
  have hstep : readStep p ([] ++ r.bytes) = .ok (readHeaders q₀ (r.headerText ++ crlf ++ [])) := by
    rw [List.append_nil]
    exact hstep
  obtain ⟨hcomplete, hmore⟩ := @readHeaders_text r none p q₀ hq₀ r.headerText [] (by decide)
  refine ⟨q₀, hq₀, fun whole => ?_⟩
  by_cases hdone : Completing r.method none r.headerText
  · rw [yields_cons (hstep.trans (congrArg Except.ok (hcomplete hdone))), and_iff_right hdone]
    constructor
    · rintro ⟨rs, hrs, -⟩
      cases hrs
      rfl
    · rintro rfl
      exact ⟨[], rfl, yields_nil.mpr ⟨rfl, rfl, RtspRequest.isInitial_reset _⟩⟩
  · rw [yields_cons_none (hstep.trans (congrArg Except.ok (hmore hdone)))]
    refine iff_of_false (fun h => ?_) fun h => hdone h.1
    cases (yields_nil.mp h).2.1

/-- **When a request is put together from its pieces**: exactly when it
arrives well. -/
theorem reassembled_iff_arrivesWhole (hp : p.IsInitial) (hcs : cs.flatten = r.bytes) :
    Reassembled p r cs ↔ r.ArrivesWhole cs := by
  have hshort : ([] : Bytes).length < r.requestLine.length + 2 := Nat.succ_pos _
  constructor
  · rintro ⟨x, whole, hx, hwhole, hcommand⟩
    have hacc := accepted_of_yields hp hwhole
    obtain ⟨q₀, hq₀, hiff⟩ := yields_whole hp hacc
    obtain ⟨hdone, rfl⟩ := (hiff whole).mp hwhole
    exact ⟨hacc, hdone, (yieldsCommand_iff hp hacc hq₀ hdone hcs hshort).mp ⟨x, hx, hcommand⟩⟩
  · rintro ⟨hacc, hdone, harrives⟩
    obtain ⟨q₀, hq₀, hiff⟩ := yields_whole hp hacc
    obtain ⟨x, hx, hcommand⟩ := (yieldsCommand_iff hp hacc hq₀ hdone hcs hshort).mpr harrives
    exact ⟨x, _, hx, (hiff _).mpr ⟨hdone, rfl⟩, hcommand⟩

end Headers

end Request
