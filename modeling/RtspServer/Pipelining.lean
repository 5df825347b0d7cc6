import RtspServer.FrameSkipping
import RtspServer.RequestReading

/-!
# Several messages in one read

On a TCP connection requests and interleaved RTCP frames follow one another,
and one read may bring any number of them. `handleRtspMessage` does not go on
to a second message: it reads header lines up to the last CRLF there is, and
takes the frame in front of the buffer only when nothing stands behind it.

`Handles` is what the read of a list of messages should do: dispatch the
requests, in order, and leave the buffer empty. When it does is said by
`Manageable`, and `handles_iff` is that equivalence.
-/

/-- A message of a client. -/
inductive Message where
  | request (r : Request)
  | frame (channel : UInt8) (payload : Bytes) (h : payload.length < 65536)

namespace Message

def bytes : Message → Bytes
  | .request r => r.bytes
  | .frame channel payload _ =>
    [0x24, channel, (payload.length / 256).toUInt8, (payload.length % 256).toUInt8] ++ payload

def request? : Message → Option Request
  | .request r => some r
  | .frame _ _ _ => none

/-- What the server receives. -/
def stream (ms : List Message) : Bytes := ms.flatMap bytes

/-- The requests among the messages. -/
def requests (ms : List Message) : List Request := ms.filterMap request?

/-- **The read handles the messages**: it dispatches the requests, in order,
and leaves nothing in the buffer. Without messages nothing is read. -/
def Handles (p : RtspRequest) (ms : List Message) : Prop :=
  ms = [] ∨ ∃ q dispatched, RtspReader.readStep p (stream ms) = .ok (q, [], dispatched) ∧
    List.Forall₂ RtspRequest.Carries dispatched.toList (requests ms)

/-- **Frames alone are dropped**, all at once, when there is too much of them, or when
the length of the first covers what there is. It is read from two signed characters: with
a low byte of 0xfc or more it is less than a header and covers nothing, with two bytes
below 0x80 it is the length of the frame, and else it is beyond all frames. A first frame
without payload that stands alone is left as it is. -/
def FramesDropped : Bytes → Prop
  | _ :: _ :: hi :: lo :: rest => maxRtspMessageSize < rest.length + 4 ∨
      rest ≠ [] ∧ lo < 0xfc ∧ (hi < 0x80 ∧ lo < 0x80 → rest.length ≤ hi.toNat * 256 + lo.toNat)
  | _ => False

/-- **A request with other bytes behind it** is read up to the last CRLF of
all: it is dispatched as it should be when this text passes the test of the
method and has the request's number in front, and what remains is dropped
when it is too much. -/
def RequestRead (r : Request) (rest : Bytes) : Prop :=
  r.Accepted ∧ ∃ text tail, r.headerText ++ crlf ++ rest = text ++ crlf ++ tail ∧
    ¬ crlf <:+: tail ∧
    (∃ cseq, RtspRequest.cseqOf text = some cseq ∧ cseq.toNat = r.cseq) ∧
    RtspRequest.completes r.method text = true ∧
    (tail = [] ∨ maxRtspMessageSize < tail.length)

/-- **The lists of messages that one read handles**: frames alone, or one
request with frames behind it. -/
def Manageable (ms : List Message) : Prop :=
  ms = [] ∨ (requests ms = [] ∧ FramesDropped (stream ms)) ∨
    ∃ r frames, ms = .request r :: frames ∧ requests frames = [] ∧ RequestRead r (stream frames)

theorem trim_eq_nil_iff {buf : Buffer} :
    RtspReader.trim buf = [] ↔ buf = [] ∨ maxRtspMessageSize < buf.length := by
  unfold RtspReader.trim
  split
  · rename_i h
    exact iff_of_true rfl (.inr h)
  · rename_i h
    exact ⟨.inl, fun h' => h'.resolve_right h⟩

/-- **What is left of frames**, of which the first has its header. -/
theorem trim_handleRtcp_eq_nil_iff (channel hi lo : UInt8) (rest : Bytes) :
    RtspReader.trim (RtspReader.handleRtcp (0x24 :: channel :: hi :: lo :: rest)) = [] ↔
      FramesDropped (0x24 :: channel :: hi :: lo :: rest) := by
  obtain ⟨hsmall, htop, hlarge⟩ := RtspReader.rtcpLength_cases hi lo
  have hfc : 0xfc ≤ lo ↔ ¬ lo < 0xfc := UInt8.not_lt.symm
  show _ ↔ maxRtspMessageSize < rest.length + 4 ∨ rest ≠ [] ∧ lo < 0xfc ∧
    (hi < 0x80 ∧ lo < 0x80 → rest.length ≤ hi.toNat * 256 + lo.toNat)
  rw [RtspReader.handleRtcp_cons]
  by_cases hlen : maxRtspMessageSize < rest.length + 4
  · -- too much of them is dropped in any case
    refine iff_of_true ?_ (.inl hlen)
    split
    · rfl
    · exact trim_eq_nil_iff.mpr (.inr hlen)
  · have hcover : rest.length + 4 ≤ RtspReader.rtcpLength hi lo ↔ lo < 0xfc ∧
        (hi < 0x80 ∧ lo < 0x80 → rest.length ≤ hi.toNat * 256 + lo.toNat) := by
      by_cases hlo : lo < 0xfc
      · rw [and_iff_right hlo]
        by_cases hsigns : hi < 0x80 ∧ lo < 0x80
        · rw [hsmall hsigns, Nat.add_le_add_iff_right]
          exact ⟨fun h _ => h, fun h => h hsigns⟩
        · have hbeyond := hlarge hsigns fun h => hfc.mp h hlo
          have hshort : rest.length + 4 ≤ 2048 := Nat.le_of_not_lt hlen
          exact iff_of_true (by omega) fun h => absurd h hsigns
      · have hnone := htop (hfc.mpr hlo)
        exact iff_of_false (by omega) fun h => hlo h.1
    rw [or_iff_right hlen, ← hcover]
    by_cases h : rest ≠ [] ∧ rest.length + 4 ≤ RtspReader.rtcpLength hi lo
    · rw [if_pos h]
      exact iff_of_true rfl h
    · rw [if_neg h]
      refine iff_of_false (fun htrim => ?_) h
      rcases trim_eq_nil_iff.mp htrim with hnil | hlong
      · cases hnil
      · exact hlen hlong

/-! ## By the first message -/

/-- Frames first. -/
theorem handles_frame {p : RtspRequest} {channel : UInt8} {payload : Bytes}
    {h : payload.length < 65536} {ms : List Message} :
    Handles p (.frame channel payload h :: ms) ↔ Manageable (.frame channel payload h :: ms) := by
  have hhead : (stream (.frame channel payload h :: ms)).head? = some 0x24 := rfl
  have hdropped : RtspReader.trim (RtspReader.handleRtcp (stream (.frame channel payload h :: ms)))
      = [] ↔ FramesDropped (stream (.frame channel payload h :: ms)) :=
    trim_handleRtcp_eq_nil_iff channel (payload.length / 256).toUInt8
      (payload.length % 256).toUInt8 (payload ++ stream ms)
  unfold Handles Manageable
  rw [RtspReader.readStep_frame p hhead, ← hdropped]
  refine or_congr Iff.rfl ?_
  constructor
  · rintro ⟨q, dispatched, hstep, hreq⟩
    have hstep := Except.ok.inj hstep
    have hnone : none = dispatched := congrArg (fun x => x.2.2) hstep
    rw [← hnone] at hreq
    refine .inl ⟨?_, congrArg (fun x => x.2.1) hstep⟩
    exact List.forall₂_nil_left_iff.mp hreq
  · rintro (⟨hreq, hbuf⟩ | ⟨r, frames, hcons, -⟩)
    · refine ⟨_, none, by rw [hbuf], ?_⟩
      rw [hreq]
      exact .nil
    · cases hcons

theorem manageable_request {r : Request} {ms : List Message} :
    Manageable (.request r :: ms) ↔ requests ms = [] ∧ RequestRead r (stream ms) := by
  constructor
  · rintro (h | ⟨h, -⟩ | ⟨r', frames, hcons, hframes, hread⟩)
    · cases h
    · cases h
    · cases hcons
      exact ⟨hframes, hread⟩
  · rintro ⟨hframes, hread⟩
    exact .inr (.inr ⟨r, ms, rfl, hframes, hread⟩)

/-- A request first. -/
theorem handles_request {p : RtspRequest} (hp : p.IsInitial) {r : Request} {ms : List Message} :
    Handles p (.request r :: ms) ↔ Manageable (.request r :: ms) := by
  rw [manageable_request]
  unfold Handles RequestRead
  rw [show stream (.request r :: ms) = r.bytes ++ stream ms from rfl,
    show requests (.request r :: ms) = r :: requests ms from rfl,
    or_iff_right (List.cons_ne_nil _ _)]
  by_cases hacc : r.Accepted
  · obtain ⟨q, hq, hstep⟩ := RtspReader.readStep_accepted hp.state hacc (stream ms)
    obtain ⟨text, tail, hsplit, htail⟩ := Buffer.exists_last_crlf
      (show crlf <:+: r.headerText ++ crlf ++ stream ms from ⟨_, _, rfl⟩)
    obtain ⟨hgot, hmethod, hurl, hcs⟩ := hq.headersRead_spec hp text
    rw [hsplit, RtspReader.readHeaders_append q text htail] at hstep
    rw [hstep, RtspReader.finish]
    constructor
    · rintro ⟨q', dispatched, hfinish, hreq⟩
      by_cases hdone : (q.headersRead text).gotAll = true
      · rw [if_pos hdone, Except.ok.injEq] at hfinish
        have hdispatched : some (q.headersRead text) = dispatched :=
          congrArg (fun x => x.2.2) hfinish
        have hempty : RtspReader.trim tail = [] := congrArg (fun x => x.2.1) hfinish
        rw [← hdispatched] at hreq
        obtain ⟨hcarries, hnone⟩ := List.forall₂_cons.mp hreq
        rw [hgot, Bool.and_eq_true] at hdone
        obtain ⟨cseq, hcseq⟩ := Option.isSome_iff_exists.mp hdone.1
        rw [hcseq] at hcs
        refine ⟨List.forall₂_nil_left_iff.mp hnone, hacc, text, tail, hsplit, htail,
          ⟨cseq, hcseq, ?_⟩, hdone.2, trim_eq_nil_iff.mp hempty⟩
        rw [← hcarries.cseq, hcs]
        rfl
      · rw [if_neg hdone, Except.ok.injEq] at hfinish
        have hnone : none = dispatched := congrArg (fun x => x.2.2) hfinish
        rw [← hnone] at hreq
        cases hreq
    · rintro ⟨hframes, -, text', tail', hsplit', htail', ⟨cseq, hcseq, hnumber⟩, hdone, hempty⟩
      obtain ⟨rfl, rfl⟩ := Buffer.last_crlf_unique htail' htail (hsplit'.symm.trans hsplit)
      have hgotAll : (q.headersRead text').gotAll = true := by
        rw [hgot, hcseq, hdone]
        rfl
      rw [hcseq] at hcs
      rw [if_pos hgotAll, trim_eq_nil_iff.mpr hempty]
      refine ⟨_, _, rfl, .cons ⟨hmethod, hurl, ?_⟩ ?_⟩
      · rw [hcs]
        exact hnumber
      · rw [hframes]
        exact .nil
  · refine iff_of_false ?_ fun h => hacc h.2.1
    rintro ⟨q, dispatched, hstep, hreq⟩
    rcases RtspReader.readStep_not_accepted hp.state hacc (stream ms) with ⟨e, he⟩ | ⟨q', -, hq'⟩
    · rw [he] at hstep
      cases hstep
    · rw [hq'] at hstep
      have hnone : none = dispatched := congrArg (fun x => x.2.2) (Except.ok.inj hstep)
      rw [← hnone] at hreq
      cases hreq

/-- **When one read handles what it brings**: it is frames alone that are dropped
together, or one request that takes the frames behind it with it. A read dispatches
one request at most, so that a second one is never answered; and what is left in
the buffer waits for bytes that may not come. -/
theorem handles_iff {p : RtspRequest} (hp : p.IsInitial) (ms : List Message) :
    Handles p ms ↔ Manageable ms := by
  cases ms with
  | nil => exact iff_of_true (.inl rfl) (.inl rfl)
  | cons m ms =>
    cases m with
    | request r => exact handles_request hp
    | frame channel payload h => exact handles_frame

/-- A parser before its first request. -/
def idle : RtspRequest where
  method := .none
  channelId := .channel0
  transport := .rtpOverTcp

theorem isInitial_idle : idle.IsInitial := ⟨rfl, rfl, rfl⟩

/-- **An OPTIONS with a frame behind it**, whose payload ends in CRLF: what is read as
header lines goes up to there, and nothing is left. -/
theorem handles_options_frame :
    Handles idle [.request .plainOptions, .frame 1 (0x80 :: 0xc9 :: crlf) (by decide)] := by
  refine (handles_iff isInitial_idle _).mpr (manageable_request.mpr ⟨rfl, ?_⟩)
  have htext : Request.plainOptions.headerText ++ crlf ++
      stream [.frame 1 (0x80 :: 0xc9 :: crlf) (by decide)]
      = Request.plainOptions.headerText ++ crlf ++ [0x24, 1, 0, 4, 0x80, 0xc9] ++ crlf ++ [] := by
    decide
  exact ⟨Request.accepted_plain rfl rfl, _, [], htext, by decide,
    ⟨2, by decide +kernel, rfl⟩, rfl, .inl rfl⟩

/-- **Two requests in one read**: the second is read as header lines of the
first. -/
theorem two_requests_not_handled :
    ¬ ∀ p : RtspRequest, p.IsInitial → ∀ ms, Handles p ms := by
  intro hall
  have h := hall idle isInitial_idle [.request .plainOptions, .request .plainOptions]
  rw [handles_request isInitial_idle, manageable_request] at h
  cases h.1

end Message
