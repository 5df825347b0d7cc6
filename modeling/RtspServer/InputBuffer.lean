import RtspServer.BufferStorage
import RtspServer.RtspReader

/-!
# The input buffer of an RTSP connection

The parser works on the readable bytes of a buffer. The connection hands it a
`muduo::net::Buffer`, into which `readFd` has put what the client sent: here the
parser's functions are written over that buffer, as the source has them, and
agree with the ones over the bytes (`handleRtspMessage_readable`). What is
known of a connection that reads bytes therefore holds of one that reads into a
vector.

The vector of a connection does not grow without bound: `handleRtspMessage`
leaves at most `MAX_RTSP_MESSAGE_SIZE` bytes, so that most of a large vector is
room, and then a read does not enlarge it (`length_readFd_le_maxInputSize`).
-/

namespace Muduo.Buffer

def findCRLF (b : Buffer) : Option ℕ := Search.find crlf b.readable

def findLastCRLF (b : Buffer) : Option ℕ := Search.findLast crlf b.readable

@[simp] theorem length_buffer_retrieve (b : Buffer) (len : ℕ) :
    (b.retrieve len).buffer.length = b.buffer.length := by
  unfold retrieve
  split <;> rfl

end Muduo.Buffer

namespace InputBuffer

def parseHeaders (r : RtspRequest) (ret : Bool) (buffer : Muduo.Buffer) :
    Bool × RtspRequest × Muduo.Buffer :=
  match buffer.findLastCRLF with
  | none => (ret, r, buffer)
  | some lastCrlf =>
    let (ret, r) := r.parseHeadersLine (buffer.readable.take lastCrlf)
    (ret, r, buffer.retrieve (lastCrlf + 2))

def parseRequest (r : RtspRequest) (buffer : Muduo.Buffer) :
    Except Fault (Bool × RtspRequest × Muduo.Buffer) :=
  if buffer.readable.head? = some 0x24 then .ok (true, { r with method := .rtcp }, buffer)
  else match r.state with
    | .parseRequestLine =>
      match buffer.findCRLF with
      | none => .ok (true, r, buffer)
      | some firstCrlf => do
        let (ret, r) ← r.parseRequestLine (buffer.readable.take firstCrlf)
        let buffer := buffer.retrieve (firstCrlf + 2)
        if r.state = .parseHeadersLine then return parseHeaders r ret buffer
        else return (ret, r, buffer)
    | .parseHeadersLine => .ok (parseHeaders r true buffer)
    | .gotAll => .ok (true, r, buffer.retrieveAll)

def handleRtcp (buffer : Muduo.Buffer) : Muduo.Buffer :=
  match RtspReader.rtcpRetrieve buffer.readable with
  | some len => buffer.retrieve len
  | none => buffer

variable {σ : Type}

def handleRtspRequest (handleCmd : RtspRequest → σ → Except Fault σ) (r : RtspRequest)
    (buffer : Muduo.Buffer) (s : σ) : Except Fault (RtspRequest × Muduo.Buffer × σ) := do
  let (ret, r, buffer) ← parseRequest r buffer
  if ret then
    if r.method = .rtcp then return (r, handleRtcp buffer, s)
    else if !r.gotAll then return (r, buffer, s)
    else
      let s ← handleCmd r s
      return (r.reset, buffer, s)
  else return (r, buffer, s)

def handleRtspMessage (handleCmd : RtspRequest → σ → Except Fault σ) (r : RtspRequest)
    (buffer : Muduo.Buffer) (s : σ) : Except Fault (RtspRequest × Muduo.Buffer × σ) := do
  let (r, buffer, s) ← handleRtspRequest handleCmd r buffer s
  if buffer.readableBytes > maxRtspMessageSize then return (r, buffer.retrieveAll, s)
  else return (r, buffer, s)

/-! ## The same as over the bytes -/

/-- The vector `b'` has the same length as `b`, and `bs` between its indices. -/
structure Leaves (b : Muduo.Buffer) (b' : Muduo.Buffer) (bs : Bytes) : Prop where
  readable : b'.readable = bs
  length : b'.buffer.length = b.buffer.length

theorem Leaves.refl (b : Muduo.Buffer) : Leaves b b b.readable := ⟨rfl, rfl⟩

theorem leaves_retrieve (b : Muduo.Buffer) (len : ℕ) :
    Leaves b (b.retrieve len) (Buffer.retrieve b.readable len) :=
  ⟨by rw [Buffer.retrieve_eq_drop, b.readable_retrieve], b.length_buffer_retrieve len⟩

theorem leaves_retrieveAll (b : Muduo.Buffer) : Leaves b b.retrieveAll [] :=
  ⟨b.readable_retrieveAll, rfl⟩

theorem Leaves.trans {b b' b'' : Muduo.Buffer} {bs bs' : Bytes} (h : Leaves b b' bs)
    (h' : Leaves b' b'' bs') : Leaves b b'' bs' := ⟨h'.readable, h'.length.trans h.length⟩

/-- The parser's results over the vector `b` and over bytes. -/
def Parsed (b : Muduo.Buffer) (x : Bool × RtspRequest × Muduo.Buffer)
    (y : Bool × RtspRequest × Buffer) : Prop :=
  x.1 = y.1 ∧ x.2.1 = y.2.1 ∧ Leaves b x.2.2 y.2.2

/-- The reader's results over the vector `b` and over bytes. -/
def Handled (b : Muduo.Buffer) (x : RtspRequest × Muduo.Buffer × σ)
    (y : RtspRequest × Buffer × σ) : Prop :=
  x.1 = y.1 ∧ Leaves b x.2.1 y.2.1 ∧ x.2.2 = y.2.2

theorem parseHeaders_parsed (r : RtspRequest) (ret : Bool) (b : Muduo.Buffer) :
    Parsed b (parseHeaders r ret b) (r.parseHeaders ret b.readable) := by
  have hfind : Buffer.findLastCRLF b.readable = b.findLastCRLF := rfl
  unfold parseHeaders RtspRequest.parseHeaders
  rw [hfind]
  cases b.findLastCRLF with
  | none => exact ⟨rfl, rfl, Leaves.refl b⟩
  | some k => exact ⟨rfl, rfl, leaves_retrieve b (k + 2)⟩

theorem parseRequest_parsed (r : RtspRequest) (b : Muduo.Buffer) :
    Except.Related (Parsed b) (parseRequest r b) (r.parseRequest b.readable) := by
  have hfind : Buffer.findCRLF b.readable = b.findCRLF := rfl
  unfold parseRequest RtspRequest.parseRequest
  by_cases hdollar : b.readable.head? = some 0x24
  · rw [if_pos hdollar, if_pos hdollar]
    exact .ok ⟨rfl, rfl, Leaves.refl b⟩
  · rw [if_neg hdollar, if_neg hdollar, hfind]
    cases r.state with
    | parseRequestLine =>
      cases b.findCRLF with
      | none => exact .ok ⟨rfl, rfl, Leaves.refl b⟩
      | some k =>
        have hline := leaves_retrieve b (k + 2)
        refine (Except.Related.refl _).bind fun x _ hx => ?_
        subst hx
        by_cases hstate : x.2.state = .parseHeadersLine
        · obtain ⟨hret, hreq, hleft⟩ := parseHeaders_parsed x.2 x.1 (b.retrieve (k + 2))
          simp only [if_pos hstate]
          rw [hline.readable] at hret hreq hleft
          exact .ok ⟨hret, hreq, hline.trans hleft⟩
        · simp only [if_neg hstate]
          exact .ok ⟨rfl, rfl, hline⟩
    | parseHeadersLine => exact .ok (parseHeaders_parsed r true b)
    | gotAll => exact .ok ⟨rfl, rfl, leaves_retrieveAll b⟩

theorem handleRtcp_leaves (b : Muduo.Buffer) :
    Leaves b (handleRtcp b) (RtspReader.handleRtcp b.readable) := by
  unfold handleRtcp RtspReader.handleRtcp
  cases RtspReader.rtcpRetrieve b.readable with
  | none => exact Leaves.refl b
  | some len => exact leaves_retrieve b len

theorem handleRtspRequest_handled (handleCmd : RtspRequest → σ → Except Fault σ) (r : RtspRequest)
    (b : Muduo.Buffer) (s : σ) :
    Except.Related (Handled b) (handleRtspRequest handleCmd r b s)
      (RtspReader.handleRtspRequest handleCmd r b.readable s) := by
  unfold handleRtspRequest RtspReader.handleRtspRequest
  refine (parseRequest_parsed r b).bind fun x y h => ?_
  obtain ⟨ret, r₁, b₁⟩ := x
  obtain ⟨ret', r₁', bs₁⟩ := y
  obtain ⟨rfl, rfl, hleaves⟩ := h
  cases ret with
  | false => exact .ok ⟨rfl, hleaves, rfl⟩
  | true =>
    simp only [if_true]
    by_cases hrtcp : r₁.method = .rtcp
    · have hskip := handleRtcp_leaves b₁
      simp only [if_pos hrtcp]
      rw [hleaves.readable] at hskip
      exact .ok ⟨rfl, hleaves.trans hskip, rfl⟩
    · simp only [if_neg hrtcp]
      by_cases hall : r₁.gotAll
      · simp only [hall, Bool.not_true, Bool.false_eq_true, if_false]
        refine (Except.Related.refl _).bind fun s₁ _ hs => ?_
        subst hs
        exact .ok ⟨rfl, hleaves, rfl⟩
      · simp only [hall, Bool.not_false, if_true]
        exact .ok ⟨rfl, hleaves, rfl⟩

/-- **The reader over the vector is the reader over its readable bytes.** -/
theorem handleRtspMessage_handled (handleCmd : RtspRequest → σ → Except Fault σ) (r : RtspRequest)
    (b : Muduo.Buffer) (s : σ) :
    Except.Related (Handled b) (handleRtspMessage handleCmd r b s)
      (RtspReader.handleRtspMessage handleCmd r b.readable s) := by
  unfold handleRtspMessage RtspReader.handleRtspMessage
  refine (handleRtspRequest_handled handleCmd r b s).bind fun x y h => ?_
  obtain ⟨r₁, b₁, s₁⟩ := x
  obtain ⟨r₁', bs₁, s₁'⟩ := y
  obtain ⟨rfl, h, rfl⟩ := h
  have hleaves : Leaves b b₁ bs₁ := h
  have hlen : b₁.readableBytes = bs₁.length := by rw [← hleaves.readable, b₁.length_readable]
  simp only [hlen]
  by_cases hlong : bs₁.length > maxRtspMessageSize
  · simp only [if_pos hlong]
    exact .ok ⟨rfl, hleaves.trans (leaves_retrieveAll b₁), rfl⟩
  · simp only [if_neg hlong]
    exact .ok ⟨rfl, hleaves, rfl⟩

/-- What is left after a message is short. -/
theorem readableBytes_handleRtspMessage {handleCmd : RtspRequest → σ → Except Fault σ}
    {r r' : RtspRequest} {b b' : Muduo.Buffer} {s s' : σ}
    (h : handleRtspMessage handleCmd r b s = .ok (r', b', s')) :
    b'.readableBytes ≤ maxRtspMessageSize := by
  obtain ⟨⟨r₁, b₁, s₁⟩, -, h⟩ := Except.bind_eq_ok_iff.mp h
  simp only at h
  split at h
  · cases h
    rw [← Muduo.Buffer.length_readable, Muduo.Buffer.readable_retrieveAll]
    exact Nat.zero_le _
  · rename_i hshort
    cases h
    exact Nat.not_lt.mp hshort

/-! ## Reads of one connection -/

/-- A connection that reads: its parser, its input buffer, and what its command
handler works on. -/
structure Reading (σ : Type) where
  request : RtspRequest
  inputBuffer : Muduo.Buffer
  state : σ

/-- `handleRead` where `readFd` brings `data`. -/
def handleRead (handleCmd : RtspRequest → σ → Except Fault σ) (c : Reading σ) (data : Bytes) :
    Except Fault (Reading σ) :=
  (handleRtspMessage handleCmd c.request (c.inputBuffer.readFd data) c.state).map fun x =>
    ⟨x.1, x.2.1, x.2.2⟩

/-- A new connection, and reads that bring at least one byte, and no more than
`readv` has room for. -/
def system (handleCmd : RtspRequest → σ → Except Fault σ) (request : RtspRequest) (state : σ) :
    System (Reading σ) Bytes where
  init c := c = ⟨request, Muduo.Buffer.ofSize Muduo.kInitialSize, state⟩
  step c data c' := data ≠ [] ∧ data.length ≤ c.inputBuffer.readvLen ∧
    handleRead handleCmd c data = .ok c'

/-- The same reads over bytes. -/
def readBytes (handleCmd : RtspRequest → σ → Except Fault σ) (c : RtspRequest × Buffer × σ)
    (data : Bytes) : Except Fault (RtspRequest × Buffer × σ) :=
  RtspReader.handleRtspMessage handleCmd c.1 (c.2.1 ++ data) c.2.2

/-- A bound for the vector of an input buffer: two reads into `extrabuf`, and
what can stand in the vector before them. -/
def maxInputSize : ℕ := 198662

/-- **A large vector is not enlarged.** When a read does not fit, the vector is
enlarged only if the bytes left begin near its front, and then it is short. -/
theorem length_readFd_le_maxInputSize {b : Muduo.Buffer} {data : Bytes}
    (hshort : b.readableBytes ≤ maxRtspMessageSize) (hdata : data.length ≤ b.readvLen)
    (hlen : b.buffer.length ≤ maxInputSize) : (b.readFd data).buffer.length ≤ maxInputSize := by
  unfold Muduo.Buffer.readFd
  by_cases hfits : data.length ≤ b.writableBytes
  · rwa [dif_pos hfits, Muduo.Buffer.length_write]
  · rw [dif_neg hfits, Muduo.Buffer.append, Muduo.Buffer.length_write, List.length_drop]
    have hroom : b.writableBytes < Muduo.extrabufSize ∧
        data.length ≤ b.writableBytes + Muduo.extrabufSize := by
      unfold Muduo.Buffer.readvLen at hdata
      split at hdata
      · exact ⟨‹_›, hdata⟩
      · exact absurd hdata hfits
    have hparts := b.length_eq
    generalize hb : b.write (data.take b.writableBytes) (List.length_take_le _ _) = full
    have hfull : full.buffer.length = b.buffer.length := by rw [← hb, Muduo.Buffer.length_write]
    have hreader : full.readerIndex = b.prependableBytes := by rw [← hb]; rfl
    have hwriter : full.writerIndex ≤ b.buffer.length := hfull ▸ full.writer_le
    have hextra : Muduo.extrabufSize = 65536 := rfl
    have hmax : maxRtspMessageSize = 2048 := rfl
    have hprepend : Muduo.kCheapPrepend = 8 := rfl
    rcases full.length_ensureWritableBytes (data.length - b.writableBytes) with h | ⟨h, hgrows⟩
    · rw [h, hfull]
      exact hlen
    · rw [h]
      unfold maxInputSize
      omega

/-- The connection over bytes that a connection stands for. -/
def Reading.bytes (c : Reading σ) : RtspRequest × Buffer × σ :=
  (c.request, c.inputBuffer.readable, c.state)

/-- One read, over the vector and over bytes. -/
theorem handleRead_readBytes (handleCmd : RtspRequest → σ → Except Fault σ) (c : Reading σ)
    (data : Bytes) :
    Except.Related (fun c' y => y = c'.bytes ∧
        c'.inputBuffer.buffer.length = (c.inputBuffer.readFd data).buffer.length)
      (handleRead handleCmd c data) (readBytes handleCmd c.bytes data) := by
  have h := handleRtspMessage_handled handleCmd c.request (c.inputBuffer.readFd data) c.state
  rw [Muduo.Buffer.readable_readFd] at h
  unfold handleRead
  show Except.Related _ _
    (RtspReader.handleRtspMessage handleCmd c.request (c.inputBuffer.readable ++ data) c.state)
  generalize RtspReader.handleRtspMessage handleCmd c.request (c.inputBuffer.readable ++ data)
    c.state = y at h ⊢
  generalize handleRtspMessage handleCmd c.request (c.inputBuffer.readFd data) c.state = x at h ⊢
  cases h with
  | error e => exact .error e
  | @ok x y h =>
    obtain ⟨hreq, hleaves, hstate⟩ := h
    refine .ok ⟨?_, hleaves.length⟩
    show y = (x.1, x.2.1.readable, x.2.2)
    rw [hreq, hstate, hleaves.readable]

/-- **The input buffer of a connection, over all its reads.** However the bytes
of a client arrive, the connection does with them what it does with the bytes
alone, as well in the read that comes next, and its vector never grows beyond
`maxInputSize`. -/
theorem reads_of_run {handleCmd : RtspRequest → σ → Except Fault σ} {request : RtspRequest}
    {state : σ} {cs : List Bytes} {c : Reading σ}
    (h : (system handleCmd request state).Run cs c) :
    cs.foldlM (readBytes handleCmd) (request, [], state) = .ok c.bytes ∧
      c.inputBuffer.buffer.length ≤ maxInputSize ∧
      ∀ data, Except.Related (fun c' y => y = c'.bytes) (handleRead handleCmd c data)
        (readBytes handleCmd c.bytes data) := by
  suffices hkept : cs.foldlM (readBytes handleCmd) (request, [], state) = .ok c.bytes ∧
      c.inputBuffer.buffer.length ≤ maxInputSize ∧
      c.inputBuffer.readableBytes ≤ maxRtspMessageSize by
    exact ⟨hkept.1, hkept.2.1, fun data =>
      (handleRead_readBytes handleCmd c data).mono fun _ _ h => h.1⟩
  induction h with
  | nil hc =>
    subst hc
    refine ⟨rfl, ?_, Nat.zero_le _⟩
    show (List.replicate _ _).length ≤ _
    rw [List.length_replicate]
    exact Nat.le_of_ble_eq_true rfl
  | @snoc cs data c c' _ hstep ih =>
    obtain ⟨-, hdata, hread⟩ := hstep
    obtain ⟨hfold, hlen, hshort⟩ := ih
    have hrel := handleRead_readBytes handleCmd c data
    rw [hread] at hrel
    obtain ⟨y, hy, rfl, hsame⟩ := hrel.of_ok
    refine ⟨?_, ?_, ?_⟩
    · rw [List.foldlM_append, hfold]
      show [data].foldlM (readBytes handleCmd) c.bytes = _
      rw [List.foldlM_cons, hy]
      rfl
    · rw [hsame]
      exact length_readFd_le_maxInputSize hshort hdata hlen
    · obtain ⟨x, hx, rfl⟩ := Except.map_eq_ok_iff.mp hread
      exact readableBytes_handleRtspMessage hx

/-- What a connection does with a read can be read off the bytes. -/
theorem exists_handleRead {handleCmd : RtspRequest → σ → Except Fault σ} {c : Reading σ}
    {data : Bytes} {y : RtspRequest × Buffer × σ} (h : readBytes handleCmd c.bytes data = .ok y) :
    ∃ c', handleRead handleCmd c data = .ok c' ∧ c'.bytes = y := by
  have hread := handleRead_readBytes handleCmd c data
  rw [h] at hread
  obtain ⟨c', hc', hview, -⟩ := hread.to_ok
  exact ⟨c', hc', hview.symm⟩

/-- A parser before its first request. -/
def newRequest : RtspRequest where
  method := .none
  channelId := .channel0
  transport := .rtpOverTcp

/-- A handler that notes the number of each request. -/
def noteCSeq (r : RtspRequest) (seen : List UInt32) : Except Fault (List UInt32) :=
  .ok (seen ++ [r.getCSeq])

/-- An OPTIONS that is cut inside its `CSeq` line. -/
def optionsReads : List Bytes :=
  [ascii "OPTIONS rtsp://10.0.0.1/live RTSP/1.0" ++ crlf ++ ascii "CS",
    ascii "eq: 2" ++ crlf ++ crlf]

/-- `reads_of_run` for a request that comes in two reads: it is handled once, and the
buffer is empty behind it. -/
theorem reads_of_run_options : ∃ c : Reading (List UInt32),
    (system noteCSeq newRequest []).Run optionsReads c ∧ c.inputBuffer.readable = [] ∧
    c.state = [2] ∧ c.inputBuffer.buffer.length ≤ maxInputSize := by
  have hbytes : (optionsReads.foldlM (readBytes noteCSeq) (newRequest, [], [])).toOption.map
      Prod.snd = some ([], [2]) := by
    decide +kernel
  obtain ⟨z, hfold, hz⟩ : ∃ z,
      optionsReads.foldlM (readBytes noteCSeq) (newRequest, [], []) = .ok z ∧
      z.2 = ([], [2]) := by
    cases h : optionsReads.foldlM (readBytes noteCSeq) (newRequest, [], []) with
    | error e =>
      rw [h] at hbytes
      cases hbytes
    | ok z =>
      rw [h] at hbytes
      exact ⟨z, rfl, Option.some.inj hbytes⟩
  -- the two reads over bytes, and then over the buffer
  unfold optionsReads at hfold
  rw [List.foldlM_cons] at hfold
  obtain ⟨y, hy, hrest⟩ := Except.bind_eq_ok_iff.mp hfold
  rw [List.foldlM_cons] at hrest
  obtain ⟨z', hz', hend⟩ := Except.bind_eq_ok_iff.mp hrest
  obtain rfl : z' = z := Except.ok.inj hend
  let new : Reading (List UInt32) := ⟨newRequest, Muduo.Buffer.ofSize Muduo.kInitialSize, []⟩
  have hnew : new.bytes = (newRequest, [], []) := by
    unfold Reading.bytes
    rw [Muduo.Buffer.readable_ofSize]
  rw [← hnew] at hy
  obtain ⟨c, hc, rfl⟩ := exists_handleRead hy
  obtain ⟨c', hc', rfl⟩ := exists_handleRead hz'
  have hroom : ∀ (b : Muduo.Buffer) (data : Bytes), data.length ≤ 65536 →
      data.length ≤ b.readvLen := by
    intro b data hdata
    unfold Muduo.Buffer.readvLen Muduo.extrabufSize
    split <;> omega
  have hrun := ((System.Run.nil rfl).snoc (show (system noteCSeq newRequest []).step new _ c from
    ⟨by decide, hroom _ _ (by decide), hc⟩)).snoc
      (show (system noteCSeq newRequest []).step c _ c' from
        ⟨by decide, hroom _ _ (by decide), hc'⟩)
  exact ⟨c', hrun, congrArg Prod.fst hz, congrArg Prod.snd hz, (reads_of_run hrun).2.1⟩

end InputBuffer
