import RtspServer.RtspMessage

/-!
# One read of an RTSP connection

`handleRtspMessage` is called after each read, when the new bytes stand at
the end of the input buffer. It parses, handles at most one command, skips
interleaved frames, and empties a buffer that has grown beyond
`MAX_RTSP_MESSAGE_SIZE`.

The functions are generic in the command handler, which acts on a state of
its own: parsing does not depend on what a command does
(`handleRtspMessage_eq`), so that the reading of a byte stream can be studied
with a handler that only records the commands.
-/

/-- `MAX_RTSP_MESSAGE_SIZE`. -/
def maxRtspMessageSize : ℕ := 2048

/-- `peek[2] << 8 | peek[3]`, computed in `int` from signed characters. -/
def rtcpSize (b₂ b₃ : UInt8) : UInt32 :=
  ⟨(b₂.toBitVec.signExtend 32) <<< 8 ||| b₃.toBitVec.signExtend 32⟩

namespace RtspReader

/-- The argument `handleRtcp` calls `retrieve` with, if it does. -/
def rtcpRetrieve (buf : Buffer) : Option ℕ :=
  match buf with
  | b₀ :: _ :: b₂ :: b₃ :: _ =>
    let len := (rtcpSize b₂ b₃ + 4).toNat
    if b₀ = 0x24 ∧ 4 < buf.length ∧ buf.length ≤ len then some len else none
  | _ => none

def handleRtcp (buf : Buffer) : Buffer :=
  match rtcpRetrieve buf with
  | some len => buf.retrieve len
  | none => buf

variable {σ : Type}

def handleRtspRequest (handleCmd : RtspRequest → σ → Except Fault σ) (r : RtspRequest)
    (buf : Buffer) (s : σ) : Except Fault (RtspRequest × Buffer × σ) := do
  let (ret, r, buf) ← r.parseRequest buf
  if ret then
    if r.method = .rtcp then return (r, handleRtcp buf, s)
    else if !r.gotAll then return (r, buf, s)
    else
      let s ← handleCmd r s
      return (r.reset, buf, s)
  else return (r, buf, s)

def handleRtspMessage (handleCmd : RtspRequest → σ → Except Fault σ) (r : RtspRequest)
    (buf : Buffer) (s : σ) : Except Fault (RtspRequest × Buffer × σ) := do
  let (r, buf, s) ← handleRtspRequest handleCmd r buf s
  if buf.length > maxRtspMessageSize then return (r, [], s)
  else return (r, buf, s)

/-- The state of the parser, the buffer, and the request dispatched, if any,
after one read. -/
def readStep (r : RtspRequest) (buf : Buffer) :
    Except Fault (RtspRequest × Buffer × Option RtspRequest) :=
  handleRtspMessage (fun r _ => .ok (some r)) r buf none

/-- **Parsing does not depend on the handler.** One call parses and then
handles the request that was completed, if there is one. -/
theorem handleRtspMessage_eq (handleCmd : RtspRequest → σ → Except Fault σ) (r : RtspRequest)
    (buf : Buffer) (s : σ) :
    handleRtspMessage handleCmd r buf s = (do
      let (r', buf', dispatched) ← readStep r buf
      match dispatched with
      | none => return (r', buf', s)
      | some q =>
        let s' ← handleCmd q s
        return (r', buf', s')) := by
  unfold readStep handleRtspMessage handleRtspRequest
  cases r.parseRequest buf with
  | error e => rfl
  | ok res =>
    obtain ⟨ret, r', buf'⟩ := res
    cases ret with
    | false =>
      simp only [Except.ok_bind, Bool.false_eq_true, if_false, pure, Except.pure]
      split <;> rfl
    | true =>
      simp only [Except.ok_bind, if_true, pure, Except.pure]
      by_cases hm : r'.method = .rtcp
      · simp only [if_pos hm, Except.ok_bind]
        split <;> rfl
      · simp only [if_neg hm]
        by_cases hg : r'.gotAll
        · simp only [hg, Bool.not_true, Bool.false_eq_true, if_false, Except.ok_bind]
          by_cases hlen : buf'.length > maxRtspMessageSize
          · simp only [if_pos hlen, Except.ok_bind]
            cases handleCmd r' s <;> simp only [Except.ok_bind, Except.error_bind, if_pos hlen]
          · simp only [if_neg hlen, Except.ok_bind]
            cases handleCmd r' s <;> simp only [Except.ok_bind, Except.error_bind, if_neg hlen]
        · simp only [hg, Bool.not_false, if_true, Except.ok_bind]
          split <;> rfl

end RtspReader
