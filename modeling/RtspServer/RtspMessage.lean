import Mathlib.Logic.Function.Basic
import RtspServer.Media
import RtspServer.Buffer
import RtspServer.Scanf

/-!
# `RtspRequest`: parsing requests and building responses

The request parser of the server. It is fed from the input buffer of a
connection and keeps its state between calls: whether it waits for a request
line or for header lines, and the parameters found so far, in two maps whose
`emplace` keeps the first value given for a key.

The header lines of a call are one text, from the front of the buffer to the
last CRLF in it, and each header is looked for by `find` anywhere in that
text. A request is complete (`gotAll`) when the text of a single call
satisfies the test for its method.

Before the first request the method, the channel and the transport of a
request object have whatever value was in memory.
-/

open Scanf

/-- A map filled by `emplace`, from keys to a string and a number. -/
abbrev Params (κ : Type) := κ → Option (Bytes × UInt32)

namespace Params

variable {κ : Type} [DecidableEq κ]

/-- `emplace`: a key that is there keeps its value. -/
def emplace (m : Params κ) (k : κ) (v : Bytes × UInt32) : Params κ :=
  if (m k).isSome then m else Function.update m k (some v)

theorem emplace_of_none {m : Params κ} {k : κ} (h : m k = none) (v : Bytes × UInt32) :
    m.emplace k v k = some v := by
  unfold emplace
  rw [h, if_neg (by decide), Function.update_self]

theorem emplace_of_some {m : Params κ} {k : κ} {w : Bytes × UInt32} (h : m k = some w)
    (v : Bytes × UInt32) : m.emplace k v = m := by
  unfold emplace
  rw [h]
  rfl

theorem emplace_of_ne (m : Params κ) {k k' : κ} (h : k' ≠ k) (v : Bytes × UInt32) :
    m.emplace k v k' = m k' := by
  unfold emplace
  split
  · rfl
  · exact Function.update_of_ne h ..

end Params

/-- `RtspRequest::Method`. -/
inductive Method where
  | options
  | describe
  | setup
  | play
  | teardown
  | getParameter
  | rtcp
  | none
deriving DecidableEq, Repr

namespace Method

/-- The name of a method on the request line. -/
def name : Method → Bytes
  | options => ascii "OPTIONS"
  | describe => ascii "DESCRIBE"
  | setup => ascii "SETUP"
  | play => ascii "PLAY"
  | teardown => ascii "TEARDOWN"
  | getParameter => ascii "GET_PARAMETER"
  | rtcp => []
  | none => []

/-- The methods a request line can name. -/
def supported : List Method := [options, describe, setup, play, teardown, getParameter]

/-- The method of a name, `none` for a name the server does not know. -/
def ofName (name : Bytes) : Method :=
  (supported.find? fun m => m.name == name).getD none

/-- A supported method is read back from its name. -/
theorem ofName_name {m : Method} (h : m ∈ supported) : ofName m.name = m := by
  simp only [supported, List.mem_cons, List.not_mem_nil, or_false] at h
  rcases h with rfl | rfl | rfl | rfl | rfl | rfl <;> decide

/-- A name that is read as a method is the method's name. -/
theorem name_of_ofName {name : Bytes} (h : ofName name ≠ none) :
    name = (ofName name).name ∧ ofName name ∈ supported := by
  unfold ofName at h ⊢
  cases hf : supported.find? fun m => m.name == name with
  | none => rw [hf] at h; exact absurd rfl h
  | some m =>
    have hname : m.name = name := by simpa using List.find?_some hf
    exact ⟨hname.symm, List.mem_of_find?_eq_some hf⟩

end Method

/-- `RtspRequest::RtspRequestParseState`. -/
inductive RtspRequestParseState where
  | parseRequestLine
  | parseHeadersLine
  | gotAll
deriving DecidableEq, Repr

/-- The keys of `_requestLineParam`. -/
inductive RequestLineKey where
  | url
  | urlIp
  | urlPort
  | urlSuffix
  | version
  | method
deriving DecidableEq, Repr

/-- The keys of `_headerLineParam`. -/
inductive HeaderLineKey where
  | cseq
  | rtpChannel
  | rtcpChannel
  | rtpPort
  | rtcpPort
deriving DecidableEq, Repr

/-- The fields of `class RtspRequest`. -/
structure RtspRequest where
  method : Method
  channelId : MediaChannelId
  transport : TransportMode
  requestLineParam : Params RequestLineKey := fun _ => none
  headerLineParam : Params HeaderLineKey := fun _ => none
  state : RtspRequestParseState := .parseRequestLine

namespace RtspRequest

def gotAll (r : RtspRequest) : Bool := r.state == .gotAll

def reset (r : RtspRequest) : RtspRequest :=
  { r with
    state := .parseRequestLine
    requestLineParam := fun _ => none
    headerLineParam := fun _ => none }

/-- The parser has nothing left of an earlier request. -/
structure IsInitial (r : RtspRequest) : Prop where
  state : r.state = .parseRequestLine
  requestLineParam : r.requestLineParam = fun _ => none
  headerLineParam : r.headerLineParam = fun _ => none

theorem isInitial_reset (r : RtspRequest) : r.reset.IsInitial := ⟨rfl, rfl, rfl⟩

/-! ## The request line -/

/-- The host, port and path that the two `sscanf` calls on the URL find
behind `rtsp://`. -/
def scanUrl (url : Bytes) : Except Fault (Option (Bytes × UInt32 × Bytes)) := do
  let rest := url.drop 7
  match ← sscanf rest [.upTo 0x3a 16, .lit 0x3a, .hu, .lit 0x2f, .str 64] with
  | [.str ip, .num port, .str suffix] => return some (ip, port, suffix)
  | _ =>
    match ← sscanf rest [.upTo 0x2f 16, .lit 0x2f, .str 64] with
    | [.str ip, .str suffix] => return some (ip, 554, suffix)
    | _ => return none

def parseRequestLine (r : RtspRequest) (message : Bytes) :
    Except Fault (Bool × RtspRequest) := do
  match ← sscanf message [.str 32, .space, .str 128, .space, .str 16] with
  | [.str method, .str url, .str version] =>
    let r := { r with method := Method.ofName method }
    if r.method = .none then return (false, r)
    if ¬ ascii "rtsp://" <+: url then return (false, r)
    match ← scanUrl url with
    | none => return (false, r)
    | some (ip, port, suffix) =>
      let params := r.requestLineParam.emplace .url (url, 0)
      let params := params.emplace .urlIp (ip, 0)
      let params := params.emplace .urlPort ([], port)
      let params := params.emplace .urlSuffix (suffix, 0)
      let params := params.emplace .version (version, 0)
      let params := params.emplace .method (method, 0)
      return (true, { r with requestLineParam := params, state := .parseHeadersLine })
  | _ => return (false, r)

/-! ## The header lines -/

def parseCSeq (r : RtspRequest) (message : Bytes) : Bool × RtspRequest :=
  match Search.find (ascii "CSeq") message with
  | none => (false, r)
  | some pos =>
    let cseq := match sscanfNumbers (message.drop pos) [.skipUpTo 0x3a, .lit 0x3a, .space, .u] with
      | [.num cseq] => cseq
      | _ => 0
    (true, { r with headerLineParam := r.headerLineParam.emplace .cseq ([], cseq) })

/-- `rfind` is only compared with `npos`. -/
def parseAccept (message : Bytes) : Bool :=
  (Search.findLast (ascii "Accept") message).isSome
    && (Search.findLast (ascii "sdp") message).isSome

/-- The two numbers behind the third `;`-separated part of a transport. -/
def scanPair (text : Bytes) : Option (UInt32 × UInt32) :=
  match sscanfNumbers text [.skipUpTo 0x3b, .lit 0x3b, .skipUpTo 0x3b, .lit 0x3b, .skipUpTo 0x3d,
    .lit 0x3d, .hu, .lit 0x2d, .hu] with
  | [.num a, .num b] => some (a, b)
  | _ => none

/-- `message.find(pat, pos)`, compared with `npos`. -/
def findFrom (pat message : Bytes) (pos : ℕ) : Bool :=
  (Search.find pat (message.drop pos)).isSome

def parseTransport (r : RtspRequest) (message : Bytes) : Bool × RtspRequest :=
  match Search.find (ascii "Transport") message with
  | none => (false, r)
  | some _ =>
    match Search.find (ascii "RTP/AVP/TCP") message with
    | some pos =>
      let r := { r with transport := .rtpOverTcp }
      match scanPair (message.drop pos) with
      | none => (false, r)
      | some (rtpChannel, rtcpChannel) =>
        let params := r.headerLineParam.emplace .rtpChannel ([], rtpChannel)
        (true, { r with headerLineParam := params.emplace .rtcpChannel ([], rtcpChannel) })
    | none =>
      match Search.find (ascii "RTP/AVP") message with
      | none => (false, r)
      | some pos =>
        let ports (r : RtspRequest) (rtpPort rtcpPort : UInt32) : Bool × RtspRequest :=
          let params := r.headerLineParam.emplace .rtpPort ([], rtpPort)
          (true, { r with headerLineParam := params.emplace .rtcpPort ([], rtcpPort) })
        if findFrom (ascii "unicast") message pos then
          let r := { r with transport := .rtpOverUdp }
          match scanPair (message.drop pos) with
          | none => (false, r)
          | some (rtpPort, rtcpPort) => ports r rtpPort rtcpPort
        else if findFrom (ascii "multicast") message pos then
          ports { r with transport := .rtpOverMulticast } 0 0
        else (false, r)

def parseSessionId (message : Bytes) : Bool :=
  match Search.find (ascii "Session") message with
  | none => false
  | some pos =>
    (sscanfNumbers (message.drop pos) [.skipUpTo 0x3a, .lit 0x3a, .space, .u]).length == 1

def parseMediaChannel (r : RtspRequest) : RtspRequest :=
  match r.requestLineParam .url with
  | some (url, _) =>
    if (Search.find (ascii "track1") url).isSome then { r with channelId := .channel1 }
    else { r with channelId := .channel0 }
  | none => { r with channelId := .channel0 }

/-- The end of `parseHeadersLine`, when a `CSeq` was seen: the test of the
method, which completes the request. -/
def completeHeaders (r : RtspRequest) (message : Bytes) : RtspRequest :=
  match r.method with
  | .options | .teardown | .getParameter => { r with state := .gotAll }
  | .describe => if parseAccept message then { r with state := .gotAll } else r
  | .setup =>
    match r.parseTransport message with
    | (true, r) => { r.parseMediaChannel with state := .gotAll }
    | (false, r) => r
  | .play => if parseSessionId message then { r with state := .gotAll } else r
  | .rtcp | .none => r

def parseHeadersLine (r : RtspRequest) (message : Bytes) : Bool × RtspRequest :=
  match r.parseCSeq message with
  | (true, r) => (true, r.completeHeaders message)
  | (false, r) =>
    if (r.headerLineParam .cseq).isNone then (false, r)
    else (true, r.completeHeaders message)

/-! ## One call -/

/-- The pass through the loop in the header state; `ret` is the value so
far. -/
def parseHeaders (r : RtspRequest) (ret : Bool) (buffer : Buffer) :
    Bool × RtspRequest × Buffer :=
  match buffer.findLastCRLF with
  | none => (ret, r, buffer)
  | some lastCrlf =>
    let (ret, r) := r.parseHeadersLine (buffer.take lastCrlf)
    (ret, r, buffer.retrieve (lastCrlf + 2))

def parseRequest (r : RtspRequest) (buffer : Buffer) :
    Except Fault (Bool × RtspRequest × Buffer) :=
  if buffer.head? = some 0x24 then .ok (true, { r with method := .rtcp }, buffer)
  else match r.state with
    | .parseRequestLine =>
      match buffer.findCRLF with
      | none => .ok (true, r, buffer)
      | some firstCrlf => do
        let (ret, r) ← r.parseRequestLine (buffer.take firstCrlf)
        let buffer := buffer.retrieve (firstCrlf + 2)
        if r.state = .parseHeadersLine then return r.parseHeaders ret buffer
        else return (ret, r, buffer)
    | .parseHeadersLine => .ok (r.parseHeaders true buffer)
    | .gotAll => .ok (true, r, [])

/-! ## Reading the parameters -/

/-- The string of a parameter, empty when it is not there. -/
def stringParam (r : RtspRequest) (k : RequestLineKey) : Bytes :=
  ((r.requestLineParam k).map (·.1)).getD []

/-- The number of a header parameter, 0 when it is not there. -/
def numberParam (r : RtspRequest) (k : HeaderLineKey) : UInt32 :=
  ((r.headerLineParam k).map (·.2)).getD 0

def getCSeq (r : RtspRequest) : UInt32 := r.numberParam .cseq

def getRtspUrl (r : RtspRequest) : Bytes := r.stringParam .url

def getRtspUrlSuffix (r : RtspRequest) : Bytes := r.stringParam .urlSuffix

def getIp (r : RtspRequest) : Bytes := r.stringParam .urlIp

def getRtpChannel (r : RtspRequest) : UInt8 := (r.numberParam .rtpChannel).toUInt8

def getRtcpChannel (r : RtspRequest) : UInt8 := (r.numberParam .rtcpChannel).toUInt8

def getRtpPort (r : RtspRequest) : UInt16 := (r.numberParam .rtpPort).toUInt16

def getRtcpPort (r : RtspRequest) : UInt16 := (r.numberParam .rtcpPort).toUInt16

/-! ## Responses -/

/-- `%u` and `%hu`. -/
def decimal (n : ℕ) : Bytes := (Nat.toDigits 10 n).map fun c => c.toNat.toUInt8

/-- `%d` of a 32-bit value. -/
def signedDecimal (n : UInt32) : Bytes :=
  if n.toNat < 2147483648 then decimal n.toNat
  else ascii "-" ++ decimal (4294967296 - n.toNat)

/-- `snprintf` behind what a buffer of `bufSize` bytes holds: the text is cut
so that a NUL fits. -/
def snprintf (buf : Bytes) (bufSize : ℕ) (text : Bytes) : Bytes :=
  (buf ++ text).take (bufSize - 1)

/-- A text that fits is not cut. -/
theorem snprintf_of_lt {text : Bytes} {bufSize : ℕ} (h : text.length < bufSize) :
    snprintf [] bufSize text = text := by
  unfold snprintf
  rw [List.nil_append]
  exact List.take_of_length_le (by omega)

/-- What comes first and fits is printed as a whole; what follows it is cut. -/
theorem snprintf_append {head : Bytes} {bufSize : ℕ} (h : head.length < bufSize) (rest : Bytes) :
    snprintf [] bufSize (head ++ rest) = head ++ rest.take (bufSize - 1 - head.length) := by
  unfold snprintf
  rw [List.nil_append, List.take_append, List.take_of_length_le (by omega)]

/-- **Printing behind what was printed** is printing both texts at once. -/
theorem snprintf_snprintf (buf : Bytes) (bufSize : ℕ) (text text' : Bytes) :
    snprintf (snprintf buf bufSize text) bufSize text' = snprintf buf bufSize (text ++ text') := by
  unfold snprintf
  rw [← List.append_assoc]
  rcases Nat.le_total (buf ++ text).length (bufSize - 1) with hle | hle
  · rw [List.take_of_length_le hle]
  · have hlength : bufSize - 1 ≤ ((buf ++ text).take (bufSize - 1)).length := by
      rw [List.length_take]
      omega
    rw [List.take_append_of_le_length hle, List.take_append_of_le_length hlength, List.take_take,
      min_self]

/-- The end of a line. -/
def line (text : Bytes) : Bytes := text ++ crlf

theorem length_line (text : Bytes) : (line text).length = text.length + 2 := List.length_append

/-- A response made of a status line and header lines. -/
def response (status : String) (headers : List Bytes) : Bytes :=
  line (ascii ("RTSP/1.0 " ++ status)) ++ (headers.map line).flatten ++ crlf

/-- `CSeq: %u`. -/
def cseqLine (r : RtspRequest) : Bytes := ascii "CSeq: " ++ decimal r.getCSeq.toNat

/-- `CSeq: %d`, as some responses print it. -/
def cseqLineSigned (r : RtspRequest) : Bytes := ascii "CSeq: " ++ signedDecimal r.getCSeq

/-- `Session: %u`. -/
def sessionLine (sessionId : UInt32) : Bytes := ascii "Session: " ++ decimal sessionId.toNat

def buildOptionRes (r : RtspRequest) (bufSize : ℕ) : Bytes :=
  snprintf [] bufSize <| response "200 OK"
    [r.cseqLine, ascii "Public: OPTIONS, DESCRIBE, SETUP, TRARDOWN, PLAT"]

def buildDescribeRes (r : RtspRequest) (bufSize : ℕ) (strSdp : Bytes) : Bytes :=
  snprintf [] bufSize <| response "200 OK"
    [r.cseqLine, ascii "Content-Length: " ++ decimal strSdp.length,
      ascii "Content-Type: application/sdp"] ++ strSdp

def buildSetupTcpRes (r : RtspRequest) (bufSize : ℕ) (rtpChn rtcpChn : UInt16)
    (sessionId : UInt32) : Bytes :=
  snprintf [] bufSize <| response "200 OK"
    [r.cseqLine,
      ascii "Transport: RTP/AVP/TCP;unicast;interleaved=" ++ decimal rtpChn.toNat ++ ascii "-"
        ++ decimal rtcpChn.toNat,
      sessionLine sessionId]

def buildSetupUdpRes (r : RtspRequest) (bufSize : ℕ) (rtpChn rtcpChn : UInt16)
    (sessionId : UInt32) : Bytes :=
  snprintf [] bufSize <| response "200 OK"
    [r.cseqLine,
      ascii "Transport: RTP/AVP;unicast;client_port=" ++ decimal r.getRtpPort.toNat ++ ascii "-"
        ++ decimal r.getRtcpPort.toNat ++ ascii ";server_port=" ++ decimal rtpChn.toNat
        ++ ascii "-" ++ decimal rtcpChn.toNat,
      sessionLine sessionId]

/-- The response to PLAY is printed in two or three pieces; the caller gives
no RTP-Info. -/
def buildPlayRes (r : RtspRequest) (bufSize : ℕ) (rtpInfo : Option Bytes)
    (sessionId : UInt32) : Bytes :=
  let buf := snprintf [] bufSize <| line (ascii "RTSP/1.0 200 OK") ++ line r.cseqLineSigned
    ++ line (ascii "Range: npt=0.000-")
    ++ line (sessionLine sessionId ++ ascii "; timeout=60")
  let buf := match rtpInfo with
    | some info => snprintf buf bufSize (line info)
    | none => buf
  snprintf buf bufSize crlf

def buildTeardownRes (r : RtspRequest) (bufSize : ℕ) (sessionId : UInt32) : Bytes :=
  snprintf [] bufSize <| response "200 OK" [r.cseqLineSigned, sessionLine sessionId]

def buildGetParamterRes (r : RtspRequest) (bufSize : ℕ) (sessionId : UInt32) : Bytes :=
  snprintf [] bufSize <| response "200 OK" [r.cseqLineSigned, sessionLine sessionId]

def buildNotFoundRes (r : RtspRequest) (bufSize : ℕ) : Bytes :=
  snprintf [] bufSize <| response "404 Stream Not Found" [r.cseqLine]

def buildServerErrorRes (r : RtspRequest) (bufSize : ℕ) : Bytes :=
  snprintf [] bufSize <| response "500 Internal Server Error" [r.cseqLine]

def buildUnsupportedRes (r : RtspRequest) (bufSize : ℕ) : Bytes :=
  snprintf [] bufSize <| response "461 Unsupported transport" [r.cseqLineSigned]

end RtspRequest
