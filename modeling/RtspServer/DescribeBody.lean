import RtspServer.ResponseText
import RtspServer.ServerRun
import RtspServer.SessionDescription

/-!
# The body of a response to DESCRIBE

The SDP of a session is printed into an array of 1024 bytes, and the response
that carries it into another. `snprintf` cuts what does not fit, and `%s` ends
at a NUL, while the Content-Length is the length of what was to be copied into
the response. A client gets the whole SDP, and the number of its bytes, exactly
when the text kept has the lines of now, the strings that make it up have no NUL,
and the response fits (`describe_complete_iff`).
-/

open RtspRequest (line decimal)

/-! ## Strings with a NUL -/

namespace Scanf

theorem nul_notMem_cstr (bs : Bytes) : 0 ∉ cstr bs := by
  intro h
  have hne := List.mem_takeWhile_imp h
  simp at hne

end Scanf

namespace RtspRequest

theorem nul_mem_line {text : Bytes} : 0 ∈ line text ↔ 0 ∈ text := by
  unfold line
  rw [List.mem_append]
  exact or_iff_left (by decide)

end RtspRequest

namespace MediaSession

variable {ρ : Type}

/-! ## The complete SDP -/

/-- The line with the name of a session, if it has one. -/
def nameLines (name : Bytes) : List Bytes := if name ≠ [] then [line (ascii "s=" ++ name)] else []

/-- What an SDP says of one channel. -/
def sourceLines (ch : MediaChannelId) (source : MediaSource) : List Bytes :=
  [line source.mediaDescription, line source.mediaAttribute,
    line (ascii "a=control:track" ++ decimal ch.index)]

/-- **The whole SDP**: the session lines and, for each source there is, its
description, its attribute and its control line. -/
def completeSdp (call : SdpCall) (sources : MediaChannelId → Option MediaSource) : Bytes :=
  line (ascii "v=0")
    ++ line (ascii "o=- 9" ++ decimal call.time ++ ascii " 1 IN IP4 " ++ Scanf.cstr call.ip)
    ++ line (ascii "t= 0 0") ++ line (ascii "a= control:*")
    ++ (nameLines call.sessionName).flatten
    ++ ([MediaChannelId.channel0, .channel1].flatMap fun ch =>
      (sources ch).elim [] (sourceLines ch)).flatten

/-- The strings that an SDP is made of have no NUL. -/
structure NulFree (name : Bytes) (sources : MediaChannelId → Option MediaSource) : Prop where
  name : 0 ∉ name
  sources : ∀ ch source, sources ch = some source →
    0 ∉ source.mediaDescription ∧ 0 ∉ source.mediaAttribute

/-- The control line of a channel has no NUL. -/
theorem nul_notMem_control (chn : ℕ) : 0 ∉ line (ascii "a=control:track" ++ decimal chn) := by
  rw [RtspRequest.nul_mem_line, List.mem_append, not_or]
  exact ⟨by decide, Scanf.nul_notMem_decimal chn⟩

/-- Neither have the lines in front of the name. -/
theorem nul_notMem_sessionLines (call : SdpCall) :
    0 ∉ line (ascii "v=0")
      ++ line (ascii "o=- 9" ++ decimal call.time ++ ascii " 1 IN IP4 " ++ Scanf.cstr call.ip)
      ++ line (ascii "t= 0 0") ++ line (ascii "a= control:*") := by
  simp only [List.mem_append, RtspRequest.nul_mem_line, not_or]
  exact ⟨⟨⟨by decide, ⟨⟨by decide, Scanf.nul_notMem_decimal _⟩, by decide⟩,
    Scanf.nul_notMem_cstr _⟩, by decide⟩, by decide⟩

theorem nul_mem_nameLines {name : Bytes} : 0 ∈ (nameLines name).flatten ↔ 0 ∈ name := by
  unfold nameLines
  split
  · rw [List.flatten_singleton, RtspRequest.nul_mem_line, List.mem_append]
    exact or_iff_right (by decide)
  · rename_i hnil
    rw [not_not.mp hnil, List.flatten_nil]

theorem nul_mem_sourceLines (ch : MediaChannelId) {source : MediaSource} :
    0 ∈ (sourceLines ch source).flatten ↔
      0 ∈ source.mediaDescription ∨ 0 ∈ source.mediaAttribute := by
  unfold sourceLines
  rw [List.flatten_cons, List.flatten_cons, List.flatten_singleton, List.mem_append,
    List.mem_append, RtspRequest.nul_mem_line, RtspRequest.nul_mem_line,
    or_iff_left (nul_notMem_control ch.index)]

/-- What is printed has no NUL. -/
theorem nul_notMem_description (call : SdpCall) (sources : MediaChannelId → Option MediaSource) :
    0 ∉ description call sources := by
  have hprinted : ∀ bs : Bytes, 0 ∉ line (Scanf.cstr bs) := fun bs h =>
    Scanf.nul_notMem_cstr bs (RtspRequest.nul_mem_line.mp h)
  intro h
  obtain ⟨text, htext, h⟩ := List.mem_flatten.mp h
  rcases List.mem_append.mp htext with htext | htext
  · rcases List.mem_cons.mp htext with rfl | htext
    · exact nul_notMem_sessionLines call h
    · split at htext
      · rw [List.mem_singleton.mp htext, RtspRequest.nul_mem_line, List.mem_append] at h
        exact h.elim (by decide) (Scanf.nul_notMem_cstr _)
      · cases htext
  · obtain ⟨ch, -, htext⟩ := List.mem_flatMap.mp htext
    split at htext
    · rcases List.mem_cons.mp htext with rfl | htext
      · exact hprinted _ h
      · rcases List.mem_pair.mp htext with rfl | rfl
        · exact hprinted _ h
        · exact nul_notMem_control _ h
    · cases htext

theorem mem_channels (ch : MediaChannelId) : ch ∈ [MediaChannelId.channel0, .channel1] := by
  cases ch
  · exact .head _
  · exact .tail _ (.head _)

theorem nul_notMem_completeSdp_iff {call : SdpCall}
    {sources : MediaChannelId → Option MediaSource} :
    0 ∉ completeSdp call sources ↔ NulFree call.sessionName sources := by
  have hsources : 0 ∈ ([MediaChannelId.channel0, .channel1].flatMap fun ch =>
      (sources ch).elim [] (sourceLines ch)).flatten ↔
      ∃ ch source, sources ch = some source ∧
        (0 ∈ source.mediaDescription ∨ 0 ∈ source.mediaAttribute) := by
    constructor
    · intro h
      obtain ⟨text, htext, hmem⟩ := List.mem_flatten.mp h
      obtain ⟨ch, -, htext⟩ := List.mem_flatMap.mp htext
      cases hsource : sources ch with
      | none =>
        rw [hsource] at htext
        cases htext
      | some source =>
        rw [hsource] at htext
        exact ⟨ch, source, hsource,
          (nul_mem_sourceLines ch).mp (List.mem_flatten.mpr ⟨text, htext, hmem⟩)⟩
    · rintro ⟨ch, source, hsource, h⟩
      obtain ⟨text, htext, hmem⟩ := List.mem_flatten.mp ((nul_mem_sourceLines ch).mpr h)
      refine List.mem_flatten.mpr ⟨text, List.mem_flatMap.mpr ⟨ch, mem_channels ch, ?_⟩, hmem⟩
      rw [hsource]
      exact htext
  unfold completeSdp
  rw [List.mem_append, List.mem_append, or_iff_right (nul_notMem_sessionLines call),
    nul_mem_nameLines, hsources, not_or]
  constructor
  · rintro ⟨hname, hnone⟩
    push Not at hnone
    exact ⟨hname, hnone⟩
  · rintro ⟨hname, hfree⟩
    push Not
    exact ⟨hname, hfree⟩

/-- Without a NUL the description is the whole SDP. -/
theorem description_eq_completeSdp {call : SdpCall} {sources : MediaChannelId → Option MediaSource}
    (h : NulFree call.sessionName sources) :
    description call sources = completeSdp call sources := by
  have hmedia : mediaPart sources = [MediaChannelId.channel0, .channel1].flatMap fun ch =>
      (sources ch).elim [] (sourceLines ch) := by
    unfold mediaPart
    congr 1
    funext ch
    cases hsource : sources ch with
    | none => rfl
    | some source =>
      obtain ⟨hdescription, hattribute⟩ := h.sources ch source hsource
      show sdpBlock ch.index source = sourceLines ch source
      unfold sdpBlock
      rw [Scanf.cstr_of_notMem hdescription, Scanf.cstr_of_notMem hattribute]
      rfl
  unfold description completeSdp sessionPart nameLines
  rw [hmedia, Scanf.cstr_of_notMem h.name, List.flatten_append, List.flatten_cons]

/-! ## What is printed -/

/-- **The text in the array is a whole SDP** exactly when that has no NUL and
would be printed in the same lines, if it leaves room in the array. -/
theorem printed_eq_completeSdp_iff {call now : SdpCall}
    {sources sources' : MediaChannelId → Option MediaSource}
    (hroom : (completeSdp now sources').length < 1023) :
    printed call sources = completeSdp now sources' ↔
      description call sources = description now sources' ∧ NulFree now.sessionName sources' := by
  unfold printed
  constructor
  · intro h
    have hall : (description call sources).take 1023 = description call sources := by
      have hlength := congrArg List.length h
      rw [List.length_take] at hlength
      exact List.take_of_length_le (by omega)
    rw [hall] at h
    have hfree : NulFree now.sessionName sources' :=
      nul_notMem_completeSdp_iff.mp (h ▸ nul_notMem_description call sources)
    exact ⟨h.trans (description_eq_completeSdp hfree).symm, hfree⟩
  · rintro ⟨h, hfree⟩
    rw [h, description_eq_completeSdp hfree]
    exact List.take_of_length_le hroom.le

/-- What is returned depends on the text kept and on the sources only. -/
theorem getSdpMessage_congr {s s' : MediaSession ρ} (hsdp : s.sdp = s'.sdp)
    (hsources : s.mediaSources = s'.mediaSources) (name ip : Bytes) (time : ℕ) :
    (s.getSdpMessage name ip time).1 = (s'.getSdpMessage name ip time).1 := by
  by_cases hnil : s.sdp = []
  · rw [getSdpMessage_first hnil ⟨name, ip, time⟩,
      getSdpMessage_first (hsdp ▸ hnil) ⟨name, ip, time⟩, hsources]
  · rw [getSdpMessage_kept hnil ⟨name, ip, time⟩,
      getSdpMessage_kept (hsdp ▸ hnil) ⟨name, ip, time⟩, hsdp]

/-- Entering a client changes neither. -/
theorem addClient_sdp (s : MediaSession ρ) (rtspfd : ℤ) (rtpConn : ρ) :
    (s.addClient rtspfd rtpConn).2.1.sdp = s.sdp ∧
      (s.addClient rtspfd rtpConn).2.1.mediaSources = s.mediaSources := by
  unfold addClient
  split <;> exact ⟨rfl, rfl⟩

namespace SdpHistory

/-- The call that made the text, or makes it now, and the sources it is made
of. -/
def origin (t : SdpHistory ρ) (now : SdpCall) : SdpCall × (MediaChannelId → Option MediaSource) :=
  t.first.getD (now, t.session.mediaSources)

/-- **The invariant**: the text kept was printed at the first call. -/
def Printed (t : SdpHistory ρ) : Prop :=
  t.session.sdp = t.first.elim [] fun first => printed first.1 first.2

/-- What a call returns, and what it leaves. -/
theorem Printed.getSdpMessage {t : SdpHistory ρ} (ht : t.Printed) (now : SdpCall) :
    t.session.getSdpMessage now.sessionName now.ip now.time
      = (printed (t.origin now).1 (t.origin now).2,
        { t.session with sdp := printed (t.origin now).1 (t.origin now).2 }) := by
  unfold Printed at ht
  unfold origin
  cases hfirst : t.first with
  | none =>
    rw [hfirst] at ht
    exact getSdpMessage_first ht now
  | some first =>
    rw [hfirst] at ht
    dsimp only [Option.elim_some, Option.getD_some] at ht ⊢
    rw [getSdpMessage_kept (ht ▸ printed_ne_nil first.1 first.2), ← ht]

theorem Printed.step {t : SdpHistory ρ} (ht : t.Printed) (e : SdpEvent) : (t.step e).Printed := by
  cases e with
  | addMediaSource channelId source => exact ht
  | removeMediaSource channelId => exact ht
  | getSdpMessage call =>
    show ((t.session.getSdpMessage call.sessionName call.ip call.time).2).sdp = _
    rw [ht.getSdpMessage]
    rfl

theorem printed_of_run {events : List SdpEvent} {t : SdpHistory ρ} (hrun : system.Run events t) :
    t.Printed := by
  refine hrun.invariant ?_ ?_
  · rintro t ⟨last, suffix, rfl⟩
    rfl
  · rintro t e t' ht rfl
    exact ht.step e

/-- The call of now, as the first call would have made it: with the address and
the time of that call. -/
def present (t : SdpHistory ρ) (now : SdpCall) : SdpCall :=
  { (t.origin now).1 with sessionName := now.sessionName }

/-- **The SDP that a session has**: its sources and the name of now. -/
def sdpNow (t : SdpHistory ρ) (now : SdpCall) : Bytes :=
  completeSdp (t.present now) t.session.mediaSources

/-- **The first call was made with the name and the sources of now**, or with
others that give the same lines. -/
def Current (t : SdpHistory ρ) (now : SdpCall) : Prop :=
  description (t.origin now).1 (t.origin now).2
    = description (t.present now) t.session.mediaSources

/-- Before the first call the text is yet to be made. -/
theorem current_of_first {t : SdpHistory ρ} (h : t.first = none) (now : SdpCall) :
    t.Current now := by
  unfold Current present origin
  rw [h]
  rfl

end SdpHistory

end MediaSession

/-! ## The response -/

namespace RtspRequest

open ResponseText

/-- The response to DESCRIBE, up to the blank line. -/
def describeHead (r : RtspRequest) (n : ℕ) : Bytes :=
  response "200 OK" [r.cseqLine, ascii "Content-Length: " ++ decimal n,
    ascii "Content-Type: application/sdp"]

theorem length_describeHead_lt (r : RtspRequest) {n : ℕ} (hn : n < 1024) :
    (r.describeHead n).length < 1023 := by
  have hcseq := Scanf.length_decimal_uint32 r.getCSeq
  have hnumber : (decimal n).length ≤ 4 := Scanf.length_decimal_le (by decide) (by omega)
  have hstatus : (ascii ("RTSP/1.0 " ++ "200 OK")).length = 15 := by decide
  have hnames : (ascii "CSeq: ").length = 6 ∧ (ascii "Content-Length: ").length = 16 ∧
      (ascii "Content-Type: application/sdp").length = 29 := by decide
  have hcrlf : crlf.length = 2 := rfl
  unfold describeHead response cseqLine
  simp only [List.map_cons, List.map_nil, List.flatten_cons, List.flatten_nil, List.length_append,
    length_line, List.length_nil]
  omega

/-- A text that fits behind the headers leaves room in the array. -/
theorem room_of_fits (r : RtspRequest) {n : ℕ} {sdp : Bytes}
    (h : (r.describeHead n ++ sdp).length < 1024) : sdp.length < 1023 := by
  have hhead : 0 < (r.describeHead n).length := List.length_pos_iff.mpr fun h => by cases h
  rw [List.length_append] at h
  omega

theorem splitHead_describeHead (r : RtspRequest) (n : ℕ) (text : Bytes) :
    splitHead [] (r.describeHead n ++ text)
      = ([ascii ("RTSP/1.0 " ++ "200 OK"), r.cseqLine, ascii "Content-Length: " ++ decimal n,
        ascii "Content-Type: application/sdp"], some text) := by
  refine splitHead_response (by decide) ?_ text
  have hnumber : ∀ name : Bytes, IsLine name → name ≠ [] → ∀ n,
      IsLine (name ++ decimal n) ∧ name ++ decimal n ≠ [] := fun name hname hne n =>
    ⟨hname.append (isLine_decimal n), fun h => hne (List.append_eq_nil_iff.mp h).1⟩
  intro l hl
  rcases List.mem_cons.mp hl with rfl | hl
  · exact hnumber (ascii "CSeq: ") (by decide) (by decide) _
  · rcases List.mem_pair.mp hl with rfl | rfl
    · exact hnumber (ascii "Content-Length: ") (by decide) (by decide) _
    · decide

/-- **What a client reads** of the response to DESCRIBE, if it gets all the
headers. -/
theorem carriesBody_describeHead_iff {r : RtspRequest} {n : ℕ} {text sdp : Bytes} :
    CarriesBody (r.describeHead n ++ text) sdp ↔ text = sdp ∧ n = sdp.length := by
  have hline : ascii "Content-Length: " ++ decimal n
      = ascii "Content-Length" ++ ascii ": " ++ decimal n := rfl
  have hcseq : ¬ ascii "Content-Length" ++ ascii ": " <+: r.cseqLine :=
    not_prefix_append (by decide) _
  unfold CarriesBody body headerNumber headLines
  rw [splitHead_describeHead, header_cons_of_not (by decide), header_cons_of_not hcseq, hline,
    header_cons, Option.bind_some, number_decimal, Option.some_inj, Option.some_inj]

/-- **What a client reads of the response to DESCRIBE**: the SDP, exactly when it
was given to the printer and fits behind the headers. -/
theorem carriesBody_buildDescribeRes_iff {r : RtspRequest} {text sdp : Bytes}
    (htext : text.length < 1024) :
    CarriesBody (r.buildDescribeRes 1024 text) sdp ↔
      text = sdp ∧ (r.describeHead sdp.length ++ sdp).length < 1024 := by
  have hhead := r.length_describeHead_lt htext
  have hprint : r.buildDescribeRes 1024 text
      = r.describeHead text.length ++ text.take (1023 - (r.describeHead text.length).length) :=
    snprintf_append (Nat.lt_succ_of_lt hhead) text
  rw [hprint, carriesBody_describeHead_iff]
  constructor
  · rintro ⟨htake, hlength⟩
    have hall : text.take (1023 - (r.describeHead text.length).length) = text := by
      have := congrArg List.length htake
      rw [List.length_take] at this
      exact List.take_of_length_le (by omega)
    obtain rfl : text = sdp := hall.symm.trans htake
    refine ⟨rfl, ?_⟩
    rw [List.length_append]
    have := congrArg List.length htake
    rw [List.length_take] at this
    omega
  · rintro ⟨rfl, hfits⟩
    rw [List.length_append] at hfits
    exact ⟨List.take_of_length_le (by omega), rfl⟩

end RtspRequest

namespace Serving

open MediaSession

/-- The call of `getSdpMessage` that a DESCRIBE makes. -/
def sdpCall (env : Env) (x : Serving) : SdpCall :=
  ⟨x.world.rtsp.version, env.localIp, env.time⟩

/-- The message that answers a DESCRIBE of a session. -/
theorem handleCmdDescribe_message (env : Env) {r : RtspRequest} {x : Serving}
    {id : MediaSessionId} {session : MediaSession RtpRef}
    (h : (x.world.rtsp.lookMediaSessionBySuffix r.getRtspUrlSuffix).1 = some (id, session))
    (hup : x.conn.tcpConn.connected = true) {text : Bytes} (htext : text ≠ [])
    (hsdp : (session.getSdpMessage x.world.rtsp.version env.localIp env.time).1 = text) :
    (x.handleCmdDescribe env r).sent = x.sent ++ [r.buildDescribeRes 1024 text] := by
  obtain ⟨-, hconn, hrtsp, -, hsent⟩ := createRtpConn_spec env x
  have hversion := x.world.rtsp.lookMediaSessionBySuffix_version r.getRtspUrlSuffix
  unfold handleCmdDescribe
  rcases hc : x.createRtpConn env with ⟨ref, y⟩
  rw [hc] at hconn hrtsp hsent
  dsimp only at hconn hrtsp hsent ⊢
  rw [hrtsp]
  rcases hl : x.world.rtsp.lookMediaSessionBySuffix r.getRtspUrlSuffix with ⟨found, rtsp⟩
  rw [hl] at h hversion
  dsimp only at h hversion
  subst h
  have hdescribed : (describeSession env rtsp id session y.conn.tcpConn.fd ref).1 = text := by
    unfold describeSession
    dsimp only
    obtain ⟨hkept, hsources⟩ := session.addClient_sdp y.conn.tcpConn.fd ref
    rw [getSdpMessage_congr hkept hsources, hversion]
    exact hsdp
  have hy : y.conn.tcpConn.connected = true := by rw [hconn, hup]
  dsimp only
  rw [hdescribed, if_neg htext, sendMessage_sent (by exact hy), hsent]

/-- **When a DESCRIBE is answered with the whole SDP.** Whatever was done with
the session before, its response carries the lines of the session and of every
source as they are now if and only if the text that was kept has the same lines,
no string among them has a NUL, and the response fits in its array. -/
theorem describe_complete_iff {events : List SdpEvent} {t : SdpHistory RtpRef}
    (hrun : SdpHistory.system.Run events t) {env : Env} {r : RtspRequest} {x : Serving}
    {id : MediaSessionId} {session : MediaSession RtpRef}
    (h : (x.world.rtsp.lookMediaSessionBySuffix r.getRtspUrlSuffix).1 = some (id, session))
    (hsdp : session.sdp = t.session.sdp) (hsources : session.mediaSources = t.session.mediaSources)
    (hup : x.conn.tcpConn.connected = true) :
    (∃ message, (x.handleCmdDescribe env r).sent = x.sent ++ [message] ∧
        ResponseText.CarriesBody message (t.sdpNow (x.sdpCall env))) ↔
      t.Current (x.sdpCall env) ∧ NulFree x.world.rtsp.version session.mediaSources ∧
      (r.describeHead (t.sdpNow (x.sdpCall env)).length
        ++ t.sdpNow (x.sdpCall env)).length < 1024 := by
  have hreturned : (session.getSdpMessage x.world.rtsp.version env.localIp env.time).1
      = printed (t.origin (x.sdpCall env)).1 (t.origin (x.sdpCall env)).2 :=
    (getSdpMessage_congr hsdp hsources _ _ _).trans
      (congrArg Prod.fst ((SdpHistory.printed_of_run hrun).getSdpMessage (x.sdpCall env)))
  have hmessage := handleCmdDescribe_message env h hup (printed_ne_nil _ _) hreturned
  have hprinted : (printed (t.origin (x.sdpCall env)).1 (t.origin (x.sdpCall env)).2).length
      < 1024 := Nat.lt_succ_of_le (List.length_take_le _ _)
  have hcarries : ∀ sdp, ResponseText.CarriesBody (r.buildDescribeRes 1024 _) sdp ↔ _ :=
    fun sdp => RtspRequest.carriesBody_buildDescribeRes_iff hprinted
  rw [hmessage, hsources]
  constructor
  · rintro ⟨message, hsent, h⟩
    obtain rfl := List.singleton_inj.mp (List.append_cancel_left hsent)
    obtain ⟨htext, hfits⟩ := (hcarries _).mp h
    obtain ⟨hcurrent, hfree⟩ := (printed_eq_completeSdp_iff (r.room_of_fits hfits)).mp htext
    exact ⟨hcurrent, hfree, hfits⟩
  · rintro ⟨hcurrent, hfree, hfits⟩
    have htext := (printed_eq_completeSdp_iff (r.room_of_fits hfits)).mpr ⟨hcurrent, hfree⟩
    exact ⟨_, rfl, (hcarries _).mpr ⟨htext, hfits⟩⟩

/-! ## A short attribute and a long one -/

/-- A new session with one source. -/
def withSource (source : MediaSource) : SdpHistory RtpRef :=
  ({ session := (creatNew 1 (ascii "live")).2 } : SdpHistory RtpRef).step
    (.addMediaSource .channel0 source)

/-- A client of a server with that session. -/
def asksFor (source : MediaSource) : Serving where
  conn := ServerState.onSeven
  world :=
    { ServerState.liveWorld with
      rtsp := (({} : Rtsp RtpRef).addMediaSession (withSource source).session).2 }

theorem run_withSource (source : MediaSource) :
    (SdpHistory.system : System (SdpHistory RtpRef) SdpEvent).Run
      ([] ++ [.addMediaSource .channel0 source]) (withSource source) :=
  .snoc (.nil ⟨1, ascii "live", rfl⟩) rfl

theorem asksFor_look (source : MediaSource) :
    ((asksFor source).world.rtsp.lookMediaSessionBySuffix
        ServerState.describeLive.getRtspUrlSuffix).1
      = some (2, (withSource source).session) := rfl

/-- The source of the sample program is described as a whole. -/
theorem describe_complete_h264 : ∃ message,
    ((asksFor SdpHistory.h264).handleCmdDescribe .quiet ServerState.describeLive).sent
      = [] ++ [message] ∧
    ResponseText.CarriesBody message
      ((withSource SdpHistory.h264).sdpNow ((asksFor SdpHistory.h264).sdpCall .quiet)) := by
  refine (describe_complete_iff (run_withSource SdpHistory.h264) (asksFor_look SdpHistory.h264)
    rfl rfl rfl).mpr ⟨SdpHistory.current_of_first rfl _, ⟨by decide, ?_⟩, ?_⟩
  · intro ch source hsource
    cases ch with
    | channel0 =>
      cases hsource
      decide
    | channel1 => cases hsource
  · decide +kernel

/-- A source with an attribute of 1000 bytes. -/
def wideSource : MediaSource :=
  { SdpHistory.h264 with mediaAttribute := List.replicate 1000 0x61 }

/-- **A response that is cut** has fewer bytes behind the blank line than its
Content-Length says. -/
theorem describe_wideSource_not_complete :
    ¬ ∀ (events : List SdpEvent) (t : SdpHistory RtpRef), SdpHistory.system.Run events t →
      ∀ (env : Env) (r : RtspRequest) (x : Serving) (id : MediaSessionId)
        (session : MediaSession RtpRef),
        (x.world.rtsp.lookMediaSessionBySuffix r.getRtspUrlSuffix).1 = some (id, session) →
        session.sdp = t.session.sdp → session.mediaSources = t.session.mediaSources →
        x.conn.tcpConn.connected = true →
        ∃ message, (x.handleCmdDescribe env r).sent = x.sent ++ [message] ∧
          ResponseText.CarriesBody message (t.sdpNow (x.sdpCall env)) := by
  intro hall
  have hrun := run_withSource wideSource
  obtain ⟨message, hsent, hcarries⟩ := hall _ _ hrun .quiet ServerState.describeLive
    (asksFor wideSource) _ _ (asksFor_look wideSource) rfl rfl rfl
  have hreturned := congrArg Prod.fst
    ((SdpHistory.printed_of_run hrun).getSdpMessage ((asksFor wideSource).sdpCall .quiet))
  rw [handleCmdDescribe_message .quiet (asksFor_look wideSource) rfl (printed_ne_nil _ _)
    hreturned] at hsent
  obtain rfl := List.singleton_inj.mp (List.append_cancel_left hsent)
  have hfits := (RtspRequest.carriesBody_buildDescribeRes_iff
    (Nat.lt_succ_of_le (List.length_take_le _ _))).mp hcarries
  revert hfits
  decide +kernel

end Serving
