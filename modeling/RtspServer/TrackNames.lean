import RtspServer.RequestText
import RtspServer.Rtsp
import RtspServer.SessionDescription

/-!
# The track a client sets up

The description of a session names the control URL of a channel
`track<channel>`, relative to the URL of the session, and a SETUP for this URL
selects a channel by the string `track1`. The string is looked for in the
whole URL, host and session suffix included, so that the channel is the one
that was announced if and only if it is the second one or neither of these
has the string (`selects_iff`).
-/

/-- The name that the description gives a channel. -/
def MediaChannelId.trackName (ch : MediaChannelId) : Bytes :=
  ascii "track" ++ RtspRequest.decimal ch.index

namespace MediaSession

variable {ρ : Type}

/-- The text announces a channel. -/
def Announces (sdp : Bytes) (ch : MediaChannelId) : Prop :=
  RtspRequest.line (ascii "a=control:" ++ ch.trackName) <:+: sdp

/-- **A channel that has a source is announced** in a description made of the
sources. -/
theorem announces_description (call : SdpCall) {sources : MediaChannelId → Option MediaSource}
    {ch : MediaChannelId} {source : MediaSource} (h : sources ch = some source) :
    Announces (description call sources) ch := by
  have hname : RtspRequest.line (ascii "a=control:" ++ ch.trackName)
      = RtspRequest.line (ascii "a=control:track" ++ RtspRequest.decimal ch.index) := rfl
  have hblock : RtspRequest.line (ascii "a=control:" ++ ch.trackName) ∈ mediaPart sources := by
    refine List.mem_flatMap.mpr ⟨ch, by cases ch <;> decide, ?_⟩
    rw [h, hname]
    exact List.mem_of_mem_tail (List.mem_of_mem_tail List.mem_cons_self)
  exact List.infix_of_mem_flatten (List.mem_append_right _ hblock)

end MediaSession

open Scanf

namespace RequestText

/-- **The SETUP selects a channel**: the read that delivers it dispatches a
request with this channel. -/
def Selects (t : RequestText) (p : RtspRequest) (ch : MediaChannelId) : Prop :=
  ∃ q, RtspReader.readStep p t.bytes = .ok (q.reset, [], some q) ∧ q.channelId = ch

/-- The name of a channel has `track1` for the second one. -/
theorem track1_trackName_iff (ch : MediaChannelId) :
    ascii "track1" <:+: ch.trackName ↔ ch = .channel1 := by
  cases ch <;> decide

/-- **Where a URL of a track has `track1`**: in the host, in the suffix of the
session or as the name of the channel. -/
theorem track1_bytes_iff {u : UrlText} {suffix : Bytes} {ch : MediaChannelId}
    (hport : u.port.isSome = true) (hsuffix : u.suffix = suffix ++ 0x2f :: ch.trackName) :
    ascii "track1" <:+: u.bytes ↔
      ascii "track1" <:+: u.host ∨ ascii "track1" <:+: suffix ∨ ch = .channel1 := by
  obtain ⟨digits, hport⟩ := Option.isSome_iff_exists.mp hport
  have hne : ascii "track1" ≠ [] := by decide
  have hdigits : ¬ ascii "track1" <:+: digits := by
    intro hin
    have hdigit := (u.isNumeral_port digits hport).1.isDigit 0x74 (hin.subset (by decide))
    cases hdigit
  have hbytes : u.bytes = ascii "rtsp:/" ++ ([0x2f] ++ (u.host ++ ([0x3a] ++ (digits ++ ([0x2f] ++
      (suffix ++ ([0x2f] ++ ch.trackName))))))) := by
    unfold UrlText.bytes UrlText.rest
    rw [hport, hsuffix]
    rfl
  rw [hbytes, Search.isInfix_append_sep (by decide) hne (by decide),
    Search.isInfix_append_sep (by decide) hne (by decide),
    Search.isInfix_append_sep (by decide) hne (by decide),
    Search.isInfix_append_sep (by decide) hne (by decide), track1_trackName_iff,
    or_iff_right (by decide : ¬ ascii "track1" <:+: ascii "rtsp:/"), or_iff_right hdigits]

/-- **The channel that was announced is selected** exactly when it is the
second one, or neither the host nor the suffix of the session has `track1`. The
source searches the whole text of the URL for `track1` and takes the first
channel where it is not found; so a session whose name contains it has a second
channel only. -/
theorem selects_iff {ρ : Type} (session : MediaSession ρ) {ch : MediaChannelId} {t : RequestText}
    (hm : t.method = .setup) (hsuffix : t.url.suffix = session.suffix ++ 0x2f :: ch.trackName)
    {p : RtspRequest} (hp : p.IsInitial) :
    t.Selects p ch ↔ ch = .channel1 ∨
      ¬ ascii "track1" <:+: t.url.host ∧ ¬ ascii "track1" <:+: session.suffix := by
  have htrack := track1_bytes_iff t.port_isSome hsuffix
  obtain ⟨q, hq, -, -, hread⟩ := t.readStep_bytes hp
  have hchannel := t.channelId_headersRead hm hq
  have hselects : t.Selects p ch ↔ RtspRequest.trackOf t.url.bytes = ch := by
    unfold Selects
    rw [← hchannel, hread]
    constructor
    · rintro ⟨r, hr, hch⟩
      have hsame := Option.some.inj (congrArg (fun res => res.2.2) (Except.ok.inj hr))
      rw [hsame, hch]
    · exact fun hch => ⟨_, rfl, hch⟩
  rw [hselects, RtspRequest.trackOf]
  by_cases hin : ascii "track1" <:+: t.url.bytes
  · rw [if_pos (RtspRequest.find_isSome_of_isInfix hin)]
    constructor
    · exact fun h => .inl h.symm
    · rintro (rfl | ⟨hhost, hsession⟩)
      · rfl
      · exact (((htrack.mp hin).resolve_left hhost).resolve_left hsession).symm
  · have hnot := RtspRequest.find_isSome_of_not_isInfix hin
    rw [hnot, if_neg Bool.false_ne_true]
    constructor
    · exact fun _ => .inr ⟨fun h => hin (htrack.mpr (.inl h)),
        fun h => hin (htrack.mpr (.inr (.inl h)))⟩
    · rintro (h | -)
      · exact absurd (htrack.mpr (.inr (.inr h))) hin
      · cases ch with
        | channel0 => rfl
        | channel1 => exact absurd (htrack.mpr (.inr (.inr rfl))) hin

/-- A video source. -/
def videoSource : MediaSource where
  payload := 96
  clockRate := 90000
  mediaDescription := ascii "m=video 0 RTP/AVP 96"
  mediaAttribute := ascii "a=rtpmap:96 H264/90000"

/-- A session with video on its first channel. -/
def videoSession (suffix : Bytes) : MediaSession Unit :=
  (MediaSession.creatNew 1 suffix).2.addMediaSource .channel0 videoSource

/-- A session with video on both channels. -/
def twoTracks (suffix : Bytes) : MediaSession Unit :=
  (videoSession suffix).addMediaSource .channel1 videoSource

/-- The second track of the session `live`, which has a source on it, is selected. -/
theorem selects_iff_twoTracks :
    (twoTracks (ascii "live")).mediaSources .channel1 = some videoSource ∧ trackSetup.Selects
      ⟨.none, .channel0, .rtpOverTcp, fun _ => none, fun _ => none, .parseRequestLine⟩ .channel1 :=
  ⟨rfl, (selects_iff (twoTracks (ascii "live")) rfl rfl ⟨rfl, rfl, rfl⟩).mpr (.inl rfl)⟩

theorem isWord_firstTrack : IsWord (ascii "track1/track0") := by decide

theorem isNumeral_port_firstTrack : ∀ digits ∈ some (ascii "554"),
    IsNumeral digits ∧ decimalValue digits < 65536 := by
  rintro _ ⟨rfl⟩
  decide

/-- `rtsp://10.0.0.1:554/track1/track0`. -/
def firstTrackUrl : UrlText where
  host := ascii "10.0.0.1"
  port := some (ascii "554")
  suffix := ascii "track1/track0"
  isWord_host := UrlText.isWord_address
  colon_notMem := UrlText.colon_notMem_address
  slash_notMem := UrlText.slash_notMem_address
  isNumeral_port := isNumeral_port_firstTrack
  isWord_suffix := isWord_firstTrack

theorem isSetup_firstTrack : IsSetup firstTrackUrl (ascii "3")
    (.interleaved (ascii "0") (ascii "1")) []
    [ascii "CSeq: 3", ascii "Transport: RTP/AVP/TCP;unicast;interleaved=0-1"] where
  port_isSome := rfl
  fits := ⟨by decide, by decide, by decide⟩
  isNumeral_cseq := by decide
  cseq_lt := by decide
  belongs := by
    unfold OwnHeader.Belongs
    decide
  isOther := nofun
  perm := by decide

/-- A SETUP of the first track of the session `track1`. -/
def firstTrackSetup : RequestText := setup _ _ _ _ _ isSetup_firstTrack

/-- **Of a session with the suffix `track1` the first track cannot be set
up**, though the session is accepted and its description announces it. -/
theorem not_selects_firstTrack : ¬ ∀ (session : MediaSession Unit) (call : MediaSession.SdpCall)
    (ch : MediaChannelId) (t : RequestText) (p : RtspRequest),
    (({} : Rtsp Unit).addMediaSession session).1 ≠ 0 →
    MediaSession.Announces (session.getSdpMessage call.sessionName call.ip call.time).1 ch →
    t.method = .setup → t.url.suffix = session.suffix ++ 0x2f :: ch.trackName → p.IsInitial →
    t.Selects p ch := by
  intro h
  have hsdp := @MediaSession.getSdpMessage_of_fits Unit (videoSession (ascii "track1")) rfl
    ⟨[], ascii "10.0.0.1", 0⟩ (by decide +kernel)
  have hannounced := MediaSession.announces_description ⟨[], ascii "10.0.0.1", 0⟩
    (show (videoSession (ascii "track1")).mediaSources .channel0 = some videoSource from rfl)
  obtain ⟨q, hq, hchannel⟩ := h (videoSession (ascii "track1")) ⟨[], ascii "10.0.0.1", 0⟩ .channel0
    firstTrackSetup
    ⟨.none, .channel0, .rtpOverTcp, fun _ => none, fun _ => none, .parseRequestLine⟩ (by decide)
    (by rw [hsdp]; exact hannounced) rfl rfl ⟨rfl, rfl, rfl⟩
  obtain ⟨q₀, hq₀, -, -, hread⟩ := @readStep_bytes firstTrackSetup
    ⟨.none, .channel0, .rtpOverTcp, fun _ => none, fun _ => none, .parseRequestLine⟩
    ⟨rfl, rfl, rfl⟩
  have htrack := firstTrackSetup.channelId_headersRead rfl hq₀
  rw [hread] at hq
  have hsame := Option.some.inj (congrArg (fun res => res.2.2) (Except.ok.inj hq))
  rw [hsame, hchannel] at htrack
  exact absurd htrack (by decide)

end RequestText
