import RtspServer.MediaSession
import RtspServer.ResponseText
import RtspServer.SharedHeap
import RtspServer.TextLines
import RtspServer.Transition

/-!
# The SDP of a session over its lifetime

`getSdpMessage` makes the text at the first call and keeps it, while sources
may be added and removed at any time. The first text is made of a session
part and one media block for each channel that has a source
(`getSdpMessage_of_fits`); a later call gives the blocks of the sources that
were there then.

What a text is to say is stated here twice, and neither time with the words of
the program. `SdpHistory.Prints` is about the bytes: behind the session part
there is a `mediaBlock` for each channel with a source. `SdpHistory.Describes`
is about a receiver, which takes the text apart into lines, and these into
blocks that begin with `m=`: it finds one block for each channel with a source,
in ascending order, with the lines of the source's description, those of its
attribute, and `a=control:track<c>` at the end. For this the source must give
the lines of one block, as `h264` does.

A text says this of the sources of the moment exactly when the sources of the
first call give the same blocks (`SdpHistory.describes_iff`).
-/

/-- A line that begins a media block. -/
def IsMediaLine (l : Bytes) : Prop := ascii "m=" <+: l

instance : DecidablePred IsMediaLine := fun l => inferInstanceAs (Decidable (ascii "m=" <+: l))

namespace MediaSource

/-- The lines of a source's description and of its attribute, which may be
several; a text ends at its first NUL. -/
def mediaLines (source : MediaSource) : List Bytes :=
  TextLines.lines (Scanf.cstr source.mediaDescription ++ crlf)
    ++ TextLines.lines (Scanf.cstr source.mediaAttribute ++ crlf)

/-- **The source gives the lines of one media block**: the first of them begins
with `m=`, and no other. -/
def IsMedia (source : MediaSource) : Prop := TextLines.IsBlock IsMediaLine source.mediaLines

end MediaSource

namespace MediaSession

variable {ρ : Type}

/-- What a call of `getSdpMessage` brings with it. -/
structure SdpCall where
  sessionName : Bytes
  ip : Bytes
  time : ℕ

/-- The lines in front of the media blocks. -/
def sessionPart (call : SdpCall) : List Bytes :=
  (RtspRequest.line (ascii "v=0")
    ++ RtspRequest.line (ascii "o=- 9" ++ RtspRequest.decimal call.time ++ ascii " 1 IN IP4 "
      ++ Scanf.cstr call.ip)
    ++ RtspRequest.line (ascii "t= 0 0") ++ RtspRequest.line (ascii "a= control:*")) ::
  if call.sessionName ≠ [] then
    [RtspRequest.line (ascii "s=" ++ Scanf.cstr call.sessionName)] else []

/-- The media blocks of the channels that have a source, in ascending
order. -/
def mediaPart (sources : MediaChannelId → Option MediaSource) : List Bytes :=
  [MediaChannelId.channel0, .channel1].flatMap fun ch =>
    match sources ch with
    | some source => sdpBlock ch.index source
    | none => []

/-- The description of sources, for a call. -/
def description (call : SdpCall) (sources : MediaChannelId → Option MediaSource) : Bytes :=
  (sessionPart call ++ mediaPart sources).flatten

/-! ## What the text is to be -/

/-- The line that ends the media block of a channel. -/
def controlLine (ch : MediaChannelId) : Bytes :=
  ascii "a=control:track" ++ RtspRequest.decimal ch.index

/-- **The media block of a channel**: the description of its source, the attribute
and the control line, each with its CRLF. -/
def mediaBlock (ch : MediaChannelId) (source : MediaSource) : Bytes :=
  Scanf.cstr source.mediaDescription ++ crlf ++ (Scanf.cstr source.mediaAttribute ++ crlf)
    ++ (controlLine ch ++ crlf)

/-- The media blocks of the channels that have a source, in ascending order. -/
def mediaText (sources : MediaChannelId → Option MediaSource) : Bytes :=
  ([MediaChannelId.channel0, .channel1].filterMap fun ch =>
    (sources ch).map (mediaBlock ch)).flatten

/-- The same, as a receiver is to read it: the lines of each block. -/
def mediaBlocks (sources : MediaChannelId → Option MediaSource) : List (List Bytes) :=
  [MediaChannelId.channel0, .channel1].filterMap fun ch =>
    (sources ch).map fun source => source.mediaLines ++ [controlLine ch]

/-- The blocks that the program prints. -/
theorem mediaPart_flatten (sources : MediaChannelId → Option MediaSource) :
    (mediaPart sources).flatten = mediaText sources := by
  have hblock : ∀ ch source, (sdpBlock ch.index source).flatten = mediaBlock ch source := by
    intro ch source
    simp [sdpBlock, mediaBlock, controlLine, RtspRequest.line]
  unfold mediaPart mediaText
  cases h₀ : sources .channel0 with
  | none =>
    cases h₁ : sources .channel1 with
    | none => simp [h₀, h₁]
    | some source₁ => simp [h₀, h₁, ← hblock]
  | some source₀ =>
    cases h₁ : sources .channel1 with
    | none => simp [h₀, h₁, ← hblock]
    | some source₁ => simp [h₀, h₁, ← hblock]

/-- A channel is found by the last line of its block. -/
theorem find_mediaBlocks (sources : MediaChannelId → Option MediaSource) (ch : MediaChannelId) :
    (mediaBlocks sources).find? (fun block => block.getLast? = some (controlLine ch))
      = (sources ch).map fun source => source.mediaLines ++ [controlLine ch] := by
  have hne : controlLine .channel0 ≠ controlLine .channel1 := by decide
  unfold mediaBlocks
  cases h₀ : sources .channel0 with
  | none =>
    cases h₁ : sources .channel1 with
    | none => cases ch <;> simp [h₀, h₁]
    | some source₁ => cases ch <;> simp [h₀, h₁, hne.symm]
  | some source₀ =>
    cases h₁ : sources .channel1 with
    | none => cases ch <;> simp [h₀, h₁, hne]
    | some source₁ => cases ch <;> simp [h₀, h₁, hne, hne.symm]

/-- **The blocks say which lines each channel has.** -/
theorem mediaBlocks_inj {sources sources' : MediaChannelId → Option MediaSource} :
    mediaBlocks sources = mediaBlocks sources' ↔
      ∀ ch, (sources ch).map MediaSource.mediaLines = (sources' ch).map MediaSource.mediaLines := by
  have hmap : ∀ (sources : MediaChannelId → Option MediaSource) ch,
      ((sources ch).map fun source => source.mediaLines ++ [controlLine ch])
        = ((sources ch).map MediaSource.mediaLines).map (· ++ [controlLine ch]) := by
    intro sources ch
    rw [Option.map_map]
    rfl
  constructor
  · intro h ch
    have hfind := congrArg
      (List.find? fun block => block.getLast? = some (controlLine ch)) h
    rw [find_mediaBlocks, find_mediaBlocks, hmap, hmap] at hfind
    exact Option.map_injective (List.append_left_injective _) hfind
  · intro h
    unfold mediaBlocks
    congr 1
    funext ch
    rw [hmap, hmap, h]

/-! ## What a receiver reads -/

/-- The texts of the session part, each of which is printed as a line. -/
def sessionTexts (call : SdpCall) : List Bytes :=
  [ascii "v=0", ascii "o=- 9" ++ RtspRequest.decimal call.time ++ ascii " 1 IN IP4 "
    ++ Scanf.cstr call.ip, ascii "t= 0 0", ascii "a= control:*"]
    ++ if call.sessionName ≠ [] then [ascii "s=" ++ Scanf.cstr call.sessionName] else []

/-- The name and the address have no line ends. -/
def SdpCall.IsPlain (call : SdpCall) : Prop :=
  IsLine (Scanf.cstr call.sessionName) ∧ IsLine (Scanf.cstr call.ip)

theorem sessionPart_flatten (call : SdpCall) :
    (sessionPart call).flatten = ((sessionTexts call).map (· ++ crlf)).flatten := by
  unfold sessionPart sessionTexts
  by_cases h : call.sessionName ≠ []
  · rw [if_pos h, if_pos h]
    simp [RtspRequest.line]
  · rw [if_neg h, if_neg h]
    simp [RtspRequest.line]

theorem isLine_sessionTexts {call : SdpCall} (h : call.IsPlain) :
    ∀ l ∈ sessionTexts call, IsLine l ∧ ¬ IsMediaLine l := by
  have hnot : ∀ {c c' : UInt8} {l : Bytes}, c ≠ 0x6d → ¬ IsMediaLine (c :: c' :: l) := by
    rintro c c' l hc ⟨t, ht⟩
    exact hc (List.cons.inj ht).1.symm
  intro l hl
  rcases List.mem_append.mp hl with hl | hl
  · have ho : IsLine (ascii "o=- 9" ++ RtspRequest.decimal call.time ++ ascii " 1 IN IP4 "
        ++ Scanf.cstr call.ip) :=
      (((by decide : IsLine (ascii "o=- 9")).append (ResponseText.isLine_decimal _)).append
        (by decide)).append h.2
    simp only [List.mem_cons, List.not_mem_nil, or_false] at hl
    rcases hl with rfl | rfl | rfl | rfl
    · exact ⟨by decide, by decide⟩
    · exact ⟨ho, hnot (by decide)⟩
    · exact ⟨by decide, by decide⟩
    · exact ⟨by decide, by decide⟩
  · split at hl
    · rw [List.mem_singleton.mp hl]
      exact ⟨(by decide : IsLine (ascii "s=")).append h.1, hnot (by decide)⟩
    · cases hl

/-- The lines of the media blocks. -/
theorem lines_mediaText (sources : MediaChannelId → Option MediaSource) :
    TextLines.lines (mediaText sources) = (mediaBlocks sources).flatten := by
  have hcontrol : ∀ ch, TextLines.lines (controlLine ch ++ crlf) = [controlLine ch] := fun ch =>
    TextLines.lines_isLine (by cases ch <;> decide)
  have hblock : ∀ ch source rest, TextLines.lines (mediaBlock ch source ++ rest)
      = source.mediaLines ++ [controlLine ch] ++ TextLines.lines rest := by
    intro ch source rest
    have htexts := TextLines.lines_flatten [Scanf.cstr source.mediaDescription,
      Scanf.cstr source.mediaAttribute, controlLine ch] rest
    simpa [mediaBlock, MediaSource.mediaLines, hcontrol] using htexts
  have hlast : ∀ ch source, TextLines.lines (mediaBlock ch source)
      = source.mediaLines ++ [controlLine ch] := by
    intro ch source
    have hend := hblock ch source []
    rw [List.append_nil] at hend
    exact hend.trans (List.append_nil _)
  unfold mediaText mediaBlocks
  cases h₀ : sources .channel0 with
  | none =>
    cases h₁ : sources .channel1 with
    | none => simp [h₀, h₁, TextLines.lines, TextLines.scan]
    | some source₁ => simp [h₀, h₁, hlast]
  | some source₀ =>
    cases h₁ : sources .channel1 with
    | none => simp [h₀, h₁, hlast]
    | some source₁ => simp [h₀, h₁, hblock, hlast]

/-- **A receiver finds the blocks of the sources**, if each gives the lines of
one. -/
theorem blocks_description {call : SdpCall} {sources : MediaChannelId → Option MediaSource}
    (hcall : call.IsPlain) (hsources : ∀ ch source, sources ch = some source → source.IsMedia) :
    TextLines.blocks IsMediaLine (TextLines.lines (description call sources))
      = mediaBlocks sources := by
  have hsession : TextLines.lines (description call sources)
      = sessionTexts call ++ (mediaBlocks sources).flatten := by
    rw [description, List.flatten_append, sessionPart_flatten, mediaPart_flatten,
      TextLines.lines_flatten, lines_mediaText]
    congr 1
    refine (List.flatMap_congr fun l hl => ?_).trans (List.flatMap_singleton' _)
    exact TextLines.lines_isLine (isLine_sessionTexts hcall l hl).1
  rw [hsession]
  refine TextLines.blocks_append (fun l hl => (isLine_sessionTexts hcall l hl).2) fun b hb => ?_
  obtain ⟨ch, -, hch⟩ := List.mem_filterMap.mp hb
  obtain ⟨source, hsource, rfl⟩ := Option.map_eq_some_iff.mp hch
  obtain ⟨l, ls, hlines, hl, hls⟩ := hsources ch source hsource
  refine ⟨l, ls ++ [controlLine ch], by rw [hlines]; rfl, hl, fun m hm => ?_⟩
  rcases List.mem_append.mp hm with hm | hm
  · exact hls m hm
  · rw [List.mem_singleton.mp hm]
    cases ch <;> decide

/-! ## The first call -/

/-- Printing texts one behind the other is printing them at once. -/
theorem foldl_snprintf_eq (texts : List Bytes) : ∀ buf : Bytes, buf.length ≤ 1023 →
    texts.foldl (fun buf text => RtspRequest.snprintf buf 1024 text) buf
      = (buf ++ texts.flatten).take 1023 := by
  induction texts with
  | nil =>
    intro buf hbuf
    rw [List.flatten_nil, List.append_nil, List.take_of_length_le hbuf]
    rfl
  | cons text texts ih =>
    intro buf _
    have hcut : (RtspRequest.snprintf buf 1024 text).length ≤ 1023 := List.length_take_le _ _
    rw [List.foldl_cons, ih _ hcut, List.flatten_cons]
    exact RtspRequest.snprintf_snprintf buf 1024 text texts.flatten

/-- What the array holds of a description. -/
def printed (call : SdpCall) (sources : MediaChannelId → Option MediaSource) : Bytes :=
  (description call sources).take 1023

theorem printed_ne_nil (call : SdpCall) (sources : MediaChannelId → Option MediaSource) :
    printed call sources ≠ [] := fun h => by cases h

/-- The first call keeps what the array holds. -/
theorem getSdpMessage_first {s : MediaSession ρ} (h : s.sdp = []) (call : SdpCall) :
    s.getSdpMessage call.sessionName call.ip call.time
      = (printed call s.mediaSources, { s with sdp := printed call s.mediaSources }) := by
  have hprint := foldl_snprintf_eq (sessionPart call ++ mediaPart s.mediaSources) []
    (Nat.zero_le _)
  rw [List.nil_append] at hprint
  unfold getSdpMessage
  rw [if_neg (not_not_intro h)]
  exact congrArg (fun sdp => (sdp, { s with sdp := sdp })) hprint

/-- A text that there is is returned. -/
theorem getSdpMessage_kept {s : MediaSession ρ} (h : s.sdp ≠ []) (call : SdpCall) :
    s.getSdpMessage call.sessionName call.ip call.time = (s.sdp, s) := if_pos h

/-- **The first call makes the description of the sources there are**, if it
fits. -/
theorem getSdpMessage_of_fits {s : MediaSession ρ} (h : s.sdp = []) {call : SdpCall}
    (hfits : (description call s.mediaSources).length < 1024) :
    s.getSdpMessage call.sessionName call.ip call.time
      = (description call s.mediaSources, { s with sdp := description call s.mediaSources }) := by
  have hprinted : printed call s.mediaSources = description call s.mediaSources :=
    List.take_of_length_le (Nat.le_of_lt_succ hfits)
  rw [getSdpMessage_first h, hprinted]

/-- The description is not empty, so that the next call finds it. -/
theorem description_ne_nil (call : SdpCall) (sources : MediaChannelId → Option MediaSource) :
    description call sources ≠ [] := fun h => by cases h

/-! ## Any number of calls -/

/-- What is done with the description of a session. -/
inductive SdpEvent where
  | addMediaSource (channelId : MediaChannelId) (source : MediaSource)
  | removeMediaSource (channelId : MediaChannelId)
  | getSdpMessage (call : SdpCall)

/-- A session, with the first call of `getSdpMessage` and the sources there
were at that call. -/
structure SdpHistory (ρ : Type) where
  session : MediaSession ρ
  first : Option (SdpCall × (MediaChannelId → Option MediaSource)) := none

namespace SdpHistory

def step (s : SdpHistory ρ) : SdpEvent → SdpHistory ρ
  | .addMediaSource channelId source =>
    { s with session := s.session.addMediaSource channelId source }
  | .removeMediaSource channelId => { s with session := s.session.removeMediaSource channelId }
  | .getSdpMessage call =>
    { session := (s.session.getSdpMessage call.sessionName call.ip call.time).2
      first := some (s.first.getD (call, s.session.mediaSources)) }

/-- A session from its creation on. -/
def system : System (SdpHistory ρ) SdpEvent where
  init s := ∃ last suffix, s = { session := (creatNew last suffix).2 }
  step s e s' := s.step e = s'

/-- The texts fit in the buffer of 1024 bytes, with the 0 behind them: what a call
would print of the sources of the moment, also where it returns what is kept. -/
def Fits (s : SdpHistory ρ) : SdpEvent → Prop
  | .getSdpMessage call => (description call s.session.mediaSources).length < 1024
  | _ => True

/-- The text a call returns. -/
def returned (s : SdpHistory ρ) (call : SdpCall) : Bytes :=
  (s.session.getSdpMessage call.sessionName call.ip call.time).1

/-- **The text has the blocks of the sources of the moment**: behind the session
part, which stays that of the first call, there are their media blocks, and
nothing else. -/
def Prints (s : SdpHistory ρ) (call : SdpCall) : Prop :=
  s.returned call
    = (sessionPart (s.first.elim call (·.1))).flatten ++ mediaText s.session.mediaSources

/-- **A receiver finds the sources of the moment**: the media blocks that it reads
are those of the channels that have a source now. The receiver knows nothing of
how the text was made: it splits it at the line ends, begins a block at each line
`m=`, and takes a line up into the block that it stands behind. -/
def Describes (s : SdpHistory ρ) (call : SdpCall) : Prop :=
  TextLines.blocks IsMediaLine (TextLines.lines (s.returned call))
    = mediaBlocks s.session.mediaSources

/-- **The sources of the first call give the same text** as those there are
now. -/
def Unchanged (s : SdpHistory ρ) : Prop :=
  ∀ call sources, s.first = some (call, sources) →
    mediaText sources = mediaText s.session.mediaSources

/-- **The sources are those of the first call**, as far as their descriptions and
attributes say: the same channels have one, with the same lines. A source that was
replaced by another with the same lines makes no difference, for the text is made
of nothing else. -/
def SameSources (s : SdpHistory ρ) : Prop :=
  ∀ call sources, s.first = some (call, sources) →
    ∀ ch, (sources ch).map MediaSource.mediaLines
      = (s.session.mediaSources ch).map MediaSource.mediaLines

/-- **The invariant**: the text kept is that of the first call. -/
def Kept (s : SdpHistory ρ) : Prop :=
  s.session.sdp = s.first.elim [] fun first => description first.1 first.2

/-- What a call returns, and what it leaves. -/
theorem Kept.getSdpMessage {s : SdpHistory ρ} (hs : s.Kept) {call : SdpCall}
    (hfits : s.Fits (.getSdpMessage call)) :
    let first := s.first.getD (call, s.session.mediaSources)
    s.session.getSdpMessage call.sessionName call.ip call.time
      = (description first.1 first.2, { s.session with sdp := description first.1 first.2 }) := by
  unfold Kept at hs
  cases hfirst : s.first with
  | none =>
    rw [hfirst] at hs
    exact getSdpMessage_of_fits hs hfits
  | some first =>
    rw [hfirst] at hs
    dsimp only [Option.elim_some, Option.getD_some] at hs ⊢
    rw [getSdpMessage_kept (hs ▸ description_ne_nil first.1 first.2), ← hs]

theorem Kept.step {s : SdpHistory ρ} (hs : s.Kept) {e : SdpEvent} (hfits : s.Fits e) :
    (s.step e).Kept := by
  cases e with
  | addMediaSource channelId source => exact hs
  | removeMediaSource channelId => exact hs
  | getSdpMessage call =>
    show ((s.session.getSdpMessage call.sessionName call.ip call.time).2).sdp = _
    rw [hs.getSdpMessage hfits]
    rfl

theorem kept_of_run {events : List SdpEvent} {s : SdpHistory ρ}
    (hrun : (system.restrict Fits).Run events s) : s.Kept := by
  refine hrun.invariant ?_ ?_
  · rintro s ⟨last, suffix, rfl⟩
    rfl
  · rintro s e s' hs ⟨hfits, rfl⟩
    exact hs.step hfits

/-- The texts that sources and calls bring with them are those of lines, and of one
media block for each source. -/
def IsPlain : SdpEvent → Prop
  | .addMediaSource _ source => source.IsMedia
  | .removeMediaSource _ => True
  | .getSdpMessage call => call.IsPlain

/-- What is left of this in the session. -/
structure Plain (s : SdpHistory ρ) : Prop where
  sources : ∀ ch source, s.session.mediaSources ch = some source → source.IsMedia
  first : ∀ call sources, s.first = some (call, sources) →
    call.IsPlain ∧ ∀ ch source, sources ch = some source → source.IsMedia

theorem Plain.step {s : SdpHistory ρ} (hs : s.Plain) {e : SdpEvent} (he : IsPlain e) :
    (s.step e).Plain := by
  cases e with
  | addMediaSource channelId source =>
    refine ⟨fun ch x hx => ?_, hs.first⟩
    rcases update_eq_some.mp hx with ⟨-, rfl⟩ | ⟨-, hx⟩
    · exact he
    · exact hs.sources ch x hx
  | removeMediaSource channelId =>
    exact ⟨fun ch x hx => hs.sources ch x (update_none_eq_some.mp hx).2, hs.first⟩
  | getSdpMessage call =>
    have hsame : (s.step (.getSdpMessage call)).session.mediaSources = s.session.mediaSources := by
      show (s.session.getSdpMessage call.sessionName call.ip call.time).2.mediaSources = _
      unfold getSdpMessage
      split <;> rfl
    refine ⟨fun ch x hx => hs.sources ch x (hsame ▸ hx), fun call' sources hfirst => ?_⟩
    cases hf : s.first with
    | none =>
      rw [show (s.step (.getSdpMessage call)).first = some (s.first.getD _) from rfl, hf] at hfirst
      cases hfirst
      exact ⟨he, hs.sources⟩
    | some first =>
      rw [show (s.step (.getSdpMessage call)).first = some (s.first.getD _) from rfl, hf] at hfirst
      cases hfirst
      exact hs.first _ _ hf

theorem plain_of_run {events : List SdpEvent} {s : SdpHistory ρ}
    (hrun : (system.restrict Fits).Run events s) (h : ∀ e ∈ events, IsPlain e) : s.Plain := by
  induction hrun with
  | nil hinit =>
    obtain ⟨last, suffix, rfl⟩ := hinit
    exact ⟨fun ch x hx => (by cases hx), fun call sources hf => (by cases hf)⟩
  | snoc hrun hstep ih =>
    obtain ⟨-, rfl⟩ := hstep
    have hbefore := ih fun e he => h e (List.mem_append_left _ he)
    exact hbefore.step (h _ (List.mem_append_right _ (List.mem_singleton_self _)))

/-- **When a text describes the sources of the moment.** After every run, what
`getSdpMessage` returns has exactly the media blocks of the channels that
have a source now if and only if the sources at its first call give the same
text; and where the texts are lines, a receiver finds these blocks if and only
if the same channels had a source at the first call, with the same description
and the same attribute. -/
theorem describes_iff {events : List SdpEvent} {s : SdpHistory ρ}
    (hrun : (system.restrict Fits).Run events s) {call : SdpCall}
    (hfits : s.Fits (.getSdpMessage call)) :
    (s.Prints call ↔ s.Unchanged) ∧
      ((∀ e ∈ events ++ [.getSdpMessage call], IsPlain e) →
        (s.Describes call ↔ s.SameSources)) := by
  have hreturned : s.returned call = _ :=
    congrArg Prod.fst ((kept_of_run hrun).getSdpMessage hfits)
  constructor
  · unfold Prints Unchanged
    rw [hreturned, description, List.flatten_append, mediaPart_flatten]
    cases hfirst : s.first with
    | none => exact iff_of_true rfl fun _ _ h => by cases h
    | some first =>
      dsimp only [Option.elim_some, Option.getD_some]
      rw [List.append_cancel_left_eq]
      constructor
      · rintro h _ _ ⟨rfl⟩
        exact h
      · exact fun h => h first.1 first.2 rfl
  · intro hplain
    have hs := plain_of_run hrun fun e he => hplain e (List.mem_append_left _ he)
    have hcall : call.IsPlain := hplain _ (List.mem_append_right _ (List.mem_singleton_self _))
    unfold Describes SameSources
    rw [hreturned]
    cases hfirst : s.first with
    | none =>
      exact iff_of_true (blocks_description hcall hs.sources) fun _ _ h => by cases h
    | some first =>
      obtain ⟨hplain', hsources'⟩ := hs.first _ _ hfirst
      dsimp only [Option.getD_some]
      rw [blocks_description hplain' hsources', mediaBlocks_inj]
      constructor
      · rintro h _ _ ⟨rfl⟩
        exact h
      · exact fun h => h first.1 first.2 rfl

/-- The video source of the sample program. -/
def h264 : MediaSource where
  payload := 96
  clockRate := 90000
  mediaDescription := ascii "m=video 0 RTP/AVP 96"
  mediaAttribute := ascii "a=rtpmap:96 H264/90000"

/-- A call on a host without a name or an address. -/
def plainCall : SdpCall := ⟨[], ascii "0.0.0.0", 0⟩

/-- A session with that source on channel 0, and no text yet. -/
def described : SdpHistory ℕ :=
  ({ session := (creatNew 1 (ascii "live")).2 } : SdpHistory ℕ).step
    (.addMediaSource .channel0 h264)

theorem run_described :
    ((system : System (SdpHistory ℕ) SdpEvent).restrict Fits).Run
      ([] ++ [.addMediaSource .channel0 h264]) described :=
  .snoc (.nil ⟨1, ascii "live", rfl⟩) ⟨trivial, rfl⟩

/-- The text fits, before and after the source was removed. -/
theorem fits_plainCall :
    (description plainCall (Function.update (fun _ => none) MediaChannelId.channel0
      (some h264))).length < 1024 ∧
    (description plainCall fun _ => none).length < 1024 := by
  decide +kernel

theorem isMedia_h264 : h264.IsMedia :=
  ⟨ascii "m=video 0 RTP/AVP 96", [ascii "a=rtpmap:96 H264/90000"], by decide, by decide, by decide⟩

theorem isPlain_plainCall : plainCall.IsPlain := ⟨by decide, by decide⟩

/-- The text has been made, the source removed, and another one of its kind added. -/
def replaced : SdpHistory ℕ :=
  ((described.step (.getSdpMessage plainCall)).step (.removeMediaSource .channel0)).step
    (.addMediaSource .channel0 h264)

theorem run_removed :
    ((system : System (SdpHistory ℕ) SdpEvent).restrict Fits).Run
      [.addMediaSource .channel0 h264, .getSdpMessage plainCall, .removeMediaSource .channel0]
      ((described.step (.getSdpMessage plainCall)).step (.removeMediaSource .channel0)) := by
  have hfirst := run_described.snoc
    (show (system.restrict Fits).step described (.getSdpMessage plainCall) _ from
      ⟨fits_plainCall.1, rfl⟩)
  exact hfirst.snoc (show (system.restrict Fits).step _ (.removeMediaSource .channel0) _ from
    ⟨trivial, rfl⟩)

theorem isPlain_removed : ∀ e ∈ [.addMediaSource .channel0 h264, .getSdpMessage plainCall,
    .removeMediaSource .channel0], IsPlain e := by
  simp [IsPlain, isMedia_h264, isPlain_plainCall]

/-- **The text of the first call describes the new source, too**, as it gives the same
lines. -/
theorem describes_replaced : replaced.Describes plainCall ∧
    mediaBlocks replaced.session.mediaSources = [[ascii "m=video 0 RTP/AVP 96",
      ascii "a=rtpmap:96 H264/90000", ascii "a=control:track0"]] := by
  have hrun := run_removed.snoc (show (system.restrict Fits).step _
    (.addMediaSource .channel0 h264) replaced from ⟨trivial, rfl⟩)
  have hsources : replaced.session.mediaSources
      = Function.update (fun _ => none) MediaChannelId.channel0 (some h264) := by
    funext ch
    cases ch <;> rfl
  have hfits : replaced.Fits (.getSdpMessage plainCall) := by
    rw [Fits, hsources]
    exact fits_plainCall.1
  refine ⟨((describes_iff hrun hfits).2 fun e he => ?_).mpr ?_, by rw [hsources]; decide⟩
  · rcases List.mem_append.mp he with he | he
    · rcases List.mem_append.mp he with he | he
      · exact isPlain_removed e he
      · rw [List.mem_singleton.mp he]
        exact isMedia_h264
    · rw [List.mem_singleton.mp he]
      exact isPlain_plainCall
  · rintro _ _ ⟨rfl⟩ ch
    rw [hsources]
    rfl

/-- **The source is removed after the first call**, and a receiver still finds
its media block in the next text. -/
theorem removed_source_described :
    ¬ ∀ (events : List SdpEvent) (s : SdpHistory ℕ),
      ((system : System (SdpHistory ℕ) SdpEvent).restrict Fits).Run events s →
        ∀ call, s.Fits (.getSdpMessage call) →
          (∀ e ∈ events ++ [.getSdpMessage call], IsPlain e) → s.Describes call := by
  intro hall
  have hnone : ((described.step (.getSdpMessage plainCall)).step
      (.removeMediaSource .channel0)).session.mediaSources = fun _ => none := by
    funext ch
    cases ch <;> rfl
  have hfits : Fits _ (.getSdpMessage plainCall) := hnone ▸ fits_plainCall.2
  have hdescribes := hall _ _ run_removed plainCall hfits fun e he => by
    rcases List.mem_append.mp he with he | he
    · exact isPlain_removed e he
    · rw [List.mem_singleton.mp he]
      exact isPlain_plainCall
  have hreturned := congrArg Prod.fst ((kept_of_run run_removed).getSdpMessage hfits)
  have hsources : ∀ ch source, Function.update (fun _ => none) MediaChannelId.channel0 (some h264)
      ch = some source → source.IsMedia := by
    intro ch source hsource
    rcases update_eq_some.mp hsource with ⟨-, rfl⟩ | ⟨-, hsource⟩
    · exact isMedia_h264
    · cases hsource
  unfold Describes returned at hdescribes
  rw [hreturned, hnone] at hdescribes
  have hread := (blocks_description isPlain_plainCall hsources).symm.trans hdescribes
  revert hread
  decide

end SdpHistory

end MediaSession
