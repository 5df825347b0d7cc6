import Mathlib.Data.List.AList
import RtspServer.Media
import RtspServer.RtspMessage

/-!
# `MediaSession`: one stream and its clients

A session has up to one media source for each channel and a map of clients,
from the descriptor of the RTSP connection to a weak pointer to its
`RtpConnection`. Here a pointer to an `RtpConnection` is a value of a type
`ρ`; whether the object is still there is not known to the session, and
comes in as a predicate when the pointer is locked.

What the program asks a media source for – its description, its attribute,
its clock rate and payload type – are the fields of `MediaSource`. Calls of
the notify callback are returned as a list.
-/

/-- What a session reads of a `MediaSource`. -/
structure MediaSource where
  payload : UInt32
  clockRate : UInt32
  mediaDescription : Bytes
  mediaAttribute : Bytes
deriving DecidableEq

/-- A call of the notify callback. -/
structure Notification where
  sessionId : MediaSessionId
  numClients : UInt32
deriving DecidableEq

/-- The fields of `class MediaSession`; `notifies` says whether a notify
callback is set. -/
structure MediaSession (ρ : Type) where
  sessionId : MediaSessionId := 0
  suffix : Bytes
  sdp : Bytes := []
  mediaSources : MediaChannelId → Option MediaSource := fun _ => none
  clients : AList (fun _ : ℤ => ρ) := ∅
  notifies : Bool := false

namespace MediaSession

variable {ρ : Type}

/-- `creatNew` on the counter `_lastMediaSessionId`, which it advances. -/
def creatNew (lastMediaSessionId : UInt32) (rtspUrlSuffix : Bytes) :
    UInt32 × MediaSession ρ :=
  (lastMediaSessionId + 1, { sessionId := lastMediaSessionId + 1, suffix := rtspUrlSuffix })

def addMediaSource (s : MediaSession ρ) (channelId : MediaChannelId) (source : MediaSource) :
    MediaSession ρ :=
  { s with mediaSources := Function.update s.mediaSources channelId (some source) }

def removeMediaSource (s : MediaSession ρ) (channelId : MediaChannelId) : MediaSession ρ :=
  { s with mediaSources := Function.update s.mediaSources channelId none }

def setRtspUrlSuffix (s : MediaSession ρ) (suffix : Bytes) : MediaSession ρ :=
  { s with suffix := suffix }

/-- `_clients.size()`. -/
def getNumClient (s : MediaSession ρ) : UInt32 := .ofNat s.clients.entries.length

/-- The media block of one channel. -/
def sdpBlock (chn : ℕ) (source : MediaSource) : List Bytes :=
  [RtspRequest.line (Scanf.cstr source.mediaDescription),
    RtspRequest.line (Scanf.cstr source.mediaAttribute),
    RtspRequest.line (ascii "a=control:track" ++ RtspRequest.decimal chn)]

/-- `getSdpMessage`, with the local address and the clock it reads: the text
made at the first call is kept. -/
def getSdpMessage (s : MediaSession ρ) (sessionName : Bytes) (ip : Bytes) (time : ℕ) :
    Bytes × MediaSession ρ :=
  if s.sdp ≠ [] then (s.sdp, s)
  else
    let head := RtspRequest.line (ascii "v=0")
      ++ RtspRequest.line (ascii "o=- 9" ++ RtspRequest.decimal time ++ ascii " 1 IN IP4 "
        ++ Scanf.cstr ip)
      ++ RtspRequest.line (ascii "t= 0 0") ++ RtspRequest.line (ascii "a= control:*")
    let name := if sessionName ≠ [] then
      [RtspRequest.line (ascii "s=" ++ Scanf.cstr sessionName)] else []
    let blocks := [MediaChannelId.channel0, .channel1].flatMap fun ch =>
      match s.mediaSources ch with
      | some source => sdpBlock ch.index source
      | none => []
    let sdp := (head :: (name ++ blocks)).foldl
      (fun buf text => RtspRequest.snprintf buf 1024 text) []
    (sdp, { s with sdp := sdp })

/-- A client is entered only under a descriptor that has no entry. -/
def addClient (s : MediaSession ρ) (rtspfd : ℤ) (rtpConn : ρ) :
    Bool × MediaSession ρ × List Notification :=
  match s.clients.lookup rtspfd with
  | none =>
    let s := { s with clients := s.clients.insert rtspfd rtpConn }
    (true, s, if s.notifies then [⟨s.sessionId, s.getNumClient⟩] else [])
  | some _ => (false, s, [])

/-- No code calls `removeClient`. -/
def removeClient (s : MediaSession ρ) (rtspfd : ℤ) : MediaSession ρ × List Notification :=
  match s.clients.lookup rtspfd with
  | some _ =>
    let s := { s with clients := s.clients.erase rtspfd }
    (s, if s.notifies then [⟨s.sessionId, s.getNumClient⟩] else [])
  | none => (s, [])

/-- The locked part of the send callback: entries whose pointer has expired
are erased, and the rest are the connections to send to, those in front that
come last in the map. Connections whose TCP connection is gone (`id` is
empty) are left out. -/
def lockClients (s : MediaSession ρ) (live : ρ → Bool) (hasId : ρ → Bool) :
    List ρ × MediaSession ρ :=
  let kept := s.clients.entries.filter fun e => live e.2
  ((kept.map (·.2)).reverse.filter hasId,
    { s with clients := ⟨kept, s.clients.nodupKeys.sublist List.filter_sublist⟩ })

@[simp] theorem getSdpMessage_clients (s : MediaSession ρ) (sessionName ip : Bytes) (time : ℕ) :
    (s.getSdpMessage sessionName ip time).2.clients = s.clients := by
  unfold getSdpMessage
  split <;> rfl

@[simp] theorem getSdpMessage_sessionId (s : MediaSession ρ) (sessionName ip : Bytes) (time : ℕ) :
    (s.getSdpMessage sessionName ip time).2.sessionId = s.sessionId := by
  unfold getSdpMessage
  split <;> rfl

@[simp] theorem addClient_sessionId (s : MediaSession ρ) (rtspfd : ℤ) (rtpConn : ρ) :
    (s.addClient rtspfd rtpConn).2.1.sessionId = s.sessionId := by
  unfold addClient
  split <;> rfl

/-! ## The client map -/

/-- **Entering a client never changes another entry**, and where there was
one already it changes nothing. -/
theorem lookup_addClient (s : MediaSession ρ) (rtspfd fd : ℤ) (rtpConn : ρ) :
    (s.addClient rtspfd rtpConn).2.1.clients.lookup fd =
      if fd = rtspfd then some ((s.clients.lookup rtspfd).getD rtpConn)
      else s.clients.lookup fd := by
  unfold addClient
  cases h : s.clients.lookup rtspfd with
  | none =>
    by_cases hfd : fd = rtspfd
    · subst hfd
      rw [if_pos rfl]
      exact AList.lookup_insert _
    · rw [if_neg hfd]
      exact AList.lookup_insert_ne hfd
  | some r =>
    by_cases hfd : fd = rtspfd
    · subst hfd
      rw [if_pos rfl]
      exact h
    · rw [if_neg hfd]

/-- **Locking the clients erases exactly the expired entries.** -/
theorem lookup_lockClients (s : MediaSession ρ) (live hasId : ρ → Bool) (fd : ℤ) :
    (s.lockClients live hasId).2.clients.lookup fd = (s.clients.lookup fd).filter live := by
  have hmem : ∀ r, (s.lockClients live hasId).2.clients.lookup fd = some r
      ↔ s.clients.lookup fd = some r ∧ live r = true := by
    intro r
    rw [← Option.mem_def, ← Option.mem_def, AList.mem_lookup_iff, AList.mem_lookup_iff]
    exact List.mem_filter
  refine Option.ext fun r => ?_
  rw [hmem, Option.filter_eq_some_iff]

/-- **The connections to send to** are the entries of the map that are live
and have a name. -/
theorem mem_lockClients {s : MediaSession ρ} {live hasId : ρ → Bool} {r : ρ} :
    r ∈ (s.lockClients live hasId).1 ↔
      (∃ fd, s.clients.lookup fd = some r) ∧ live r = true ∧ hasId r = true := by
  constructor
  · intro h
    obtain ⟨hr, hid⟩ := List.mem_filter.mp h
    obtain ⟨e, he, rfl⟩ := List.mem_map.mp (List.mem_reverse.mp hr)
    obtain ⟨he, hlive⟩ := List.mem_filter.mp he
    exact ⟨⟨e.1, AList.mem_lookup_iff.mpr he⟩, hlive, hid⟩
  · rintro ⟨⟨fd, hfd⟩, hlive, hid⟩
    refine List.mem_filter.mpr ⟨List.mem_reverse.mpr (List.mem_map.mpr ⟨⟨fd, r⟩, ?_, rfl⟩), hid⟩
    exact List.mem_filter.mpr ⟨AList.mem_lookup_iff.mp hfd, hlive⟩

/-- **No client is sent to twice**, if no two entries have the same key
`key`. -/
theorem nodup_lockClients {κ : Type} {s : MediaSession ρ} {live hasId : ρ → Bool} {key : ρ → κ}
    (h : ∀ fd fd' r r', s.clients.lookup fd = some r → s.clients.lookup fd' = some r' →
      live r = true → live r' = true → hasId r = true → hasId r' = true → key r = key r' →
        fd = fd') :
    ((s.lockClients live hasId).1.map key).Nodup := by
  have hlist : (s.lockClients live hasId).1
      = ((s.clients.entries.filter fun e => live e.2 && hasId e.2).map (·.2)).reverse := by
    unfold lockClients
    dsimp only
    rw [List.filter_reverse, List.filter_map, List.filter_filter]
    simp only [Function.comp_apply, Bool.and_comm]
  rw [hlist, List.map_reverse, List.nodup_reverse, List.map_map]
  refine List.Nodup.map_on (fun e he e' he' hsame => ?_) (s.clients.nodupKeys.nodup.filter _)
  obtain ⟨hmem, hkept⟩ := List.mem_filter.mp he
  obtain ⟨hmem', hkept'⟩ := List.mem_filter.mp he'
  obtain ⟨hlive, hid⟩ := Bool.and_eq_true_iff.mp hkept
  obtain ⟨hlive', hid'⟩ := Bool.and_eq_true_iff.mp hkept'
  exact s.clients.nodupKeys.eq_of_fst_eq hmem hmem' (h _ _ _ _ (AList.mem_lookup_iff.mpr hmem)
    (AList.mem_lookup_iff.mpr hmem') hlive hlive' hid hid' hsame)

end MediaSession
