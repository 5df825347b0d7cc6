import RtspServer.MediaSession

/-!
# The session tables of `RtspServer`

The server finds a session by its id in `_mediaSessions` and by its URL
suffix in `_rtspSuffixMap`, which gives an id. The two tables are kept as in
the source, with the operations that read and write them: among them that
looking a suffix up reads `_mediaSessions[id]`, which enters a null pointer
under an id that is not there.

A session is stored under its id; code that holds a pointer to it writes
through `setMediaSession`.
-/

/-- The tables of `RtspServer`, and the version string of its base class
`Rtsp`. -/
structure Rtsp (ρ : Type) where
  version : Bytes := []
  mediaSessions : AList (fun _ : MediaSessionId => Option (MediaSession ρ)) := ∅
  rtspSuffixMap : AList (fun _ : Bytes => MediaSessionId) := ∅

namespace Rtsp

variable {ρ : Type}

/-- The id of the session, or 0 when its suffix is taken. A session whose id
is in the table already is not entered. -/
def addMediaSession (t : Rtsp ρ) (session : MediaSession ρ) : MediaSessionId × Rtsp ρ :=
  if (t.rtspSuffixMap.lookup session.suffix).isSome then (0, t)
  else
    let suffixes := t.rtspSuffixMap.insert session.suffix session.sessionId
    let sessions := if (t.mediaSessions.lookup session.sessionId).isSome then t.mediaSessions
      else t.mediaSessions.insert session.sessionId (some session)
    (session.sessionId, { t with mediaSessions := sessions, rtspSuffixMap := suffixes })

def removeMediaSession (t : Rtsp ρ) (sessionId : MediaSessionId) : Except Fault (Rtsp ρ) :=
  match t.mediaSessions.lookup sessionId with
  | none => .ok t
  | some none => .error .nullPointer
  | some (some session) =>
    .ok { t with
      mediaSessions := t.mediaSessions.erase sessionId
      rtspSuffixMap := t.rtspSuffixMap.erase session.suffix }

/-- `lookMediaSession` by suffix: the session and the key it is stored
under. -/
def lookMediaSessionBySuffix (t : Rtsp ρ) (suffix : Bytes) :
    Option (MediaSessionId × MediaSession ρ) × Rtsp ρ :=
  match t.rtspSuffixMap.lookup suffix with
  | none => (none, t)
  | some id =>
    match t.mediaSessions.lookup id with
    | some session => (session.map fun s => (id, s), t)
    | none => (none, { t with mediaSessions := t.mediaSessions.insert id none })

/-- `lookMediaSession` by id. -/
def lookMediaSession (t : Rtsp ρ) (sessionId : MediaSessionId) : Option (MediaSession ρ) :=
  (t.mediaSessions.lookup sessionId).join

/-- Writing a session back through a pointer from the table. -/
def setMediaSession (t : Rtsp ρ) (sessionId : MediaSessionId) (session : MediaSession ρ) :
    Rtsp ρ :=
  { t with mediaSessions := t.mediaSessions.insert sessionId (some session) }

theorem lookMediaSession_setMediaSession (t : Rtsp ρ) (id id' : MediaSessionId)
    (session : MediaSession ρ) :
    (t.setMediaSession id session).lookMediaSession id' =
      if id' = id then some session else t.lookMediaSession id' := by
  unfold lookMediaSession setMediaSession
  by_cases h : id' = id
  · subst h
    rw [if_pos rfl, AList.lookup_insert]
    rfl
  · rw [if_neg h, AList.lookup_insert_ne h]

/-- **Looking a suffix up shows the sessions as they are.** What it returns is
stored under the id it returns, and no look-up by id changes. -/
theorem lookMediaSessionBySuffix_spec (t : Rtsp ρ) (suffix : Bytes) :
    (∀ id s, (t.lookMediaSessionBySuffix suffix).1 = some (id, s) →
      t.lookMediaSession id = some s) ∧
    ∀ id, (t.lookMediaSessionBySuffix suffix).2.lookMediaSession id = t.lookMediaSession id := by
  unfold lookMediaSessionBySuffix
  cases hid : t.rtspSuffixMap.lookup suffix with
  | none => exact ⟨fun id s h => (by cases h), fun _ => rfl⟩
  | some id =>
    dsimp only
    cases hs : t.mediaSessions.lookup id with
    | none =>
      refine ⟨fun id s h => (by cases h), fun id' => ?_⟩
      show (AList.lookup id' (t.mediaSessions.insert id none)).join = _
      unfold lookMediaSession
      by_cases h : id' = id
      · subst h
        rw [AList.lookup_insert, hs]
        rfl
      · rw [AList.lookup_insert_ne h]
    | some session =>
      refine ⟨fun id' s h => ?_, fun _ => rfl⟩
      obtain ⟨s', rfl, heq⟩ := Option.map_eq_some_iff.mp h
      cases heq
      unfold lookMediaSession
      rw [hs]
      rfl

@[simp] theorem lookMediaSessionBySuffix_version (t : Rtsp ρ) (suffix : Bytes) :
    (t.lookMediaSessionBySuffix suffix).2.version = t.version := by
  unfold lookMediaSessionBySuffix
  cases t.rtspSuffixMap.lookup suffix with
  | none => rfl
  | some id =>
    dsimp only
    cases t.mediaSessions.lookup id with
    | none => rfl
    | some session => rfl

end Rtsp
