import RtspServer.PushFrame
import RtspServer.Transition

/-!
# The two session tables in step

`_mediaSessions` has the sessions by id, `_rtspSuffixMap` has their ids by
suffix. The suffix is also a member of the session, which anyone who has a
pointer to it may change, and `removeMediaSession` erases the suffix that the
session has by then.

`Linked` says that the tables belong together: every suffix leads to a
session, and every session is led to by one suffix. All operations keep it,
except for the removal of a session whose suffix was changed – and that
removal always breaks it (`sound_iff`).
-/

namespace Rtsp

variable {ρ : Type}

/-- The operations on the tables, and the change of a session's suffix. -/
inductive TableEvent (ρ : Type) where
  | addMediaSession (session : MediaSession ρ)
  | removeMediaSession (sessionId : MediaSessionId)
  | lookMediaSessionBySuffix (suffix : Bytes)
  | lookMediaSession (sessionId : MediaSessionId)
  | pushFrame (now : UInt32) (heap : ℕ → Block 1600) (live hasId : ℕ → ρ → Bool)
      (sessionId : MediaSessionId) (channelId : MediaChannelId) (frame : AVFrame)
  | setRtspUrlSuffix (sessionId : MediaSessionId) (suffix : Bytes)

/-- The tables after an operation. A session that is not in the tables has no
suffix there to change. -/
def exec (t : Rtsp ρ) : TableEvent ρ → Except Fault (Rtsp ρ)
  | .addMediaSession session => .ok (t.addMediaSession session).2
  | .removeMediaSession sessionId => t.removeMediaSession sessionId
  | .lookMediaSessionBySuffix suffix => .ok (t.lookMediaSessionBySuffix suffix).2
  | .lookMediaSession _ => .ok t
  | .pushFrame now heap live hasId sessionId channelId frame =>
    (·.2) <$> t.pushFrame now heap live hasId sessionId channelId frame
  | .setRtspUrlSuffix sessionId suffix =>
    match t.lookMediaSession sessionId with
    | none => .ok t
    | some session => .ok (t.setMediaSession sessionId (session.setRtspUrlSuffix suffix))

/-- A session that is added has an id of its own. -/
def HasOwnId (t : Rtsp ρ) : TableEvent ρ → Prop
  | .addMediaSession session => t.mediaSessions.lookup session.sessionId = none
  | _ => True

/-- The tables from the start of the server on. -/
def tableSystem (ρ : Type) : System (Rtsp ρ) (TableEvent ρ) where
  init t := ∃ version, t = { version := version }
  step t e t' := t.HasOwnId e ∧ t.exec e = .ok t'

/-- **The tables belong together.** A suffix that leads to no session is taken
as long as the server runs, for `addMediaSession` refuses what is in the table;
and a session that no suffix leads to cannot be described by any client. -/
structure Linked (t : Rtsp ρ) : Prop where
  /-- A suffix leads to a session. -/
  present : ∀ {suffix id}, t.rtspSuffixMap.lookup suffix = some id →
    ∃ session, t.mediaSessions.lookup id = some (some session)
  /-- A session is led to by one suffix. -/
  reached : ∀ {id session}, t.mediaSessions.lookup id = some (some session) →
    ∃! suffix, t.rtspSuffixMap.lookup suffix = some id

/-- **What an operation should do**: leave the tables linked; a look-up
leaves them as they are, and no suffix leads to a session that was
removed. -/
def Sound (t : Rtsp ρ) (e : TableEvent ρ) (t' : Rtsp ρ) : Prop :=
  Linked t' ∧ match e with
    | .lookMediaSessionBySuffix _ | .lookMediaSession _ => t' = t
    | .removeMediaSession sessionId => ∀ suffix, t'.rtspSuffixMap.lookup suffix ≠ some sessionId
    | _ => True

/-- **A session that is removed still has the suffix that leads to it.**
`removeMediaSession` erases the suffix which the session has by now. If that was
changed since the session was added, the old one stays in its table and leads to
a number without a session; and if the new one is another session's, this loses
it. -/
def KeepsSuffix (t : Rtsp ρ) : TableEvent ρ → Prop
  | .removeMediaSession sessionId => ∀ session, t.lookMediaSession sessionId = some session →
      t.rtspSuffixMap.lookup session.suffix = some sessionId
  | _ => True

theorem lookMediaSession_eq_some_iff {t : Rtsp ρ} {id : MediaSessionId}
    {session : MediaSession ρ} :
    t.lookMediaSession id = some session ↔ t.mediaSessions.lookup id = some (some session) :=
  Option.join_eq_some_iff

/-! ## The operations, one by one -/

/-- Writing through a pointer to a session changes no table. -/
theorem Linked.setMediaSession {t : Rtsp ρ} (ht : t.Linked) {id : MediaSessionId}
    {session : MediaSession ρ} (h : t.lookMediaSession id = some session)
    (session' : MediaSession ρ) : (t.setMediaSession id session').Linked := by
  rw [lookMediaSession_eq_some_iff] at h
  have hlookup : ∀ id', (t.setMediaSession id session').mediaSessions.lookup id'
      = if id' = id then some (some session') else t.mediaSessions.lookup id' := by
    intro id'
    by_cases hid : id' = id
    · rw [if_pos hid, hid]
      exact AList.lookup_insert _
    · rw [if_neg hid]
      exact AList.lookup_insert_ne hid
  constructor
  · intro suffix id' hsuffix
    rw [hlookup]
    split
    · exact ⟨session', rfl⟩
    · exact ht.present hsuffix
  · intro id' s hs
    rw [hlookup] at hs
    by_cases hid : id' = id
    · rw [hid]
      exact ht.reached h
    · rw [if_neg hid] at hs
      exact ht.reached hs

/-- A session with a new suffix and an id of its own. -/
theorem Linked.addMediaSession {t : Rtsp ρ} (ht : t.Linked) {session : MediaSession ρ}
    (hid : t.mediaSessions.lookup session.sessionId = none) :
    (t.addMediaSession session).2.Linked := by
  unfold Rtsp.addMediaSession
  cases htaken : t.rtspSuffixMap.lookup session.suffix with
  | some id => exact ht
  | none =>
    simp only [Option.isSome_none, Bool.false_eq_true, if_false, hid]
    have hnew : ∀ {suffix}, t.rtspSuffixMap.lookup suffix ≠ some session.sessionId := by
      intro suffix h
      obtain ⟨s, hs⟩ := ht.present h
      rw [hid] at hs
      cases hs
    constructor
    · intro suffix id h
      dsimp only at h ⊢
      by_cases hsuffix : suffix = session.suffix
      · rw [hsuffix, AList.lookup_insert, Option.some.injEq] at h
        exact ⟨session, h ▸ AList.lookup_insert _⟩
      · rw [AList.lookup_insert_ne hsuffix] at h
        have hne : id ≠ session.sessionId := fun heq => hnew (heq ▸ h)
        rw [AList.lookup_insert_ne hne]
        exact ht.present h
    · intro id s h
      dsimp only at h ⊢
      by_cases heq : id = session.sessionId
      · refine ⟨session.suffix, heq ▸ AList.lookup_insert _, fun suffix h' => ?_⟩
        by_contra hsuffix
        dsimp only at h'
        rw [AList.lookup_insert_ne hsuffix, heq] at h'
        exact hnew h'
      · rw [AList.lookup_insert_ne heq] at h
        obtain ⟨suffix, hsuffix, hunique⟩ := ht.reached h
        have hne : suffix ≠ session.suffix := fun heq' => by
          rw [heq', htaken] at hsuffix
          cases hsuffix
        refine ⟨suffix, (AList.lookup_insert_ne hne).trans hsuffix, fun suffix' h' => ?_⟩
        dsimp only at h'
        by_cases hsuffix' : suffix' = session.suffix
        · rw [hsuffix', AList.lookup_insert, Option.some.injEq] at h'
          exact absurd h'.symm heq
        · rw [AList.lookup_insert_ne hsuffix'] at h'
          exact hunique suffix' h'

/-- Looking a suffix up leaves linked tables as they are. -/
theorem Linked.lookMediaSessionBySuffix {t : Rtsp ρ} (ht : t.Linked) (suffix : Bytes) :
    (t.lookMediaSessionBySuffix suffix).2 = t := by
  unfold Rtsp.lookMediaSessionBySuffix
  cases hid : t.rtspSuffixMap.lookup suffix with
  | none => rfl
  | some id =>
    obtain ⟨session, hs⟩ := ht.present hid
    simp only [hs]

/-- **Removing a session by the suffix that leads to it** takes it out of both
tables. -/
theorem Linked.removeMediaSession {t : Rtsp ρ} (ht : t.Linked) {id : MediaSessionId}
    {session : MediaSession ρ} (h : t.mediaSessions.lookup id = some (some session))
    (hsuffix : t.rtspSuffixMap.lookup session.suffix = some id) {t' : Rtsp ρ}
    (hsessions : t'.mediaSessions = t.mediaSessions.erase id)
    (hsuffixes : t'.rtspSuffixMap = t.rtspSuffixMap.erase session.suffix) :
    t'.Linked ∧ ∀ suffix, t'.rtspSuffixMap.lookup suffix ≠ some id := by
  -- what another suffix leads to is another session
  have hother : ∀ {suffix id'}, t'.rtspSuffixMap.lookup suffix = some id' →
      t.rtspSuffixMap.lookup suffix = some id' ∧ id' ≠ id := by
    intro suffix id' h'
    rw [hsuffixes] at h'
    have hne : suffix ≠ session.suffix := fun heq => by
      rw [heq, AList.lookup_erase] at h'
      cases h'
    rw [AList.lookup_erase_ne hne] at h'
    exact ⟨h', fun heq => hne ((ht.reached h).unique (heq ▸ h') hsuffix)⟩
  refine ⟨⟨fun h' => ?_, fun {id' s} h' => ?_⟩, fun suffix h' => (hother h').2 rfl⟩
  · obtain ⟨hold, hne⟩ := hother h'
    rw [hsessions, AList.lookup_erase_ne hne]
    exact ht.present hold
  · rw [hsessions] at h'
    have hne : id' ≠ id := fun heq => by
      rw [heq, AList.lookup_erase] at h'
      cases h'
    rw [AList.lookup_erase_ne hne] at h'
    obtain ⟨suffix, hsuffix', hunique⟩ := ht.reached h'
    refine ⟨suffix, ?_, fun suffix' h'' => hunique suffix' (hother h'').1⟩
    dsimp only
    rw [hsuffixes, AList.lookup_erase_ne, hsuffix']
    rintro rfl
    rw [hsuffix', Option.some.injEq] at hsuffix
    exact hne hsuffix

/-- A session that has another suffix by then stays reachable. -/
theorem Linked.not_removed {t : Rtsp ρ} (ht : t.Linked) {id : MediaSessionId}
    {session : MediaSession ρ} (h : t.mediaSessions.lookup id = some (some session))
    (hsuffix : t.rtspSuffixMap.lookup session.suffix ≠ some id) :
    ∃ suffix, (t.rtspSuffixMap.erase session.suffix).lookup suffix = some id := by
  obtain ⟨suffix, hold, -⟩ := ht.reached h
  refine ⟨suffix, ?_⟩
  rw [AList.lookup_erase_ne, hold]
  rintro rfl
  exact hsuffix hold

/-- **The step lemma**: from linked tables an operation does what it should
exactly when it removes no session whose suffix was changed. -/
theorem Linked.sound_iff {t t' : Rtsp ρ} (ht : t.Linked) {e : TableEvent ρ}
    (h : (tableSystem ρ).step t e t') : Sound t e t' ↔ t.KeepsSuffix e := by
  obtain ⟨hid, h⟩ := h
  cases e with
  | addMediaSession session =>
    cases h
    exact iff_of_true ⟨ht.addMediaSession hid, trivial⟩ trivial
  | removeMediaSession id =>
    replace h : t.removeMediaSession id = .ok t' := h
    unfold Rtsp.removeMediaSession at h
    unfold KeepsSuffix
    cases hlook : t.mediaSessions.lookup id with
    | none =>
      simp only [hlook] at h
      cases h
      refine iff_of_true ⟨ht, fun suffix h' => ?_⟩ fun session h' => ?_
      · obtain ⟨s, hs⟩ := ht.present h'
        rw [hlook] at hs
        cases hs
      · rw [lookMediaSession_eq_some_iff, hlook] at h'
        cases h'
    | some entry =>
      cases entry with
      | none => simp only [hlook] at h; cases h
      | some session =>
        simp only [hlook] at h
        cases h
        constructor
        · rintro ⟨-, hgone⟩ session' h'
          rw [lookMediaSession_eq_some_iff, hlook, Option.some.injEq, Option.some.injEq] at h'
          subst h'
          by_contra hsuffix
          obtain ⟨suffix, hleads⟩ := ht.not_removed hlook hsuffix
          exact hgone suffix hleads
        · intro hkeeps
          exact ht.removeMediaSession hlook
            (hkeeps session (lookMediaSession_eq_some_iff.mpr hlook)) rfl rfl
  | lookMediaSessionBySuffix suffix =>
    cases h
    have hsame := ht.lookMediaSessionBySuffix suffix
    exact iff_of_true ⟨hsame.symm ▸ ht, hsame⟩ trivial
  | lookMediaSession id =>
    cases h
    exact iff_of_true ⟨ht, rfl⟩ trivial
  | pushFrame now heap live hasId id channelId frame =>
    obtain ⟨⟨ret, t₁⟩, hpush, rfl⟩ :
        ∃ r, t.pushFrame now heap live hasId id channelId frame = .ok r ∧ r.2 = t' := by
      cases hr : t.pushFrame now heap live hasId id channelId frame with
      | error e => simp only [exec, hr] at h; cases h
      | ok r => simp only [exec, hr] at h; cases h; exact ⟨r, rfl, rfl⟩
    refine iff_of_true ⟨?_, trivial⟩ trivial
    rcases pushFrame_spec hpush with rfl | ⟨session, clients, hlook, rfl⟩
    · exact ht
    · exact ht.setMediaSession hlook _
  | setRtspUrlSuffix id suffix =>
    refine iff_of_true ⟨?_, trivial⟩ trivial
    unfold exec at h
    cases hlook : t.lookMediaSession id with
    | none => simp only [hlook] at h; cases h; exact ht
    | some session => simp only [hlook] at h; cases h; exact ht.setMediaSession hlook _

/-! ## Runs -/

theorem linked_of_run {events : List (TableEvent ρ)} {t : Rtsp ρ}
    (hrun : ((tableSystem ρ).restrict KeepsSuffix).Run events t) : t.Linked := by
  refine hrun.invariant ?_ ?_
  · rintro t ⟨version, rfl⟩
    constructor
    · intro suffix id h; cases h
    · intro id session h; cases h
  · intro t e t' ht h
    exact ((ht.sound_iff h.2).mpr h.1).1

/-- **The tables stay in step exactly as long as no session is removed under
another suffix than the one that leads to it.** After every run without such
a removal the tables are linked, and the next operation does what it should
if and only if it is not such a removal either. -/
theorem sound_iff_keepsSuffix {events : List (TableEvent ρ)} {t : Rtsp ρ}
    (hrun : ((tableSystem ρ).restrict KeepsSuffix).Run events t) :
    t.Linked ∧ ∀ e t', (tableSystem ρ).step t e t' → (Sound t e t' ↔ t.KeepsSuffix e) :=
  ⟨linked_of_run hrun, fun _ _ h => (linked_of_run hrun).sound_iff h⟩

/-- A session named `live`. -/
def namedLive : MediaSession ℕ := { sessionId := 2, suffix := ascii "live" }

/-- The tables with that session. -/
def withLive : Rtsp ℕ := (({} : Rtsp ℕ).addMediaSession namedLive).2

theorem run_withLive {good : Rtsp ℕ → TableEvent ℕ → Prop}
    (hgood : good {} (.addMediaSession namedLive)) :
    ((tableSystem ℕ).restrict good).Run ([] ++ [.addMediaSession namedLive]) withLive :=
  .snoc (.nil ⟨[], rfl⟩) ⟨hgood, rfl, rfl⟩

/-- The session is removed under its suffix. -/
theorem sound_removeLive : Sound withLive (.removeMediaSession 2)
    { withLive with mediaSessions := ∅, rtspSuffixMap := ∅ } := by
  have hstep : (tableSystem ℕ).step withLive (.removeMediaSession 2)
      { withLive with mediaSessions := ∅, rtspSuffixMap := ∅ } := ⟨trivial, rfl⟩
  refine ((sound_iff_keepsSuffix (run_withLive trivial)).2 _ _ hstep).mpr ?_
  rintro session ⟨rfl⟩
  rfl

/-- **A session that is renamed and then removed** leaves its first suffix in
the table, which leads to nothing. -/
theorem renamed_session_not_linked :
    ¬ ∀ (events : List (TableEvent ℕ)) (t : Rtsp ℕ), (tableSystem ℕ).Run events t → t.Linked := by
  intro hall
  have hrename : (tableSystem ℕ).step withLive (.setRtspUrlSuffix 2 (ascii "old"))
      (withLive.setMediaSession 2 (namedLive.setRtspUrlSuffix (ascii "old"))) := ⟨trivial, rfl⟩
  have hremove : (tableSystem ℕ).step
      (withLive.setMediaSession 2 (namedLive.setRtspUrlSuffix (ascii "old")))
      (.removeMediaSession 2) { withLive with mediaSessions := ∅ } := ⟨trivial, rfl⟩
  have hstart : ((tableSystem ℕ).restrict fun _ _ => True).Run
      ([] ++ [.addMediaSession namedLive]) withLive := run_withLive trivial
  obtain ⟨session, hsession⟩ := (hall _ _ ((hstart.of_restrict.snoc hrename).snoc hremove)).present
    (show AList.lookup (ascii "live") withLive.rtspSuffixMap = some 2 from rfl)
  cases hsession

end Rtsp
