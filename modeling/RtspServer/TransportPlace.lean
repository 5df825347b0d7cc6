import RtspServer.TransportScan

/-!
# Where a transport is read

`parseTransport` searches the whole header text: for `RTP/AVP/TCP`, else for `RTP/AVP`
with `unicast` or `multicast` anywhere behind it, and for two numbers behind the third
part from there on (`readTransport_eq`). So the transport of a text is that of a part of
it, such as its `Transport` line or the lines that came in one read, when the words that
decide are in the part and the numbers stand at the place where the part has them.
`TransportOf` says this in terms of the text around the part, and
`TransportOf.readTransport` is that the transport is then read alike.

The condition is not only enough. The mode of the text is that of the part only if the
words are (`words_of_fst`). And a text in which the numbers are looked for at another
place has numbers that do not depend on those of the part: either the place is that of
the part, or what is read is the same whatever stands there (`transportPair_fixed`).
-/

open Scanf

namespace Scanf

/-- What is found in a string stands in the bytes it was taken from. -/
theorem cstr_drop_of_suffix {bs tail : Bytes} (h : tail <:+ cstr bs) :
    cstr (bs.drop ((cstr bs).length - tail.length)) = tail := by
  obtain ⟨front, hfront⟩ := h
  have hnul : 0 ∉ tail := fun hmem => by
    have hin := List.mem_takeWhile_imp (hfront ▸ List.mem_append_right front hmem : 0 ∈ cstr bs)
    exact absurd hin (by decide)
  have hrest : cstr (bs.dropWhile (· ≠ 0)) = [] := by
    have hhead := List.head?_dropWhile_not (· ≠ (0 : UInt8)) bs
    unfold cstr
    cases hdrop : bs.dropWhile (· ≠ 0) with
    | nil => rfl
    | cons b rest =>
      rw [hdrop] at hhead
      exact List.takeWhile_cons_of_neg (by simpa using hhead)
  have hlen : (cstr bs).length - tail.length = front.length := by
    rw [← hfront, List.length_append]
    omega
  have hcut : bs = front ++ (tail ++ bs.dropWhile (· ≠ 0)) := by
    rw [← List.append_assoc, hfront]
    exact (List.takeWhile_append_dropWhile (p := (· ≠ 0)) (l := bs)).symm
  rw [hlen, hcut, List.drop_left, cstr_append hnul, hrest, List.append_nil]

/-- A scan that begins further in front stops in front of a later one, at the same byte
or at an earlier one, whatever follows; or it fails. -/
theorem skipPast_of_suffix {c : UInt8} {bs part tail : Bytes} (hpart : part <:+ bs)
    (h : skipPast c part = some tail) :
    (∀ rest, skipPast c (bs ++ rest) = none) ∨
      ∃ tail', tail <:+ tail' ∧ tail' <:+ bs ∧
        ∀ rest, skipPast c (bs ++ rest) = some (tail' ++ rest) := by
  obtain ⟨text, rfl, -, -⟩ := skipPast_eq_some_iff.mp h
  obtain ⟨front, rfl⟩ := hpart
  have happend : ∀ rest, skipPast c (front ++ (text ++ c :: tail) ++ rest)
      = (skipPast c (front ++ (text ++ c :: tail))).map (· ++ rest) :=
    skipPast_append (by simp)
  cases hskip : skipPast c (front ++ (text ++ c :: tail)) with
  | none => exact .inl fun rest => by rw [happend, hskip, Option.map_none]
  | some tail' =>
    refine .inr ⟨tail', ?_, ?_, fun rest => by rw [happend, hskip, Option.map_some]⟩
    · rw [← List.append_assoc] at hskip
      exact suffix_of_skipPast hskip
    · obtain ⟨text', heq, -, -⟩ := skipPast_eq_some_iff.mp hskip
      exact ⟨text' ++ [c], by rw [heq, List.append_assoc]; rfl⟩

/-- **A scan that begins in front of the third part**, which ends in `=`: it ends behind
this `=`, or it does not depend on what follows. -/
theorem pairText_of_suffix {bs part : Bytes} (hpart : part <:+ bs) (h : pairText part = some []) :
    (∀ rest, pairText (bs ++ rest) = some rest) ∨
      ∀ rest rest', (pairText (bs ++ rest)).bind numberPair
        = (pairText (bs ++ rest')).bind numberPair := by
  have hfail : (∀ rest, pairText (bs ++ rest) = none) →
      (∀ rest, pairText (bs ++ rest) = some rest) ∨
      ∀ rest rest', (pairText (bs ++ rest)).bind numberPair
        = (pairText (bs ++ rest')).bind numberPair := fun hnone =>
    .inr fun rest rest' => by rw [hnone, hnone]
  unfold pairText at h
  obtain ⟨second, hsecond, hthird⟩ := Option.bind_eq_some_iff.mp h
  obtain ⟨first, hfirst, hsecond⟩ := Option.bind_eq_some_iff.mp hsecond
  rcases skipPast_of_suffix hpart hfirst with hno | ⟨first', hsuffix₁, hin₁, hskip₁⟩
  · exact hfail fun rest => by rw [pairText, hno]; rfl
  rcases skipPast_of_suffix hsuffix₁ hsecond with hno | ⟨second', hsuffix₂, hin₂, hskip₂⟩
  · exact hfail fun rest => by rw [pairText, hskip₁, Option.bind_some, hno]; rfl
  rcases skipPast_of_suffix hsuffix₂ hthird with hno | ⟨third', -, hin₃, hskip₃⟩
  · exact hfail fun rest => by
      rw [pairText, hskip₁, Option.bind_some, hskip₂, Option.bind_some, hno]
  have hread : ∀ rest, pairText (bs ++ rest) = some (third' ++ rest) := fun rest => by
    rw [pairText, hskip₁, Option.bind_some, hskip₂, Option.bind_some, hskip₃]
  by_cases hnil : third' = []
  · exact .inl fun rest => by rw [hread, hnil, List.nil_append]
  · -- the text ends in `=`, so what is left of it has one, where numbers end
    have hend : [0x3d] <:+ bs := by
      obtain ⟨text, heq, -, -⟩ := skipPast_eq_some_iff.mp hthird
      have hsecond : [0x3d] <:+ second := ⟨text, heq.symm⟩
      exact hsecond.trans (hsuffix₂.trans (hin₂.trans hin₁))
    have heq : 0x3d ∈ third' :=
      (List.suffix_of_suffix_length_le hend (hin₃.trans (hin₂.trans hin₁))
        (List.length_pos_iff.mpr hnil)).subset List.mem_cons_self
    refine .inr fun rest rest' => ?_
    rw [hread, hread, Option.bind_some, Option.bind_some,
      numberPair_append heq (by decide) (by decide) (by decide) rest,
      numberPair_append heq (by decide) (by decide) (by decide) rest']

end Scanf

namespace Search

variable {α : Type*} [DecidableEq α] {pat part : List α} {i : ℕ}

/-- What a part has is found in a text around it, there or further in front. -/
theorem find_around (h : find pat part = some i) (front behind : List α) :
    ∃ k ≤ front.length + i, find pat (front ++ (part ++ behind)) = some k ∧
      part.drop i <:+ (front ++ part).drop k := by
  obtain ⟨hlen, hat, -⟩ := find_eq_some_iff.mp h
  have hat' : pat <+: (front ++ (part ++ behind)).drop (front.length + i) := by
    rw [← List.drop_drop, List.drop_left, List.drop_append_of_le_length hlen]
    exact hat.trans (List.prefix_append _ _)
  have hlen' : front.length + i ≤ (front ++ (part ++ behind)).length := by
    rw [List.length_append, List.length_append]
    omega
  cases hfind : find pat (front ++ (part ++ behind)) with
  | none => exact absurd hat' (find_eq_none_iff.mp hfind _ hlen')
  | some k =>
    have hk : k ≤ front.length + i := by
      by_contra hlt
      exact (find_eq_some_iff.mp hfind).2.2 _ (Nat.lt_of_not_le hlt) hat'
    refine ⟨k, hk, rfl, ?_⟩
    have hdrop : (front ++ part).drop (front.length + i) = part.drop i := by
      rw [← List.drop_drop, List.drop_left]
    obtain ⟨m, hm⟩ := Nat.exists_eq_add_of_le hk
    rw [← hdrop, hm, ← List.drop_drop]
    exact List.drop_suffix _ _

end Search

namespace RtspRequest

/-! ## What decides on a transport -/

/-- A word stands behind the first `RTP/AVP` of a text. -/
def Says (word text : Bytes) : Prop :=
  ∃ k ∈ Search.find (ascii "RTP/AVP") text, word <:+: text.drop k

instance (word text : Bytes) : Decidable (Says word text) := by
  unfold Says
  infer_instance

/-- The name that the numbers of a transport are looked for behind. -/
def transportKey (text : Bytes) : Bytes :=
  if ascii "RTP/AVP/TCP" <:+: text then ascii "RTP/AVP/TCP" else ascii "RTP/AVP"

/-- **A transport with numbers**: one over TCP or a unicast one. A multicast transport
has none. -/
def HasNumbers (text : Bytes) : Prop :=
  ascii "RTP/AVP/TCP" <:+: text ∨ Says (ascii "unicast") text

instance (text : Bytes) : Decidable (HasNumbers text) := inferInstanceAs (Decidable (_ ∨ _))

/-- The two numbers behind a name. -/
def transportPair (key text : Bytes) : Option (UInt32 × UInt32) :=
  (Search.find key text).bind fun k => scanPair (text.drop k)

/-- **The place of the two numbers**: behind the `=` that ends the third part. The
numbers need not be complete there. -/
def transportPlace (key text : Bytes) : Option ℕ :=
  (Search.find key text).bind fun k => (pairText (cstr (text.drop k))).map fun tail =>
    k + ((cstr (text.drop k)).length - tail.length)

/-- The numbers are read at their place. -/
theorem transportPair_eq (key text : Bytes) : transportPair key text
    = (transportPlace key text).bind fun i => numberPair (cstr (text.drop i)) := by
  unfold transportPair transportPlace
  cases Search.find key text with
  | none => rfl
  | some k =>
    rw [Option.bind_some, Option.bind_some, scanPair_eq]
    cases hpair : pairText (cstr (text.drop k)) with
    | none => rfl
    | some tail =>
      have htail : tail <:+ cstr (text.drop k) := (pairText_spec hpair []).1
      rw [Option.map_some, Option.bind_some, Option.bind_some, ← List.drop_drop,
        cstr_drop_of_suffix htail]

/-- **The transport of a text**, by the words and the numbers in it. -/
theorem readTransport_eq {text : Bytes} (hname : ascii "Transport" <:+: text) :
    readTransport text =
      if ascii "RTP/AVP/TCP" <:+: text then
        (some .rtpOverTcp, (transportPair (ascii "RTP/AVP/TCP") text).map
          fun (a, b) => ((.rtpChannel, a), (.rtcpChannel, b)))
      else if Says (ascii "unicast") text then
        (some .rtpOverUdp, (transportPair (ascii "RTP/AVP") text).map
          fun (a, b) => ((.rtpPort, a), (.rtcpPort, b)))
      else if Says (ascii "multicast") text then
        (some .rtpOverMulticast, some ((.rtpPort, 0), (.rtcpPort, 0)))
      else (none, none) := by
  by_cases htcp : ascii "RTP/AVP/TCP" <:+: text
  · obtain ⟨k, hk⟩ := Option.isSome_iff_exists.mp (find_isSome_of_isInfix htcp)
    rw [if_pos htcp, readTransport_of_tcp hname hk, transportPair, hk, Option.bind_some]
  · rw [if_neg htcp]
    cases hk : Search.find (ascii "RTP/AVP") text with
    | none =>
      have htexts : ∀ word, ¬ Says word text := by
        rintro word ⟨k, hfind, -⟩
        rw [hk] at hfind
        cases hfind
      unfold readTransport
      rw [if_neg fun h => Search.find_eq_none_iff_not_isInfix.mp h hname,
        Search.find_eq_none_iff_not_isInfix.mpr htcp, hk, if_neg (htexts _), if_neg (htexts _)]
    | some k =>
      have htexts : ∀ word, Says word text ↔ word <:+: text.drop k := by
        intro word
        unfold Says
        rw [hk]
        simp
      by_cases hunicast : ascii "unicast" <:+: text.drop k
      · rw [if_pos ((htexts _).mpr hunicast), readTransport_of_udp hname htcp hk hunicast,
          transportPair, hk, Option.bind_some]
      · rw [if_neg (mt (htexts _).mp hunicast), readTransport_of_not_unicast hname htcp hk hunicast]
        exact if_congr (htexts _).symm rfl rfl

/-! ## A part that decides -/

/-- **The transport of a text is that of a part of it.** The words that decide on the
mode are in the part, so that the lines around it say nothing that it does not say. And
the numbers of the part stand at the place where those of the text are looked for; a part
whose numbers are not complete gets none from the text around it. -/
structure TransportOf (front part behind : Bytes) : Prop where
  /-- TCP is named in the part or not at all. -/
  tcp : ascii "RTP/AVP/TCP" <:+: front ++ (part ++ behind) → ascii "RTP/AVP/TCP" <:+: part
  /-- So is `unicast`, behind the first `RTP/AVP`; over TCP it does not matter. -/
  unicast : Says (ascii "unicast") (front ++ (part ++ behind)) → HasNumbers part
  /-- So is `multicast`, which does not matter beside `unicast` either. -/
  multicast : Says (ascii "multicast") (front ++ (part ++ behind)) →
    HasNumbers part ∨ Says (ascii "multicast") part
  /-- No name and no mark in front of the part moves the place of its numbers. -/
  place : HasNumbers part → (transportPair (transportKey part) part).isSome = true →
    transportPlace (transportKey part) (front ++ (part ++ behind))
      = (transportPlace (transportKey part) part).map (front.length + ·)
  /-- Numbers that the part lacks are not taken from elsewhere. -/
  lacks : HasNumbers part → transportPair (transportKey part) part = none →
    transportPair (transportKey part) (front ++ (part ++ behind)) = none

instance (front part behind : Bytes) : Decidable (TransportOf front part behind) :=
  decidable_of_iff
    ((ascii "RTP/AVP/TCP" <:+: front ++ (part ++ behind) → ascii "RTP/AVP/TCP" <:+: part) ∧
    (Says (ascii "unicast") (front ++ (part ++ behind)) → HasNumbers part) ∧
    (Says (ascii "multicast") (front ++ (part ++ behind)) →
      HasNumbers part ∨ Says (ascii "multicast") part) ∧
    (HasNumbers part → (transportPair (transportKey part) part).isSome = true →
      transportPlace (transportKey part) (front ++ (part ++ behind))
        = (transportPlace (transportKey part) part).map (front.length + ·)) ∧
    (HasNumbers part → transportPair (transportKey part) part = none →
      transportPair (transportKey part) (front ++ (part ++ behind)) = none))
    ⟨fun ⟨h₁, h₂, h₃, h₄, h₅⟩ => ⟨h₁, h₂, h₃, h₄, h₅⟩,
      fun h => ⟨h.tcp, h.unicast, h.multicast, h.place, h.lacks⟩⟩

variable {front part behind : Bytes}

/-- What the part says is said in the text. -/
theorem Says.around {word : Bytes} (h : Says word part) (front behind : Bytes) :
    Says word (front ++ (part ++ behind)) := by
  obtain ⟨i, hi, hword⟩ := h
  obtain ⟨k, -, hk, hsuffix⟩ := Search.find_around hi front behind
  refine ⟨k, hk, (hword.trans hsuffix.isInfix).trans ?_⟩
  rw [← List.append_assoc]
  exact ((List.prefix_append _ _).drop k).isInfix

theorem isInfix_around {pat : Bytes} (h : pat <:+: part) (front behind : Bytes) :
    pat <:+: front ++ (part ++ behind) :=
  h.trans ((List.prefix_append _ _).isInfix.trans (List.suffix_append _ _).isInfix)

/-- **The numbers of the part are those of the text**, when the part ends in a line
end. -/
theorem TransportOf.pair (h : TransportOf front part behind) (hend : [0x0a] <:+ part)
    (hnumbers : HasNumbers part) :
    transportPair (transportKey part) (front ++ (part ++ behind))
      = transportPair (transportKey part) part := by
  cases hpair : transportPair (transportKey part) part with
  | none => exact h.lacks hnumbers hpair
  | some ab =>
    have hplace := h.place hnumbers (by rw [hpair]; rfl)
    rw [transportPair_eq] at hpair ⊢
    obtain ⟨i, hi, hread⟩ := Option.bind_eq_some_iff.mp hpair
    rw [hplace, hi, Option.map_some, Option.bind_some, ← List.drop_drop, List.drop_left]
    have hlen : i ≤ part.length := by
      by_contra hlong
      rw [List.drop_of_length_le (by omega)] at hread
      cases hread
    have hne : part.drop i ≠ [] := by
      intro hnil
      rw [hnil] at hread
      cases hread
    rw [List.drop_append_of_le_length hlen]
    by_cases hnul : 0 ∈ part.drop i
    · rw [cstr_append_of_mem hnul, hread]
    · rw [cstr_of_notMem hnul] at hread
      rw [cstr_append hnul]
      have hend' : [0x0a] <:+ part.drop i := List.suffix_of_suffix_length_le hend
        (List.drop_suffix _ _) (List.length_pos_iff.mpr hne)
      exact numberPair_append_of_some hend' hread _

/-- **The transport of the text is that of the part.** -/
theorem TransportOf.readTransport (h : TransportOf front part behind) (hend : [0x0a] <:+ part)
    (hname : ascii "Transport" <:+: part) :
    RtspRequest.readTransport (front ++ (part ++ behind)) = RtspRequest.readTransport part := by
  rw [readTransport_eq hname, readTransport_eq (isInfix_around hname front behind)]
  have hpair := h.pair hend
  by_cases htcp : ascii "RTP/AVP/TCP" <:+: part
  · have hkey : transportKey part = ascii "RTP/AVP/TCP" := if_pos htcp
    rw [if_pos htcp, if_pos (isInfix_around htcp front behind), ← hkey, hpair (.inl htcp)]
  · have hkey : transportKey part = ascii "RTP/AVP" := if_neg htcp
    rw [if_neg htcp, if_neg (mt h.tcp htcp)]
    by_cases hunicast : Says (ascii "unicast") part
    · rw [if_pos hunicast, if_pos (hunicast.around front behind), ← hkey, hpair (.inr hunicast)]
    · have hnone : ¬ HasNumbers part := not_or.mpr ⟨htcp, hunicast⟩
      rw [if_neg hunicast, if_neg (mt h.unicast hnone)]
      by_cases hmulticast : Says (ascii "multicast") part
      · rw [if_pos hmulticast, if_pos (hmulticast.around front behind)]
      · rw [if_neg hmulticast,
          if_neg (mt (fun htexts => (h.multicast htexts).resolve_left hnone) hmulticast)]

/-- A part with numbers makes the text one with numbers. -/
theorem HasNumbers.around (h : HasNumbers part) (front behind : Bytes) :
    HasNumbers (front ++ (part ++ behind)) :=
  h.imp (isInfix_around · front behind) (·.around front behind)

/-- The text and the part look for their numbers behind the same name. -/
theorem transportKey_around
    (h : ascii "RTP/AVP/TCP" <:+: front ++ (part ++ behind) → ascii "RTP/AVP/TCP" <:+: part) :
    transportKey (front ++ (part ++ behind)) = transportKey part := by
  unfold transportKey
  exact if_congr ⟨h, (isInfix_around · front behind)⟩ rfl rfl

/-- Two texts with the same numbers, behind the same name, say the same. -/
theorem setupOf_congr {text text' : Bytes} (hname : ascii "Transport" <:+: text)
    (hname' : ascii "Transport" <:+: text') (h : HasNumbers text) (h' : HasNumbers text')
    (hkey : transportKey text = transportKey text')
    (hpair : transportPair (transportKey text) text = transportPair (transportKey text') text') :
    setupOf text = setupOf text' := by
  have hread : readTransport text = readTransport text' := by
    rw [readTransport_eq hname, readTransport_eq hname']
    unfold transportKey at hkey hpair
    by_cases htcp : ascii "RTP/AVP/TCP" <:+: text
    · by_cases htcp' : ascii "RTP/AVP/TCP" <:+: text'
      · rw [if_pos htcp, if_pos htcp'] at hpair
        rw [if_pos htcp, if_pos htcp', hpair]
      · rw [if_pos htcp, if_neg htcp'] at hkey
        exact absurd hkey (by decide)
    · by_cases htcp' : ascii "RTP/AVP/TCP" <:+: text'
      · rw [if_neg htcp, if_pos htcp'] at hkey
        exact absurd hkey (by decide)
      · rw [if_neg htcp, if_neg htcp'] at hpair
        rw [if_neg htcp, if_neg htcp', if_pos (h.resolve_left htcp),
          if_pos (h'.resolve_left htcp'), hpair]
  unfold setupOf transportNumber
  rw [hread]

/-- A transport with numbers is complete when it has both. -/
theorem isSome_readTransport {text : Bytes} (hname : ascii "Transport" <:+: text)
    (h : HasNumbers text) : (readTransport text).2.isSome
      = (transportPair (transportKey text) text).isSome := by
  rw [readTransport_eq hname]
  unfold transportKey
  by_cases htcp : ascii "RTP/AVP/TCP" <:+: text
  · rw [if_pos htcp, if_pos htcp]
    exact Option.isSome_map
  · rw [if_neg htcp, if_neg htcp, if_pos (h.resolve_left htcp)]
    exact Option.isSome_map

/-! ## No other condition will do -/

/-- **The mode of the text is that of the part only if the words are.** -/
theorem words_of_fst (hname : ascii "Transport" <:+: part)
    (h : (RtspRequest.readTransport (front ++ (part ++ behind))).1
      = (RtspRequest.readTransport part).1) :
    (ascii "RTP/AVP/TCP" <:+: front ++ (part ++ behind) → ascii "RTP/AVP/TCP" <:+: part) ∧
    (Says (ascii "unicast") (front ++ (part ++ behind)) → HasNumbers part) ∧
    (Says (ascii "multicast") (front ++ (part ++ behind)) →
      HasNumbers part ∨ Says (ascii "multicast") part) := by
  rw [readTransport_eq hname, readTransport_eq (isInfix_around hname front behind)] at h
  by_cases htcp : ascii "RTP/AVP/TCP" <:+: part
  · exact ⟨fun _ => htcp, fun _ => .inl htcp, fun _ => .inl (.inl htcp)⟩
  by_cases hunicast : Says (ascii "unicast") part
  · rw [if_neg htcp, if_pos hunicast] at h
    refine ⟨fun htcp' => ?_, fun _ => .inr hunicast, fun _ => .inl (.inr hunicast)⟩
    rw [if_pos htcp'] at h
    cases h
  · rw [if_neg htcp, if_neg hunicast] at h
    have hmode : ∀ mode, ¬ mode = TransportMode.rtpOverMulticast →
        ¬ some mode = (if Says (ascii "multicast") part then
          (some TransportMode.rtpOverMulticast,
            some ((HeaderLineKey.rtpPort, (0 : UInt32)), (HeaderLineKey.rtcpPort, (0 : UInt32))))
          else (none, none)).1 := by
      intro mode hmode heq
      split at heq
      · exact hmode (Option.some.inj heq)
      · cases heq
    have htcp' : ¬ ascii "RTP/AVP/TCP" <:+: front ++ (part ++ behind) := by
      intro htcp'
      rw [if_pos htcp'] at h
      exact hmode _ (by decide) h
    have hunicast' : ¬ Says (ascii "unicast") (front ++ (part ++ behind)) := by
      intro hunicast'
      rw [if_neg htcp', if_pos hunicast'] at h
      exact hmode _ (by decide) h
    refine ⟨fun h => absurd h htcp', fun h => absurd h hunicast', fun hmulticast' => .inr ?_⟩
    by_contra hmulticast
    rw [if_neg htcp', if_neg hunicast', if_pos hmulticast', if_neg hmulticast] at h
    cases h

variable {key pre : Bytes}

/-- A text that ends with the place of the numbers. -/
theorem pairText_of_place (h : transportPlace key pre = some pre.length) :
    ∃ k, Search.find key pre = some k ∧ 0 ∉ pre.drop k ∧ pairText (pre.drop k) = some [] := by
  unfold transportPlace at h
  obtain ⟨k, hk, hplace⟩ := Option.bind_eq_some_iff.mp h
  obtain ⟨tail, htail, hlen⟩ := Option.map_eq_some_iff.mp hplace
  have hkLen := (Search.find_eq_some_iff.mp hk).1
  have hprefix : cstr (pre.drop k) <+: pre.drop k := List.takeWhile_prefix _
  have hle := hprefix.length_le
  have hsuffix : tail <:+ cstr (pre.drop k) := (pairText_spec htail []).1
  have hle' := hsuffix.length_le
  rw [List.length_drop] at hle
  have hwhole : cstr (pre.drop k) = pre.drop k :=
    hprefix.eq_of_length (by rw [List.length_drop]; omega)
  have hnil : tail = [] := List.eq_nil_of_length_eq_zero (by omega)
  refine ⟨k, hk, ?_, by rw [← hwhole, htail, hnil]⟩
  rw [← hwhole]
  intro hmem
  exact absurd (List.mem_takeWhile_imp hmem) (by decide)

/-- The place does not depend on what stands there. -/
theorem transportPlace_append (h : transportPlace key pre = some pre.length) (rest : Bytes) :
    transportPlace key (pre ++ rest) = some pre.length := by
  obtain ⟨k, hk, hnul, hpair⟩ := pairText_of_place h
  have hlen := (Search.find_eq_some_iff.mp hk).1
  unfold transportPlace
  rw [Search.find_append_of_some hk, Option.bind_some, List.drop_append_of_le_length hlen,
    cstr_append hnul, (pairText_spec hpair _).2, Option.map_some, List.length_append,
    List.length_drop]
  simp only [List.nil_append]
  congr 1
  omega

/-- **The place of the numbers is that of the part, or the numbers are not those of the
part**: what is read is then the same whatever stands at the place. -/
theorem transportPair_fixed (h : transportPlace key pre = some pre.length) (front : Bytes) :
    (∀ rest, transportPlace key (front ++ (pre ++ rest)) = some (front.length + pre.length)) ∨
      ∀ rest rest', transportPair key (front ++ (pre ++ rest))
        = transportPair key (front ++ (pre ++ rest')) := by
  obtain ⟨i, hi, -, hpair⟩ := pairText_of_place h
  obtain ⟨k, -, hk, hsuffix⟩ := Search.find_around hi front []
  rw [List.append_nil] at hk
  have hlen := (Search.find_eq_some_iff.mp hk).1
  have hfind : ∀ rest, Search.find key (front ++ (pre ++ rest)) = some k := fun rest => by
    rw [← List.append_assoc]
    exact Search.find_append_of_some hk
  have hdrop : ∀ rest, (front ++ (pre ++ rest)).drop k = (front ++ pre).drop k ++ rest :=
    fun rest => by rw [← List.append_assoc, List.drop_append_of_le_length hlen]
  unfold transportPlace transportPair
  by_cases hnul : 0 ∈ (front ++ pre).drop k
  · -- the scan ends at the NUL
    refine .inr fun rest rest' => ?_
    rw [hfind, hfind, Option.bind_some, Option.bind_some, hdrop, hdrop, scanPair_eq, scanPair_eq,
      cstr_append_of_mem hnul, cstr_append_of_mem hnul]
  · rcases pairText_of_suffix hsuffix hpair with hread | hfixed
    · refine .inl fun rest => ?_
      rw [hfind, Option.bind_some, hdrop, cstr_append hnul, hread, Option.map_some,
        List.length_append, List.length_drop, List.length_append]
      rw [List.length_append] at hlen
      congr 1
      omega
    · refine .inr fun rest rest' => ?_
      rw [hfind, hfind, Option.bind_some, Option.bind_some, hdrop, hdrop, scanPair_eq, scanPair_eq,
        cstr_append hnul, cstr_append hnul]
      exact hfixed _ _

end RtspRequest
