import RtspServer.RtspMessage
import RtspServer.ScanfWords

/-!
# The arrays of `parseRequestLine`

The words of a request line and the parts of its URL are stored in five
arrays, and no conversion is given the size of its array. Here the line is
cut into these parts without arrays: the three words of the line
(`methodWord`, `urlWord`, `versionWord`), and of the URL the parts that the
two formats find (`portParts`, `pathParts`). The parser runs without a fault
if and only if the parts that it stores fit (`inBounds_iff`).

A URL is given to the format with a port first, whether it has one or not:
what stands before the first colon is stored as the host, the path included
when no colon ends the host.
-/

namespace Scanf

/-- Three converted values of a request line. -/
def strings3 : List Value → Option (Bytes × Bytes × Bytes)
  | [.str a, .str b, .str c] => some (a, b, c)
  | _ => none

/-- The values of a port and a path. -/
def numberPath : List Value → Option (UInt32 × Bytes)
  | [.num port, .str path] => some (port, path)
  | _ => none

/-- The values of a URL with a port. -/
def hostPortPath : List Value → Option (Bytes × UInt32 × Bytes)
  | [.str host, .num port, .str path] => some (host, port, path)
  | _ => none

theorem hostPortPath_cons (host : Bytes) (vs : List Value) :
    hostPortPath (.str host :: vs) = (numberPath vs).map (host, ·) := by
  unfold hostPortPath numberPath
  rcases vs with _ | ⟨v, _ | ⟨v', _ | ⟨v'', vs⟩⟩⟩
  · rfl
  · cases v <;> rfl
  · cases v <;> cases v' <;> rfl
  · cases v <;> cases v' <;> rfl

/-- The values of a URL without a port. -/
def hostPath : List Value → Option (Bytes × Bytes)
  | [.str host, .str path] => some (host, path)
  | _ => none

/-- The port and the path that `%hu/%s` finds. -/
def portPath (bs : Bytes) : Option (UInt32 × Bytes) :=
  match number (bs.dropWhile isSpace) with
  | some (port, b :: path) =>
    if b = 0x2f ∧ firstWord path ≠ [] then some (.ofNat (port % 65536), firstWord path) else none
  | _ => none

/-- The host, the port and the path that `%[^:]:%hu/%s` finds. -/
def portParts (bs : Bytes) : Option (Bytes × UInt32 × Bytes) :=
  match bs.dropWhile (· ≠ 0x3a) with
  | [] => none
  | _ :: tail =>
    if bs.takeWhile (· ≠ 0x3a) = [] then none
    else (portPath tail).map (bs.takeWhile (· ≠ 0x3a), ·)

/-- The host that is found ends in front of the first colon. -/
theorem portParts_fst {bs : Bytes} {parts : Bytes × UInt32 × Bytes}
    (h : portParts bs = some parts) : parts.1 = bs.takeWhile (· ≠ 0x3a) := by
  unfold portParts at h
  split at h
  · cases h
  · split at h
    · cases h
    · obtain ⟨_, -, rfl⟩ := Option.map_eq_some_iff.mp h
      rfl

/-- The host and the path that `%[^/]/%s` finds. -/
def pathParts (bs : Bytes) : Option (Bytes × Bytes) :=
  match bs.dropWhile (· ≠ 0x2f) with
  | [] => none
  | _ :: path =>
    if bs.takeWhile (· ≠ 0x2f) = [] ∨ firstWord path = [] then none
    else some (bs.takeWhile (· ≠ 0x2f), firstWord path)

/-- **The three words of a line**, each with its array. -/
theorem scan_words (k l m : ℕ) (bs : Bytes) :
    (scan [.str k, .space, .str l, .space, .str m] bs).map strings3 =
      let a := firstWord bs
      let b := firstWord (afterWord bs)
      let c := firstWord (afterWord (afterWord bs))
      if a ≠ [] ∧ k ≤ a.length ∨ b ≠ [] ∧ l ≤ b.length ∨ c ≠ [] ∧ m ≤ c.length then
        .error .outOfBounds
      else .ok (if c = [] then none else some (a, b, c)) := by
  have hspace : ∀ size ds text,
      scan (.space :: .str size :: ds) text = scan (.str size :: ds) text := by
    intro size ds text
    rw [show scan (.space :: .str size :: ds) text
      = scan (.str size :: ds) (text.dropWhile isSpace) from rfl, scan_str_eq, scan_str_eq,
      firstWord_dropWhile, afterWord_dropWhile]
  have hb : firstWord bs = [] → firstWord (afterWord bs) = [] := firstWord_afterWord
  have hc : firstWord (afterWord bs) = [] → firstWord (afterWord (afterWord bs)) = [] :=
    firstWord_afterWord
  dsimp only
  rw [scan_str_eq, hspace, scan_str_eq, hspace, scan_str_eq]
  by_cases ha : firstWord bs = []
  · simp [ha, hb ha, hc (hb ha), Except.map, strings3]
  · by_cases ha' : k ≤ (firstWord bs).length
    · simp [ha, ha', Except.map]
    · by_cases hb' : firstWord (afterWord bs) = []
      · simp [ha, ha', hb', hc hb', Except.map, strings3]
      · by_cases hl : l ≤ (firstWord (afterWord bs)).length
        · simp [ha, ha', hb', hl, Except.map]
        · by_cases hc' : firstWord (afterWord (afterWord bs)) = []
          · simp [ha, ha', hb', hl, hc', Except.map, strings3]
          · by_cases hm : m ≤ (firstWord (afterWord (afterWord bs))).length
            · simp [ha, ha', hb', hl, hc', hm, Except.map]
            · simp [ha, ha', hb', hl, hc', hm, Except.map, strings3, scan]

/-- What follows the colon, given to the format with a port. -/
theorem scan_portPath (size : ℕ) (bs : Bytes) :
    (scan [.hu, .lit 0x2f, .str size] bs).map numberPath =
      if ∀ parts, portPath bs = some parts → parts.2.length < size then .ok (portPath bs)
      else .error .outOfBounds := by
  unfold portPath
  cases hnumber : number (bs.dropWhile isSpace) with
  | none => simp [scan, hnumber, Except.map, numberPath]
  | some res =>
    obtain ⟨port, rest⟩ := res
    have hscan : scan [.hu, .lit 0x2f, .str size] bs
        = (scan [.lit 0x2f, .str size] rest).map (.num (.ofNat (port % 65536)) :: ·) := by
      rw [scan, hnumber]
      dsimp only
      cases scan [.lit 0x2f, .str size] rest <;> rfl
    rw [hscan]
    cases rest with
    | nil => simp [scan, Except.map, numberPath]
    | cons b path =>
      by_cases hb : b = 0x2f
      · rw [scan, if_pos hb, scan_str_eq]
        by_cases hpath : firstWord path = []
        · simp [hpath, Except.map, numberPath]
        · by_cases hsize : size ≤ (firstWord path).length
          · simp [hb, hpath, hsize, Except.map]
          · simp [hb, hpath, hsize, Nat.lt_of_not_le hsize, scan, Except.map, numberPath]
      · simp [scan, hb, Except.map, numberPath]

/-- **A URL given to the format with a port.** -/
theorem scan_port (size : ℕ) (bs : Bytes) :
    (scan [.upTo 0x3a 16, .lit 0x3a, .hu, .lit 0x2f, .str size] bs).map hostPortPath =
      if (bs.takeWhile (· ≠ 0x3a)).length < 16 ∧
          ∀ parts, portParts bs = some parts → parts.2.2.length < size then .ok (portParts bs)
      else .error .outOfBounds := by
  unfold portParts
  rw [scan_upTo_eq]
  generalize bs.takeWhile (· ≠ 0x3a) = host
  by_cases hnil : host = []
  · cases bs.dropWhile (· ≠ 0x3a) <;> simp [hnil, Except.map, hostPortPath]
  rw [if_neg hnil]
  by_cases hfits : host.length < 16
  swap
  · rw [if_pos (Nat.le_of_not_lt hfits), if_neg fun h => hfits h.1]
    rfl
  rw [if_neg (Nat.not_le.mpr hfits)]
  cases hrest : bs.dropWhile (· ≠ 0x3a) with
  | nil => simp [scan, Except.map, hostPortPath, hfits]
  | cons b tail =>
    have htail := scan_portPath size tail
    rw [dropWhile_eq_cons hrest, scan, if_pos rfl]
    simp only [if_neg hnil]
    cases hscan : scan [.hu, .lit 0x2f, .str size] tail with
    | error e =>
      rw [hscan] at htail
      by_cases hpath : ∀ parts, portPath tail = some parts → parts.2.length < size
      · rw [if_pos hpath] at htail
        cases htail
      · rw [if_neg hpath] at htail
        cases htail
        rw [if_neg fun h => hpath fun parts hparts => h.2 _ (by rw [hparts]; rfl)]
        rfl
    | ok vs =>
      rw [hscan] at htail
      by_cases hpath : ∀ parts, portPath tail = some parts → parts.2.length < size
      · rw [if_pos hpath] at htail
        have hparts : numberPath vs = portPath tail := Except.ok.inj htail
        rw [if_pos]
        · exact congrArg Except.ok ((hostPortPath_cons host vs).trans (by rw [hparts]))
        · refine ⟨hfits, fun parts h => ?_⟩
          obtain ⟨parts', hparts', rfl⟩ := Option.map_eq_some_iff.mp h
          exact hpath parts' hparts'
      · rw [if_neg hpath] at htail
        cases htail

/-- **A URL given to the format without a port.** -/
theorem scan_path (size : ℕ) (bs : Bytes) :
    (scan [.upTo 0x2f 16, .lit 0x2f, .str size] bs).map hostPath =
      if (bs.takeWhile (· ≠ 0x2f)).length < 16 ∧
          ∀ parts, pathParts bs = some parts → parts.2.length < size then .ok (pathParts bs)
      else .error .outOfBounds := by
  unfold pathParts
  rw [scan_upTo_eq]
  generalize hhost : bs.takeWhile (· ≠ 0x2f) = host
  by_cases hnil : host = []
  · cases bs.dropWhile (· ≠ 0x2f) <;> simp [hnil, Except.map, hostPath]
  rw [if_neg hnil]
  by_cases hfits : host.length < 16
  swap
  · rw [if_pos (Nat.le_of_not_lt hfits), if_neg fun h => hfits h.1]
    rfl
  rw [if_neg (Nat.not_le.mpr hfits)]
  cases hrest : bs.dropWhile (· ≠ 0x2f) with
  | nil => simp [scan, Except.map, hostPath, hfits]
  | cons b path =>
    rw [dropWhile_eq_cons hrest, scan, if_pos rfl, scan_str_eq]
    by_cases hpath : firstWord path = []
    · simp [hpath, hfits, Except.map, hostPath]
    · by_cases hsize : size ≤ (firstWord path).length
      · simp [hpath, hsize, hnil, hfits, Except.map]
      · simp [hpath, hsize, hnil, hfits, Nat.lt_of_not_le hsize, scan, Except.map, hostPath]

end Scanf

/-! ## The parts of a line -/

namespace RequestLine

open Scanf

/-- The word that is stored as the method. -/
def methodWord (message : Bytes) : Bytes := firstWord (cstr message)

/-- The word that is stored as the URL. -/
def urlWord (message : Bytes) : Bytes := firstWord (afterWord (cstr message))

/-- The word that is stored as the version. -/
def versionWord (message : Bytes) : Bytes := firstWord (afterWord (afterWord (cstr message)))

/-- What the two formats find behind the scheme of a URL. -/
def urlParts (rest : Bytes) : Option (Bytes × UInt32 × Bytes) :=
  match portParts rest with
  | some parts => some parts
  | none => (pathParts rest).map fun parts => (parts.1, 554, parts.2)

/-- **The parts of a URL fit**, the path into an array of `size` bytes. What
stands before the first colon is stored as a host in any case; what stands
before the first slash is when the URL does not read as one with a port. -/
def UrlFits (size : ℕ) (rest : Bytes) : Prop :=
  (rest.takeWhile (· ≠ 0x3a)).length < 16 ∧
  (∀ parts, portParts rest = some parts → parts.2.2.length < size) ∧
  (portParts rest = none → (rest.takeWhile (· ≠ 0x2f)).length < 16 ∧
    ∀ parts, pathParts rest = some parts → parts.2.length < size)

/-- **Every part of a line fits its array.** The URL is taken apart only on a
line with three words, a known method and the scheme; on others its parts are not
stored, and may be as long as they like. -/
def Fits (message : Bytes) : Prop :=
  (methodWord message).length < 32 ∧ (urlWord message).length < 128 ∧
  (versionWord message).length < 16 ∧
  (versionWord message ≠ [] → Method.ofName (methodWord message) ≠ .none →
    ascii "rtsp://" <+: urlWord message → UrlFits 64 (cstr ((urlWord message).drop 7)))

instance (size : ℕ) (rest : Bytes) : Decidable (UrlFits size rest) :=
  inferInstanceAs (Decidable (_ ∧ _ ∧ _))

instance (message : Bytes) : Decidable (Fits message) :=
  inferInstanceAs (Decidable (_ ∧ _ ∧ _ ∧ _))

/-! ## The two formats of a URL -/

/-- The first format, on a URL whose parts fit. -/
theorem UrlFits.scan_port {size : ℕ} {rest : Bytes} (h : UrlFits size rest) :
    ∃ vs, scan [.upTo 0x3a 16, .lit 0x3a, .hu, .lit 0x2f, .str size] rest = .ok vs ∧
      hostPortPath vs = portParts rest := by
  have hscan := Scanf.scan_port size rest
  rw [if_pos ⟨h.1, h.2.1⟩] at hscan
  exact Except.map_eq_ok_iff.mp hscan

/-- The second format, on a URL whose parts fit. -/
theorem UrlFits.scan_path {size : ℕ} {rest : Bytes} (h : UrlFits size rest)
    (hnone : portParts rest = none) :
    ∃ vs, scan [.upTo 0x2f 16, .lit 0x2f, .str size] rest = .ok vs ∧
      hostPath vs = pathParts rest := by
  have hscan := Scanf.scan_path size rest
  rw [if_pos (h.2.2 hnone)] at hscan
  exact Except.map_eq_ok_iff.mp hscan

/-- A URL with a part that does not fit makes one of the two formats write
past an array. -/
theorem scan_of_not_fits {size : ℕ} {rest : Bytes} (h : ¬ UrlFits size rest) :
    scan [.upTo 0x3a 16, .lit 0x3a, .hu, .lit 0x2f, .str size] rest = .error .outOfBounds ∨
    ∃ vs, scan [.upTo 0x3a 16, .lit 0x3a, .hu, .lit 0x2f, .str size] rest = .ok vs ∧
      hostPortPath vs = none ∧
      scan [.upTo 0x2f 16, .lit 0x2f, .str size] rest = .error .outOfBounds := by
  have hport := Scanf.scan_port size rest
  have hpath := Scanf.scan_path size rest
  by_cases hfits : (rest.takeWhile (· ≠ 0x3a)).length < 16 ∧
      ∀ parts, portParts rest = some parts → parts.2.2.length < size
  · rw [if_pos hfits] at hport
    obtain ⟨vs, hvs, hparts⟩ := Except.map_eq_ok_iff.mp hport
    have hnot : ¬ (portParts rest = none → (rest.takeWhile (· ≠ 0x2f)).length < 16 ∧
        ∀ parts, pathParts rest = some parts → parts.2.length < size) :=
      fun hsecond => h ⟨hfits.1, hfits.2, hsecond⟩
    obtain ⟨hnone, hsecond⟩ := Classical.not_imp.mp hnot
    rw [if_neg hsecond] at hpath
    exact .inr ⟨vs, hvs, hparts.trans hnone, Except.map_eq_error_iff.mp hpath⟩
  · rw [if_neg hfits] at hport
    exact .inl (Except.map_eq_error_iff.mp hport)

/-- The two formats of a URL, tried in turn. -/
def scanParts (size : ℕ) (rest : Bytes) : Except Fault (Option (Bytes × UInt32 × Bytes)) := do
  let vs ← sscanf rest [.upTo 0x3a 16, .lit 0x3a, .hu, .lit 0x2f, .str size]
  match hostPortPath vs with
  | some parts => return some parts
  | none =>
    let ws ← sscanf rest [.upTo 0x2f 16, .lit 0x2f, .str size]
    return (hostPath ws).map fun parts => (parts.1, 554, parts.2)

/-- **A URL is taken apart**, or an array overflows. -/
theorem scanParts_eq (size : ℕ) (rest : Bytes) : scanParts size rest =
    if UrlFits size (cstr rest) then .ok (urlParts (cstr rest)) else .error .outOfBounds := by
  unfold scanParts sscanf
  by_cases h : UrlFits size (cstr rest)
  · obtain ⟨vs, hvs, hparts⟩ := h.scan_port
    rw [if_pos h, hvs, Except.ok_bind, hparts]
    unfold urlParts
    cases hnone : portParts (cstr rest) with
    | some parts => rfl
    | none =>
      obtain ⟨ws, hws, hpath⟩ := h.scan_path hnone
      dsimp only
      rw [hws, Except.ok_bind, hpath]
      rfl
  · rw [if_neg h]
    rcases scan_of_not_fits h with he | ⟨vs, hvs, hnone, he⟩
    · rw [he]
      rfl
    · rw [hvs, Except.ok_bind, hnone]
      dsimp only
      rw [he]
      rfl

/-- Values of another shape are no URL with a port. -/
theorem hostPortPath_eq_none {vs : List Value}
    (h : ∀ host port path, vs = [.str host, .num port, .str path] → False) :
    hostPortPath vs = none := by
  unfold hostPortPath
  split
  · exact absurd rfl (h _ _ _)
  · rfl

/-- Values of another shape are no URL without a port. -/
theorem hostPath_eq_none {vs : List Value}
    (h : ∀ host path, vs = [.str host, .str path] → False) : hostPath vs = none := by
  unfold hostPath
  split
  · exact absurd rfl (h _ _)
  · rfl

/-- The request parser gives the suffix 64 bytes. -/
theorem scanUrl_eq_scanParts (url : Bytes) :
    RtspRequest.scanUrl url = scanParts 64 (url.drop 7) := by
  unfold RtspRequest.scanUrl scanParts
  dsimp only
  congr 1
  funext vs
  split
  · rfl
  · next hshape =>
    rw [hostPortPath_eq_none hshape]
    dsimp only
    congr 1
    funext ws
    split
    · rfl
    · next hshape' => rw [hostPath_eq_none hshape', Option.map_none]

theorem scanUrl_eq (url : Bytes) : RtspRequest.scanUrl url =
    if UrlFits 64 (cstr (url.drop 7)) then .ok (urlParts (cstr (url.drop 7)))
    else .error .outOfBounds := by
  rw [scanUrl_eq_scanParts, scanParts_eq]

/-! ## The whole line -/

/-- The parser with the parameters of an accepted line. -/
def enter (p : RtspRequest) (message : Bytes) (parts : Bytes × UInt32 × Bytes) : RtspRequest :=
  { p with
    method := Method.ofName (methodWord message)
    requestLineParam := ((((((p.requestLineParam.emplace .url (urlWord message, 0)).emplace
      .urlIp (parts.1, 0)).emplace .urlPort ([], parts.2.1)).emplace
      .urlSuffix (parts.2.2, 0)).emplace .version (versionWord message, 0)).emplace
      .method (methodWord message, 0))
    state := .parseHeadersLine }

/-- The parameters of an accepted line, in a parser that has none. -/
theorem enter_spec {p : RtspRequest} (hp : p.requestLineParam = fun _ => none) (message : Bytes)
    (parts : Bytes × UInt32 × Bytes) :
    (enter p message parts).requestLineParam .url = some (urlWord message, 0) ∧
    (enter p message parts).requestLineParam .urlIp = some (parts.1, 0) ∧
    (enter p message parts).requestLineParam .urlPort = some ([], parts.2.1) ∧
    (enter p message parts).requestLineParam .urlSuffix = some (parts.2.2, 0) := by
  unfold enter
  rw [hp]
  -- every key is entered once, into a map without it
  refine ⟨?_, ?_, ?_, ?_⟩ <;>
    simp [Params.emplace, Function.update]

/-- What a line whose parts fit does to a parser. -/
def readLine (p : RtspRequest) (message : Bytes) : Bool × RtspRequest :=
  if versionWord message = [] then (false, p)
  else if Method.ofName (methodWord message) = .none then (false, { p with method := .none })
  else if ¬ ascii "rtsp://" <+: urlWord message then
    (false, { p with method := Method.ofName (methodWord message) })
  else match urlParts (cstr ((urlWord message).drop 7)) with
    | none => (false, { p with method := Method.ofName (methodWord message) })
    | some parts => (true, enter p message parts)

/-- `parseRequestLine`, by the three words of the line. -/
theorem parseRequestLine_eq_bind (p : RtspRequest) (message : Bytes) :
    p.parseRequestLine message = (do
      let vs ← sscanf message [.str 32, .space, .str 128, .space, .str 16]
      match strings3 vs with
      | none => return (false, p)
      | some (method, url, version) =>
        if Method.ofName method = .none then return (false, { p with method := .none })
        else if ¬ ascii "rtsp://" <+: url then
          return (false, { p with method := Method.ofName method })
        else
          let parts ← RtspRequest.scanUrl url
          match parts with
          | none => return (false, { p with method := Method.ofName method })
          | some (ip, port, suffix) =>
            return (true, { p with
              method := Method.ofName method
              requestLineParam := ((((((p.requestLineParam.emplace .url (url, 0)).emplace
                .urlIp (ip, 0)).emplace .urlPort ([], port)).emplace .urlSuffix (suffix, 0)).emplace
                .version (version, 0)).emplace .method (method, 0))
              state := .parseHeadersLine })) := by
  unfold RtspRequest.parseRequestLine
  congr 1
  funext vs
  split
  · next method url version =>
    dsimp only [strings3]
    by_cases hnone : Method.ofName method = .none
    · rw [if_pos hnone, if_pos hnone, hnone]
    · exact (if_neg hnone).trans (if_neg hnone).symm
  · next hshape =>
    have hnone : strings3 vs = none := by
      unfold strings3
      split
      · exact absurd rfl (hshape _ _ _)
      · rfl
    rw [hnone]

/-- The three words fit when no conversion overflows. -/
theorem words_fit_iff (message : Bytes) :
    ((methodWord message).length < 32 ∧ (urlWord message).length < 128 ∧
      (versionWord message).length < 16) ↔
    ¬ (methodWord message ≠ [] ∧ 32 ≤ (methodWord message).length ∨
      urlWord message ≠ [] ∧ 128 ≤ (urlWord message).length ∨
      versionWord message ≠ [] ∧ 16 ≤ (versionWord message).length) := by
  have hpos : ∀ (word : Bytes) (size : ℕ), 0 < size →
      (word.length < size ↔ ¬ (word ≠ [] ∧ size ≤ word.length)) := by
    intro word size hsize
    cases word with
    | nil => simp [hsize]
    | cons b word => simp
  rw [hpos _ 32 (by decide), hpos _ 128 (by decide), hpos _ 16 (by decide)]
  tauto

/-- **A request line is read, or an array overflows**; which of the two, does
not depend on the parser. -/
theorem parseRequestLine_eq (p : RtspRequest) (message : Bytes) :
    p.parseRequestLine message =
      if Fits message then .ok (readLine p message) else .error .outOfBounds := by
  have hwords := scan_words 32 128 16 (cstr message)
  have hfit := words_fit_iff message
  rw [parseRequestLine_eq_bind]
  unfold sscanf readLine
  dsimp only at hwords
  rw [show firstWord (cstr message) = methodWord message from rfl,
    show firstWord (afterWord (cstr message)) = urlWord message from rfl,
    show firstWord (afterWord (afterWord (cstr message))) = versionWord message from rfl] at hwords
  by_cases hover : methodWord message ≠ [] ∧ 32 ≤ (methodWord message).length ∨
      urlWord message ≠ [] ∧ 128 ≤ (urlWord message).length ∨
      versionWord message ≠ [] ∧ 16 ≤ (versionWord message).length
  · have hnot : ¬ Fits message := fun h => hfit.mp ⟨h.1, h.2.1, h.2.2.1⟩ hover
    rw [if_pos hover] at hwords
    rw [Except.map_eq_error_iff.mp hwords, if_neg hnot]
    rfl
  · rw [if_neg hover] at hwords
    obtain ⟨hm, hu, hv⟩ := hfit.mpr hover
    obtain ⟨vs, hvs, hstrings⟩ := Except.map_eq_ok_iff.mp hwords
    rw [hvs, Except.ok_bind, hstrings]
    by_cases hnil : versionWord message = []
    · have hfits : Fits message := ⟨hm, hu, hv, fun h => absurd hnil h⟩
      rw [if_pos hnil, if_pos hnil, if_pos hfits]
      rfl
    rw [if_neg hnil, if_neg hnil]
    dsimp only
    by_cases hnone : Method.ofName (methodWord message) = .none
    · have hfits : Fits message := ⟨hm, hu, hv, fun _ h => absurd hnone h⟩
      rw [if_pos hnone, if_pos hnone, if_pos hfits]
      rfl
    rw [if_neg hnone, if_neg hnone]
    by_cases hscheme : ascii "rtsp://" <+: urlWord message
    swap
    · have hfits : Fits message := ⟨hm, hu, hv, fun _ _ h => absurd h hscheme⟩
      rw [if_pos hscheme, if_pos hscheme, if_pos hfits]
      rfl
    rw [if_neg (not_not_intro hscheme), if_neg (not_not_intro hscheme), scanUrl_eq]
    by_cases hurl : UrlFits 64 (cstr ((urlWord message).drop 7))
    · have hfits : Fits message := ⟨hm, hu, hv, fun _ _ _ => hurl⟩
      rw [if_pos hurl, if_pos hfits]
      cases urlParts (cstr ((urlWord message).drop 7)) <;> rfl
    · have hnot : ¬ Fits message := fun h => hurl (h.2.2.2 hnil hnone hscheme)
      rw [if_neg hurl, if_neg hnot]
      rfl

/-- **An accepted line** names a method, and its parts are entered. -/
theorem enter_of_read {p q : RtspRequest} {message : Bytes}
    (h : p.parseRequestLine message = .ok (true, q)) :
    Method.ofName (methodWord message) ≠ .none ∧ ∃ parts, q = enter p message parts := by
  rw [parseRequestLine_eq] at h
  by_cases hfits : Fits message
  · rw [if_pos hfits, Except.ok.injEq] at h
    unfold readLine at h
    split at h
    · cases h
    · split at h
      · cases h
      · next hmethod =>
        split at h
        · cases h
        · split at h
          · cases h
          · cases h
            exact ⟨hmethod, _, rfl⟩
  · rw [if_neg hfits] at h
    cases h

/-- An accepted line does not begin like a frame. -/
theorem head_of_read {p q : RtspRequest} {message : Bytes}
    (h : p.parseRequestLine message = .ok (true, q)) :
    message ≠ [] ∧ message.head? ≠ some 0x24 := by
  obtain ⟨hmethod, -⟩ := enter_of_read h
  constructor
  · rintro rfl
    exact hmethod (by decide)
  · intro hhead
    obtain ⟨rest, rfl⟩ := List.head?_eq_some_iff.mp hhead
    obtain ⟨hname, hsupported⟩ := Method.name_of_ofName hmethod
    have hword : (methodWord (0x24 :: rest)).head? = some 0x24 := rfl
    rw [hname] at hword
    simp only [Method.supported, List.mem_cons, List.not_mem_nil, or_false] at hsupported
    rcases hsupported with h | h | h | h | h | h <;> rw [h] at hword <;>
      exact absurd (Option.some.inj hword) (by decide)

/-- The words of a line that is written with single blanks. -/
theorem words_of_line {method url version : Bytes} (hmethod : IsWord method) (hurl : IsWord url)
    (hversion : IsWord version) :
    methodWord (method ++ 0x20 :: (url ++ 0x20 :: version)) = method ∧
    urlWord (method ++ 0x20 :: (url ++ 0x20 :: version)) = url ∧
    versionWord (method ++ 0x20 :: (url ++ 0x20 :: version)) = version := by
  have hblank : ∀ (rest : Bytes) (b : UInt8), (0x20 :: rest).head? = some b → isSpace b = true := by
    rintro rest b ⟨rfl⟩
    rfl
  have hskip : ∀ bs : Bytes, firstWord (0x20 :: bs) = firstWord bs ∧
      afterWord (0x20 :: bs) = afterWord bs := fun bs => by
    rw [← firstWord_dropWhile, ← afterWord_dropWhile, List.dropWhile_cons_of_pos (by decide),
      firstWord_dropWhile, afterWord_dropWhile]
    exact ⟨rfl, rfl⟩
  have hnul : 0 ∉ method ++ 0x20 :: (url ++ 0x20 :: version) := by
    simp [hmethod.nul_notMem, hurl.nul_notMem, hversion.nul_notMem]
  obtain ⟨hfirst, hafter⟩ := hmethod.firstWord (hblank (url ++ 0x20 :: version))
  obtain ⟨hsecond, hafter'⟩ := hurl.firstWord (hblank version)
  have hthird := (hversion.firstWord (fun _ (h : ([] : Bytes).head? = _) => nomatch h)).1
  rw [List.append_nil] at hthird
  unfold methodWord urlWord versionWord
  rw [cstr_of_notMem hnul, hafter, (hskip _).1, (hskip _).2, hafter', (hskip _).1]
  exact ⟨hfirst, hsecond, hthird⟩

/-! ## The bounds of the arrays -/

/-- **No array is exceeded** on a line, and a line with a part that is too long
for its array is rejected. -/
def InBounds (p : RtspRequest) (message : Bytes) : Prop :=
  (∀ e, p.parseRequestLine message ≠ .error e) ∧
  (¬ Fits message → ∃ q, p.parseRequestLine message = .ok (false, q))

/-- **The arrays are exceeded exactly by lines with a part that does not
fit.** No conversion has a width, and no line is rejected for its length. So the
right side names the parts and the sizes: what `%s` takes is a word of the line,
and the URL is scanned from an array where it fitted. -/
theorem inBounds_iff (p : RtspRequest) (message : Bytes) :
    InBounds p message ↔ Fits message := by
  unfold InBounds
  rw [parseRequestLine_eq]
  by_cases h : Fits message
  · rw [if_pos h]
    exact ⟨fun _ => h, fun _ => ⟨nofun, fun hnot => absurd h hnot⟩⟩
  · rw [if_neg h]
    exact ⟨fun hin => absurd rfl (hin.1 _), fun hfits => absurd hfits h⟩

/-- A host with its path of sixteen bytes is written past its array. -/
theorem not_inBounds_longHost : ¬ ∀ (p : RtspRequest) (message : Bytes), InBounds p message := by
  intro h
  have hnot : ¬ Fits (ascii "OPTIONS rtsp://192.168.1.100/live RTSP/1.0") := by decide
  have herror := parseRequestLine_eq ⟨.none, .channel0, .rtpOverTcp, fun _ => none,
    fun _ => none, .parseRequestLine⟩ (ascii "OPTIONS rtsp://192.168.1.100/live RTSP/1.0")
  rw [if_neg hnot] at herror
  exact (h _ _).1 _ herror

end RequestLine
