import RtspServer.Decimal
import RtspServer.Request

/-!
# URLs with host, port and path

The URLs `rtsp://host:port/suffix`, and how the two `sscanf` calls of the
request parser take them apart: the host up to the colon, a number, and
everything behind the slash. A URL whose parts fit the parser's arrays is
read back (`scanUrl_bytes`).
-/

/-- **A URL with host, port and path.** -/
structure RtspUrl where
  host : Bytes
  port : UInt16
  suffix : Bytes
  isToken_host : IsToken host
  colon_notMem : 0x3a ∉ host
  slash_notMem : 0x2f ∉ host
  isToken_suffix : IsToken suffix

namespace RtspUrl

open RtspRequest (decimal scanUrl)

/-- What follows `rtsp://`. -/
def rest (u : RtspUrl) : Bytes := u.host ++ 0x3a :: (decimal u.port.toNat ++ 0x2f :: u.suffix)

/-- The URL as it is written. -/
def bytes (u : RtspUrl) : Bytes := ascii "rtsp://" ++ u.rest

/-- The URL and its parts fit the arrays they are read into. -/
structure Fits (u : RtspUrl) : Prop where
  host : u.host.length < 16
  suffix : u.suffix.length < 64
  bytes : u.bytes.length < 128

end RtspUrl

/-! ## Tokens -/

theorem IsToken.append {bs cs : Bytes} (h : IsToken bs) (h' : IsToken cs) : IsToken (bs ++ cs) := by
  refine ⟨fun hnil => h.ne_nil (List.append_eq_nil_iff.mp hnil).1, fun b hb => ?_⟩
  rcases List.mem_append.mp hb with hb | hb
  · exact h.visible b hb
  · exact h'.visible b hb

/-- A printed number is a token. -/
theorem isToken_decimal (n : ℕ) : IsToken (RtspRequest.decimal n) := by
  refine ⟨Scanf.decimal_ne_nil n, fun b hb => ?_⟩
  have hdigit := Scanf.isDigit_of_mem_decimal hb
  simp only [Scanf.isDigit, Bool.and_eq_true, decide_eq_true_eq, UInt8.le_iff_toNat_le] at hdigit
  simp only [isVisible, Bool.and_eq_true, decide_eq_true_eq, UInt8.le_iff_toNat_le]
  simp only [UInt8.reduceToNat] at hdigit ⊢
  omega

namespace Scanf

/-- `%[^c]` in front of the next `c`, when the text fits. -/
theorem scan_upTo {c : UInt8} {text : Bytes} (hc : c ∉ text) (hne : text ≠ []) {size : ℕ}
    (hsize : text.length < size) (rest : Bytes) (ds : List Directive) :
    scan (.upTo c size :: ds) (text ++ c :: rest) = (scan ds (c :: rest)).map (.str text :: ·) := by
  obtain ⟨htake, hdrop⟩ := takeWhile_ne_append hc rest
  simp only [scan, htake, hdrop, if_neg hne, if_neg (Nat.not_le.mpr hsize)]
  cases scan ds (c :: rest) <;> rfl

end Scanf

namespace RtspUrl

open RtspRequest (decimal scanUrl)

theorem isToken_rest (u : RtspUrl) : IsToken u.rest := by
  have hport : IsToken ([0x3a] ++ (decimal u.port.toNat ++ ([0x2f] ++ u.suffix))) :=
    .append (by decide) (.append (isToken_decimal _) (.append (by decide) u.isToken_suffix))
  exact u.isToken_host.append hport

theorem isToken_bytes (u : RtspUrl) : IsToken u.bytes := .append (by decide) u.isToken_rest

/-- **A URL that fits is taken apart.** -/
theorem scanUrl_bytes {u : RtspUrl} (h : u.Fits) :
    scanUrl u.bytes = .ok (some (u.host, .ofNat u.port.toNat, u.suffix)) := by
  have hcolon : ∀ b, (0x2f :: u.suffix).head? = some b → Scanf.isDigit b = false := by
    rintro b ⟨rfl⟩
    rfl
  have hend : ∀ b, ([] : Bytes).head? = some b → Scanf.isSpace b = true := nofun
  have hsuffix := Scanf.scan_str u.isToken_suffix hend h.suffix []
  rw [List.append_nil] at hsuffix
  have hscan : Scanf.sscanf u.rest [.upTo 0x3a 16, .lit 0x3a, .hu, .lit 0x2f, .str 64]
      = .ok [.str u.host, .num (.ofNat u.port.toNat), .str u.suffix] := by
    unfold Scanf.sscanf
    rw [Scanf.cstr_of_notMem u.isToken_rest.nul_notMem, rest,
      Scanf.scan_upTo u.colon_notMem u.isToken_host.ne_nil h.host, Scanf.scan_lit,
      Scanf.scan_hu u.port.toNat_lt hcolon, Scanf.scan_lit, hsuffix]
    rfl
  unfold scanUrl bytes
  rw [show (ascii "rtsp://" ++ u.rest).drop 7 = u.rest from rfl]
  dsimp only
  rw [hscan]
  rfl

/-- A request line with such a URL is accepted. -/
theorem accepted {u : RtspUrl} (h : u.Fits) {q : Request} (hurl : q.url = u.bytes)
    (hversion : q.version.length < 16) : q.Accepted := by
  constructor
  · rw [hurl]
    exact h.bytes
  · exact hversion
  · rw [hurl]
    exact List.prefix_append _ _
  · rw [hurl]
    exact ⟨_, scanUrl_bytes h⟩

end RtspUrl
