import RtspServer.InterleavedStream
import RtspServer.HeaderReading

/-!
# The client's ports

A SETUP over UDP names two ports of the client, and three things follow from
them: where the packets of the channel go, where its RTCP would go, and what
the response announces. The code sends both to the second port, so that a
client gets its packets where it asked for them if and only if the two
numbers are the same (`Streaming.deliversTo_iff`).

The ports are followed from the bytes of the request on: `clientPorts` is
what the header text reads as, and a request that asks for two ports in a header
of the usual form (`AsksFor`) reads as these (`AsksFor.clientPorts`).
-/

/-! ## Reading the ports -/

namespace Request

open RtspRequest (readTransport)

/-- The request that a fresh parser dispatches for a request that arrives in
one read. -/
def Dispatches (q : Request) (r : RtspRequest) : Prop :=
  ∃ p p' buf, p.IsInitial ∧ RtspReader.readStep p q.bytes = .ok (p', buf, some r)

/-- The ports that the header text of a request reads as. -/
def clientPorts (q : Request) : Option (UInt16 × UInt16) :=
  match readTransport q.headerText with
  | (some .rtpOverUdp, some ((_, a), (_, b))) => some (a.toUInt16, b.toUInt16)
  | _ => none

/-- What the header text of a SETUP makes of a parser without parameters. -/
theorem clientPorts_eq {line r : RtspRequest} {message : Bytes} (hm : line.method = .setup)
    (hnone : line.headerLineParam = fun _ => none)
    (hcseq : (RtspRequest.cseqOf message).isSome = true)
    (htransport : (readTransport message).2.isSome = true) (hr : line.headersRead message = r)
    {q : Request} (hq : q.headerText = message) : q.clientPorts =
      if r.transport = .rtpOverUdp then some (r.getRtpPort, r.getRtcpPort) else none := by
  have hread := RtspRequest.headersRead_setup hm (line.isSome_seeCSeq hcseq) htransport
  obtain ⟨channelId, hchannel⟩ :=
    ((line.seeCSeq message).seeTransport message).parseMediaChannel_eq
  rw [hchannel] at hread
  obtain ⟨⟨⟨k, a⟩, ⟨k', b⟩⟩, hpair⟩ := Option.isSome_iff_exists.mp htransport
  have hmode : r.transport = ((readTransport message).1.getD (line.seeCSeq message).transport) := by
    rw [← hr, hread]
    rfl
  have hparams : r.headerLineParam
      = ((line.seeCSeq message).headerLineParam.emplace k ([], a)).emplace k' ([], b) := by
    rw [← hr, hread]
    unfold RtspRequest.seeTransport
    rw [hpair]
  have hports : ∀ key, key ≠ .cseq → (line.seeCSeq message).headerLineParam key = none := by
    intro key hkey
    unfold RtspRequest.seeCSeq
    split
    · rw [hnone]
    · dsimp only
      rw [Params.emplace_of_ne _ hkey, hnone]
  unfold clientPorts
  rw [hq]
  rcases RtspRequest.readTransport_cases hpair with ⟨hmode', -⟩ | ⟨hmode', rfl, rfl⟩ | ⟨hmode', -⟩
  · rw [hmode'] at hmode
    rw [if_neg (by rw [hmode]; nofun), ← Prod.eta (readTransport message), hmode']
  · obtain ⟨ha, hb⟩ := RtspRequest.numberParam_emplace (by decide) (hports _ (by decide))
      (hports _ (by decide)) hparams
    rw [hmode'] at hmode
    unfold RtspRequest.getRtpPort RtspRequest.getRtcpPort
    rw [if_pos (by rw [hmode]; rfl), ← Prod.eta (readTransport message), hmode', hpair, ha, hb]
  · rw [hmode'] at hmode
    rw [if_neg (by rw [hmode]; nofun), ← Prod.eta (readTransport message), hmode']

/-- **The request that is dispatched has the ports of the header text.** -/
theorem Dispatches.clientPorts {q : Request} {r : RtspRequest} (h : q.Dispatches r)
    (hq : q.method = .setup) : q.clientPorts =
      if r.transport = .rtpOverUdp then some (r.getRtpPort, r.getRtcpPort) else none := by
  obtain ⟨p, p', buf, hp, hread⟩ := h
  rw [← List.append_nil q.bytes] at hread
  by_cases hacc : q.Accepted
  · obtain ⟨line, hline, hstep⟩ := RtspReader.readStep_accepted hp.state hacc []
    rw [hstep, RtspReader.readHeaders_append line q.headerText (by decide)] at hread
    obtain ⟨hgot, -⟩ := hline.headersRead_spec hp q.headerText
    unfold RtspReader.finish at hread
    cases hall : (line.headersRead q.headerText).gotAll with
    | false => rw [hall] at hread; cases hread
    | true =>
      rw [hall] at hread hgot
      cases hread
      obtain ⟨hcseq, htransport⟩ := Bool.and_eq_true_iff.mp hgot.symm
      rw [hq] at htransport
      exact clientPorts_eq (hline.method.trans hq) (hline.headerLineParam.trans hp.headerLineParam)
        hcseq htransport rfl rfl
  · rcases RtspReader.readStep_not_accepted hp.state hacc [] with ⟨e, he⟩ | ⟨_, -, he⟩
    · rw [he] at hread
      cases hread
    · rw [he] at hread
      cases hread

end Request

/-! ## A transport header -/

namespace RtspRequest

/-- The numbers of a transport are read back. -/
theorem scanPair_clientPorts (a b : UInt16) {rest : Bytes}
    (hrest : ∀ c, rest.head? = some c → Scanf.isDigit c = false) :
    scanPair (ascii "RTP/AVP;unicast;client_port=" ++ (decimal a.toNat ++ (0x2d ::
      (decimal b.toNat ++ rest)))) = some (.ofNat a.toNat, .ofNat b.toNat) := by
  have hdigits : ∀ n : UInt16, Scanf.IsNumeral (decimal n.toNat) ∧
      Scanf.decimalValue (decimal n.toNat) < 65536 := by
    intro n
    rw [Scanf.decimalValue_decimal]
    exact ⟨Scanf.isNumeral_decimal _, n.toNat_lt⟩
  have hscan : scanPair (ascii "RTP/AVP" ++ 0x3b :: (ascii "unicast" ++ 0x3b :: (ascii "client_port"
      ++ 0x3d :: (decimal a.toNat ++ 0x2d :: (decimal b.toNat ++ rest))))) = _ :=
    scanPair_numerals (by decide) (by decide) (by decide) (hdigits a) (hdigits b) hrest
  rw [Scanf.decimalValue_decimal, Scanf.decimalValue_decimal] at hscan
  exact hscan

end RtspRequest

namespace Request

open RtspRequest (decimal readTransport)

/-- **A transport header of the usual form** reads as the numbers in it, where
no other header speaks of RTP. -/
theorem clientPorts_of_header {q : Request} (before rest : Bytes) {a b : UInt16}
    (htext : q.headerText = before ++ (ascii "RTP/AVP;unicast;client_port=" ++
      (decimal a.toNat ++ (0x2d :: (decimal b.toNat ++ rest)))))
    (hrest : ∀ c, rest.head? = some c → Scanf.isDigit c = false)
    (htransport : ascii "Transport" <:+: q.headerText)
    (hfirst : Search.find (ascii "RTP/AVP") q.headerText = some before.length)
    (htcp : ¬ ascii "RTP/AVP/TCP" <:+: q.headerText) : q.clientPorts = some (a, b) := by
  have hdrop : q.headerText.drop before.length = ascii "RTP/AVP;unicast;client_port=" ++
      (decimal a.toNat ++ (0x2d :: (decimal b.toNat ++ rest))) := by
    rw [htext, List.drop_left]
  have hunicast : ascii "unicast" <:+: q.headerText.drop before.length := by
    rw [hdrop]
    have hinfix : ascii "unicast" <:+: ascii "RTP/AVP;unicast;client_port=" := by decide
    exact hinfix.trans (List.prefix_append _ _).isInfix
  have hread : readTransport q.headerText
      = (some .rtpOverUdp, some ((.rtpPort, .ofNat a.toNat), (.rtcpPort, .ofNat b.toNat))) := by
    rw [RtspRequest.readTransport_of_udp htransport htcp hfirst hunicast, hdrop,
      RtspRequest.scanPair_clientPorts a b hrest]
    rfl
  unfold clientPorts
  rw [hread]
  have hcut : ∀ n : UInt16, (UInt32.ofNat n.toNat).toUInt16 = n := by
    intro n
    have hn := n.toNat_lt
    rw [← UInt16.toNat_inj, UInt32.toNat_toUInt16,
      UInt32.toNat_ofNat_of_lt' (show _ < 4294967296 by omega), Nat.mod_eq_of_lt hn]
  dsimp only
  rw [hcut, hcut]

/-- **The SETUP asks for two ports**: it has the header
`Transport: RTP/AVP;unicast;client_port=a-b`, and no other header speaks of RTP. -/
def AsksFor (q : Request) (a b : UInt16) : Prop :=
  ∃ front back : List HeaderLine, ∃ h : HeaderLine, q.headers = front ++ h :: back ∧
    h.name = ascii "Transport" ∧
    h.value = ascii " RTP/AVP;unicast;client_port=" ++ decimal a.toNat ++ [0x2d] ++
      decimal b.toNat ∧
    ∀ h' ∈ front ++ back, ¬ ascii "RTP/AVP" <:+: h'.line

/-- Its header text reads as these ports. -/
theorem AsksFor.clientPorts {q : Request} {a b : UInt16} (hasks : q.AsksFor a b) :
    q.clientPorts = some (a, b) := by
  obtain ⟨front, back, h, hheaders, hname, hvalue, hother⟩ := hasks
  have htext : q.headerText = Search.text crlf (q.headers.map HeaderLine.line) := by
    unfold headerText Search.text
    rw [List.flatMap_map]
  have hline : h.line = ascii "Transport: " ++ (ascii "RTP/AVP;unicast;client_port=" ++
      (decimal a.toNat ++ (0x2d :: decimal b.toNat))) := by
    rw [HeaderLine.line, hname, hvalue]
    simp only [List.append_assoc]
    rfl
  have hfront : ∀ l ∈ front.map HeaderLine.line, ¬ ascii "RTP/AVP" <:+: l := by
    intro l hl
    obtain ⟨h', hh', rfl⟩ := List.mem_map.mp hl
    exact hother h' (List.mem_append_left back hh')
  have hsplit : q.headerText = Search.text crlf (front.map HeaderLine.line) ++
      (ascii "Transport: " ++ (ascii "RTP/AVP;unicast;client_port=" ++ (decimal a.toNat ++ (0x2d ::
        (decimal b.toNat ++ (crlf ++ Search.text crlf (back.map HeaderLine.line))))))) := by
    rw [htext, hheaders, List.map_append, List.map_cons, Search.text_append, Search.text_cons,
      hline]
    simp only [List.append_assoc, List.cons_append]
  refine clientPorts_of_header (Search.text crlf (front.map HeaderLine.line) ++ ascii "Transport: ")
    (crlf ++ Search.text crlf (back.map HeaderLine.line)) (by rw [hsplit, List.append_assoc])
    (by rintro c ⟨rfl⟩; rfl) ?_ ?_ fun hin => ?_
  · rw [hsplit]
    have hword : ascii "Transport" <:+: ascii "Transport: " := by decide
    exact hword.trans ((List.prefix_append _ _).isInfix.trans (List.suffix_append _ _).isInfix)
  · have hfind : Search.find (ascii "RTP/AVP") (ascii "Transport: RTP/AVP" ++
        (ascii ";unicast;client_port=" ++ (decimal a.toNat ++ (0x2d :: (decimal b.toNat ++ (crlf ++
          Search.text crlf (back.map HeaderLine.line))))))) = some 11 :=
      Search.find_append_of_some (by decide)
    rw [hsplit, List.length_append]
    exact Search.find_text_append (by decide) (by decide) (by decide) hfront hfind
  · rw [htext, Search.isInfix_text_iff (by decide) (by decide) (by decide)] at hin
    obtain ⟨l, hl, hin⟩ := hin
    obtain ⟨h', hh', rfl⟩ := List.mem_map.mp hl
    rw [hheaders] at hh'
    by_cases hsame : h' = h
    · -- the line has no `C`, and neither have its numbers
      have hmem : (0x43 : UInt8) ∈ h.line := hsame ▸ hin.subset (by decide)
      have hdigits : ∀ n : ℕ, (0x43 : UInt8) ∉ decimal n := fun n hn => by
        cases Scanf.isDigit_of_mem_decimal hn
      rw [hline] at hmem
      have hname' : (0x43 : UInt8) ∉ ascii "Transport: " ∧
          (0x43 : UInt8) ∉ ascii "RTP/AVP;unicast;client_port=" := by decide
      simp [hname'.1, hname'.2, hdigits] at hmem
    · have hword : ascii "RTP/AVP" <:+: ascii "RTP/AVP/TCP" := by decide
      refine hother h' ?_ (hword.trans hin)
      simpa [hsame] using hh'

end Request

/-! ## The response -/

namespace RtspRequest

/-- A response to `r` whose transport line prints the client's ports `a` and
`b`. -/
def PrintsPorts (r : RtspRequest) (message : Bytes) (a b : UInt16) : Prop :=
  ∃ serverPorts session, message = response "200 OK"
    [r.cseqLine, ascii "Transport: RTP/AVP;unicast;client_port=" ++ (decimal a.toNat ++ (0x2d ::
      (decimal b.toNat ++ (ascii ";server_port=" ++ serverPorts)))), session]

/-- The response to a SETUP over UDP fits its buffer. -/
theorem buildSetupUdpRes_eq (r : RtspRequest) (rtpPort rtcpPort : UInt16) (sessionId : UInt32) :
    r.buildSetupUdpRes 1024 rtpPort rtcpPort sessionId = response "200 OK"
      [r.cseqLine, ascii "Transport: RTP/AVP;unicast;client_port=" ++ (decimal r.getRtpPort.toNat
        ++ (0x2d :: (decimal r.getRtcpPort.toNat ++ (ascii ";server_port=" ++ (decimal rtpPort.toNat
          ++ ascii "-" ++ decimal rtcpPort.toNat))))), sessionLine sessionId] := by
  have hrtp := Scanf.length_decimal_uint16 rtpPort
  have hrtcp := Scanf.length_decimal_uint16 rtcpPort
  have hclient := Scanf.length_decimal_uint16 r.getRtpPort
  have hclient' := Scanf.length_decimal_uint16 r.getRtcpPort
  have hcseq := Scanf.length_decimal_uint32 r.getCSeq
  have hsession := Scanf.length_decimal_uint32 sessionId
  have hline : ascii "Transport: RTP/AVP;unicast;client_port=" ++ decimal r.getRtpPort.toNat
      ++ ascii "-" ++ decimal r.getRtcpPort.toNat ++ ascii ";server_port=" ++ decimal rtpPort.toNat
      ++ ascii "-" ++ decimal rtcpPort.toNat
      = ascii "Transport: RTP/AVP;unicast;client_port=" ++ (decimal r.getRtpPort.toNat
        ++ (0x2d :: (decimal r.getRtcpPort.toNat ++ (ascii ";server_port=" ++ (decimal rtpPort.toNat
          ++ ascii "-" ++ decimal rtcpPort.toNat))))) := by
    rw [show ascii "-" = [0x2d] from rfl]
    simp only [List.append_assoc, List.cons_append, List.nil_append]
  unfold buildSetupUdpRes
  rw [hline]
  refine snprintf_of_lt ?_
  unfold response cseqLine sessionLine
  simp only [List.map_cons, List.map_nil, List.flatten_cons, List.flatten_nil, List.append_nil,
    List.length_append, length_line, List.length_cons]
  have hstatus : (ascii ("RTSP/1.0 " ++ "200 OK")).length = 15 := by decide
  have htransport : (ascii "Transport: RTP/AVP;unicast;client_port=").length = 39 ∧
      (ascii ";server_port=").length = 13 := by decide
  have hnames : (ascii "CSeq: ").length = 6 ∧ (ascii "Session: ").length = 9 ∧
      (ascii "-").length = 1 ∧ crlf.length = 2 := by decide
  omega

/-- Two responses to one request agree from the transport on. -/
theorem transport_of_response {r : RtspRequest} {transport transport' session session' : Bytes}
    (h : response "200 OK" [r.cseqLine, transport, session]
      = response "200 OK" [r.cseqLine, transport', session']) :
    transport ++ (crlf ++ (session ++ (crlf ++ crlf)))
      = transport' ++ (crlf ++ (session' ++ (crlf ++ crlf))) := by
  unfold response line at h
  simp only [List.map_cons, List.map_nil, List.flatten_cons, List.flatten_nil, List.append_nil,
    List.append_assoc, List.append_cancel_left_eq] at h
  exact h

/-- **The response to a SETUP over UDP** prints the ports of the request, and
no others. -/
theorem printsPorts_buildSetupUdpRes {r : RtspRequest} {rtpPort rtcpPort : UInt16}
    {sessionId : UInt32} {a b : UInt16} :
    r.PrintsPorts (r.buildSetupUdpRes 1024 rtpPort rtcpPort sessionId) a b ↔
      r.getRtpPort = a ∧ r.getRtcpPort = b := by
  rw [buildSetupUdpRes_eq]
  constructor
  · rintro ⟨serverPorts, session, h⟩
    have h := transport_of_response h
    simp only [List.append_assoc, List.cons_append, List.append_cancel_left_eq] at h
    have hdash : ∀ (rest : Bytes) c, (0x2d :: rest).head? = some c → Scanf.isDigit c = false := by
      rintro rest c ⟨rfl⟩
      rfl
    have hserver : ∀ (rest : Bytes) c, (ascii ";server_port=" ++ rest).head? = some c →
        Scanf.isDigit c = false := by
      rintro rest c ⟨rfl⟩
      rfl
    obtain ⟨ha, h⟩ := Scanf.decimal_append_inj (hdash _) (hdash _) h
    obtain ⟨hb, -⟩ := Scanf.decimal_append_inj (hserver _) (hserver _) (List.cons.inj h).2
    exact ⟨UInt16.toNat_inj.mp ha, UInt16.toNat_inj.mp hb⟩
  · rintro ⟨rfl, rfl⟩
    exact ⟨_, _, rfl⟩

/-- The response to a SETUP over TCP prints no ports. -/
theorem not_printsPorts_buildSetupTcpRes (r : RtspRequest) (rtpChn rtcpChn : UInt16)
    (sessionId : UInt32) (a b : UInt16) :
    ¬ r.PrintsPorts (r.buildSetupTcpRes 1024 rtpChn rtcpChn sessionId) a b := by
  rw [buildSetupTcpRes_eq]
  rintro ⟨serverPorts, session, h⟩
  have h := transport_of_response h
  -- the byte after `RTP/AVP`
  have hbyte : some (0x2f : UInt8) = some 0x3b := congrArg (fun bs : Bytes => bs[18]?) h
  cases hbyte

/-- The status line of a response. -/
theorem status_of_response (status : String) (headers : List Bytes) :
    response status headers = ascii ("RTSP/1.0 " ++ status) ++
      (crlf ++ ((headers.map line).flatten ++ crlf)) := by
  unfold response line
  simp only [List.append_assoc]

/-- A refusal is not a success. -/
theorem not_ok_of_error {r : RtspRequest} {m : Bytes}
    (h : m = r.buildServerErrorRes 1024 ∨ m = r.buildUnsupportedRes 1024) :
    ¬ ascii "RTSP/1.0 200 OK" <+: m := by
  rintro ⟨rest, hrest⟩
  rcases h with rfl | rfl
  · have hbyte : some (0x32 : UInt8) = some 0x35 := congrArg (fun bs : Bytes => bs[9]?) hrest
    cases hbyte
  · have hbyte : some (0x32 : UInt8) = some 0x34 := congrArg (fun bs : Bytes => bs[9]?) hrest
    cases hbyte

end RtspRequest

theorem htons_injective : Function.Injective htons := fun a b h => by
  have hab := congrArg UInt16.toNat h
  rw [toNat_htons, toNat_htons] at hab
  have ha := a.toNat_lt
  have hb := b.toNat_lt
  exact UInt16.toNat_inj.mp (by omega)

/-! ## Where the packets go -/

/-- The last SETUP of a channel, when it succeeded, is the last that did. -/
theorem SetupRecord.lastSetup_of_find? {setups : List SetupRecord} {ch : MediaChannelId}
    {r : SetupRecord} (h : setups.find? (fun r => r.request.channelId = ch) = some r)
    (hout : r.outcome.isSome = true) : lastSetup setups ch = some r := by
  obtain ⟨hr, before, after, rfl, hbefore⟩ := List.find?_eq_some_iff_append.mp h
  refine List.find?_eq_some_iff_append.mpr ⟨?_, before, after, rfl, fun r' hr' => ?_⟩
  · exact decide_eq_true ⟨of_decide_eq_true hr, hout⟩
  · have hne := hbefore r' hr'
    simp only [Bool.not_eq_true', decide_eq_false_iff_not] at hne ⊢
    exact fun h => hne h.1

/-- **The packet and the response keep to the ports `a` and `b`** that the
SETUP `r` asked for: the packet goes to the first at the address of the
peer, RTCP would go to the second, and the response prints both. -/
structure SentPacket.DeliversTo (t : SentPacket) (x : RtpConnection.Transmission)
    (r : SetupRecord) (a b : UInt16) : Prop where
  peer : ∃ peer, r.peerName = some peer ∧
    (∃ rtpfd bytes, x = .udp rtpfd ⟨afInet, peer.addr, htons a⟩ bytes) ∧
    t.rtcpDest = ⟨afInet, peer.addr, htons b⟩
  response : ∀ m ∈ r.messages, r.request.PrintsPorts m a b

namespace Streaming

open SetupRecord SentPacket
open RtpConnection (Transmission)

/-- A SETUP that was answered with 200 set up what it asked for. -/
theorem outcome_of_ok {r : SetupRecord} (h : r.Answered)
    (hok : ∃ m ∈ r.messages, ascii "RTSP/1.0 200 OK" <+: m) :
    r.outcome = some .rtpOverTcp ∨ r.outcome = some .rtpOverUdp := by
  obtain ⟨m, hm, hstatus⟩ := hok
  cases hout : r.outcome with
  | none => exact absurd hstatus (RtspRequest.not_ok_of_error (h.error hout m hm))
  | some mode =>
    cases mode with
    | rtpOverTcp => exact .inl rfl
    | rtpOverUdp => exact .inr rfl
    | rtpOverMulticast => exact absurd (asked_of_outcome hout) h.asked

/-- Whether the packet and the response keep to two ports, by what the header text of the
SETUP reads as. -/
theorem deliversTo_iff_clientPorts {es : List StreamingEvent} {s : Streaming}
    (hrun : system.Run es s) {t : SentPacket} (ht : t ∈ s.sent) {x : Transmission} (hx : x ∈ t.out) {r : SetupRecord}
    (hlast : t.setups.find? (fun r => r.request.channelId = t.channelId) = some r)
    (hok : ∃ m ∈ r.messages, ascii "RTSP/1.0 200 OK" <+: m)
    {q : Request} (hq : q.method = .setup) (hdispatches : q.Dispatches r.request) (a b : UInt16) :
    t.DeliversTo x r a b ↔ q.clientPorts = some (a, b) ∧ a = b ∧
      lastMode t.setups = some .rtpOverUdp ∧ r.peerName.isSome = true := by
  have hfollows := (inv_of_run hrun).sent t ht
  have hanswered := hfollows.answered r (List.mem_of_find?_eq_some hlast)
  have hout := outcome_of_ok hanswered hok
  have hsetup : lastSetup t.setups t.channelId = some r :=
    lastSetup_of_find? hlast (by rcases hout with hout | hout <;> rw [hout] <;> rfl)
  have hports := hdispatches.clientPorts hq
  obtain ⟨m, hm, -⟩ := hok
  constructor
  · rintro ⟨⟨peer, hpeer, ⟨rtpfd, bytes, rfl⟩, hrtcp⟩, hprints⟩
    have hmode : lastMode t.setups = some .rtpOverUdp := by
      refine hfollows.mode.resolve_left fun hmode => ?_
      obtain ⟨channel, -, hsent⟩ := hfollows.frame hmode
      rw [hsent] at hx
      split at hx
      · exact absurd (List.mem_singleton.mp hx) nofun
      · cases hx
    have hudp : r.outcome = some .rtpOverUdp := by
      refine hout.resolve_left fun htcp => ?_
      obtain ⟨sessionId, rfl⟩ := hanswered.tcp htcp m hm
      exact RtspRequest.not_printsPorts_buildSetupTcpRes _ _ _ _ _ _ (hprints _ hm)
    obtain ⟨rtpfd', dest, hsent, hdest⟩ := hfollows.udp hmode
    obtain ⟨hrtp, -⟩ := (hdest r hsetup hudp).2 peer hpeer
    rw [hsent] at hx
    cases List.mem_singleton.mp hx
    obtain ⟨p, p', sessionId, rfl⟩ := hanswered.udp hudp m hm
    obtain ⟨ha, hb⟩ := RtspRequest.printsPorts_buildSetupUdpRes.mp (hprints _ hm)
    rw [if_pos (hanswered.transport _ (asked_of_outcome hudp)), ha, hb] at hports
    have hsame : a = b := by
      rw [← hb]
      exact htons_injective (congrArg SockAddr.port hrtp)
    exact ⟨hports, hsame, hmode, by rw [hpeer]; rfl⟩
  · rintro ⟨hclient, rfl, hmode, hname⟩
    obtain ⟨peer, hpeer⟩ := Option.isSome_iff_exists.mp hname
    rw [hclient] at hports
    split at hports
    · next htransport =>
      have hboth := Option.some.inj hports
      have hrtp : r.request.getRtpPort = a := (congrArg Prod.fst hboth).symm
      have hrtcp : r.request.getRtcpPort = a := (congrArg Prod.snd hboth).symm
      have hudp : r.outcome = some .rtpOverUdp := by
        refine hout.resolve_left fun htcp => ?_
        have hmode := hanswered.transport _ (asked_of_outcome htcp)
        rw [htransport] at hmode
        cases hmode
      obtain ⟨rtpfd, dest, hsent, hdest⟩ := hfollows.udp hmode
      obtain ⟨hto, hrtcpTo⟩ := (hdest r hsetup hudp).2 peer hpeer
      rw [hrtcp] at hto hrtcpTo
      rw [hsent, hto] at hx
      refine ⟨⟨peer, hpeer, ⟨rtpfd, t.rtp, List.mem_singleton.mp hx⟩, hrtcpTo⟩, fun m hm => ?_⟩
      obtain ⟨p, p', sessionId, rfl⟩ := hanswered.udp hudp m hm
      exact RtspRequest.printsPorts_buildSetupUdpRes.mpr ⟨hrtp, hrtcp⟩
    · cases hports

end Streaming

namespace Streaming

open SetupRecord SentPacket
open RtpConnection (Transmission)

/-- **A packet goes where the client asked** if and only if the two ports of
its transport header are the same, and the transport of the connection is
still UDP. The first part speaks of the ports that the header text reads as, whatever
it is; the second is for a SETUP with `Transport: RTP/AVP;unicast;client_port=a-b`. -/
theorem deliversTo_iff {es : List StreamingEvent} {s : Streaming} (hrun : system.Run es s)
    {t : SentPacket} (ht : t ∈ s.sent) {x : Transmission} (hx : x ∈ t.out) {r : SetupRecord}
    (hlast : t.setups.find? (fun r => r.request.channelId = t.channelId) = some r)
    (hok : ∃ m ∈ r.messages, ascii "RTSP/1.0 200 OK" <+: m)
    {q : Request} (hq : q.method = .setup) (hdispatches : q.Dispatches r.request) (a b : UInt16) :
    (t.DeliversTo x r a b ↔ q.clientPorts = some (a, b) ∧ a = b ∧
      lastMode t.setups = some .rtpOverUdp ∧ r.peerName.isSome = true) ∧
    (q.AsksFor a b → (t.DeliversTo x r a b ↔ a = b ∧
      lastMode t.setups = some .rtpOverUdp ∧ r.peerName.isSome = true)) := by
  have hports := deliversTo_iff_clientPorts hrun ht hx hlast hok hq hdispatches a b
  exact ⟨hports, fun hasks => hports.trans (and_iff_right hasks.clientPorts)⟩

end Streaming

/-! ## Two SETUPs -/

namespace Request

open RtspRequest (readTransport)

/-- A SETUP of the usual form is dispatched as one over UDP. -/
theorem exists_dispatches {q : Request} (hq : q.method = .setup) (hacc : q.Accepted)
    (htrack : Search.find (ascii "track1") q.url = none)
    (hcseq : (RtspRequest.cseqOf q.headerText).isSome = true) {a b : UInt16}
    (hports : q.clientPorts = some (a, b)) : ∃ params headers,
      q.Dispatches ⟨.setup, .channel0, .rtpOverUdp, params, headers, .gotAll⟩ := by
  obtain ⟨hmode, hpair⟩ : (readTransport q.headerText).1 = some .rtpOverUdp ∧
      (readTransport q.headerText).2.isSome = true := by
    unfold clientPorts at hports
    split at hports
    · next h => rw [h]; exact ⟨rfl, rfl⟩
    · cases hports
  have hidle : RtspRequest.IsInitial ⟨.none, .channel0, .rtpOverTcp, fun _ => none, fun _ => none,
      .parseRequestLine⟩ := ⟨rfl, rfl, rfl⟩
  obtain ⟨line, hline, hstep⟩ := RtspReader.readStep_accepted hidle.state hacc []
  obtain ⟨hgot, -⟩ := hline.headersRead_spec hidle q.headerText
  obtain ⟨-, hmethod, hparams, -⟩ := line.seeCSeq_spec q.headerText
  rw [List.append_nil, RtspReader.readHeaders_append line q.headerText (by decide)] at hstep
  unfold RtspReader.finish at hstep
  rw [hgot, hcseq, hq, show RtspRequest.completes .setup q.headerText = true from hpair,
    Bool.and_true, if_pos rfl,
    RtspRequest.headersRead_setup (hline.method.trans hq) (line.isSome_seeCSeq hcseq) hpair]
    at hstep
  obtain ⟨r, hr⟩ : ∃ r, r = (line.seeCSeq q.headerText).seeTransport q.headerText := ⟨_, rfl⟩
  have hchannel : r.parseMediaChannel = { r with channelId := .channel0 } := by
    have hurl : r.requestLineParam .url = some (q.url, 0) := by
      rw [hr, (RtspRequest.sameRequest_seeTransport _ _).requestLineParam, hparams]
      exact hline.url rfl
    unfold RtspRequest.parseMediaChannel
    rw [hurl]
    dsimp only
    rw [htrack]
    rfl
  have hsetup : r.method = .setup := by
    rw [hr]
    exact hmethod.trans (hline.method.trans hq)
  have hudp : r.transport = .rtpOverUdp := by
    rw [hr, RtspRequest.seeTransport, hmode]
    rfl
  rw [← hr, hchannel] at hstep
  dsimp only at hstep
  rw [hsetup, hudp] at hstep
  exact ⟨_, _, _, _, _, hidle, hstep⟩

end Request

namespace Streaming

open SetupRecord SentPacket
open RtpConnection (Transmission)

/-- A client that sets its first channel up over UDP, plays and is sent one
packet. -/
theorem exists_streamTo (params : Params RequestLineKey) (headers : Params HeaderLineKey) :
    ∃ es s t x r, system.Run es s ∧ t ∈ s.sent ∧ x ∈ t.out ∧
      t.setups.find? (fun r => r.request.channelId = t.channelId) = some r ∧
      (∃ m ∈ r.messages, ascii "RTSP/1.0 200 OK" <+: m) ∧
      r.request = ⟨.setup, .channel0, .rtpOverUdp, params, headers, .gotAll⟩ ∧
      lastMode t.setups = some .rtpOverUdp ∧ r.peerName.isSome = true ∧
      ∃ bytes, x = .udp 8 ⟨afInet, 0x0200000a, htons r.request.getRtcpPort⟩ bytes := by
  have hrun := (run_described (fun _ _ => True) trivial).of_restrict
  have hfresh : ResourceTable.Fresh ({7} : Finset ℤ) [.obtain 8, .obtain 9] := by decide
  have hsetup := hrun.snoc (show StreamingStep _ (.request freePorts
    ⟨.setup, .channel0, .rtpOverUdp, params, headers, .gotAll⟩) _ from .setup rfl rfl hfresh)
  have hplay := hsetup.snoc (show StreamingStep _ (.request freePorts playRequest) _ from
    .command (by decide) rfl)
  have htask := hplay.snoc (show StreamingStep _ (.task none false .channel0 keyPacket) _ from
    .task rfl isMedia_keyPacket rfl)
  refine ⟨_, _, _, _, _, htask, List.mem_singleton.mpr rfl, List.mem_singleton.mpr rfl, rfl,
    ⟨_, List.mem_singleton.mpr rfl, ?_⟩, rfl, rfl, rfl, _, rfl⟩
  rw [RtspRequest.buildSetupUdpRes_eq, RtspRequest.status_of_response]
  exact List.prefix_append _ _

/-- `deliversTo_iff` for a client that names one port twice. -/
theorem deliversTo_iff_onePort : ∃ es s t x r, system.Run es s ∧ t ∈ s.sent ∧ x ∈ t.out ∧
    t.DeliversTo x r 5000 5000 := by
  have hasks : (Request.plainSetup (ascii "5000-5000") (by decide) (by decide)).AsksFor
      5000 5000 :=
    ⟨[HeaderLine.plainCSeq (ascii " 2") (by decide) (by decide)], [], _, rfl, rfl, by decide,
      by decide⟩
  obtain ⟨params, headers, hdispatches⟩ := Request.exists_dispatches rfl
    (Request.accepted_plain rfl rfl) (by decide) (by decide) hasks.clientPorts
  obtain ⟨es, s, t, x, r, hrun, ht, hx, hlast, hok, hr, hmode, hname, -⟩ :=
    exists_streamTo params headers
  rw [← hr] at hdispatches
  exact ⟨es, s, t, x, r, hrun, ht, hx,
    ((deliversTo_iff hrun ht hx hlast hok rfl hdispatches 5000 5000).2 hasks).mpr
      ⟨rfl, hmode, hname⟩⟩

/-- **Two ports**: the packets go to the second. -/
theorem second_port : ¬ ∀ es s, system.Run es s → ∀ t ∈ s.sent, ∀ x ∈ t.out, ∀ r,
    t.setups.find? (fun r => r.request.channelId = t.channelId) = some r →
    (∃ m ∈ r.messages, ascii "RTSP/1.0 200 OK" <+: m) → ∀ q : Request, q.method = .setup →
    q.Dispatches r.request → ∀ a b, q.clientPorts = some (a, b) → t.DeliversTo x r a b := by
  intro h
  have hports : (Request.plainSetup (ascii "5000-5001") (by decide) (by decide)).clientPorts
      = some (5000, 5001) :=
    Request.clientPorts_of_header (ascii "CSeq: 2\r\nTransport: ") crlf
      (by decide) (by rintro c ⟨rfl⟩; rfl) (by decide) (by decide) (by decide)
  obtain ⟨params, headers, hdispatches⟩ := Request.exists_dispatches rfl
    (Request.accepted_plain rfl rfl) (by decide) (by decide) hports
  obtain ⟨es, s, t, x, r, hrun, ht, hx, hlast, hok, hr, -, -, bytes, rfl⟩ :=
    exists_streamTo params headers
  rw [← hr] at hdispatches
  have hread := hdispatches.clientPorts rfl
  rw [hports, if_pos (by rw [hr])] at hread
  have hrtcp : r.request.getRtcpPort = 5001 := (congrArg Prod.snd (Option.some.inj hread)).symm
  obtain ⟨⟨peer, -, ⟨rtpfd, bytes', hto⟩, -⟩, -⟩ :=
    h es s hrun t ht _ hx r hlast hok _ rfl hdispatches 5000 5001 hports
  rw [hrtcp] at hto
  obtain ⟨-, hdest, -⟩ := Transmission.udp.inj hto
  exact absurd (htons_injective (congrArg SockAddr.port hdest)) (by decide)

end Streaming
