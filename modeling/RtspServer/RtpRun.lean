import RtspServer.RtpConnection
import RtspServer.Transition

/-!
# Runs of an `RtpConnection`

The operations other code performs on one `RtpConnection`, each with what the
operating system and the TCP connection contribute to it, and the transition
system of their runs from the constructor. The state of the system remembers
which packets were handed to `sendRtpOverTcp` or `sendRtpOverUdp`, in order:
the connection itself keeps no such record.
-/

namespace RtpConnection

/-- One operation on a connection. `task` is the execution of a task that
`sendRtpPacket` queued. -/
inductive Op where
  | setClockRate (channelId : MediaChannelId) (clockRate : UInt32)
  | setPayloadType (channelId : MediaChannelId) (payload : UInt32)
  | setupRtpOverTcp (tcpConn : Option TcpPeer) (channelId : MediaChannelId)
      (rtpChannel rtcpChannel : UInt16)
  | setupRtpOverUdp (tcpConn : Option TcpPeer) (attempts : Fin 10 → UdpAttempt)
      (channelId : MediaChannelId) (rtpPort rtcpPort : UInt16)
  | play
  | record
  | teardown
  | task (tcpConn : Option TcpPeer) (sendtoFails : Bool) (channelId : MediaChannelId)
      (pkt : RtpPacket)

/-- The connection after an operation. -/
def exec (c : RtpConnection) : Op → Except Fault RtpConnection
  | .setClockRate channelId clockRate => .ok (c.setClockRate channelId clockRate)
  | .setPayloadType channelId payload => .ok (c.setPayloadType channelId payload)
  | .setupRtpOverTcp tcpConn channelId rtpChannel rtcpChannel =>
    .ok (c.setupRtpOverTcp tcpConn channelId rtpChannel rtcpChannel).2
  | .setupRtpOverUdp tcpConn attempts channelId rtpPort rtcpPort =>
    .ok (c.setupRtpOverUdp tcpConn attempts channelId rtpPort rtcpPort).2.1
  | .play => .ok c.play
  | .record => .ok c.record
  | .teardown => .ok c.teardown
  | .task tcpConn sendtoFails channelId pkt =>
    (·.1) <$> c.sendTask tcpConn sendtoFails channelId pkt

/-- A packet handed to one of the two send functions. -/
structure Handover where
  channelId : MediaChannelId
  pkt : RtpPacket
deriving DecidableEq

/-- What an operation hands to the send functions. -/
def handedBy (c : RtpConnection) : Op → Option Handover
  | .task _ _ channelId pkt => (c.prepare channelId pkt).2.map fun p => ⟨channelId, p⟩
  | _ => none

/-- A connection and what it has handed over so far. -/
structure Sender where
  conn : RtpConnection
  handed : List Handover

namespace Sender

/-- One operation of a run. -/
def step (s : Sender) (op : Op) : Except Fault Sender := do
  let conn ← s.conn.exec op
  return ⟨conn, s.handed ++ (s.conn.handedBy op).toList⟩

/-- The runs of one connection from its constructor. -/
def system (garbage : RtpConnection) (rd : ℕ → UInt32) : System Sender Op :=
  System.ofStep (· = ⟨RtpConnection.new garbage rd, []⟩) step

/-- The packets handed over on one channel. -/
def handedOn (s : Sender) (ch : MediaChannelId) : List RtpPacket :=
  (s.handed.filter fun o => o.channelId = ch).map (·.pkt)

/-- The number of packets handed over on one channel. -/
def countOn (s : Sender) (ch : MediaChannelId) : ℕ := (s.handedOn ch).length

theorem step_eq_ok {s s' : Sender} {op : Op} (h : s.step op = .ok s') :
    s.conn.exec op = .ok s'.conn ∧ s'.handed = s.handed ++ (s.conn.handedBy op).toList := by
  obtain ⟨conn, hconn, h⟩ := Except.bind_eq_ok_iff.mp h
  cases h
  exact ⟨hconn, rfl⟩

/-- What one step adds to the record of a channel. -/
theorem handedOn_step {s s' : Sender} {op : Op} (h : s.step op = .ok s')
    (ch : MediaChannelId) :
    s'.handedOn ch = s.handedOn ch
      ++ (((s.conn.handedBy op).toList.filter fun o => o.channelId = ch).map (·.pkt)) := by
  unfold handedOn
  rw [(step_eq_ok h).2, List.filter_append, List.map_append]

end Sender

end RtpConnection
