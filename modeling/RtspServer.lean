import RtspServer.Memory
import RtspServer.Media
import RtspServer.H264Source
import RtspServer.Depacketization
import RtspServer.Transition
import RtspServer.ResourceTable
import RtspServer.Interleaved
import RtspServer.H264File
import RtspServer.FrameWindows
import RtspServer.FrameBoundaries
import RtspServer.ByteStream
import RtspServer.RtpConnection
import RtspServer.Transmissions
import RtspServer.FrameSizes
import RtspServer.Sockets
import RtspServer.SocketOwnership
import RtspServer.RtpRun
import RtspServer.FailedSetup
import RtspServer.RtpSequence
import RtspServer.Search
import RtspServer.LineArrivals
import RtspServer.LineSearch
import RtspServer.Scanf
import RtspServer.ScanfWords
import RtspServer.Buffer
import RtspServer.TextLines
import RtspServer.RtspMessage
import RtspServer.RequestLine
import RtspServer.Decimal
import RtspServer.ResponseText
import RtspServer.SharedHeap
import RtspServer.TaskQueue
import RtspServer.CircularArray
import RtspServer.RingBuffer
import RtspServer.MediaSession
import RtspServer.SendCallback
import RtspServer.ClientCount
import RtspServer.SessionDescription
import RtspServer.Rtsp
import RtspServer.PushFrame
import RtspServer.SessionTables
import RtspServer.FrameOrder
import RtspServer.RtspReader
import RtspServer.FrameSkipping
import RtspServer.RtspConnection
import RtspServer.SetupHistory
import RtspServer.AfterTeardown
import RtspServer.FirstPacket
import RtspServer.Streaming
import RtspServer.PacketTransport
import RtspServer.InterleavedStream
import RtspServer.CommandOrder
import RtspServer.ServerRun
import RtspServer.DescribeBody
import RtspServer.ClientRegistration
import RtspServer.TaskLifetime
import RtspServer.DescribedSession
import RtspServer.Request
import RtspServer.RtspUrl
import RtspServer.UrlParsing
import RtspServer.RequestReading
import RtspServer.RtspResponse
import RtspServer.ClientPorts
import RtspServer.ServerPorts
import RtspServer.RequestHistory
import RtspServer.ResponseCSeq
import RtspServer.Pipelining
import RtspServer.RequestCuts
import RtspServer.HeaderCuts
import RtspServer.HeaderReading
import RtspServer.RequestText
import RtspServer.TrackNames
import RtspServer.RejectedRequest
import RtspServer.TransportPlace
import RtspServer.TransportScan
import RtspServer.OtherHeaders
import RtspServer.BufferStorage
import RtspServer.InputBuffer
import RtspServer.TcpConnection
import RtspServer.EventLoop
import RtspServer.TimerQueue
import RtspServer.TimerHistory
import RtspServer.TimerAlarm
import RtspServer.ConnectionSteps
import RtspServer.TcpServer
