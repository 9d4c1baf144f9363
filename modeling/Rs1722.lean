import Rs1722.Lib.Outcome
import Rs1722.Lib.File
import Rs1722.Lib.Bits
import Rs1722.Lib.MachineInt
import Rs1722.Lib.StdIo
import Rs1722.Lib.Loop
import Rs1722.Lib.Endian
import Rs1722.Lib.Bitstream
import Rs1722.Lib.Discriminant
import Rs1722.Lib.StdTime
import Rs1722.Lib.Machine
import Rs1722.Lib.Tight
import Rs1722.Lib.Smoothing
import Rs1722.Lib.Float
import Rs1722.Lib.Gaps
import Rs1722.Lib.Wrap
import Rs1722.Lib.Words
import Rs1722.Lib.Text
import Rs1722.Lib.Utf8
import Rs1722.Lib.BufRead
import Rs1722.Lib.Dict
import Rs1722.Lib.Number
import Rs1722.Lib.Decimal
import Rs1722.Lib.Separated
import Rs1722.Lib.Compare
import Rs1722.Lib.PriorityBuffer
import Rs1722.Lib.Selection
import Rs1722.Lib.Throttle
import Rs1722.PtpProto.State
import Rs1722.PtpProto.PmcFormat
import Rs1722.PtpProto.PmcOrder
import Rs1722.PtpProto.Instance
import Rs1722.PtpProto.Config
import Rs1722.PtpProto.LogStream
import Rs1722.Bin.PtpSyncd
import Rs1722.Avtp.Subtype
import Rs1722.Ptp.Time
import Rs1722.Ptp.Display
import Rs1722.Ptp.Clock
import Rs1722.Ptp.Device
import Rs1722.Avtp.Timestamp
import Rs1722.Avtp.Headers
import Rs1722.Avtp.Avtpdu
import Rs1722.Avtp.Format
import Rs1722.Avtp.Wire
import Rs1722.Avtp.Write
import Rs1722.Avtp.Alternative
import Rs1722.Avtp.Synchronizer
import Rs1722.Avtp.ClockRun
import Rs1722.Avtp.ClockTracking
import Rs1722.Avtp.ClockLock
import Rs1722.Avtp.ClockFailure
import Rs1722.Avtp.Aaf.Specific
import Rs1722.Avtp.Aaf.Pcm
import Rs1722.Avtp.Aaf.Common
import Rs1722.Avtp.Aaf.Parse
import Rs1722.Avtp.Aaf.Invariant
import Rs1722.Avtp.Aaf.Stream
import Rs1722.Avtp.Aaf.Fidelity
import Rs1722.Avtp.Aaf.Loss
import Rs1722.Avtp.Aaf.Isolation
import Rs1722.Avtp.Aaf.Presentation
import Rs1722.Avtp.Aaf.Talker
import Rs1722.Avtp.Aaf.Times
import Rs1722.Avtp.Transport.Ethernet
import Rs1722.IntegrationTest.Receiver
import Rs1722.IntegrationTest.TalkerThread
import Rs1722.IntegrationTest.TalkerRun
import Rs1722.IntegrationTest.DrainLoop
import Rs1722.IntegrationTest.JitterBuffer
import Rs1722.IntegrationTest.RunTest
import Rs1722.IntegrationTest.Traffic
import Rs1722.IntegrationTest.Report
import Rs1722.IntegrationTest.TalkerRecords
import Rs1722.IntegrationTest.Verdict
import Rs1722.IntegrationTest.Ordered
import Rs1722.IntegrationTest.Playback
import Rs1722.Audio.Wav
import Rs1722.Audio.WavLayout
import Rs1722.Audio.WavRoundTrip
import Rs1722.Audio.WavReader
import Rs1722.Audio.WavWriter
import Rs1722.IntegrationTest.Setup
import Rs1722.IntegrationTest.Outputs
import Rs1722.Bin.Network
import Rs1722.Bin.Lifecycle
import Rs1722.Bin.PtpTool
import Rs1722.Bin.Reports
