import Traceroute.Probe
import Traceroute.Fast
import Traceroute.Theorems.Conservation
import Traceroute.Theorems.Answered
import Traceroute.Theorems.Results
import Traceroute.Theorems.Reuse
import Traceroute.ChecksumCalculator
import Traceroute.PacketFactory
import Traceroute.Lib.Window
import Traceroute.Theorems.Validators
import Traceroute.Theorems.Queries
import Traceroute.Theorems.Verdict
import Traceroute.Sequential
import Traceroute.Theorems.SequentialSteps
import Traceroute.Theorems.SequentialShape
import Traceroute.Theorems.Malformed
import Traceroute.Theorems.Attribution
import Traceroute.Theorems.UdpAttribution
import Traceroute.Network
import Traceroute.Theorems.FastNetwork
import Traceroute.Theorems.SequentialNetwork
import Traceroute.Theorems.FastReturns
import Traceroute.Theorems.Agreement
import Traceroute.Theorems.SendFailure
import Traceroute.Theorems.SequentialProbe
import Traceroute.Theorems.Windows
import Traceroute.Theorems.Responses
import Traceroute.Theorems.IcmpAnswers
import Traceroute.Theorems.TcpAnswers
import Traceroute.Theorems.Truncated
import Traceroute.Theorems.RetryOrder
import Traceroute.Theorems.Postprocessing
import Traceroute.DataSender
import Traceroute.Theorems.Polling
import Traceroute.Lib.OnesComplement
import Traceroute.Wire
import Traceroute.Theorems.Checksum
import Traceroute.Theorems.ProbeChecksums
import Traceroute.Theorems.Serialized
import Traceroute.Theorems.AddressEquality
import Traceroute.Sockets
import Traceroute.Theorems.DataSenderSockets
import Traceroute.Theorems.Descriptors
import Traceroute.Theorems.SourceAddress
import Traceroute.Theorems.SendCount
import Traceroute.Theorems.SequentialProgress
import Traceroute.Theorems.InternetChecksum
import Traceroute.Lib.Script
import Traceroute.Sending
import Traceroute.Wired
import Traceroute.Theorems.Emission
import Traceroute.Theorems.FastWired
import Traceroute.Theorems.SequentialWired
import Traceroute.Theorems.ReportedAnswers
import Traceroute.Theorems.SequentialOrder
import Traceroute.Theorems.FastLeaves
import Traceroute.Theorems.SequentialLeaves
import Traceroute.Theorems.Deadlines
import Traceroute.Theorems.Hops
import Traceroute.Lib.Rounding
import Traceroute.Printing
import Traceroute.Theorems.Printed
import Traceroute.Theorems.PrintedTimes
import Traceroute.Theorems.CreateSockets
import Traceroute.SocketOptions
import Traceroute.Theorems.SocketOptions
import Traceroute.Theorems.Delivered
import Traceroute.Theorems.Loopback
