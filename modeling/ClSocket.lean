import ClSocket.Connect.AcceptOnce
import ClSocket.Connect.Binding
import ClSocket.Connect.Destination
import ClSocket.Connect.Endpoints
import ClSocket.Connect.LastSender
import ClSocket.Connect.Readiness
import ClSocket.Descriptor.CloseOnce
import ClSocket.Descriptor.Isolation
import ClSocket.Descriptor.Leak
import ClSocket.Errors.CleanUp
import ClSocket.Errors.Codes
import ClSocket.Errors.Settling
import ClSocket.Exchange.Session
import ClSocket.Host.ByteOrder
import ClSocket.Host.Parsing
import ClSocket.Memory.Copies
import ClSocket.Memory.Lifetime
import ClSocket.Program.EchoServer
import ClSocket.Program.QueryDayTime
import ClSocket.Program.RecvAsync
import ClSocket.Settings.Blocking
import ClSocket.Settings.Cached
import ClSocket.Settings.Dscp
import ClSocket.Settings.Nagle
import ClSocket.Timing.Ordered
import ClSocket.Transfer.Alike
import ClSocket.Transfer.BlockRange
import ClSocket.Transfer.Interleaving
import ClSocket.Transfer.Receiving
import ClSocket.Transfer.RecvWindow
import ClSocket.Transfer.Resuming
import ClSocket.Transfer.SendFile
import ClSocket.Transfer.SendOnce
import ClSocket.Transfer.Writev
import ClSocket.Transfer.Zero
