import PacketFraming.Main
import PacketFraming.Stream.Writer
import PacketFraming.Proofs.RoundTrip
import PacketFraming.Proofs.ZeroGaps
import PacketFraming.Proofs.DamagedHeaders
import PacketFraming.Proofs.Interference
import PacketFraming.Proofs.FreshStart
import PacketFraming.Proofs.PacketCounters
import PacketFraming.Proofs.Sending
import PacketFraming.Proofs.Whitening
import PacketFraming.Proofs.EventLog
import PacketFraming.Proofs.GuardedCalls
import PacketFraming.Proofs.FrameLength
import PacketFraming.Proofs.SlidingWindow
import PacketFraming.Proofs.PolynomialDivision
import PacketFraming.Proofs.HeldBits
import PacketFraming.Proofs.BufferedFields
import PacketFraming.Proofs.MetadataHistory
import PacketFraming.Proofs.JsonText
import PacketFraming.Proofs.ConfigMembers
import PacketFraming.Proofs.ConfigText
import PacketFraming.Proofs.MetadataText
import PacketFraming.Proofs.ReportedConfigs
import PacketFraming.Proofs.CodeText
import PacketFraming.Proofs.PackedBits
import PacketFraming.Proofs.ReaderAccounts
import PacketFraming.Proofs.ScramblerRecurrence
