import RedroidExt.Library.Loop
import RedroidExt.Library.TransitionSystem
import RedroidExt.Library.Paths
import RedroidExt.Library.ByteMemory
import RedroidExt.Library.TagLengthValue
import RedroidExt.Library.Netmask
import RedroidExt.Library.Assignments
import RedroidExt.Library.Noninterference
import RedroidExt.Library.Program
import RedroidExt.Library.World
import RedroidExt.Library.Opened
import RedroidExt.Library.Pairing
import RedroidExt.Library.PaddedRecords
import RedroidExt.Dhcp.Message
import RedroidExt.Dhcp.MessageReads
import RedroidExt.Dhcp.MessageOptions
import RedroidExt.Dhcp.Server
import RedroidExt.Dhcp.Allocation
import RedroidExt.Dhcp.Leases
import RedroidExt.Dhcp.Isolation
import RedroidExt.Dhcp.Refusals
import RedroidExt.Dhcp.Reconfiguration
import RedroidExt.Dhcp.ForeignRequests
import RedroidExt.Dhcp.ClientTraces
import RedroidExt.Dhcp.Replies
import RedroidExt.Dhcp.ServerRuns
import RedroidExt.Dhcp.StaleBuffer
import RedroidExt.Dhcp.Client
import RedroidExt.Dhcp.AckDecoding
import RedroidExt.Dhcp.OptionLoop
import RedroidExt.Dhcp.Padding
import RedroidExt.Dhcp.DefaultTimers
import RedroidExt.Dhcp.RejectedAck
import RedroidExt.Dhcp.ClientRuns
import RedroidExt.Dhcp.Renewal
import RedroidExt.Dhcp.LeaseEnd
import RedroidExt.Dhcp.Segment
import RedroidExt.Dhcp.Agreement
import RedroidExt.Dhcp.Exclusivity
import RedroidExt.Dhcp.ServerSelection
import RedroidExt.Dhcp.NewLeases
import RedroidExt.Dhcp.ClientWaits
import RedroidExt.Dhcp.RetrySchedule
import RedroidExt.Dhcp.RenewingWait
import RedroidExt.Dhcp.RawUdp
import RedroidExt.Dhcp.HeardReplies
import RedroidExt.Dhcp.Halted
import RedroidExt.Dhcp.Recovery
import RedroidExt.Dhcp.Restarts
import RedroidExt.Dhcp.Configuration
import RedroidExt.Dhcp.Daemons
import RedroidExt.Dhcp.DaemonRuns
import RedroidExt.Dhcp.FirstLeases
import RedroidExt.Ipv6Proxy.Packet
import RedroidExt.Ipv6Proxy.Proxy
import RedroidExt.Ipv6Proxy.OptionWalk
import RedroidExt.Ipv6Proxy.WalkEnds
import RedroidExt.Ipv6Proxy.Rewriting
import RedroidExt.Ipv6Proxy.ExaminedBytes
import RedroidExt.Ipv6Proxy.DnsProperties
import RedroidExt.Ipv6Proxy.ProxyRuns
import RedroidExt.Ipv6Proxy.Validity
import RedroidExt.Ipv6Proxy.OptionLayout
import RedroidExt.Ipv6Proxy.Socket
import RedroidExt.Ipv6Proxy.PollLoop
import RedroidExt.Ipv6Proxy.Startup
import RedroidExt.Ipv6Proxy.StartupRuns
import RedroidExt.Ipv6Proxy.Relaying
import RedroidExt.Netlink.Attributes
import RedroidExt.Netlink.Requests
import RedroidExt.Gnss.Reporter
import RedroidExt.Gnss.ReporterRuns
import RedroidExt.Gnss.Deadlock
import RedroidExt.Gnss.GnssTemplate
import RedroidExt.Gnss.Sessions
import RedroidExt.Gnss.Locations
import RedroidExt.Gnss.LocationFile
import RedroidExt.Gnss.NmeaFixInfo
import RedroidExt.Gnss.Blocklist
import RedroidExt.Gnss.BlocklistThreads
import RedroidExt.Gnss.GnssMeasurementInterface
import RedroidExt.Gnss.MeasurementWorkers
import RedroidExt.Gnss.LookupErrors
import RedroidExt.Netns.Createns
import RedroidExt.Netns.PidFile
import RedroidExt.Netns.Execns
import RedroidExt.Netns.Handoff
import RedroidExt.Netns.ExecnsMain
import RedroidExt.Netns.Privileges
import RedroidExt.Netns.CreatensMain
import RedroidExt.Netns.RouterNamespace
import RedroidExt.Netns.EntersRouter
import RedroidExt.Wifi.Radios
