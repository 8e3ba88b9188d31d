import UptimeGreeter.Main
import UptimeGreeter.Server.Lifecycle
import UptimeGreeter.Proofs.CommandLine.Precedence
import UptimeGreeter.Proofs.Server.Consultation
import UptimeGreeter.Proofs.Server.EndToEnd
import UptimeGreeter.Proofs.Server.Classification
import UptimeGreeter.Proofs.Server.GreetingText
import UptimeGreeter.Proofs.Server.UptimeReports
import UptimeGreeter.Proofs.Server.StartTime
import UptimeGreeter.Proofs.Server.BirthData
import UptimeGreeter.Proofs.Server.ClientInfluence
import UptimeGreeter.Proofs.Server.Endings
import UptimeGreeter.Proofs.Http.TargetText
import UptimeGreeter.Proofs.Server.RequestLog
import UptimeGreeter.Proofs.Server.HeadRequests
import UptimeGreeter.Proofs.LogFilter.FilterText
import UptimeGreeter.Proofs.LogFilter.Selection
import UptimeGreeter.Proofs.CommandLine.Flags
import UptimeGreeter.Proofs.CommandLine.Blame
import UptimeGreeter.Proofs.CommandLine.PortNumbers
import UptimeGreeter.Proofs.Server.ProfileEcho
import UptimeGreeter.Proofs.Net.Ipv4
import UptimeGreeter.Proofs.Text.Hexadecimal
import UptimeGreeter.Proofs.Net.Ipv6Form
import UptimeGreeter.Proofs.Net.Ipv6Text
import UptimeGreeter.Proofs.Net.AddressText
import UptimeGreeter.Proofs.Net.HostText
import UptimeGreeter.Proofs.Server.FlagsShown
import UptimeGreeter.Proofs.Server.Description
import UptimeGreeter.Proofs.Json.Compact
import UptimeGreeter.Proofs.Json.Unambiguous
import UptimeGreeter.Proofs.Server.HealthReport
import UptimeGreeter.Proofs.CommandLine.RoundTrip
