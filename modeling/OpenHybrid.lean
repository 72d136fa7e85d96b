import OpenHybrid.Lib.Bytes
import OpenHybrid.Lib.Loop
import OpenHybrid.Lib.Run
import OpenHybrid.Runtime
import OpenHybrid.Gre
import OpenHybrid.Gre2tun
import OpenHybrid.Tundev
import OpenHybrid.Tun2gre
import OpenHybrid.Proof.Advance
import OpenHybrid.Proof.DataPlane
import OpenHybrid.Proof.LateDiscard
import OpenHybrid.Proof.Termination
import OpenHybrid.Proof.Conservation
import OpenHybrid.Proof.Delivery
import OpenHybrid.Proof.Deadline
import OpenHybrid.Grecp
import OpenHybrid.Handlers
import OpenHybrid.Proof.Attributes
import OpenHybrid.Proof.GrecpRoundTrip
import OpenHybrid.Proof.StaleBytes
import OpenHybrid.Proof.AttributeValues
import OpenHybrid.Dhcp
import OpenHybrid.ExecuteTimers
import OpenHybrid.MainLoop
import OpenHybrid.Lib.Frame
import OpenHybrid.Proof.Footprint
import OpenHybrid.Proof.Reception
import OpenHybrid.Proof.Execution
import OpenHybrid.Proof.Establishment
import OpenHybrid.Proof.Reconnect
import OpenHybrid.Proof.DeadPeer
import OpenHybrid.Proof.FalseDeath
import OpenHybrid.Lib.Alternate
import OpenHybrid.Lib.Monitor
import OpenHybrid.Lib.Once
import OpenHybrid.Lib.PrefixCode
import OpenHybrid.Proof.Clients
import OpenHybrid.Proof.DataKey
import OpenHybrid.Proof.FilterList
import OpenHybrid.Proof.Interference
import OpenHybrid.Proof.Ownership
import OpenHybrid.Proof.Parameters
import OpenHybrid.Proof.Tlv
import OpenHybrid.Proof.Accept
import OpenHybrid.Proof.LatePacket
import OpenHybrid.Proof.Upstream
import OpenHybrid.Proof.Source
import OpenHybrid.Proof.DataHeader
import OpenHybrid.Proof.ConfigText
import OpenHybrid.Proof.ConfigMtu
import OpenHybrid.Proof.ConfigRoundTrip
import OpenHybrid.Proof.ClientOutput
import OpenHybrid.Proof.RoundTripTime
import OpenHybrid.Proof.IterationEnd
import OpenHybrid.Proof.Compaction
import OpenHybrid.Lib.Channel
import OpenHybrid.Proof.Network
import OpenHybrid.Proof.Restoration
import OpenHybrid.Proof.Occupancy
import OpenHybrid.Lib.Spacing
import OpenHybrid.Proof.HelloCadence
import OpenHybrid.Proof.SetUp
import OpenHybrid.Proof.Growth
import OpenHybrid.Proof.Emission
import OpenHybrid.Proof.Exit
import OpenHybrid.Proof.TakeDown
import OpenHybrid.Proof.Outsiders
import OpenHybrid.Lib.Owed
import OpenHybrid.Proof.Demands
import OpenHybrid.Lib.Numeral
import OpenHybrid.Helpers
import OpenHybrid.Environment
import OpenHybrid.DhcpScript
import OpenHybrid.Lib.Environ
import OpenHybrid.Proof.EventEnvironment
import OpenHybrid.Proof.EventCalls
import OpenHybrid.Proof.InterfaceTable
import OpenHybrid.Proof.Startup
import OpenHybrid.Proof.LeaseJourney
