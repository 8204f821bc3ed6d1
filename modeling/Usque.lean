import Usque.App.EnrollReference
import Usque.App.EnrollAgreement
import Usque.Stack.PooledDevice
import Usque.Socks.Resolve
import Usque.Masque.Varints
import Usque.Manager.LocalPorts
import Usque.Manager.PollWork
import Usque.Manager.HandleTypes
import Usque.Manager.Isolation
import Usque.Manager.UdpFamilies
import Usque.Manager.Bookkeeping
import Usque.Manager.DnsExact
import Usque.Manager.DnsLookups
import Usque.Manager.DnsFreshness
import Usque.Stack.DeviceRuns
import Usque.Manager.WorkerPool
import Usque.Manager.DnsExpiry
import Usque.Manager.DnsServers
import Usque.Manager.DnsTrust
import Usque.Manager.RingInterleaving
import Usque.Manager.ByteFlow
import Usque.Manager.Teardown
import Usque.Manager.Parking
import Usque.Manager.EndOfStream
import Usque.Manager.WriteWakeups
import Usque.Manager.CloseRequests
import Usque.Socks.BindRelay
import Usque.Socks.FragmentArrivals
import Usque.Socks.FullDuplex
import Usque.Socks.UdpAssociate
import Usque.Socks.AssociateLeases
import Usque.Socks.UdpOwnership
import Usque.Socks.FragBuffer
import Usque.Socks.UdpForward
import Usque.Socks.RelaySources
import Usque.Socks.RelayTargets
import Usque.Socks.RelayIsolation
import Usque.Masque.ControlStream
import Usque.Masque.CapsuleOffsets
import Usque.Masque.QueuedPackets
import Usque.Masque.SendStarvation
import Usque.Manager.ShutdownDeadlock
import Usque.Manager.UdpTableSteps
import Usque.Manager.UdpSessions
import Usque.Manager.UdpEndpoints
import Usque.Stack.Datagrams
import Usque.Manager.UdpDelivery
import Usque.Manager.UdpBacklog
import Usque.Manager.TcpSlots
import Usque.Socks.Interleave
import Usque.Socks.TcpRequests
import Usque.Socks.Reservations
import Usque.Masque.Checksum
import Usque.Masque.OutgoingPacket
import Usque.Masque.PacketTooBig
import Usque.Masque.Datagram
import Usque.Masque.DatagramRuns
import Usque.Socks.Race
import Usque.Socks.RaceRuns
import Usque.Socks.Reassembly
import Usque.Masque.Connect
import Usque.Lib.Index
import Usque.Manager.FlowMap
import Usque.Stack.TcpStates
import Usque.Manager.Readiness
import Usque.Manager.Changes
import Usque.Socks.Admissions
import Usque.Manager.Answers
import Usque.Manager.Requests
import Usque.Manager.Reconnect
import Usque.Wireguard.ClientIds
import Usque.Wireguard.WireOrder
import Usque.Wireguard.Runs
import Usque.Wireguard.Service
import Usque.Wireguard.Handshake
import Usque.Wireguard.Script
import Usque.Manager.TxQueue
import Usque.Masque.System
import Usque.Masque.WorkerSteps
import Usque.Masque.DrainRounds
import Usque.Masque.ManagerSteps
import Usque.Masque.Coupling
import Usque.Masque.Refinement
import Usque.Masque.EndToEnd
import Usque.Masque.Backpressure
