import Usque.Lib.Run
import Usque.Manager.Transport

namespace Usque

structure ConnectionParams where
  ipv4 : Option (Option Ipv4Address)
  ipv6 : Option (Option Ipv6Address)
  dnsServers : List IpAddress
  tcpBufferSize : Nat
  tunnelMode : TunnelMode
  managerTunables : ManagerTunables
  stackTunables : StackTunables
deriving DecidableEq, Repr

inductive ClientPhase where
  | unborn
  | holding
  | dropped
  | finished
deriving DecidableEq, Repr

structure Client where
  phase : ClientPhase
  shutdown : Bool
deriving DecidableEq, Repr

inductive ClientOp where
  | read (n : Nat)
  | write (buf : List UInt8)
  | flush
  | shutdown
  | drop
  | close
  | getState
  | waitReady
  | finish
deriving DecidableEq, Repr

inductive DrainPhase where
  | events
  | commands
  | udp
  | incoming
deriving DecidableEq, Repr

structure Dirty where
  socketEvents : Bool
  commands : Bool
  udpSends : Bool
  stackIngress : Bool
deriving DecidableEq, Repr

-- Where the manager task is between two points at which other tasks may run.
inductive Pc where
  | disconnected
  | loopHead
  | select (schedule : LoopSchedule)
  | drain (phase : DrainPhase) (remaining : Nat) (dirty : Dirty)
  | service (dirty : Dirty)
  | poll (fullTcpSweep dirtyCycle : Bool)
  | sweep (fullSweep egress dirtyCycle : Bool)
  | egress
  | transmit (dirtyCycle : Bool)
  | refresh
  | faulted (fault : Fault)
deriving DecidableEq, Repr

inductive Choice where
  | establish (mtu : Nat)
  | disconnectedCommand
  | disconnectedUdp
  | checkAlive (alive : Bool)
  | command (draw : Nat)
  | udp
  | incoming (decrypted : Option Packet)
  | socketEvent
  | maintenance
  | pollTimer
  | nextPhase
  | advance
  | transmit (results : List SendResult)
  | refresh (transportPendingSendPackets : Nat)
deriving DecidableEq, Repr

inductive Label where
  | client (x : StreamId) (op : ClientOp)
  | submit (cmd : ManagerCommand)
  | udpSend (cmd : UdpSend)
  | reserveSlot
  | releaseSlot
  | tick (d : Time)
  | io (event : TransportIoEvent)
  | evict (domain : String)
  | statics (statics : Statics)
  | cancel (response : OneshotId)
  | receiveUdp (channel : ChannelId)
  | closeUdp (channel : ChannelId)
  | manager (choice : Choice)
deriving DecidableEq, Repr

namespace ManagerCommand

def source : ManagerCommand → Option StreamId
  | .close _ source => some source
  | .getSocketState _ _ source => some source
  | .waitSocketReady _ _ source => some source
  | _ => none

def tcpHandle : ManagerCommand → Option SocketHandle
  | .close handle _ => some handle
  | .getSocketState handle _ _ => some handle
  | .waitSocketReady handle _ _ => some handle
  | _ => none

def response : ManagerCommand → Option OneshotId
  | .connect _ _ _ _ response => some response
  | .close _ _ => none
  | .dnsResolve _ _ response => some response
  | .dnsResolveAll _ response => some response
  | .udpRegister _ response => some response
  | .udpUnregister _ => none
  | .getSocketState _ response _ => some response
  | .waitSocketReady _ response _ => some response

def mayOpen : ManagerCommand → Bool
  | .connect .. | .dnsResolve .. | .dnsResolveAll .. | .udpRegister .. => true
  | _ => false

def flowKey : ManagerCommand → Option TcpFlowKey
  | .connect remoteIp remotePort localPort _ _ => some ⟨localPort, remoteIp, remotePort⟩
  | _ => none

end ManagerCommand

structure System (S : Smoltcp) where
  params : ConnectionParams
  rt : RuntimeState S
  pc : Pc
  tunnel : ActiveTunnel
  cmdRx : List ManagerCommand
  udpRx : List UdpSend
  incomingRx : List TransportIoEvent
  clients : StreamId → Client
  nextOneshot : OneshotId
  asker : OneshotId → Option StreamId

namespace System

variable {S : Smoltcp} (H : Hickory)

def freshStack (S : Smoltcp) (params : ConnectionParams) (mtu : Nat) : NetworkStack S :=
  .new S params.ipv4 params.ipv6 mtu params.stackTunables

-- While no tunnel is up the manager has no RuntimeState; `rt` then carries only `shared`.
def freshRuntime (S : Smoltcp) (params : ConnectionParams) (mtu session : Nat)
    (shared : Shared) : RuntimeState S :=
  .new (freshStack S params mtu) params.managerTunables session shared

def init (S : Smoltcp) (params : ConnectionParams) : System S where
  params := params
  rt := freshRuntime S params 0 0
    (.new params.managerTunables.managerMaxTcpSocketsPerWorker)
  pc := .disconnected
  tunnel := .fromConn params.tunnelMode params.managerTunables 0
  cmdRx := []
  udpRx := []
  incomingRx := []
  clients := fun _ => ⟨.unborn, false⟩
  nextOneshot := 0
  asker := fun _ => none

def connected (s : System S) : Bool :=
  match s.pc with
  | .disconnected | .faulted _ => false
  | _ => true

def senders (rt : RuntimeState S) : List OneshotId :=
  ((Table.values rt.sockets).map (·.readyWaiters)).flatten ++
    ((Table.values rt.dnsGroups).map (fun g => g.response.toList ++ g.responseAll.toList)).flatten

def teardown (s : System S) : System S :=
  let rt := s.rt.setStats s.rt.shared.stats.reset
  let rt := rt.replyAll (senders rt) .senderDropped
  { s with
    rt := freshRuntime S s.params 0 (rt.session + 1) rt.shared
    pc := .disconnected
    incomingRx := [] }

def andThen {α : Type} (s : System S) (o : Outcome α) (k : α → System S) : System S :=
  match o with
  | .ok a => k a
  | .error fault => { s with pc := .faulted fault }

-- A stream whose receiver is gone is dropped with the undelivered reply.
def admitted (s : System S) (rt : RuntimeState S) : StreamId → Client :=
  let x := s.rt.shared.nextStream
  if rt.shared.nextStream = x then s.clients
  else
    Function.update s.clients x
      ⟨if (rt.stream x).socketDropped then .finished else .holding, false⟩

def streamOp (s : System S) (x : StreamId) (n : SocketStreamHandle.Notified) : System S :=
  { s with rt := s.rt.putStream x n }

def setClient (s : System S) (x : StreamId) (c : Client) : System S :=
  { s with clients := Function.update s.clients x c }

def hasCommandRoom (s : System S) : Bool :=
  s.cmdRx.length < s.params.managerTunables.cmdChannelCapacity

def ask (s : System S) (x : StreamId) (cmd : OneshotId → ManagerCommand) : Option (System S) :=
  if s.hasCommandRoom then
    some { s with
      cmdRx := s.cmdRx ++ [cmd s.nextOneshot]
      nextOneshot := s.nextOneshot + 1
      asker := Function.update s.asker s.nextOneshot (some x) }
  else none

def clientStep (s : System S) (x : StreamId) (op : ClientOp) : Option (System S) :=
  let c := s.rt.stream x
  let phase := (s.clients x).phase
  match op with
  | .read n => if phase = .holding then some (s.streamOp x (c.pollRead n).2) else none
  | .write buf => if phase = .holding then some (s.streamOp x (c.pollWrite buf).2) else none
  | .flush => if phase = .holding then some (s.streamOp x c.pollFlush.2) else none
  | .shutdown =>
      if phase = .holding then
        let s := s.streamOp x c.pollShutdown.2
        match c.pollShutdown.1 with
        | .pending => some s
        | .ready () => some (s.setClient x ⟨.holding, true⟩)
      else none
  | .drop =>
      if phase = .holding then
        some ((s.streamOp x c.drop).setClient x { s.clients x with phase := .dropped })
      else none
  | .close =>
      if (phase = .holding ∨ phase = .dropped) ∧ s.hasCommandRoom then
        some { s with cmdRx := s.cmdRx ++ [.close c.handle x] }
      else none
  | .getState =>
      if phase = .holding ∨ phase = .dropped then
        s.ask x (fun response => .getSocketState c.handle response x)
      else none
  | .waitReady =>
      if phase = .holding ∨ phase = .dropped then
        s.ask x (fun response => .waitSocketReady c.handle response x)
      else none
  | .finish =>
      if phase = .dropped then some (s.setClient x { s.clients x with phase := .finished })
      else none

def submit (s : System S) (cmd : ManagerCommand) : Option (System S) :=
  if cmd.source = none ∧ s.hasCommandRoom then
    match cmd.response with
    | none => some { s with cmdRx := s.cmdRx ++ [cmd] }
    | some response =>
        if response = s.nextOneshot then
          some { s with cmdRx := s.cmdRx ++ [cmd], nextOneshot := s.nextOneshot + 1 }
        else none
  else none

def setShared (s : System S) (shared : Shared) : System S :=
  { s with rt := { s.rt with shared } }

def enterDrain (s : System S) : System S :=
  { s with
    pc := .drain .events s.params.managerTunables.socketEventBatchBudget
      ⟨false, false, false, false⟩ }

def takeCommand (s : System S) (draw : Nat) (pc : Pc) : Option (System S) :=
  match s.cmdRx with
  | [] => none
  | cmd :: cmdRx =>
      some (s.andThen
        (s.rt.handleCommand H s.params.dnsServers s.params.tcpBufferSize draw cmd)
        (fun rt => { s with rt, cmdRx, clients := s.admitted rt, pc }))

def takeUdp (s : System S) (pc : Pc) : Option (System S) :=
  match s.udpRx with
  | [] => none
  | cmd :: udpRx => some (s.andThen (s.rt.handleUdpSend cmd) (fun rt => { s with rt, udpRx, pc }))

def takeIncoming (s : System S) (decrypted : Option Packet) (pc : Bool → Pc) :
    Option (System S) :=
  match s.incomingRx with
  | [] => none
  | event :: incomingRx =>
      some (s.andThen (s.tunnel.handleTransportIoEvent s.rt decrypted event)
        (fun (ingress, rt) => { s with rt, incomingRx, pc := pc ingress }))

def takeSocketEvent (s : System S) (pc : Pc) : Option (System S) :=
  match s.rt.socketEvents with
  | [] => none
  | event :: socketEvents =>
      some { s with rt := { s.rt with socketEvents }.handleSocketEvent event, pc }

def nextDrain (s : System S) (phase : DrainPhase) (dirty : Dirty) : Pc :=
  match phase with
  | .events => .drain .commands s.params.managerTunables.cmdBatchBudget dirty
  | .commands => .drain .udp s.params.managerTunables.udpBatchBudget dirty
  | .udp => .drain .incoming s.params.managerTunables.udpBatchReadBudget dirty
  | .incoming => .service dirty

def phaseEmpty (s : System S) : DrainPhase → Bool
  | .events => s.rt.socketEvents.isEmpty
  | .commands => s.cmdRx.isEmpty
  | .udp => s.udpRx.isEmpty
  | .incoming => s.incomingRx.isEmpty

def drainStep (s : System S) (phase : DrainPhase) (remaining : Nat) (dirty : Dirty)
    (choice : Choice) : Option (System S) :=
  match choice, remaining, phase with
  | .socketEvent, remaining + 1, .events =>
      s.takeSocketEvent (.drain .events remaining { dirty with socketEvents := true })
  | .command draw, remaining + 1, .commands =>
      s.takeCommand H draw (.drain .commands remaining { dirty with commands := true })
  | .udp, remaining + 1, .udp =>
      s.takeUdp (.drain .udp remaining { dirty with udpSends := true })
  | .incoming decrypted, remaining + 1, .incoming =>
      s.takeIncoming decrypted (fun ingress =>
        .drain .incoming remaining { dirty with stackIngress := dirty.stackIngress || ingress })
  | .nextPhase, remaining, phase =>
      if remaining = 0 ∨ s.phaseEmpty phase then some { s with pc := s.nextDrain phase dirty }
      else none
  | _, _, _ => none

def selectPollTimer (s : System S) (schedule : LoopSchedule) : System S :=
  let due := fun deadline : Option Time => deadline.any (· ≤ s.rt.shared.now)
  if due schedule.stackPollDeadline then { s with pc := .poll true false }
  else if due schedule.blockedSendDeadline then { s with pc := .transmit false }
  else { s with pc := .loopHead }

-- The arms are tried in order, but a message may arrive between two tests, so each ready arm
-- can be the one taken. The second component of an incoming event's outcome is not kept.
def selectStep (s : System S) (schedule : LoopSchedule) : Choice → Option (System S)
  | .command draw => s.takeCommand H draw s.enterDrain.pc
  | .udp => s.takeUdp s.enterDrain.pc
  | .incoming decrypted => s.takeIncoming decrypted (fun _ => s.enterDrain.pc)
  | .socketEvent => s.takeSocketEvent s.enterDrain.pc
  | .maintenance =>
      if schedule.maintenanceDeadline.any (· ≤ s.rt.shared.now) then
        some { s with
          tunnel := s.tunnel.runMaintenanceTick s.rt.tunables s.rt.shared.now
          pc := .loopHead }
      else none
  | .pollTimer =>
      if schedule.pollDeadline.any (· ≤ s.rt.shared.now) then some (s.selectPollTimer schedule)
      else none
  | _ => none

def serviceStep (s : System S) (dirty : Dirty) : System S :=
  if dirty.commands || dirty.udpSends || dirty.stackIngress then
    { s with pc := .poll dirty.stackIngress true }
  else if dirty.socketEvents || !s.rt.readyTcpHandles.isEmpty then
    { s with pc := .sweep false true true }
  else if s.rt.stack.hasTxPackets then { s with pc := .transmit true }
  else { s with pc := .refresh }

def pollStep (s : System S) (fullTcpSweep dirtyCycle : Bool) : System S :=
  s.andThen (s.rt.pollStackCommon H fullTcpSweep) (fun
    | .failed => s.teardown
    | .polled none rt => { s with rt, pc := .transmit dirtyCycle }
    | .polled (some fullSweep) rt => { s with rt, pc := .sweep fullSweep false dirtyCycle })

def sweepStep (s : System S) (fullSweep egress dirtyCycle : Bool) : System S :=
  s.andThen (s.rt.pollTcpSockets fullSweep) (fun rt =>
    { s with rt, pc := if egress then .egress else .transmit dirtyCycle })

def egressStep (s : System S) : System S :=
  match s.rt.stack.pollEgress s.rt.shared.now with
  | .error _ => s.teardown
  | .ok (_, stack) =>
      let s := { s with rt := { s.rt with stack } }
      if stack.hasTxPackets then { s with pc := .transmit true } else { s with pc := .refresh }

def disconnectedStep (s : System S) : Choice → Option (System S)
  | .establish mtu =>
      some { s with
        rt := freshRuntime S s.params mtu s.rt.session s.rt.shared
        tunnel := .fromConn s.params.tunnelMode s.params.managerTunables s.rt.shared.now
        pc := .loopHead }
  | .disconnectedCommand =>
      match s.cmdRx with
      | [] => none
      | cmd :: cmdRx => some { s with rt := s.rt.handleCommandDisconnected cmd, cmdRx }
  | .disconnectedUdp =>
      match s.udpRx with
      | [] => none
      | _ :: udpRx => some { s with udpRx }
  | _ => none

def managerStep (s : System S) (choice : Choice) : Option (System S) :=
  match s.pc, choice with
  | .disconnected, choice => s.disconnectedStep choice
  | .loopHead, .checkAlive alive =>
      if alive then some { s with pc := .select (s.tunnel.computeLoopSchedule s.rt) }
      else some s.teardown
  | .select schedule, choice => s.selectStep H schedule choice
  | .drain phase remaining dirty, choice => s.drainStep H phase remaining dirty choice
  | .service dirty, .advance => some (s.serviceStep dirty)
  | .poll fullTcpSweep dirtyCycle, .advance => some (s.pollStep H fullTcpSweep dirtyCycle)
  | .sweep fullSweep egress dirtyCycle, .advance =>
      some (s.sweepStep fullSweep egress dirtyCycle)
  | .egress, .advance => some s.egressStep
  | .transmit dirtyCycle, .transmit results =>
      let (tunnel, rt) := s.tunnel.drainStackPackets s.rt results
      some { s with tunnel, rt, pc := if dirtyCycle then .refresh else .loopHead }
  | .refresh, .refresh pending =>
      some { s with rt := s.rt.refreshRuntimeStats pending, pc := .loopHead }
  | _, _ => none

def sharedStep (shared : Shared) : Label → Shared
  | .reserveSlot => { shared with stats := shared.stats.tryReserveTcpSlot.2 }
  | .releaseSlot => { shared with stats := shared.stats.finishReservedTcpConnect }
  | .tick d => { shared with now := shared.now + d }
  | .statics statics => { shared with statics }
  | .cancel response => { shared with closedReceivers := response :: shared.closedReceivers }
  | .receiveUdp channel =>
      let c := shared.udpChannels channel
      { shared with
        udpChannels :=
          Function.update shared.udpChannels channel { c with queue := c.queue.tail } }
  | .closeUdp channel =>
      let c := shared.udpChannels channel
      { shared with
        udpChannels := Function.update shared.udpChannels channel { c with closed := true } }
  | _ => shared

def step (s : System S) (label : Label) : Option (System S) :=
  match label with
  | .client x op => s.clientStep x op
  | .submit cmd => s.submit cmd
  | .udpSend cmd =>
      if s.udpRx.length < s.params.managerTunables.udpDataChannelCapacity then
        some { s with udpRx := s.udpRx ++ [cmd] }
      else none
  | .io event =>
      if s.connected ∧ s.incomingRx.length < s.params.managerTunables.incomingDgramCapacity then
        some { s with incomingRx := s.incomingRx ++ [event] }
      else none
  | .evict domain => some { s with rt := { s.rt with dnsCache := AList.erase domain s.rt.dnsCache } }
  | .manager choice => s.managerStep H choice
  | label => some (s.setShared (sharedStep s.rt.shared label))

def Reachable (params : ConnectionParams) (s : System S) : Prop :=
  Run.Reaches (step H) Run.Any (init S params) s

end System

end Usque
