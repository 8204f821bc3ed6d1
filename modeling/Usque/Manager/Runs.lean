import Usque.Manager.Steps

namespace Usque

namespace ClientPhase

def acts (p : ClientPhase) : Prop := p = .holding ∨ p = .dropped

instance : DecidablePred acts := fun p => inferInstanceAs (Decidable (p = .holding ∨ p = .dropped))

def turns (p q : ClientPhase) : Prop :=
  q = p ∨ (p = .holding ∧ q = .dropped) ∨ (p = .dropped ∧ q = .finished)

theorem turns.born {p q : ClientPhase} (h : p.turns q) (hq : q ≠ .unborn) : p ≠ .unborn := by
  rcases h with rfl | ⟨rfl, _⟩ | ⟨rfl, _⟩
  · exact hq
  · simp
  · simp

theorem turns.acts {p q : ClientPhase} (h : p.turns q) (hq : q.acts) : p.acts := by
  rcases h with rfl | ⟨rfl, _⟩ | ⟨rfl, _⟩
  · exact hq
  · exact .inl rfl
  · exact .inr rfl

end ClientPhase

-- The loop has a tunnel.
def Pc.up : Pc → Bool
  | .disconnected | .faulted _ => false
  | _ => true

theorem Pc.ne_disconnected_of_up {pc : Pc} (up : pc.up = true) : pc ≠ .disconnected := by
  rintro rfl
  cases up

theorem Pc.ne_faulted_of_up {pc : Pc} (up : pc.up = true) (fault : Fault) :
    pc ≠ .faulted fault := by
  rintro rfl
  cases up

-- The manager looks at its clocks and queues and takes nothing from a channel.
def Choice.turns : Choice → Bool
  | .checkAlive _ | .maintenance | .pollTimer | .nextPhase | .advance => true
  | _ => false

theorem Choice.ne_command_of_turns {choice : Choice} (hc : choice.turns = true) (draw : Nat) :
    choice ≠ .command draw := by
  rintro rfl
  cases hc

namespace System

variable {S : Smoltcp} {R : Rules S} {H : Hickory} {s t : System S} {l : Label}

def handled (s : System S) : Label → Option ManagerCommand
  | .manager (.command _) => s.cmdRx.head?
  | _ => none

-- The slot that a step gives to a new connection, or to a new session or DNS socket.
def opensTcpAt (s : System S) : Label → Option SocketHandle
  | .manager (.command _) =>
      if s.cmdRx.head?.any (s.rt.opensTcp s.params.tcpBufferSize) then
        some s.rt.stack.sockets.lowestFree
      else none
  | _ => none

def opensUdpAt (s : System S) : Label → Option SocketHandle
  | .manager (.command draw) =>
      if s.cmdRx.head?.any (s.rt.opensUdp s.params.dnsServers draw) then
        some s.rt.stack.sockets.lowestFree
      else none
  | _ => none

def sent (s : System S) : Label → Option UdpSend
  | .manager .udp => s.udpRx.head?
  | _ => none

def sweeps (s : System S) (l : Label) : Prop :=
  ∃ fullSweep egress dirtyCycle,
    s.pc = .sweep fullSweep egress dirtyCycle ∧ l = .manager .advance

def sendsMatched (s : System S) (l : Label) : Prop :=
  ∀ cmd, s.sent l = some cmd → s.rt.sendMatched cmd

def polls (s : System S) (l : Label) : Prop :=
  ∃ fullTcpSweep dirtyCycle, s.pc = .poll fullTcpSweep dirtyCycle ∧ l = .manager .advance

structure Permits (R : Rules S) (s : System S) (l : Label) : Prop where
  call : ∀ c : StackCall, c.matched → R.call c
  send : ∀ cmd, s.sent l = some cmd → ∀ se a, s.rt.udpSessions.lookup cmd.localPort = some se →
    s.rt.stack.localAddrDefault = .ok a →
    R.call (.udpSend se.handle (some ⟨a, cmd.localPort⟩) cmd.remoteIp)
  tcp : ∀ h, s.opensTcpAt l = some h → R.tcp h
  udp : ∀ h, s.opensUdpAt l = some h → R.udp h
  connect : ∀ cmd key, s.handled l = some cmd → cmd.flowKey = some key → R.connect s.rt key
  free : (∀ cmd, s.handled l = some cmd → cmd.mayOpen = false) → R.free
  sweep : s.sweeps l → R.sweep
  poll : s.polls l → R.poll s.rt
  client : ∀ x op, l = .client x op → (s.clients x).phase = .holding → R.client x
  wait : ∀ handle response source,
    s.handled l = some (.waitSocketReady handle response source) →
    ∀ st, s.rt.sockets.lookup handle = some st → R.wait st.stream response

structure Sound (s : System S) : Prop where
  consistent : Consistent s.rt
  born : ∀ x, (s.clients x).phase ≠ .unborn → x < s.rt.shared.nextStream

theorem andThen_rt {α : Type} {o : Outcome α} {k : α → System S} {Q : System S → Prop}
    (hok : ∀ a, o = .ok a → Q (k a)) (herr : ∀ fault, Q { s with pc := .faulted fault }) :
    Q (s.andThen o k) := by
  cases o with
  | ok a => exact hok a rfl
  | error fault => exact herr fault

-- What a client's call does: an operation on its stream, a command at the back of the channel, or
-- the end of the client's life.
inductive ClientMove (s : System S) (x : StreamId) : System S → Prop where
  | op {n : SocketStreamHandle.Notified} {c : Client} (hphase : (s.clients x).phase = .holding)
      (hop : StreamOp (s.rt.stream x) n) (hc : (s.clients x).phase.turns c.phase) :
      ClientMove s x ((s.streamOp x n).setClient x c)
  | close (hphase : (s.clients x).phase.acts) :
      ClientMove s x { s with cmdRx := s.cmdRx ++ [.close (s.rt.stream x).handle x] }
  | ask {cmd : OneshotId → ManagerCommand} (hphase : (s.clients x).phase.acts)
      (hresponse : ∀ r, (cmd r).response = some r) (hsource : ∀ r, (cmd r).source = some x)
      (hhandle : ∀ r, (cmd r).tcpHandle = some (s.rt.stream x).handle) :
      ClientMove s x { s with
        cmdRx := s.cmdRx ++ [cmd s.nextOneshot]
        nextOneshot := s.nextOneshot + 1
        asker := Function.update s.asker s.nextOneshot (some x) }
  | finish (hphase : (s.clients x).phase = .dropped) :
      ClientMove s x (s.setClient x { s.clients x with phase := .finished })

theorem setClient_self (s : System S) (x : StreamId) : s.setClient x (s.clients x) = s := by
  rw [setClient, Function.update_eq_self]

theorem clientStep_cases {x : StreamId} {op : ClientOp} (h : s.clientStep x op = some t) :
    ClientMove s x t := by
  have hop : (s.clients x).phase = .holding → ∀ {n}, StreamOp (s.rt.stream x) n →
      ClientMove s x (s.streamOp x n) := by
    intro hphase n hn
    have hmove := ClientMove.op (c := s.clients x) hphase hn (.inl rfl)
    have hsame : (s.streamOp x n).setClient x (s.clients x) = s.streamOp x n :=
      setClient_self (s.streamOp x n) x
    rwa [hsame] at hmove
  have hask : ∀ cmd : OneshotId → ManagerCommand, (s.clients x).phase.acts →
      (∀ r, (cmd r).response = some r) → (∀ r, (cmd r).source = some x) →
      (∀ r, (cmd r).tcpHandle = some (s.rt.stream x).handle) → s.ask x cmd = some t →
      ClientMove s x t := by
    intro cmd hphase hresponse hsource hhandle h
    simp only [ask] at h
    split at h <;> cases h
    exact .ask hphase hresponse hsource hhandle
  cases op with
  | read n =>
      simp only [clientStep] at h
      split at h <;> cases h
      exact hop ‹_› (.read n)
  | write buf =>
      simp only [clientStep] at h
      split at h <;> cases h
      exact hop ‹_› (.write buf)
  | flush =>
      simp only [clientStep] at h
      split at h <;> cases h
      exact hop ‹_› .flush
  | shutdown =>
      simp only [clientStep] at h
      split at h
      · next hphase =>
          split at h <;> cases h
          · exact hop hphase .shutdown
          · exact .op hphase .shutdown (.inl hphase.symm)
      · cases h
  | drop =>
      simp only [clientStep] at h
      split at h <;> cases h
      next hphase => exact .op hphase .drop (.inr (.inl ⟨hphase, rfl⟩))
  | close =>
      simp only [clientStep] at h
      split at h <;> cases h
      next hroom => exact .close hroom.1
  | getState =>
      simp only [clientStep] at h
      split at h
      · next hphase => exact hask _ hphase (fun _ => rfl) (fun _ => rfl) (fun _ => rfl) h
      · cases h
  | waitReady =>
      simp only [clientStep] at h
      split at h
      · next hphase => exact hask _ hphase (fun _ => rfl) (fun _ => rfl) (fun _ => rfl) h
      · cases h
  | finish =>
      simp only [clientStep] at h
      split at h <;> cases h
      next hphase => exact .finish hphase

theorem clientStep_pc {x : StreamId} {op : ClientOp} (h : s.clientStep x op = some t) :
    t.pc = s.pc := by
  cases clientStep_cases h <;> rfl

variable (hS : S.KeepsSockets) (hs : Sound s)

include hs in
theorem streamOp_effects {x : StreamId} (hr : R.client x) (hx : (s.clients x).phase = .holding)
    {n : SocketStreamHandle.Notified} (hn : StreamOp (s.rt.stream x) n) :
    Effects R s.rt (s.streamOp x n).rt :=
  .single (.client (hs.born x (by rw [hx]; simp)) (.inl hr) hn)

include hs in
theorem clientStep_effects {x : StreamId} {op : ClientOp}
    (hr : (s.clients x).phase = .holding → R.client x) (h : s.clientStep x op = some t) :
    Effects R s.rt t.rt := by
  cases clientStep_cases h with
  | op hphase hop _ => exact streamOp_effects hs (hr hphase) hphase hop
  | close _ | ask _ _ _ _ | finish _ => exact .refl

theorem submit_cases {cmd : ManagerCommand} (h : s.submit cmd = some t) :
    cmd.source = none ∧
      (cmd.response = none ∧ t = { s with cmdRx := s.cmdRx ++ [cmd] } ∨
        cmd.response = some s.nextOneshot ∧
          t = { s with cmdRx := s.cmdRx ++ [cmd], nextOneshot := s.nextOneshot + 1 }) := by
  simp only [submit] at h
  split at h
  · next hroom =>
      refine ⟨hroom.1, ?_⟩
      split at h
      · next hresponse =>
          cases h
          exact .inl ⟨hresponse, rfl⟩
      · next response hresponse =>
          split at h <;> cases h
          next he => exact .inr ⟨he ▸ hresponse, rfl⟩
  · cases h

theorem submit_eq {cmd : ManagerCommand} (h : s.submit cmd = some t) :
    ∃ nextOneshot, s.nextOneshot ≤ nextOneshot ∧
      t = { s with cmdRx := s.cmdRx ++ [cmd], nextOneshot } := by
  rcases submit_cases h with ⟨_, ⟨_, rfl⟩ | ⟨_, rfl⟩⟩
  · exact ⟨_, Nat.le_refl _, rfl⟩
  · exact ⟨_, Nat.le_succ _, rfl⟩

theorem submit_rt {cmd : ManagerCommand} (h : s.submit cmd = some t) : t.rt = s.rt := by
  obtain ⟨_, _, rfl⟩ := submit_eq h
  rfl

-- What the manager does in a step of its loop.
inductive ManagerMove (H : Hickory) (s : System S) : Choice → System S → Prop where
  | command {draw : Nat} {pc : Pc} {cmd : ManagerCommand} {cmdRx : List ManagerCommand}
      (up : s.pc.up = true) (hpc : pc.up = true) (hcmd : s.cmdRx = cmd :: cmdRx) :
      ManagerMove H s (.command draw) (s.andThen
        (s.rt.handleCommand H s.params.dnsServers s.params.tcpBufferSize draw cmd)
        (fun rt => { s with rt, cmdRx, clients := s.admitted rt, pc }))
  | udp {pc : Pc} {cmd : UdpSend} {udpRx : List UdpSend} (up : s.pc.up = true)
      (hpc : pc.up = true) (hcmd : s.udpRx = cmd :: udpRx) :
      ManagerMove H s .udp (s.andThen (s.rt.handleUdpSend cmd)
        (fun rt => { s with rt, udpRx, pc }))
  | incoming {decrypted : Option Packet} {pc : Bool → Pc} {event : TransportIoEvent}
      {incomingRx : List TransportIoEvent} (up : s.pc.up = true)
      (hpc : ∀ ingress, (pc ingress).up = true) (hevent : s.incomingRx = event :: incomingRx) :
      ManagerMove H s (.incoming decrypted) (s.andThen
        (s.tunnel.handleTransportIoEvent s.rt decrypted event)
        (fun r => { s with rt := r.2, incomingRx, pc := pc r.1 }))
  | socketEvent {pc : Pc} {event : SocketEvent} {socketEvents : List SocketEvent}
      (up : s.pc.up = true) (hpc : pc.up = true)
      (hevents : s.rt.socketEvents = event :: socketEvents) :
      ManagerMove H s .socketEvent
        { s with rt := { s.rt with socketEvents }.handleSocketEvent event, pc }
  | turn {choice : Choice} {tunnel : ActiveTunnel} {pc : Pc} (up : s.pc.up = true)
      (hpc : pc.up = true) (hc : choice.turns = true) :
      ManagerMove H s choice { s with tunnel, pc }
  | teardown {choice : Choice} (up : s.pc.up = true) (hc : choice.turns = true) :
      ManagerMove H s choice s.teardown
  | polled {full dirtyCycle : Bool} {sweep : Option Bool} {rt : RuntimeState S} {pc : Pc}
      (hrun : s.pc = .poll full dirtyCycle) (hpc : pc.up = true)
      (hpoll : s.rt.pollStackCommon H full = .ok (.polled sweep rt)) :
      ManagerMove H s .advance { s with rt, pc }
  | pollFault {full dirtyCycle : Bool} {fault : Fault} (hrun : s.pc = .poll full dirtyCycle)
      (hpoll : s.rt.pollStackCommon H full = .error fault) :
      ManagerMove H s .advance { s with pc := .faulted fault }
  | sweep {fullSweep egress dirtyCycle : Bool} {pc : Pc}
      (hrun : s.pc = .sweep fullSweep egress dirtyCycle) (hpc : pc.up = true) :
      ManagerMove H s .advance (s.andThen (s.rt.pollTcpSockets fullSweep)
        (fun rt => { s with rt, pc }))
  | egress {changed : Bool} {stack : NetworkStack S} {pc : Pc} (up : s.pc.up = true)
      (hpc : pc.up = true) (hpoll : s.rt.stack.pollEgress s.rt.shared.now = .ok (changed, stack)) :
      ManagerMove H s .advance { s with rt := { s.rt with stack }, pc }
  | transmit {results : List SendResult} {pc : Pc} (up : s.pc.up = true) (hpc : pc.up = true) :
      ManagerMove H s (.transmit results) { s with
        tunnel := (s.tunnel.drainStackPackets s.rt results).1
        rt := (s.tunnel.drainStackPackets s.rt results).2
        pc }
  | refresh {pending : Nat} (up : s.pc.up = true) :
      ManagerMove H s (.refresh pending)
        { s with rt := s.rt.refreshRuntimeStats pending, pc := .loopHead }
  | establish {mtu : Nat} (down : s.pc = .disconnected) :
      ManagerMove H s (.establish mtu) { s with
        rt := freshRuntime S s.params mtu s.rt.session s.rt.shared
        tunnel := .fromConn s.params.tunnelMode s.params.managerTunables s.rt.shared.now
        pc := .loopHead }
  | refuse {cmd : ManagerCommand} {cmdRx : List ManagerCommand} (down : s.pc = .disconnected)
      (hcmd : s.cmdRx = cmd :: cmdRx) :
      ManagerMove H s .disconnectedCommand
        { s with rt := s.rt.handleCommandDisconnected cmd, cmdRx }
  | discard {cmd : UdpSend} {udpRx : List UdpSend} (down : s.pc = .disconnected)
      (hcmd : s.udpRx = cmd :: udpRx) : ManagerMove H s .disconnectedUdp { s with udpRx }

theorem connected_iff : s.connected = true ↔ s.pc.up = true := by
  unfold connected
  cases s.pc <;> exact Iff.rfl

theorem takeCommand_cases {draw : Nat} {pc : Pc} (up : s.pc.up = true) (hpc : pc.up = true)
    (h : s.takeCommand H draw pc = some t) : ManagerMove H s (.command draw) t := by
  simp only [takeCommand] at h
  split at h <;> cases h
  next hcmd => exact .command up hpc hcmd

theorem takeUdp_cases {pc : Pc} (up : s.pc.up = true) (hpc : pc.up = true)
    (h : s.takeUdp pc = some t) : ManagerMove H s .udp t := by
  simp only [takeUdp] at h
  split at h <;> cases h
  next hcmd => exact .udp up hpc hcmd

theorem takeIncoming_cases {decrypted : Option Packet} {pc : Bool → Pc} (up : s.pc.up = true)
    (hpc : ∀ ingress, (pc ingress).up = true) (h : s.takeIncoming decrypted pc = some t) :
    ManagerMove H s (.incoming decrypted) t := by
  simp only [takeIncoming] at h
  split at h <;> cases h
  next hevent => exact .incoming up hpc hevent

theorem takeSocketEvent_cases {pc : Pc} (up : s.pc.up = true) (hpc : pc.up = true)
    (h : s.takeSocketEvent pc = some t) : ManagerMove H s .socketEvent t := by
  simp only [takeSocketEvent] at h
  split at h
  · cases h
  · next hevents =>
      cases h
      exact .socketEvent up hpc hevents

theorem drainStep_cases {phase : DrainPhase} {remaining : Nat} {dirty : Dirty} {choice : Choice}
    (up : s.pc.up = true) (h : s.drainStep H phase remaining dirty choice = some t) :
    ManagerMove H s choice t := by
  simp only [drainStep] at h
  split at h
  · exact takeSocketEvent_cases up rfl h
  · exact takeCommand_cases up rfl h
  · exact takeUdp_cases up rfl h
  · exact takeIncoming_cases up (fun _ => rfl) h
  · split at h <;> cases h
    refine .turn up ?_ rfl
    simp only [nextDrain]
    split <;> rfl
  · cases h

theorem selectStep_cases {schedule : LoopSchedule} {choice : Choice} (up : s.pc.up = true)
    (h : s.selectStep H schedule choice = some t) : ManagerMove H s choice t := by
  cases choice with
  | command draw => exact takeCommand_cases up rfl h
  | udp => exact takeUdp_cases up rfl h
  | incoming decrypted =>
      simp only [selectStep] at h
      exact takeIncoming_cases up (fun _ => rfl) h
  | socketEvent => exact takeSocketEvent_cases up rfl h
  | maintenance =>
      simp only [selectStep] at h
      split at h <;> cases h
      exact .turn up rfl rfl
  | pollTimer =>
      simp only [selectStep] at h
      split at h <;> cases h
      simp only [selectPollTimer]
      split
      · exact .turn up rfl rfl
      · split <;> exact .turn up rfl rfl
  | establish _ | disconnectedCommand | disconnectedUdp | checkAlive _ | nextPhase | advance
  | transmit _ | refresh _ => cases h

theorem serviceStep_cases (up : s.pc.up = true) (dirty : Dirty) :
    ManagerMove H s .advance (s.serviceStep dirty) := by
  simp only [serviceStep]
  split
  · exact .turn up rfl rfl
  · split
    · exact .turn up rfl rfl
    · split <;> exact .turn up rfl rfl

theorem pollStep_cases {full dirtyCycle : Bool} (hrun : s.pc = .poll full dirtyCycle) :
    ManagerMove H s .advance (s.pollStep H full dirtyCycle) := by
  have up : s.pc.up = true := by rw [hrun]; rfl
  simp only [pollStep]
  cases hpoll : s.rt.pollStackCommon H full with
  | error fault => exact .pollFault hrun hpoll
  | ok r =>
      match r with
      | .failed => exact .teardown up rfl
      | .polled none rt => exact .polled hrun rfl hpoll
      | .polled (some _) rt => exact .polled hrun rfl hpoll

theorem egressStep_cases (up : s.pc.up = true) : ManagerMove H s .advance s.egressStep := by
  simp only [egressStep]
  split
  · exact .teardown up rfl
  · next hpoll => split <;> exact .egress up rfl hpoll

theorem disconnectedStep_cases {choice : Choice} (down : s.pc = .disconnected)
    (h : s.disconnectedStep choice = some t) : ManagerMove H s choice t := by
  simp only [disconnectedStep] at h
  split at h
  · cases h
    exact .establish down
  · split at h <;> cases h
    next hcmd => exact .refuse down hcmd
  · split at h <;> cases h
    next hcmd => exact .discard down hcmd
  · cases h

theorem managerStep_cases {choice : Choice} (h : s.managerStep H choice = some t) :
    ManagerMove H s choice t := by
  simp only [managerStep] at h
  split at h
  · next hpc => exact disconnectedStep_cases hpc h
  · next hpc =>
      have up : s.pc.up = true := by rw [hpc]; rfl
      split at h <;> cases h
      · exact .turn up rfl rfl
      · exact .teardown up rfl
  · next hpc => exact selectStep_cases (by rw [hpc]; rfl) h
  · next hpc => exact drainStep_cases (by rw [hpc]; rfl) h
  · next hpc =>
      cases h
      exact serviceStep_cases (by rw [hpc]; rfl) _
  · next hpc =>
      cases h
      exact pollStep_cases hpc
  · next fullSweep egress dirtyCycle hpc =>
      cases h
      exact .sweep hpc (by cases egress <;> rfl)
  · next hpc =>
      cases h
      exact egressStep_cases (by rw [hpc]; rfl)
  · next dirtyCycle _ hpc =>
      cases h
      exact .transmit (by rw [hpc]; rfl) (by cases dirtyCycle <;> rfl)
  · next hpc =>
      cases h
      exact .refresh (by rw [hpc]; rfl)
  · cases h

theorem step_command {draw : Nat} (h : step H s (.manager (.command draw)) = some t) :
    ∃ pc cmd cmdRx, s.cmdRx = cmd :: cmdRx ∧
      t = s.andThen (s.rt.handleCommand H s.params.dnsServers s.params.tcpBufferSize draw cmd)
        (fun rt => { s with rt, cmdRx, clients := s.admitted rt, pc }) := by
  cases managerStep_cases h with
  | command _ _ hcmd => exact ⟨_, _, _, hcmd, rfl⟩
  | turn _ _ hc | teardown _ hc => cases hc

theorem step_udp (h : step H s (.manager .udp) = some t) :
    ∃ pc cmd udpRx, s.udpRx = cmd :: udpRx ∧
      t = s.andThen (s.rt.handleUdpSend cmd) (fun rt => { s with rt, udpRx, pc }) := by
  cases managerStep_cases h with
  | udp _ _ hcmd => exact ⟨_, _, _, hcmd, rfl⟩
  | turn _ _ hc | teardown _ hc => cases hc

theorem step_socketEvent (h : step H s (.manager .socketEvent) = some t) :
    ∃ pc event socketEvents, s.rt.socketEvents = event :: socketEvents ∧
      t = { s with rt := { s.rt with socketEvents }.handleSocketEvent event, pc } := by
  cases managerStep_cases h with
  | socketEvent _ _ hevents => exact ⟨_, _, _, hevents, rfl⟩
  | turn _ _ hc | teardown _ hc => cases hc

theorem step_disconnectedCommand (h : step H s (.manager .disconnectedCommand) = some t) :
    s.pc = .disconnected ∧ ∃ cmd cmdRx, s.cmdRx = cmd :: cmdRx ∧
      t = { s with rt := s.rt.handleCommandDisconnected cmd, cmdRx } := by
  cases managerStep_cases h with
  | refuse down hcmd => exact ⟨down, _, _, hcmd, rfl⟩
  | turn _ _ hc | teardown _ hc => cases hc

theorem handled_turns {choice : Choice} (hc : choice.turns = true) :
    s.handled (.manager choice) = none := by
  cases choice with
  | checkAlive _ | maintenance | pollTimer | nextPhase | advance => rfl
  | command _ | udp | incoming _ | socketEvent | transmit _ | refresh _ | establish _
  | disconnectedCommand | disconnectedUdp => cases hc

theorem teardown_effects (hf : R.free) (hc : Consistent s.rt) : Effects R s.rt s.teardown.rt := by
  have hset := RuntimeState.setStats_settled (P := R.toPolicy) hc.slotted s.rt.shared.stats.reset
  have hrep := hset.trans (RuntimeState.replyAll_settled hset.slotted
    (senders (s.rt.setStats s.rt.shared.stats.reset)) .senderDropped)
  exact .head (.aside hrep) (.single (.reset hf _ _ _ _
    (hrep.aside.session ▸ Nat.le_succ _) rfl rfl))

include hS hs in
theorem command_effects {draw : Nat} (hp : Permits R s (.manager (.command draw)))
    {cmd : ManagerCommand} {cmdRx : List ManagerCommand} (hcmd : s.cmdRx = cmd :: cmdRx)
    {rt : RuntimeState S}
    (hrt : s.rt.handleCommand H s.params.dnsServers s.params.tcpBufferSize draw cmd = .ok rt) :
    Effects R s.rt rt := by
  have hhead : s.handled (.manager (.command draw)) = some cmd := by rw [handled, hcmd]; rfl
  have htcp : s.rt.opensTcp s.params.tcpBufferSize cmd →
      R.tcp s.rt.stack.sockets.lowestFree := fun ho =>
    hp.tcp _ (by rw [opensTcpAt, hcmd]; exact if_pos ho)
  have hudp : s.rt.opensUdp s.params.dnsServers draw cmd →
      R.udp s.rt.stack.sockets.lowestFree := fun ho =>
    hp.udp _ (by rw [opensUdpAt, hcmd]; exact if_pos ho)
  refine RuntimeState.handleCommand_effects hS hp.call H hs.consistent htcp hudp
    (hp.connect cmd · hhead) (fun hno => hp.free (fun cmd' hcmd' => ?_))
    (fun _ _ _ he => hp.wait _ _ _ (he ▸ hhead)) hrt
  rw [hhead] at hcmd'
  cases hcmd'
  exact hno

include hS hs in
theorem managerStep_effects {choice : Choice} (hp : Permits R s (.manager choice))
    (h : s.managerStep H choice = some t) : Effects R s.rt t.rt := by
  have hfree (hn : s.handled (.manager choice) = none) : R.free :=
    hp.free (fun _ hc => by rw [hn] at hc; cases hc)
  cases managerStep_cases h with
  | command _ _ hcmd =>
      exact andThen_rt (Q := fun t => Effects R s.rt t.rt)
        (fun _ hrt => command_effects hS hs hp hcmd hrt) (fun _ => .refl)
  | @udp _ cmd _ _ _ hcmd =>
      have hhead : s.udpRx.head? = some cmd := by rw [hcmd]; rfl
      refine andThen_rt (Q := fun t => Effects R s.rt t.rt) (fun rt' hrt => ?_) (fun _ => .refl)
      exact .settles (RuntimeState.handleUdpSend_settles hS hs.consistent.slotted cmd
        (hp.send cmd hhead)) hrt
  | incoming =>
      exact andThen_rt (Q := fun t => Effects R s.rt t.rt)
        (fun _ hr => RuntimeState.handleTransportIoEvent_effects hr) (fun _ => .refl)
  | socketEvent _ _ hevents => exact .single (.event hevents)
  | turn => exact .refl
  | teardown _ hc => exact teardown_effects (hfree (handled_turns hc)) hs.consistent
  | polled hrun _ hpoll =>
      exact RuntimeState.pollStackCommon_effects hS H (hfree rfl) (hp.poll ⟨_, _, hrun, rfl⟩)
        hs.consistent hpoll
  | pollFault => exact .refl
  | sweep hrun =>
      refine andThen_rt (Q := fun t => Effects R s.rt t.rt) (fun r hr => ?_) (fun _ => .refl)
      exact RuntimeState.pollTcpSockets_effects hS (hp.sweep ⟨_, _, _, hrun, rfl⟩) (hfree rfl)
        hs.consistent hr
  | egress _ _ hpoll => exact .single (.egress hpoll)
  | transmit =>
      exact .settled (RuntimeState.drainStackPackets_settled hs.consistent.slotted _ _)
  | refresh =>
      exact .settled (RuntimeState.refreshRuntimeStats_settled hs.consistent.slotted _)
  | establish =>
      exact .single (.reset (hfree rfl) _ _ _ _ (Nat.le_refl _) rfl rfl)
  | refuse =>
      exact .settled (RuntimeState.handleCommandDisconnected_settled hs.consistent.slotted _)
  | discard => exact .refl

theorem setShared_effects (hs : Slotted s.rt) {shared : Shared}
    (hx : shared.streams = s.rt.shared.streams)
    (hn : shared.nextStream = s.rt.shared.nextStream) : Effects R s.rt (s.setShared shared).rt :=
  .settled (RuntimeState.setShared_settled hs hx hn)

include hS hs in
theorem step_effects (hp : Permits R s l) (h : step H s l = some t) : Effects R s.rt t.rt := by
  cases l with
  | client x op => exact clientStep_effects hs (hp.client x op rfl) h
  | submit cmd =>
      rw [submit_rt h]
  | udpSend cmd =>
      simp only [step] at h
      split at h <;> cases h
      exact .refl
  | io event =>
      simp only [step] at h
      split at h <;> cases h
      exact .refl
  | evict domain =>
      cases h
      exact .settled (RuntimeState.setDns_settled hs.consistent.slotted _ _ _)
  | manager choice => exact managerStep_effects hS hs hp h
  | reserveSlot | releaseSlot | tick _ | statics _ | cancel _ | receiveUdp _ | closeUdp _ =>
      cases h
      exact setShared_effects hs.consistent.slotted rfl rfl

end System

def Rules.any (S : Smoltcp) : Rules S :=
  ⟨.any, fun _ => True, fun _ _ => True, True, fun _ => True, fun _ => True, fun _ _ => True⟩

theorem Effect.nextStream_le {S : Smoltcp} {R : Rules S} {rt rt' : RuntimeState S}
    (h : Effect R rt rt') (hc : Consistent rt) : rt.shared.nextStream ≤ rt'.shared.nextStream := by
  cases h with
  | aside h => exact Nat.le_of_eq h.aside.nextStream.symm
  | openTcp reservedSlot _ _ h =>
      rw [RuntimeState.insertConnection_nextStream]
      exact Nat.le_succ _
  | requestClose hl h =>
      obtain ⟨replies, he⟩ := RuntimeState.closeConnection_eq hl
      rw [he] at h
      cases h
      rw [RuntimeState.putStream_eq]
      exact Nat.le_refl _
  | waiters hl _ => exact Nat.le_refl _
  | @event e es h =>
      cases hl : rt.sockets.lookup e.handle with
      | none =>
          rw [RuntimeState.handleSocketEvent_none { rt with socketEvents := es } hl]
          simp only [RuntimeState.enqueueReadyTcpHandle]
          split <;> exact Nat.le_refl _
      | some st =>
          rw [RuntimeState.handleSocketEvent_some { rt with socketEvents := es } hl]
          simp only [RuntimeState.enqueueReadyTcpHandle]
          split <;> exact Nat.le_refl _
  | incoming h =>
      obtain ⟨stack, _, h⟩ := Outcome.bind_eq_ok.mp h
      cases h
      simp only [RuntimeState.noteIncomingTcpHandle]
      split
      · exact Nat.le_refl _
      · simp only [RuntimeState.markReadyTcpHandle, RuntimeState.enqueueReadyTcpHandle]
        split <;> exact Nat.le_refl _
  | poll _ h => exact Nat.le_refl _
  | egress h => exact Nat.le_refl _
  | select _ fullSweep => cases fullSweep <;> exact Nat.le_refl _
  | service _ fullSweep hl h =>
      obtain ⟨v, _, rfl⟩ := RuntimeState.serviceSocket_ok h
      exact Nat.le_refl _
  | release _ _ hk h => exact Nat.le_of_eq (RuntimeState.retire_retired hc h).streams.nextStream.symm
  | client hx _ h =>
      rw [RuntimeState.putStream_eq]
      exact Nat.le_refl _
  | reset _ params mtu session shared hs hx hn => exact Nat.le_of_eq hn.symm

theorem Effects.nextStream_le {S : Smoltcp} {R : Rules S} (hS : S.KeepsSockets)
    {rt rt' : RuntimeState S} (h : Effects R rt rt') (hc : Consistent rt) :
    rt.shared.nextStream ≤ rt'.shared.nextStream :=
  (h.invariant (I := fun b => rt.shared.nextStream ≤ b.shared.nextStream) hS
    (fun _ _ ha hi he => hi.trans (he.nextStream_le ha)) hc (Nat.le_refl _)).2

namespace System

variable {S : Smoltcp} {R : Rules S} {H : Hickory} {s t : System S} {l : Label}

-- What no manager step touches: it only takes commands from the channel, and gives a client the
-- stream that it opens.
structure Served (s t : System S) : Prop where
  commands : t.cmdRx <:+ s.cmdRx
  clients : t.clients = s.clients ∨ t.clients = s.admitted t.rt
  asker : t.asker = s.asker
  nextOneshot : t.nextOneshot = s.nextOneshot

namespace Served

theorem same (hr : t.cmdRx = s.cmdRx) (hc : t.clients = s.clients) (ha : t.asker = s.asker)
    (hn : t.nextOneshot = s.nextOneshot) : Served s t :=
  ⟨hr ▸ List.suffix_refl _, .inl hc, ha, hn⟩

theorem andThen {α : Type} {o : Outcome α} {k : α → System S}
    (hk : ∀ a, o = .ok a → Served s (k a)) : Served s (s.andThen o k) :=
  andThen_rt (Q := fun t => Served s t) hk (fun _ => same rfl rfl rfl rfl)

end Served

theorem managerStep_served {choice : Choice} (h : s.managerStep H choice = some t) :
    Served s t := by
  cases managerStep_cases h with
  | command _ _ hcmd =>
      refine .andThen (fun _ _ => ⟨?_, .inr rfl, rfl, rfl⟩)
      rw [hcmd]
      exact List.suffix_cons _ _
  | refuse _ hcmd =>
      refine ⟨?_, .inl rfl, rfl, rfl⟩
      rw [hcmd]
      exact List.suffix_cons _ _
  | udp | incoming | sweep => exact .andThen (fun _ _ => .same rfl rfl rfl rfl)
  | socketEvent | turn | teardown | polled | pollFault | egress | transmit | refresh | establish
  | discard => exact .same rfl rfl rfl rfl

theorem admitted_phase (s : System S) (rt : RuntimeState S)
    (hle : s.rt.shared.nextStream ≤ rt.shared.nextStream) (x : StreamId) :
    (s.clients x).phase.turns (s.admitted rt x).phase ∨
      (s.rt.shared.nextStream ≤ x ∧ x < rt.shared.nextStream) := by
  simp only [admitted]
  split
  · exact .inl (.inl rfl)
  · next hne =>
      rw [Function.update_apply]
      split
      · next he =>
          rw [he]
          exact .inr ⟨Nat.le_refl _, Nat.lt_of_le_of_ne hle (Ne.symm hne)⟩
      · exact .inl (.inl rfl)

theorem setClient_phase {y : StreamId} {c : Client} (hc : (s.clients y).phase.turns c.phase)
    (x : StreamId) : (s.clients x).phase.turns ((s.setClient y c).clients x).phase := by
  simp only [setClient, Function.update_apply]
  split
  · next he =>
      rw [he]
      exact hc
  · exact .inl rfl

theorem clientStep_phase {y : StreamId} {op : ClientOp} (h : s.clientStep y op = some t)
    (x : StreamId) : (s.clients x).phase.turns (t.clients x).phase := by
  cases clientStep_cases h with
  | @op n c _ _ hc => exact setClient_phase (s := s.streamOp y n) hc x
  | close _ | ask _ _ _ _ => exact .inl rfl
  | finish hphase => exact setClient_phase (.inr (.inr ⟨hphase, rfl⟩)) x

-- A client moves on in its life or is given its stream by the step.
theorem step_phase (h : step H s l = some t)
    (hle : s.rt.shared.nextStream ≤ t.rt.shared.nextStream) (x : StreamId) :
    (s.clients x).phase.turns (t.clients x).phase ∨
      (s.rt.shared.nextStream ≤ x ∧ x < t.rt.shared.nextStream) := by
  cases l with
  | client y op => exact .inl (clientStep_phase h x)
  | submit cmd =>
      obtain ⟨_, _, rfl⟩ := submit_eq h
      exact .inl (.inl rfl)
  | udpSend cmd =>
      simp only [step] at h
      split at h <;> cases h
      exact .inl (.inl rfl)
  | io event =>
      simp only [step] at h
      split at h <;> cases h
      exact .inl (.inl rfl)
  | manager choice =>
      rcases (managerStep_served h).clients with he | he
      · rw [he]
        exact .inl (.inl rfl)
      · rw [he]
        exact admitted_phase s t.rt hle x
  | evict _ | reserveSlot | releaseSlot | tick _ | statics _ | cancel _ | receiveUdp _
  | closeUdp _ =>
      cases h
      exact .inl (.inl rfl)

theorem permits_any (s : System S) (l : Label) : Permits (Rules.any S) s l :=
  ⟨fun _ _ => trivial, fun _ _ _ _ _ _ => trivial, fun _ _ => trivial, fun _ _ => trivial,
    fun _ _ _ _ => trivial, fun _ => trivial, fun _ => trivial, fun _ => trivial,
    fun _ _ _ _ => trivial, fun _ _ _ _ _ _ => trivial⟩

theorem step_sound (hS : S.KeepsSockets) (hs : Sound s) (h : step H s l = some t) : Sound t := by
  have heff := step_effects hS hs (permits_any s l) h
  have hle := heff.nextStream_le hS hs.consistent
  refine ⟨heff.consistent hS hs.consistent, fun x hx => ?_⟩
  rcases step_phase h hle x with hp | hp
  · exact Nat.lt_of_lt_of_le (hs.born x (hp.born hx)) hle
  · exact hp.2

theorem init_sound (params : ConnectionParams) : Sound (init S params) :=
  ⟨RuntimeState.freshRuntime_consistent params 0 0 _ (fun _ h => absurd h (Nat.not_lt_zero _)),
    fun _ h => absurd rfl h⟩

theorem Reachable.sound (hS : S.KeepsSockets) {params : ConnectionParams}
    (h : Reachable H params s) : Sound s :=
  Run.Reaches.invariant (fun _ _ _ hs _ hst => step_sound hS hs hst) h (init_sound params)

theorem Reachable.invariant (hS : S.KeepsSockets) {I : RuntimeState S → Prop}
    {params : ConnectionParams} (h : Reachable H params s) (h0 : I (init S params).rt)
    (hI : ∀ rt rt', Consistent rt → I rt → Effect (Rules.any S) rt rt' → I rt') : I s.rt := by
  have hboth : Sound s ∧ I s.rt := by
    refine Run.Reaches.invariant (I := fun s => Sound s ∧ I s.rt) (fun s l t ⟨hs, hi⟩ _ ht => ?_)
      h ⟨init_sound params, h0⟩
    have heff := step_effects hS hs (permits_any s l) ht
    exact ⟨step_sound hS hs ht, (heff.invariant hS hI hs.consistent hi).2⟩
  exact hboth.2

end System

end Usque
