import Usque.Masque.Datagram
import Usque.Masque.TransmitPath

namespace Usque

inductive TunnelOp where
  | send (packet : Packet) (waitOnFull : Bool) (answer : FlowAnswer)
  | decode (dgram buf : List UInt8)
deriving DecidableEq, Repr

-- The calls on a tunnel; the packets that send_datagram has answered Sent for are kept.
structure TunnelCalls where
  tunnel : MasqueTunnel
  sent : List Packet
deriving DecidableEq, Repr

variable {packet : Packet} {t : MasqueTunnel}

namespace TunnelCalls

def new (maxH3DgramLen : Option Nat) : TunnelCalls := ⟨.new maxH3DgramLen, []⟩

def step (s : TunnelCalls) : TunnelOp → Outcome TunnelCalls
  | .send packet waitOnFull answer => do
      let (result, tunnel) ← s.tunnel.sendDatagram packet waitOnFull answer
      .ok (match result with
        | .ok (.sent _) => ⟨tunnel, s.sent ++ [packet]⟩
        | _ => ⟨tunnel, s.sent⟩)
  | .decode dgram buf => do
      let (_, _, tunnel) ← s.tunnel.decodeDatagram dgram buf
      .ok ⟨tunnel, s.sent⟩

end TunnelCalls

namespace MasqueTunnel

-- What send_datagram does to the flow: it gets the packet's datagram, or nothing.
inductive SendEffect (flow : List (List UInt8)) (packet : Packet) :
    Except MasqueError DatagramSendState → List (List UInt8) → Prop where
  | sent (waited : Bool) (hf : Forwardable packet) :
      SendEffect flow packet (.ok (.sent waited)) (flow ++ [datagram packet])
  | kept {result : Except MasqueError DatagramSendState}
      (hresult : ∀ waited, result ≠ .ok (.sent waited)) : SendEffect flow packet result flow

theorem trySend_effect (hf : Forwardable packet) (t : MasqueTunnel) (waitOnFull : Bool)
    (answer : FlowAnswer) :
    SendEffect t.flow packet (t.trySend (datagram packet) waitOnFull answer).1
      (t.trySend (datagram packet) waitOnFull answer).2.flow := by
  cases answer with
  | unavailable | closed => exact .kept (by rintro _ ⟨⟩)
  | accepted => exact .sent false hf
  | full taken =>
      simp only [trySend]
      split_ifs
      · exact .kept (by rintro _ ⟨⟩)
      · exact .sent true hf
      · exact .kept (by rintro _ ⟨⟩)

theorem sendDatagram_effect (t : MasqueTunnel) (packet : Packet) (waitOnFull : Bool)
    (answer : FlowAnswer) :
    ∃ result t', t.sendDatagram packet waitOnFull answer = .ok (result, t') ∧
      SendEffect t.flow packet result t'.flow := by
  by_cases hf : Forwardable packet
  · cases hlen : t.exceedsMax (1 + packet.length) with
    | true =>
        obtain ⟨icmp, hsend, _⟩ := sendDatagram_tooBig hf hlen waitOnFull answer
        exact ⟨_, _, hsend, .kept (by rintro _ ⟨⟩)⟩
    | false =>
        exact ⟨_, _, sendDatagram_fits hf hlen waitOnFull answer,
          trySend_effect hf { t with dgramSendBuf := datagram packet } waitOnFull answer⟩
  · exact ⟨_, _, sendDatagram_dropped hf t waitOnFull answer, .kept (by rintro _ ⟨⟩)⟩

theorem decodeDatagram_of_varint {n : Nat} {dgram : List UInt8} {contextId : UInt64}
    {ctxLen : Nat} (hv : decodeVarint dgram = .ok (contextId, ctxLen)) :
    Usque.decodeDatagram n dgram =
      if contextId ≠ 0 then .ok []
      else if dgram.length - ctxLen > n then .error (.connectionError "Buffer too small")
      else .ok (dgram.drop ctxLen) := by
  rw [Usque.decodeDatagram.eq_def, hv]
  rfl

theorem decodeDatagram_ok (t : MasqueTunnel) (dgram buf : List UInt8) :
    ∃ out, t.decodeDatagram dgram buf =
        .ok ((Usque.decodeDatagram buf.length dgram).map List.length, out,
          { t with dgramRecvBuf := dgram }) ∧
      ∀ p, Usque.decodeDatagram buf.length dgram = .ok p → out = p ++ buf.drop p.length := by
  rw [MasqueTunnel.decodeDatagram]
  dsimp only
  rw [recvBuffer_ok, Outcome.ok_bind]
  cases hv : decodeVarint dgram with
  | error e =>
      have herror : Usque.decodeDatagram buf.length dgram = .error e := by
        rw [Usque.decodeDatagram.eq_def, hv]
        rfl
      rw [herror]
      exact ⟨buf, rfl, nofun⟩
  | ok v =>
      obtain ⟨contextId, ctxLen⟩ := v
      rw [decodeDatagram_of_varint hv]
      dsimp only
      by_cases hctx : contextId = 0
      · rw [if_neg (not_not_intro hctx), if_neg (not_not_intro hctx)]
        have hlength : (dgram.drop ctxLen).length = dgram.length - ctxLen := List.length_drop
        by_cases hlen : dgram.length - ctxLen > buf.length
        · rw [if_pos hlen, if_pos hlen]
          exact ⟨buf, rfl, nofun⟩
        · have hcopy : copyFromSlice buf 0 (dgram.length - ctxLen) (dgram.drop ctxLen) =
              .ok (dgram.drop ctxLen ++ buf.drop (dgram.length - ctxLen)) := by
            rw [← hlength]
            exact copyFromSlice_head (by omega)
          rw [if_neg hlen, if_neg hlen, List.take_length, hcopy]
          refine ⟨_, congrArg (fun n => Except.ok (Except.ok n, _)) hlength.symm, ?_⟩
          intro p hp
          cases hp
          rw [hlength]
      · rw [if_pos hctx, if_pos hctx]
        refine ⟨buf, rfl, ?_⟩
        intro p hp
        cases hp
        rfl

theorem decodeDatagram_datagram {n : Nat} (hf : Forwardable packet) (h : packet.length ≤ n) :
    Usque.decodeDatagram n (datagram packet) = .ok (forward packet) := by
  have hwidth : 1 <<< (contextIdZero >>> 6).toNat = 1 := by decide
  have hzero : (contextIdZero &&& 0x3f).toUInt64 = 0 := by decide
  have hvalue : varintValue (datagram packet) 1 = 0 := hzero
  have hvarint : decodeVarint (datagram packet) = .ok (0, 1) := by
    rw [datagram, decodeVarint.eq_def]
    dsimp only
    have hlong : ¬ (contextIdZero :: forward packet).length < 1 :=
      Nat.not_lt.mpr (Nat.le_add_left 1 _)
    rw [hwidth, if_neg hlong]
    exact congrArg (fun v => Except.ok (v, 1)) hvalue
  have hlen : ¬ (datagram packet).length - 1 > n := by
    simp only [datagram, List.length_cons, length_forward hf]
    omega
  rw [decodeDatagram_of_varint hvarint, if_neg (by decide), if_neg hlen]
  rfl

end MasqueTunnel

namespace TunnelCalls

-- The flow holds exactly the datagrams of the packets that were sent, in their order.
structure Exact (s : TunnelCalls) : Prop where
  flow : s.tunnel.flow = s.sent.map datagram
  forwardable : ∀ packet ∈ s.sent, Forwardable packet

theorem new_exact (maxH3DgramLen : Option Nat) : (new maxH3DgramLen).Exact := ⟨rfl, nofun⟩

theorem step_exact {s : TunnelCalls} (h : s.Exact) (op : TunnelOp) :
    ∃ s', s.step op = .ok s' ∧ s'.Exact := by
  cases op with
  | send packet waitOnFull answer =>
      obtain ⟨result, t', hsend, heffect⟩ := s.tunnel.sendDatagram_effect packet waitOnFull answer
      simp only [step, hsend, Outcome.ok_bind]
      refine ⟨_, rfl, ?_⟩
      generalize hflow : t'.flow = flow at heffect
      cases heffect with
      | sent waited hf =>
          refine ⟨?_, fun p hp => ?_⟩
          · dsimp only
            rw [hflow, h.flow, List.map_append]
            rfl
          · rcases List.mem_append.mp hp with hp | hp
            · exact h.forwardable p hp
            · exact List.mem_singleton.mp hp ▸ hf
      | kept hresult =>
          have hkept : (match result with
              | .ok (.sent _) => (⟨t', s.sent ++ [packet]⟩ : TunnelCalls)
              | _ => ⟨t', s.sent⟩) = ⟨t', s.sent⟩ := by
            split
            · next waited => exact absurd rfl (hresult waited)
            · rfl
          rw [hkept]
          exact ⟨hflow.trans h.flow, h.forwardable⟩
  | decode dgram buf =>
      obtain ⟨out, hdecode, _⟩ := s.tunnel.decodeDatagram_ok dgram buf
      simp only [step, hdecode, Outcome.ok_bind]
      exact ⟨_, rfl, h.flow, h.forwardable⟩

theorem run_exact {s : TunnelCalls} (h : s.Exact) (ops : List TunnelOp) :
    ∃ s', Outcome.run step s ops = .ok s' ∧ s'.Exact := by
  induction ops generalizing s with
  | nil => exact ⟨s, rfl, h⟩
  | cons op ops ih =>
      obtain ⟨s₁, hstep, h₁⟩ := step_exact h op
      obtain ⟨s₂, hrun, h₂⟩ := ih h₁
      exact ⟨s₂, by rw [Outcome.run, hstep, Outcome.ok_bind, hrun], h₂⟩

end TunnelCalls

namespace MasqueIo

variable {tunables : MasqueIoTunables} {io io' : MasqueIo} {label : Label}

-- A packet departs with an answer of send_datagram only.
theorem select_departed (h : io.select = some io') : io'.departed = io.departed := by
  simp only [select, Option.orElse_eq_some] at h
  rcases h with h | ⟨-, h | ⟨-, h | ⟨-, h | ⟨-, h | ⟨-, h⟩⟩⟩⟩⟩
  · simp only [onShutdown] at h
    split at h <;> cases h
    rfl
  · simp only [onStatsTick] at h
    split at h <;> cases h
    rfl
  · obtain ⟨⟨event, h3Events⟩, -, rfl⟩ := Option.map_eq_some_iff.mp h
    dsimp only
    split
    · rfl
    · rfl
    · rfl
    · split <;> rfl
    · split <;> rfl
    · rfl
  · obtain ⟨⟨frame, flowRecv⟩, -, rfl⟩ := Option.map_eq_some_iff.mp h
    dsimp only
    split <;> rfl
  · obtain ⟨⟨frame, connectRecv⟩, -, rfl⟩ := Option.map_eq_some_iff.mp h
    dsimp only
    split <;> rfl
  · obtain ⟨⟨batch, sendChannel⟩, -, rfl⟩ := Option.map_eq_some_iff.mp h
    dsimp only
    split <;> rfl

theorem sendEvent_departed {capacity : Nat} {event : TransportIoEvent} {next : WorkerPc}
    (h : io.sendEvent capacity event next = some io') : io'.departed = io.departed := by
  simp only [sendEvent] at h
  split at h
  · cases h
    rfl
  · split at h <;> cases h
    rfl

theorem work_departed (h : io.work tunables = some io') : io'.departed = io.departed := by
  simp only [work] at h
  split at h
  · split at h
    · exact select_departed h
    · cases h
      rfl
  · cases h
    simp only [flush]
    split <;> rfl
  · cases h
  · exact sendEvent_departed h
  · cases h
    rfl
  · cases h
    rfl
  · split at h <;> cases h <;> rfl
  · exact sendEvent_departed h
  · split at h <;> cases h <;> rfl
  · cases h
    rfl
  · cases h
    simp only [drainSendChannelRound]
    split
    · split <;> rfl
    · rfl
  · cases h
    rfl
  · cases h
    simp only [discardBatches]
    split <;> rfl
  · cases h
    rfl
  · cases h
    rfl
  · cases h

theorem step_departed (h : io.step tunables label = some io')
    (hl : ∀ outcome, label ≠ .sendDatagram outcome) : io'.departed = io.departed := by
  cases label with
  | sendDatagram outcome => exact absurd rfl (hl outcome)
  | work => exact work_departed h
  | transmit packet =>
      simp only [step, transmit] at h
      split at h <;> cases h
      rfl
  | beginDrain =>
      simp only [step, beginDrain] at h
      split at h <;> cases h
      rfl
  | collect =>
      simp only [step, collect] at h
      split at h
      · split at h
        · split at h <;> cases h <;> rfl
        · cases h
          rfl
      · cases h
  | trySend answer =>
      simp only [step, trySend] at h
      split at h
      · split at h
        · obtain ⟨sendChannel, -, rfl⟩ := Option.map_eq_some_iff.mp h
          rfl
        · cases h
      · cases h
        rfl
      · cases h
  | fetchAdd =>
      simp only [step, fetchAdd] at h
      split at h <;> cases h
      rfl
  | recvEvent =>
      simp only [step] at h
      split at h
      · obtain ⟨incoming, -, rfl⟩ := Option.map_eq_some_iff.mp h
        rfl
      · cases h
  | leave =>
      simp only [step, leave] at h
      split at h
      · obtain ⟨incoming, -, rfl⟩ := Option.map_eq_some_iff.mp h
        rfl
      · cases h
  | signal | complete | h3Event _ | flowFrame _ | connectFrame _ =>
      obtain ⟨_, -, rfl⟩ := Option.map_eq_some_iff.mp h
      rfl
  | statsTick | h3End | flowEnd | connectEnd =>
      cases h
      rfl

end MasqueIo

-- The worker task with the tunnel that its flush_send_backlog sends on.
structure MasqueSender where
  io : MasqueIo
  tunnel : MasqueTunnel
  sent : List Packet

inductive SenderLabel where
  | io (label : MasqueIo.Label)
  | send (answer : FlowAnswer)

namespace MasqueSender

def new (mtu queueCapacity connectStreamId : Nat) (maxH3DgramLen : Option Nat) : MasqueSender :=
  ⟨.new mtu queueCapacity connectStreamId, .new maxH3DgramLen, []⟩

def flushOne (s : MasqueSender) (answer : FlowAnswer) : Option MasqueSender :=
  match s.io.worker with
  | .sending packet _ waitedOnFull =>
      match s.tunnel.sendDatagram packet (!waitedOnFull) answer with
      | .ok (result, tunnel) =>
          (s.io.sendDatagram result.toOption).map (fun io =>
            match result with
            | .ok (.sent _) => ⟨io, tunnel, s.sent ++ [packet]⟩
            | _ => ⟨io, tunnel, s.sent⟩)
      | .error _ => none
  | _ => none

def step (tunables : MasqueIoTunables) (s : MasqueSender) : SenderLabel → Option MasqueSender
  | .io (.sendDatagram _) => none
  | .io label => (s.io.step tunables label).map (fun io => { s with io })
  | .send answer => s.flushOne answer

-- The flow holds the datagrams of the packets that were sent, and each packet of the transmit path
-- departs once, in the order in which the stack made them.
structure Exact (s : MasqueSender) : Prop where
  flow : s.tunnel.flow = s.sent.map datagram
  forwardable : ∀ packet ∈ s.sent, Forwardable packet
  departed : s.sent.Sublist s.io.departed
  ordered : s.io.Ordered

theorem new_exact (mtu queueCapacity connectStreamId : Nat) (maxH3DgramLen : Option Nat) :
    (new mtu queueCapacity connectStreamId maxH3DgramLen).Exact :=
  ⟨rfl, nofun, .slnil, MasqueIo.ordered_new mtu queueCapacity connectStreamId⟩

theorem flushOne_exact {s s' : MasqueSender} {answer : FlowAnswer} (h : s.Exact)
    (hstep : s.flushOne answer = some s') : s'.Exact := by
  simp only [flushOne] at hstep
  split at hstep
  · next packet round waitedOnFull hw =>
      obtain ⟨result, t', hsend, heffect⟩ :=
        s.tunnel.sendDatagram_effect packet (!waitedOnFull) answer
      rw [hsend] at hstep
      obtain ⟨io', hio, rfl⟩ := Option.map_eq_some_iff.mp hstep
      have hlabel : s.io.step {} (.sendDatagram result.toOption) = some io' := hio
      have hordered : io'.Ordered := h.ordered.step hlabel
      simp only [MasqueIo.sendDatagram, hw] at hio
      cases hio
      generalize hflow : t'.flow = flow at heffect
      cases heffect with
      | sent waited hf =>
          refine ⟨?_, fun p hp => ?_, h.departed.append (List.Sublist.refl _), hordered⟩
          · dsimp only
            rw [hflow, h.flow, List.map_append]
            rfl
          · rcases List.mem_append.mp hp with hp | hp
            · exact h.forwardable p hp
            · exact List.mem_singleton.mp hp ▸ hf
      | kept hresult =>
          have hkept : t'.flow = s.sent.map datagram := hflow.trans h.flow
          have hmore : s.sent.Sublist (s.io.departed ++ [packet]) :=
            h.departed.trans (List.sublist_append_left _ _)
          match result, hresult with
          | .ok (.sent waited), hresult => exact absurd rfl (hresult waited)
          | .ok .dropped, _ => exact ⟨hkept, h.forwardable, hmore, hordered⟩
          | .ok (.packetTooBig _), _ => exact ⟨hkept, h.forwardable, hmore, hordered⟩
          | .ok .blocked, _ => exact ⟨hkept, h.forwardable, h.departed, hordered⟩
          | .error _, _ => exact ⟨hkept, h.forwardable, hmore, hordered⟩
  · cases hstep

theorem step_exact {tunables : MasqueIoTunables} {s s' : MasqueSender} {label : SenderLabel}
    (h : s.Exact) (hstep : s.step tunables label = some s') : s'.Exact := by
  cases label with
  | send answer => exact flushOne_exact h hstep
  | io label =>
      have hio : (∀ outcome, label ≠ .sendDatagram outcome) ∧
          (s.io.step tunables label).map (fun io => { s with io }) = some s' := by
        cases label with
        | sendDatagram outcome => cases hstep
        | _ => exact ⟨nofun, hstep⟩
      obtain ⟨io', hio', rfl⟩ := Option.map_eq_some_iff.mp hio.2
      refine ⟨h.flow, h.forwardable, ?_, h.ordered.step hio'⟩
      rw [MasqueIo.step_departed hio' hio.1]
      exact h.departed

def Reachable (tunables : MasqueIoTunables) (mtu queueCapacity connectStreamId : Nat)
    (maxH3DgramLen : Option Nat) : MasqueSender → Prop :=
  Run.Reaches (step tunables) Run.Any (new mtu queueCapacity connectStreamId maxH3DgramLen)

theorem Exact.produced {s : MasqueSender} (h : s.Exact) : s.sent.Sublist s.io.produced := by
  have hpath : s.io.produced = (s.io.departed ++ s.io.discarded) ++ s.io.outbound :=
    h.ordered.path
  rw [hpath, List.append_assoc]
  exact h.departed.trans (List.sublist_append_left _ _)

end MasqueSender

-- One hop less and a fresh checksum, behind the context ID.
structure OneHop (packet : Packet) (dgram : List UInt8) : Prop where
  context : dgram.head? = some contextIdZero
  accepted : Forwardable packet
  forwarded : Forwarded packet dgram.tail
  checksum : version packet = 4 → OnesComplement.Verifies (dgram.tail.take ipv4HeaderLen)

theorem datagram_oneHop (h : Forwardable packet) : OneHop packet (datagram packet) :=
  ⟨rfl, h, forward_forwarded h, fun hv => OnesComplement.verifies_iff.mpr (forward_total h hv)⟩

-- What holds of a tunnel, whatever calls it has had.
structure RoundTrip (s : TunnelCalls) : Prop where
  flow : s.tunnel.flow = s.sent.map datagram
  oneHop : ∀ packet ∈ s.sent, OneHop packet (datagram packet)
  decoded : ∀ packet ∈ s.sent, ∀ buf : List UInt8, packet.length ≤ buf.length →
    ∃ t', s.tunnel.decodeDatagram (datagram packet) buf =
      .ok (.ok packet.length, (datagram packet).tail ++ buf.drop packet.length, t')
  otherContext : ∀ (dgram buf : List UInt8) (contextId : UInt64) (ctxLen : Nat),
    decodeVarint dgram = .ok (contextId, ctxLen) → contextId ≠ 0 →
      ∃ t', s.tunnel.decodeDatagram dgram buf = .ok (.ok 0, buf, t')

theorem TunnelCalls.Exact.roundTrip {s : TunnelCalls} (h : s.Exact) : RoundTrip s where
  flow := h.flow
  oneHop := fun packet hp => datagram_oneHop (h.forwardable packet hp)
  decoded := fun packet hp buf hlen => by
    have hf := h.forwardable packet hp
    obtain ⟨out, hdecode, hout⟩ := s.tunnel.decodeDatagram_ok (datagram packet) buf
    have hpacket := MasqueTunnel.decodeDatagram_datagram hf hlen
    rw [hpacket] at hdecode
    rw [hout _ hpacket] at hdecode
    rw [← length_forward hf]
    exact ⟨_, hdecode⟩
  otherContext := fun dgram buf contextId ctxLen hv hctx => by
    obtain ⟨out, hdecode, hout⟩ := s.tunnel.decodeDatagram_ok dgram buf
    have hnone : decodeDatagram buf.length dgram = .ok [] := by
      rw [MasqueTunnel.decodeDatagram_of_varint hv, if_pos hctx]
    rw [hnone] at hdecode
    rw [hout _ hnone] at hdecode
    exact ⟨_, hdecode⟩

-- Whatever was called on a tunnel before; and under flush_send_backlog, which keeps a blocked packet
-- for another try, each packet of the transmit path makes at most one datagram.
theorem datagram_round_trip :
    (∀ (maxH3DgramLen : Option Nat) (ops : List TunnelOp), ∃ s,
      Outcome.run TunnelCalls.step (.new maxH3DgramLen) ops = .ok s ∧ RoundTrip s) ∧
    ∀ (tunables : MasqueIoTunables) (mtu queueCapacity connectStreamId : Nat)
      (maxH3DgramLen : Option Nat) (s : MasqueSender),
      MasqueSender.Reachable tunables mtu queueCapacity connectStreamId maxH3DgramLen s →
        s.tunnel.flow = s.sent.map datagram ∧ s.sent.Sublist s.io.produced ∧
          ∀ packet ∈ s.sent, OneHop packet (datagram packet) := by
  constructor
  · intro maxH3DgramLen ops
    obtain ⟨s, hrun, hs⟩ := TunnelCalls.run_exact (TunnelCalls.new_exact maxH3DgramLen) ops
    exact ⟨s, hrun, hs.roundTrip⟩
  · intro tunables mtu queueCapacity connectStreamId maxH3DgramLen s hreach
    have hs : s.Exact := Run.Reaches.invariant
      (fun _ _ _ h _ hstep => MasqueSender.step_exact h hstep) hreach
      (MasqueSender.new_exact mtu queueCapacity connectStreamId maxH3DgramLen)
    exact ⟨hs.flow, hs.produced, fun packet hp => datagram_oneHop (hs.forwardable packet hp)⟩

-- Two empty IPv4 packets: the second one is blocked, goes back to the backlog and is sent later.
def emptyPacket (ttl : UInt8) : Packet :=
  [0x45, 0, 0, 20, 0, 0, 0, 0, ttl, 6, 0, 0, 10, 0, 0, 2, 1, 2, 3, 4]

theorem datagram_round_trip_blocked : ∃ s : MasqueSender,
    s.io.sendBacklog = [] ∧ s.sent = [emptyPacket 5, emptyPacket 9] ∧
      s.tunnel.flow = [datagram (emptyPacket 5), datagram (emptyPacket 9)] ∧
      OneHop (emptyPacket 9) (datagram (emptyPacket 9)) := by
  have hrun : (Run.exec (MasqueSender.step {}) (.new 1500 4 0 none)
      ([.io (.transmit (emptyPacket 5)), .io (.transmit (emptyPacket 9)), .io .beginDrain,
        .io .collect, .io .collect, .io .collect, .io (.trySend .sent), .io .fetchAdd] ++
        List.replicate 6 (.io .work) ++ [.send (.full true), .io .work, .send (.full true)] ++
        List.replicate 4 (.io .work) ++ [.send .accepted])).any
      (fun s => decide (s.io.sendBacklog = []) &&
        decide (s.sent = [emptyPacket 5, emptyPacket 9])) = true := by
    decide +kernel
  obtain ⟨s, hs, hp⟩ := (Option.any_eq_true _ _).mp hrun
  simp only [Bool.and_eq_true, decide_eq_true_eq] at hp
  obtain ⟨hbacklog, hsent⟩ := hp
  obtain ⟨hflow, -, hhop⟩ := datagram_round_trip.2 {} 1500 4 0 none s (Run.exec_reaches hs)
  rw [hsent] at hflow hhop
  exact ⟨s, hbacklog, hsent, hflow, hhop (emptyPacket 9) (by decide)⟩

end Usque
