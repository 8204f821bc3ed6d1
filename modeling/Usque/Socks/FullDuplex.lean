import Usque.Socks.RelayStages

namespace Usque

def RelayPc.handsTunnel : RelayPc → Bool
  | .toTunnel _ => true
  | _ => false

theorem RelayPc.handsTunnel_eq_false {pc : RelayPc} :
    pc.handsTunnel = false ↔ ∀ data, pc ≠ .toTunnel data := by
  cases pc <;> simp [handsTunnel]

namespace Relay

variable {s t : Relay}

section progress

theorem Alone.head {u : Relay} (label : RelayLabel) (hs : s.step label = some u)
    (h : Alone u t) (ho : label.own = true) : Alone s t := by
  have hone : Alone s u := Run.Reaches.single ho hs
  exact hone.trans h

-- A call on the tunnel's stream takes only so many accesses.
theorem Alone.polls {P Q : Relay → Prop}
    (hpoll : ∀ s, P s → ∃ t, s.poll = some t ∧
      (Q t ∨ P t ∧ t.tunnel.poll.stepsLeft < s.tunnel.poll.stepsLeft)) (h : P s) :
    ∃ t, Alone s t ∧ Q t := by
  generalize hn : s.tunnel.poll.stepsLeft = n
  induction n using Nat.strong_induction_on generalizing s with
  | _ n ih =>
      obtain ⟨u, hu, hq | ⟨hp, hless⟩⟩ := hpoll s h
      · exact ⟨u, .head .poll hu (.refl u) rfl, hq⟩
      · obtain ⟨t, hrun, hq⟩ := ih _ (hn ▸ hless) hp rfl
        exact ⟨t, .head .poll hu hrun rfl, hq⟩

theorem Clear.begins (h : Clear s) (hidle : s.idle = true) {room : Nat} {op : ClientOp}
    {pc : PollPc} (hop : s.op room = some op) (hpc : PollPc.start op = some pc) :
    s.call room = some { s with tunnel := s.tunnel.begun op pc } := by
  obtain ⟨last, hp⟩ := idle_returned hidle
  have hquiet := h.quiet
  rw [hp] at hquiet
  simp only [Relay.call, hop, Option.bind_some, StreamRun.startStep, hp, if_neg hquiet.1, hpc,
    Option.map_some]

theorem Clear.write_finishes (h : Clear s) {data : List UInt8} (hpc : s.pc = .toTunnel data) :
    ∃ t, Alone s t ∧ Clear t ∧ KeepsInbound s t ∧ t.forwarded = s.forwarded ++ data ∧
      t.idle = true ∧ (s.tunnelEof = false → t.pc = .select) := by
  have hbusy : ∀ u, Clear u → u.pc = .toTunnel data → u.idle = false → KeepsInbound s u →
      u.forwarded = s.forwarded → ∃ t, Alone u t ∧ Clear t ∧ KeepsInbound s t ∧
        t.forwarded = s.forwarded ++ data ∧ t.idle = true ∧
        (s.tunnelEof = false → t.pc = .select) := by
    intro u hclear hpc hidle hkeeps hfor
    refine Alone.polls (P := fun u => Clear u ∧ u.pc = .toTunnel data ∧ u.idle = false ∧
      KeepsInbound s u ∧ u.forwarded = s.forwarded) ?_ ⟨hclear, hpc, hidle, hkeeps, hfor⟩
    intro u ⟨hclear, hpc, hidle, hkeeps, hfor⟩
    obtain ⟨t, ht, hclear', hless, hkeeps', hnext⟩ := hclear.write_poll hpc hidle
    refine ⟨t, ht, ?_⟩
    rcases hnext with ⟨hpc', hidle', hfor'⟩ | ⟨hpc', hidle', hfor'⟩
    · exact .inr ⟨⟨hclear', hpc', hidle', hkeeps.trans hkeeps', hfor'.trans hfor⟩, hless⟩
    · refine .inl ⟨hclear', hkeeps.trans hkeeps', by rw [hfor', hfor], hidle', fun heof => ?_⟩
      rw [hpc', hkeeps.tunnelEof, heof, Bool.and_false]
      rfl
  cases hidle : s.idle with
  | false => exact hbusy s h hpc hidle ⟨rfl, rfl, rfl, rfl⟩ rfl
  | true =>
      have hop : s.op 0 = some (.write data) := by simp only [op, hpc]
      have hcall := h.begins hidle hop rfl
      have hclear := h.call (fun _ => Nat.zero_le _) hcall
      obtain ⟨t, hrun, ht⟩ := hbusy _ hclear hpc rfl ⟨rfl, rfl, rfl, rfl⟩ rfl
      exact ⟨t, .head (.call 0) hcall hrun rfl, ht⟩

theorem Clear.shutdown_finishes (h : Clear s) (hpc : s.pc = .shutdownTunnel) :
    ∃ t, Alone s t ∧ Clear t ∧ KeepsInbound s t ∧ t.idle = true ∧
      (s.tunnelEof = false → t.pc = .select) := by
  have hbusy : ∀ u, Clear u → u.pc = .shutdownTunnel → u.idle = false → KeepsInbound s u →
      ∃ t, Alone u t ∧ Clear t ∧ KeepsInbound s t ∧ t.idle = true ∧
        (s.tunnelEof = false → t.pc = .select) := by
    intro u hclear hpc hidle hkeeps
    refine Alone.polls (P := fun u => Clear u ∧ u.pc = .shutdownTunnel ∧ u.idle = false ∧
      KeepsInbound s u) ?_ ⟨hclear, hpc, hidle, hkeeps⟩
    intro u ⟨hclear, hpc, hidle, hkeeps⟩
    obtain ⟨t, ht, hclear', hless, hkeeps', hnext⟩ := hclear.shutdown_poll hpc hidle
    refine ⟨t, ht, ?_⟩
    rcases hnext with ⟨hpc', hidle'⟩ | ⟨hpc', hidle'⟩
    · exact .inr ⟨⟨hclear', hpc', hidle', hkeeps.trans hkeeps'⟩, hless⟩
    · refine .inl ⟨hclear', hkeeps.trans hkeeps', hidle', fun heof => ?_⟩
      rw [hpc', hkeeps.tunnelEof, heof]
      rfl
  cases hidle : s.idle with
  | false => exact hbusy s h hpc hidle ⟨rfl, rfl, rfl, rfl⟩
  | true =>
      have hop : s.op 0 = some .shutdown := by simp only [op, hpc]
      have hcall := h.begins hidle hop rfl
      have hclear := h.call (fun _ => Nat.zero_le _) hcall
      obtain ⟨t, hrun, ht⟩ := hbusy _ hclear hpc rfl ⟨rfl, rfl, rfl, rfl⟩
      exact ⟨t, .head (.call 0) hcall hrun rfl, ht⟩

structure KeepsOutbound (s t : Relay) : Prop where
  sendBuffer : t.stream.sendBuffer = s.stream.sendBuffer
  writeClosed : t.stream.writeClosed = s.stream.writeClosed
  writeShutdown : t.stream.writeShutdown = s.stream.writeShutdown
  inbox : t.client.inbox = s.client.inbox
  forwarded : t.forwarded = s.forwarded
  clientEof : t.clientEof = s.clientEof

theorem KeepsOutbound.trans {u : Relay} (h : KeepsOutbound s t) (k : KeepsOutbound t u) :
    KeepsOutbound s u :=
  ⟨k.sendBuffer.trans h.sendBuffer, k.writeClosed.trans h.writeClosed,
    k.writeShutdown.trans h.writeShutdown, k.inbox.trans h.inbox,
    k.forwarded.trans h.forwarded, k.clientEof.trans h.clientEof⟩

theorem KeepsOutbound.accepts (h : KeepsOutbound s t) (ha : s.TunnelAccepts) :
    t.TunnelAccepts := by
  obtain ⟨hfull, hclosed, hshut⟩ := ha
  exact ⟨by rw [h.sendBuffer]; exact hfull, h.writeClosed.trans hclosed,
    h.writeShutdown.trans hshut⟩

theorem SelectPolled.keepsOutbound (h : SelectPolled s t) : KeepsOutbound s t := by
  have hsame := h.same
  refine ⟨h.sendBuffer, h.writeClosed, h.writeShutdown, ?_, ?_, ?_⟩
  · rw [hsame]
  · rw [hsame]
  · rw [hsame]

-- The read in progress comes to its end: what it found decides where the relay is.
theorem Clear.read_finishes (h : Clear s) (hpc : s.pc = .select) (hidle : s.idle = false) :
    ∃ t, Alone s t ∧ Clear t ∧ KeepsOutbound s t ∧ t.client = s.client ∧
      t.delivered = s.delivered ∧
      ((t.pc = .select ∧ t.idle = true ∧ s.taking = false ∧
          t.stream.recvBuffer = s.stream.recvBuffer) ∨
        (∃ data, t.pc = .toClient data) ∨
        (t.pc = .flushClient ∧ s.taking = false ∧ s.stream.recvBuffer.isEmpty = true)) := by
  refine Alone.polls (P := fun u => Clear u ∧ u.pc = .select ∧ u.idle = false ∧
    KeepsOutbound s u ∧ u.client = s.client ∧ u.delivered = s.delivered ∧
    (s.taking = true → u.taking = true) ∧
    (u.taking = true ∨ u.stream.recvBuffer = s.stream.recvBuffer)) ?_
    ⟨h, hpc, hidle, ⟨rfl, rfl, rfl, rfl, rfl, rfl⟩, rfl, rfl, id, .inr rfl⟩
  intro u ⟨hclear, hpc, hidle, hkeeps, hclient, hdel, htaking, hrecv⟩
  obtain ⟨t, ht, hclear', hpolled, hless⟩ := hclear.select_poll hpc hidle
  have hclient' : t.client = u.client := by rw [hpolled.same]
  have hdel' : t.delivered = u.delivered := by rw [hpolled.same]
  have hkeeps' := hkeeps.trans hpolled.keepsOutbound
  have hidleTaking : u.taking = false → s.taking = false := by
    intro hu
    cases hs : s.taking with
    | false => rfl
    | true =>
        rw [htaking hs] at hu
        cases hu
  have hsame : u.taking = false → u.stream.recvBuffer = s.stream.recvBuffer := by
    intro hu
    rcases hrecv with hrecv | hrecv
    · rw [hu] at hrecv
      cases hrecv
    · exact hrecv
  refine ⟨t, ht, ?_⟩
  rcases hpolled.next with ⟨hpc', hidle', htaking', hrecv'⟩ | ⟨hpc', hidle', hnot, hrecv'⟩ |
    hdata | ⟨hpc', hnot, hempty⟩
  · refine .inr ⟨⟨hclear', hpc', hidle', hkeeps', hclient'.trans hclient, hdel'.trans hdel,
      fun hs => htaking' (htaking hs), ?_⟩, hless⟩
    rcases hrecv with hrecv | hrecv
    · exact .inl (htaking' hrecv)
    · exact hrecv'.imp_right (fun hr => hr.trans hrecv)
  · exact .inl ⟨hclear', hkeeps', hclient'.trans hclient, hdel'.trans hdel,
      .inl ⟨hpc', hidle', hidleTaking hnot, hrecv'.trans (hsame hnot)⟩⟩
  · exact .inl ⟨hclear', hkeeps', hclient'.trans hclient, hdel'.trans hdel, .inr (.inl hdata)⟩
  · exact .inl ⟨hclear', hkeeps', hclient'.trans hclient, hdel'.trans hdel,
      .inr (.inr ⟨hpc', hidleTaking hnot, hsame hnot ▸ hempty⟩)⟩

theorem Clear.delivers (h : Clear s) {data : List UInt8} (hpc : s.pc = .toClient data) :
    ∃ t, Alone s t ∧ Clear t ∧ KeepsOutbound s t ∧ t.idle = true ∧
      t.delivered = s.delivered ++ data ∧ (s.clientEof = false → t.pc = .select) := by
  have hstage := h.stage
  simp only [Stage, hpc] at hstage
  obtain ⟨hidle, hne, hroom⟩ := hstage
  have hwrite : s.writeClient data.length = some ({ s with
      client := { s.client with outbox := s.client.outbox ++ data }
      delivered := s.delivered ++ data }.loopHead) := by
    simp [Relay.writeClient, hpc, List.length_pos_iff, hne, hroom]
  refine ⟨_, .head (.writeClient data.length) hwrite (.refl _) rfl, h.writeClient hwrite,
    ⟨rfl, rfl, rfl, rfl, rfl, rfl⟩, hidle, rfl, fun heof => ?_⟩
  simp only [Relay.loopHead, heof, Bool.false_and]
  rfl

theorem Clear.closes_client (h : Clear s) (hpc : s.pc = .flushClient ∨ s.pc = .shutdownClient) :
    ∃ t, Alone s t ∧ Clear t ∧ KeepsOutbound s t ∧ t.idle = true ∧
      (s.clientEof = false → t.pc = .select) := by
  have hlast : ∀ u, Clear u → KeepsOutbound s u → u.pc = .shutdownClient → ∃ t, Alone u t ∧
      Clear t ∧ KeepsOutbound s t ∧ t.idle = true ∧ (s.clientEof = false → t.pc = .select) := by
    intro u hclear hkeeps hpc
    have hidle := hclear.stage
    simp only [Stage, hpc] at hidle
    have hfinish : u.finishClient = some { u with tunnelEof := true }.loopHead := by
      simp only [Relay.finishClient, hpc]
    refine ⟨_, .head .finishClient hfinish (.refl _) rfl, hclear.finishClient hfinish,
      hkeeps.trans ⟨rfl, rfl, rfl, rfl, rfl, rfl⟩, hidle, fun heof => ?_⟩
    simp only [Relay.loopHead, hkeeps.clientEof, heof, Bool.false_and]
    rfl
  rcases hpc with hpc | hpc
  · have hfinish : s.finishClient = some { s with pc := .shutdownClient } := by
      simp only [Relay.finishClient, hpc]
    obtain ⟨t, hrun, ht⟩ := hlast _ (h.finishClient hfinish) ⟨rfl, rfl, rfl, rfl, rfl, rfl⟩ rfl
    exact ⟨t, .head .finishClient hfinish hrun rfl, ht⟩
  · exact hlast s h ⟨rfl, rfl, rfl, rfl, rfl, rfl⟩ hpc

theorem Alone.delivers_of (h : Alone s t) (hd : t.delivered = s.delivered) (ht : Delivers t) :
    Delivers s := by
  obtain ⟨u, hrun, hless⟩ := ht
  exact ⟨u, h.trans hrun, hd ▸ hless⟩

theorem Alone.forwards_of (h : Alone s t) (hf : t.forwarded = s.forwarded) (ht : Forwards t) :
    Forwards s := by
  obtain ⟨u, hrun, hless⟩ := ht
  exact ⟨u, h.trans hrun, hf ▸ hless⟩

theorem Clear.delivers_data (h : Clear s) {data : List UInt8} (hpc : s.pc = .toClient data) :
    Delivers s := by
  obtain ⟨t, hrun, _, _, _, hdel, _⟩ := h.delivers hpc
  have hstage := h.stage
  simp only [Stage, hpc] at hstage
  have hpos := List.length_pos_iff.mpr hstage.2.1
  refine ⟨t, hrun, ?_⟩
  rw [hdel, List.length_append]
  omega

theorem Clear.tunnelEof_of_readable (h : Clear s) (hr : s.TunnelReadable) :
    s.tunnelOver = false := by
  cases ho : s.tunnelOver with
  | false => rfl
  | true =>
      have hempty := (h.tunnelOver ho).1
      rw [TunnelReadable, hempty] at hr
      cases hr

theorem Clear.clientEof_of_readable (h : Clear s) (hr : s.ClientReadable) :
    s.clientOver = false := by
  cases ho : s.clientOver with
  | false => rfl
  | true => exact absurd (h.clientOver ho).1 hr

theorem Clear.select_delivers_taking (h : Clear s) (hpc : s.pc = .select) (hidle : s.idle = false)
    (ht : s.taking = true) : Delivers s := by
  obtain ⟨t, hrun, hclear, _, _, hdel, hend⟩ := h.read_finishes hpc hidle
  rcases hend with ⟨_, _, hnot, _⟩ | ⟨data, hdata⟩ | ⟨_, hnot, _⟩
  · rw [ht] at hnot
    cases hnot
  · exact hrun.delivers_of hdel (hclear.delivers_data hdata)
  · rw [ht] at hnot
    cases hnot

-- A read that begins while there is data returns some of it.
theorem Clear.select_delivers (h : Clear s) (hpc : s.pc = .select) (hidle : s.idle = true)
    (hr : s.TunnelReadable) (ha : s.ClientAccepts) : Delivers s := by
  have heof : s.tunnelEof = false := by
    have hover := h.tunnelEof_of_readable hr
    simp only [Relay.tunnelOver, Bool.or_eq_false_iff] at hover
    exact hover.1.1
  have hop : s.op 1 = some (.read 1) := by simp [op, hpc, heof]
  have hcall := h.begins hidle hop rfl
  have hclear := h.call (fun _ => ha) hcall
  have hrun : Alone s _ := .head (.call 1) hcall (.refl _) rfl
  refine hrun.delivers_of rfl (hclear.select_delivers_taking hpc rfl ?_)
  show (!s.stream.recvBuffer.isEmpty) = true
  rw [hr]
  rfl

theorem Clear.inbound (h : Clear s) (hpc : s.pc ≠ .done) (hr : s.TunnelReadable)
    (ha : s.ClientAccepts) : Delivers s := by
  have hover := h.tunnelEof_of_readable hr
  have heof : s.tunnelEof = false := by
    simp only [Relay.tunnelOver, Bool.or_eq_false_iff] at hover
    exact hover.1.1
  have hloop : ∀ t, Alone s t → Clear t → KeepsInbound s t → t.idle = true → t.pc = .select →
      Delivers s := by
    intro t hrun hclear hkeeps hidle hpc
    refine hrun.delivers_of hkeeps.delivered (hclear.select_delivers hpc hidle ?_ ?_)
    · rw [TunnelReadable, hkeeps.recvBuffer]
      exact hr
    · rw [ClientAccepts, hkeeps.client]
      exact ha
  cases hs : s.pc with
  | select =>
      cases hidle : s.idle with
      | true => exact h.select_delivers hs hidle hr ha
      | false =>
          obtain ⟨t, hrun, hclear, _, hclient, hdel, hend⟩ := h.read_finishes hs hidle
          rcases hend with ⟨hpc', hidle', _, hrecv⟩ | ⟨data, hdata⟩ | ⟨_, _, hempty⟩
          · refine hrun.delivers_of hdel (hclear.select_delivers hpc' hidle' ?_ ?_)
            · rw [TunnelReadable, hrecv]
              exact hr
            · rw [ClientAccepts, hclient]
              exact ha
          · exact hrun.delivers_of hdel (hclear.delivers_data hdata)
          · rw [TunnelReadable, hempty] at hr
            cases hr
  | toClient data => exact h.delivers_data hs
  | flushClient | shutdownClient => simp [Relay.tunnelOver, hs] at hover
  | toTunnel data =>
      obtain ⟨t, hrun, hclear, hkeeps, _, hidle, hselect⟩ := h.write_finishes hs
      exact hloop t hrun hclear hkeeps hidle (hselect heof)
  | shutdownTunnel =>
      obtain ⟨t, hrun, hclear, hkeeps, hidle, hselect⟩ := h.shutdown_finishes hs
      exact hloop t hrun hclear hkeeps hidle (hselect heof)
  | done => exact absurd hs hpc

theorem Clear.forwards_data (h : Clear s) {data : List UInt8} (hpc : s.pc = .toTunnel data) :
    Forwards s := by
  obtain ⟨t, hrun, _, _, hfor, _⟩ := h.write_finishes hpc
  have hstage := h.stage
  simp only [Stage, hpc] at hstage
  have hpos := List.length_pos_iff.mpr hstage.1
  refine ⟨t, hrun, ?_⟩
  rw [hfor, List.length_append]
  omega

theorem Clear.select_forwards (h : Clear s) (hpc : s.pc = .select) (hidle : s.idle = true)
    (hr : s.ClientReadable) (ha : s.TunnelAccepts) : Forwards s := by
  have heof : s.clientEof = false := by
    have hover := h.clientEof_of_readable hr
    simp only [Relay.clientOver, Bool.or_eq_false_iff] at hover
    exact hover.1
  have hone : 1 ≤ s.client.inbox.length := List.length_pos_iff.mpr hr
  have hread : s.readClient 1 = some { s with
      client := { s.client with inbox := s.client.inbox.drop 1 }
      pc := .toTunnel (s.client.inbox.take 1) } := by
    simp [Relay.readClient, hpc, hidle, heof, hone]
  have hroom : 1 ≤ s.stream.sendBuffer.remainingCapacity := by
    have hfull := ha.1
    simp only [TcpRingBuffer.isFull, decide_eq_false_iff_not] at hfull
    omega
  have hguard : TakesWhatFits s (.readClient 1) := by
    simp only [TakesWhatFits, if_neg Nat.one_ne_zero]
    exact ⟨hroom, ha.2⟩
  have hclear := h.readClient hguard hread
  have hrun : Alone s _ := .head (.readClient 1) hread (.refl _) rfl
  exact hrun.forwards_of rfl (hclear.forwards_data rfl)

theorem Clear.outbound (h : Clear s) (hpc : s.pc ≠ .done) (hr : s.ClientReadable)
    (ha : s.TunnelAccepts) : Forwards s := by
  have hover := h.clientEof_of_readable hr
  have heof : s.clientEof = false := by
    simp only [Relay.clientOver, Bool.or_eq_false_iff] at hover
    exact hover.1
  have hloop : ∀ t, Alone s t → Clear t → KeepsOutbound s t → t.idle = true → t.pc = .select →
      Forwards s := by
    intro t hrun hclear hkeeps hidle hpc
    refine hrun.forwards_of hkeeps.forwarded
      (hclear.select_forwards hpc hidle ?_ (hkeeps.accepts ha))
    rw [ClientReadable, hkeeps.inbox]
    exact hr
  have hclosing : ∀ t, Alone s t → Clear t → KeepsOutbound s t →
      t.pc = .flushClient ∨ t.pc = .shutdownClient → Forwards s := by
    intro t hrun hclear hkeeps hpc
    obtain ⟨u, hrun', hclear', hkeeps', hidle, hselect⟩ := hclear.closes_client hpc
    exact hloop u (hrun.trans hrun') hclear' (hkeeps.trans hkeeps') hidle
      (hselect (hkeeps.clientEof.trans heof))
  have hdata : ∀ t data, Alone s t → Clear t → KeepsOutbound s t → t.pc = .toClient data →
      Forwards s := by
    intro t data hrun hclear hkeeps hpc
    obtain ⟨u, hrun', hclear', hkeeps', hidle, _, hselect⟩ := hclear.delivers hpc
    exact hloop u (hrun.trans hrun') hclear' (hkeeps.trans hkeeps') hidle
      (hselect (hkeeps.clientEof.trans heof))
  cases hs : s.pc with
  | select =>
      cases hidle : s.idle with
      | true => exact h.select_forwards hs hidle hr ha
      | false =>
          obtain ⟨t, hrun, hclear, hkeeps, _, _, hend⟩ := h.read_finishes hs hidle
          rcases hend with ⟨hpc', hidle', _⟩ | ⟨data, hpc'⟩ | ⟨hpc', _⟩
          · exact hloop t hrun hclear hkeeps hidle' hpc'
          · exact hdata t data hrun hclear hkeeps hpc'
          · exact hclosing t hrun hclear hkeeps (.inl hpc')
  | toClient data => exact hdata s data (.refl s) h ⟨rfl, rfl, rfl, rfl, rfl, rfl⟩ hs
  | flushClient => exact hclosing s (.refl s) h ⟨rfl, rfl, rfl, rfl, rfl, rfl⟩ (.inl hs)
  | shutdownClient => exact hclosing s (.refl s) h ⟨rfl, rfl, rfl, rfl, rfl, rfl⟩ (.inr hs)
  | toTunnel data => exact h.forwards_data hs
  | shutdownTunnel => simp [Relay.clientOver, hs] at hover
  | done => exact absurd hs hpc

theorem Clear.not_waitsOnTunnel (h : Clear s) : ¬ s.WaitsOnTunnel := by
  intro ⟨hp, _⟩
  have hquiet := h.quiet
  cases hs : s.tunnel.poll with
  | returned last =>
      rw [hs] at hp hquiet
      have hnot : last.any PollReturn.sendPending = true := hp
      rw [hquiet.2] at hnot
      cases hnot
  | _ =>
      rw [hs] at hp
      cases hp

theorem Clear.not_waitsOnClient (h : Clear s) : ¬ s.WaitsOnClient := by
  intro ⟨⟨data, hpc⟩, hfull, _⟩
  have hstage := h.stage
  simp only [Stage, hpc] at hstage
  have hpos := List.length_pos_iff.mpr hstage.2.1
  exact hfull (Nat.lt_of_lt_of_le hpos hstage.2.2)

end progress

theorem full_duplex (h : Reachable TakesWhatFits s) : FullDuplex s where
  inbound := h.clear.inbound
  outbound := h.clear.outbound
  tunnel _ := h.clear.not_waitsOnTunnel
  client _ := h.clear.not_waitsOnClient

section stalled

-- A write of more than the send buffer holds, or a shutdown over unsent bytes, which polls again
-- and again.
def Stalled (s : Relay) : Prop :=
  match s.pc with
  | .toTunnel data => s.tunnel.poll.StallsWrite data ∧ s.stream.sendBuffer.isFull = true ∧
      s.stream.writeClosed = false ∧ s.stream.writeShutdown = false
  | .shutdownTunnel => s.tunnel.poll.StallsShutdown ∧ s.stream.sendBuffer.isEmpty = false
  | _ => False

theorem Stalled.pc (h : Stalled s) : (∃ data, s.pc = .toTunnel data) ∨ s.pc = .shutdownTunnel := by
  simp only [Stalled] at h
  cases hpc : s.pc with
  | toTunnel data => exact .inl ⟨data, rfl⟩
  | shutdownTunnel => exact .inr rfl
  | _ => simp only [hpc] at h

theorem polled_waiting (tunnel : StreamRun) (h : ∀ last, tunnel.poll = .returned (some last) →
    last.sendPending = true) : s.polled tunnel = { s with tunnel } := by
  simp only [polled]
  split
  · next last hp =>
      have hpending := h last hp
      cases last with
      | read room result => cases hpending
      | write result | flush result | shutdown result =>
          cases result with
          | ready value => cases hpending
          | pending => rfl
      | dropped => cases hpending
  · rfl

theorem Stalled.call (h : Stalled s) {room : Nat} (ht : s.call room = some t) :
    Stalled t ∧ t.delivered = s.delivered := by
  obtain ⟨op, pc, hop, _, hstart, rfl⟩ := call_begun ht
  simp only [Stalled] at h
  refine ⟨?_, rfl⟩
  rcases hpc : s.pc with _ | data | _ | _ | data | _ | _ <;> simp only [hpc] at h
  · simp only [Relay.op, hpc, Option.some.injEq] at hop
    subst hop
    cases hstart
    simp only [Stalled]
    exact ⟨rfl, h.2⟩
  · simp only [Relay.op, hpc, Option.some.injEq] at hop
    subst hop
    cases hstart
    simp only [Stalled]
    exact ⟨trivial, h.2⟩

theorem Stalled.poll (h : Stalled s) (ht : s.poll = some t) :
    Stalled t ∧ t.delivered = s.delivered := by
  obtain ⟨tunnel, htunnel, rfl⟩ := Option.map_eq_some_iff.mp ht
  obtain ⟨⟨c, events, pc⟩, hs, rfl⟩ := Option.map_eq_some_iff.mp htunnel
  have hs : s.stream.pollStep s.tunnel.poll = some (c, events, pc) := hs
  simp only [Stalled] at h
  rcases hpc : s.pc with _ | data | _ | _ | data | _ | _ <;> simp only [hpc] at h
  · obtain ⟨hstalls, hfull, hclosed, hshut⟩ := h
    obtain ⟨hsend, hclosed', hshut', hstalls', hpending⟩ :=
      SocketStreamHandle.stallsWrite_pollStep hstalls hfull hclosed hshut hs
    rw [polled_waiting (s.tunnel.polled c events pc) hpending]
    refine ⟨?_, rfl⟩
    simp only [Stalled, hpc]
    exact ⟨hstalls', (congrArg _ hsend).trans hfull, hclosed', hshut'⟩
  · obtain ⟨hstalls, hfull⟩ := h
    obtain ⟨hsend, hstalls', hpending⟩ :=
      SocketStreamHandle.stallsShutdown_pollStep hstalls hfull hs
    rw [polled_waiting (s.tunnel.polled c events pc) hpending]
    refine ⟨?_, rfl⟩
    simp only [Stalled, hpc]
    exact ⟨hstalls', (congrArg _ hsend).trans hfull⟩

theorem Stalled.own_step (h : Stalled s) {label : RelayLabel} (ho : label.own = true)
    (ht : s.step label = some t) : Stalled t ∧ t.delivered = s.delivered := by
  cases label with
  | call room => exact h.call ht
  | poll => exact h.poll ht
  | readClient n | writeClient n | finishClient =>
      exfalso
      rcases h.pc with ⟨data, hpc⟩ | hpc <;>
        simp [step, Relay.readClient, Relay.writeClient, Relay.finishClient, hpc] at ht
  | _ => cases ho

theorem Stalled.not_delivers (h : Stalled s) : ¬ Delivers s := by
  intro ⟨t, hrun, hless⟩
  have hkept : Stalled t ∧ t.delivered = s.delivered := by
    refine hrun.invariant (I := fun t => Stalled t ∧ t.delivered = s.delivered) ?_ ⟨h, rfl⟩
    intro u label v ⟨hu, hdel⟩ ho hv
    obtain ⟨hstalled, hsame⟩ := hu.own_step ho hv
    exact ⟨hstalled, hsame.trans hdel⟩
  rw [hkept.2] at hless
  exact Nat.lt_irrefl _ hless

theorem Stalled.not_fullDuplex (h : Stalled s) (hr : s.TunnelReadable) (ha : s.ClientAccepts) :
    ¬ FullDuplex s := by
  intro hduplex
  refine h.not_delivers (hduplex.inbound ?_ hr ha)
  rcases h.pc with ⟨data, hpc⟩ | hpc <;> simp [hpc]

end stalled

section runs

instance (s : Relay) (label : RelayLabel) : Decidable (TakesWhatFits s label) :=
  match label with
  | .call _ => inferInstanceAs (Decidable (_ → _))
  | .readClient _ => inferInstanceAs (Decidable (ite _ _ _))
  | .manager _ =>
      have : Decidable (∀ data, s.pc ≠ .toTunnel data) :=
        decidable_of_iff _ RelayPc.handsTunnel_eq_false
      inferInstanceAs (Decidable (_ ∧ _ ∧ _))
  | .poll | .writeClient _ | .finishClient | .failClient | .timeout | .clientSends _
  | .clientFinishes | .clientTakes _ => .isTrue trivial

def small : Relay := init .small 4

-- The manager's sweep stores one byte of the peer's.
def peerSends : List RelayLabel :=
  .manager (.sweep true) :: ([.flag true, .none, .none, .none, .none, .none, .none, .flag false,
    .flag true, .none, .received (.ok [7]), .none, .none].map (fun reply => .manager (.go reply)))

def writing (data : List UInt8) (n : Nat) : List RelayLabel :=
  peerSends ++ [.clientSends data, .readClient n, .call 0]

theorem full_duplex_writing : ∃ s, Reachable TakesWhatFits s ∧ FullDuplex s ∧
    s.pc = .toTunnel [5] ∧ s.TunnelReadable ∧ s.ClientAccepts ∧ s.ClientReadable ∧
    s.TunnelAccepts := by
  have hrun : (Run.exec step small (writing [5, 6] 1)).any
      (fun s => decide (s.pc = .toTunnel [5]) && !s.stream.recvBuffer.isEmpty &&
        decide (0 < s.client.room) && decide (s.client.inbox ≠ []) &&
        !s.stream.sendBuffer.isFull && !s.stream.writeClosed && !s.stream.writeShutdown) = true := by
    decide +kernel
  have hguarded : Run.Guarded step TakesWhatFits small (writing [5, 6] 1) := by
    decide +kernel
  obtain ⟨s, hs, hp⟩ := (Option.any_eq_true _ _).mp hrun
  simp only [Bool.and_eq_true, decide_eq_true_eq, Bool.not_eq_true'] at hp
  obtain ⟨⟨⟨⟨⟨⟨hpc, hreadable⟩, haccepts⟩, hinbox⟩, hfull⟩, hclosed⟩, hshut⟩ := hp
  have hr : Reachable TakesWhatFits s :=
    ⟨small, ⟨_, 4, ⟨0, 1, 1, 0, 64, rfl⟩, rfl⟩, Run.exec_guarded hs hguarded⟩
  exact ⟨s, hr, full_duplex hr, hpc, hreadable, haccepts, hinbox, hfull, hclosed, hshut⟩

-- The client's three bytes overflow a send buffer of one, so write_all waits for the peer to read.
theorem write_all_blocks_reads : ∃ s, Reachable Run.Any s ∧ s.pc = .toTunnel [2, 3] ∧
    s.TunnelReadable ∧ s.ClientAccepts ∧ s.WaitsOnTunnel ∧ ¬ s.Delivers ∧ ¬ FullDuplex s := by
  have hrun : (Run.exec step small
      (writing [1, 2, 3] 3 ++ List.replicate 7 .poll ++ .call 0 :: List.replicate 5 .poll)).any
      (fun s => decide (s.pc = .toTunnel [2, 3]) &&
        decide (s.tunnel.poll = .returned (some (.write .pending))) &&
        !s.stream.recvBuffer.isEmpty && decide (0 < s.client.room) &&
        s.stream.sendBuffer.isFull && !s.stream.writeClosed && !s.stream.writeShutdown) = true := by
    decide +kernel
  obtain ⟨s, hs, hp⟩ := (Option.any_eq_true _ _).mp hrun
  simp only [Bool.and_eq_true, decide_eq_true_eq, Bool.not_eq_true'] at hp
  obtain ⟨⟨⟨⟨⟨⟨hpc, hpoll⟩, hreadable⟩, haccepts⟩, hfull⟩, hclosed⟩, hshut⟩ := hp
  have hr : Reachable Run.Any s :=
    ⟨small, ⟨_, 4, ⟨0, 1, 1, 0, 64, rfl⟩, rfl⟩, Run.exec_reaches hs⟩
  have hstalled : Stalled s := by
    simp only [Stalled, hpc, hpoll]
    exact ⟨trivial, hfull, hclosed, hshut⟩
  refine ⟨s, hr, hpc, hreadable, haccepts, ⟨?_, hreadable⟩, hstalled.not_delivers,
    hstalled.not_fullDuplex hreadable haccepts⟩
  rw [hpoll]
  rfl

end runs

end Relay

end Usque
