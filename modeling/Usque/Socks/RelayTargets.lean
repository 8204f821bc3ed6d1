import Usque.Socks.RelaySources

namespace Usque

-- The clock does not run backwards.
def RelayEvent.timed : Time → List RelayEvent → Prop
  | _, [] => True
  | now, .datagram d :: events =>
      now ≤ d.cleanedAt ∧ d.cleanedAt ≤ d.insertedAt ∧ timed d.insertedAt events
  | now, _ :: events => timed now events

namespace UdpForward

variable {F : FastSocks} {tunables : SocksTunables} {s s' t : UdpForward}

-- A request as its target sees it: what is forwarded, and the buffer that is left.
def serve (tunables : SocksTunables) (found : Option FragBuffer) (d : RelayDatagram)
    (frag : UInt8) (payload : List UInt8) :
    Outcome (Option (List UInt8) × Option FragBuffer) :=
  if frag = 0 then .ok (some payload, none)
  else if frag &&& 0x7f = 0 then .ok (none, found)
  else do
    let (assembled, buffer) ← (fragBuffer tunables found d.insertedAt).insert (frag &&& 0x7f)
      (frag &&& 0x80 ≠ 0) payload d.insertedAt
    .ok (assembled, if assembled.isSome then none else some buffer)

def sends (localPort : UInt16) (d : RelayDatagram) (target : TargetAddr) (data : List UInt8) :
    List (TargetAddr × UdpSend) :=
  match targetAddrToIp target d.resolved with
  | some (remoteIp, remotePort) =>
      if d.taken then [(target, ⟨remoteIp, remotePort, localPort, data⟩)] else []
  | none => []

theorem sendUdp_sends (s : UdpForward) (d : RelayDatagram) (target : TargetAddr)
    (data : List UInt8) : s.sendUdp d target data =
      { s with forwarded := s.forwarded ++ sends s.localPort d target data } := by
  simp only [sendUdp, sends]
  cases targetAddrToIp target d.resolved with
  | none => simp
  | some r => cases d.taken <;> simp

def kept (tunables : SocksTunables) (s : UdpForward) (d : RelayDatagram) (target : TargetAddr) :
    Option FragBuffer :=
  (s.fragBuffers.lookup target).filter
    (fun buffer => !buffer.isExpired d.cleanedAt tunables.udpFragTimeout)

structure Serves (tunables : SocksTunables) (s t : UdpForward) (d : RelayDatagram)
    (target : TargetAddr) (out : Option (List UInt8)) (left : Option FragBuffer) : Prop where
  forwarded : t.forwarded = s.forwarded ++
    out.toList.flatMap (sends s.localPort d target)
  lookup : ∀ k, t.fragBuffers.lookup k = if k = target then left else s.kept tunables d k

theorem cleanup_lookup (tunables : SocksTunables) (s : UdpForward) (d : RelayDatagram)
    (k : TargetAddr) :
    (cleanupFragments s.fragBuffers d.cleanedAt tunables.udpFragTimeout).lookup k =
      s.kept tunables d k :=
  Table.lookup_retain ..

theorem handleRequest_serves (tunables : SocksTunables) (s : UdpForward) (d : RelayDatagram)
    (frag : UInt8) (target : TargetAddr) (payload : List UInt8) :
    match serve tunables (s.kept tunables d target) d frag payload with
    | .ok (out, left) => ∃ t, s.handleRequest tunables d frag target payload = .ok t ∧
        Serves tunables s t d target out left
    | .error fault => s.handleRequest tunables d frag target payload = .error fault := by
  have hcleaned := cleanup_lookup tunables s d
  simp only [handleRequest, serve]
  rw [hcleaned]
  generalize cleanupFragments s.fragBuffers d.cleanedAt tunables.udpFragTimeout = cleaned
    at hcleaned ⊢
  split_ifs with hfrag hseq
  · refine ⟨_, rfl, ?_, fun k => ?_⟩
    · rw [sendUdp_sends]
      simp
    · rw [sendUdp_sends, Table.lookup_erase, hcleaned]
  · refine ⟨_, rfl, ?_, fun k => ?_⟩
    · simp
    · dsimp only
      split_ifs with hk
      · rw [hk, hcleaned]
      · rw [hcleaned]
  · cases FragBuffer.insert _ _ _ _ _ with
    | error fault => rfl
    | ok r =>
        obtain ⟨assembled, buffer⟩ := r
        cases assembled with
        | none =>
            refine ⟨_, rfl, ?_, fun k => ?_⟩
            · simp
            · show (AList.insert target buffer cleaned).lookup k = _
              rw [Table.lookup_insert, hcleaned]
              rfl
        | some data =>
            refine ⟨_, rfl, ?_, fun k => ?_⟩
            · rw [sendUdp_sends]
              simp
            · rw [sendUdp_sends]
              show (AList.erase target cleaned).lookup k = _
              rw [Table.lookup_erase, hcleaned]
              rfl

-- The event is not a request for another target.
def concerns (F : FastSocks) (tunables : SocksTunables) (target : TargetAddr) : RelayEvent → Bool
  | .datagram d => (request F tunables d).any (fun r => r.2.1 = target)
  | _ => true

-- `s'` has seen only what concerns the target. It may still keep a buffer that is too old.
structure Projects (tunables : SocksTunables) (target : TargetAddr) (now : Time)
    (s s' : UdpForward) : Prop where
  closed : s'.closed = s.closed
  localPort : s'.localPort = s.localPort
  forwarded : s'.forwarded = s.forwarded.filter (fun p => p.1 = target)
  buffer : s'.fragBuffers.lookup target = s.fragBuffers.lookup target ∨
    (s.fragBuffers.lookup target = none ∧ ∀ b ∈ s'.fragBuffers.lookup target,
      ∀ later, now ≤ later → b.isExpired later tunables.udpFragTimeout = true)

variable {target : TargetAddr} {now : Time}

theorem isExpired_mono {b : FragBuffer} {later timeout : Time} (hle : now ≤ later)
    (h : b.isExpired now timeout = true) : b.isExpired later timeout = true := by
  simp only [FragBuffer.isExpired, gt_iff_lt, decide_eq_true_eq] at h ⊢
  exact Nat.lt_of_lt_of_le h (Nat.sub_le_sub_right hle _)

theorem Projects.kept (h : Projects tunables target now s s') {d : RelayDatagram}
    (hd : now ≤ d.cleanedAt) : s'.kept tunables d target = s.kept tunables d target := by
  simp only [UdpForward.kept]
  rcases h.buffer with he | ⟨hnone, hold⟩
  · rw [he]
  · rw [hnone, Option.filter_none, Option.filter_eq_none_iff]
    intro b hb
    rw [hold b hb d.cleanedAt hd]
    nofun

theorem filter_sends (localPort : UInt16) (d : RelayDatagram) (k : TargetAddr)
    (data : List UInt8) : (sends localPort d k data).filter (fun p => p.1 = target) =
      if k = target then sends localPort d k data else [] := by
  simp only [sends]
  cases targetAddrToIp k d.resolved with
  | none => simp
  | some r => cases d.taken <;> by_cases hk : k = target <;> simp [hk]

theorem filter_out (localPort : UInt16) (d : RelayDatagram) (k : TargetAddr)
    (out : Option (List UInt8)) :
    (out.toList.flatMap (sends localPort d k)).filter (fun p => p.1 = target) =
      if k = target then out.toList.flatMap (sends localPort d k) else [] := by
  cases out with
  | none => simp
  | some data =>
      simp only [Option.toList_some, List.flatMap_cons, List.flatMap_nil, List.append_nil]
      exact filter_sends localPort d k data

-- A request for another target cleans old buffers up and leaves this target's as it is.
theorem Projects.other (h : Projects tunables target now s s') {d : RelayDatagram}
    (hd : now ≤ d.cleanedAt) (hi : d.cleanedAt ≤ d.insertedAt) {k : TargetAddr} (hk : k ≠ target)
    {out : Option (List UInt8)} {left : Option FragBuffer} (hs : Serves tunables s t d k out left)
    (hclosed : t.closed = s.closed) (hport : t.localPort = s.localPort) :
    Projects tunables target d.insertedAt t s' where
  closed := h.closed.trans hclosed.symm
  localPort := h.localPort.trans hport.symm
  forwarded := by
    rw [hs.forwarded, List.filter_append, filter_out, if_neg hk, List.append_nil, h.forwarded]
  buffer := by
    rw [hs.lookup target, if_neg (Ne.symm hk), UdpForward.kept]
    rcases h.buffer with he | ⟨hnone, hold⟩
    · rw [he]
      cases hl : s.fragBuffers.lookup target with
      | none => exact .inl rfl
      | some b =>
          rw [Option.filter_some]
          cases hexp : b.isExpired d.cleanedAt tunables.udpFragTimeout with
          | false => exact .inl rfl
          | true =>
              refine .inr ⟨rfl, fun b' hb later hlater => ?_⟩
              cases hb
              exact isExpired_mono (Nat.le_trans hi hlater) hexp
    · rw [hnone, Option.filter_none]
      refine .inr ⟨rfl, fun b hb later hlater => ?_⟩
      exact hold b hb later (Nat.le_trans hd (Nat.le_trans hi hlater))

theorem Projects.readdress (h : Projects tunables target now s s') (a a' : Option SocketAddr) :
    Projects tunables target now { s with clientAddr := a } { s' with clientAddr := a' } :=
  ⟨h.closed, h.localPort, h.forwarded, h.buffer⟩

theorem Projects.own (h : Projects tunables target now s s') {d : RelayDatagram}
    (hd : now ≤ d.cleanedAt) {frag : UInt8} {payload : List UInt8}
    (hstep : s.handleRequest tunables d frag target payload = .ok t) :
    ∃ t', s'.handleRequest tunables d frag target payload = .ok t' ∧
      Projects tunables target d.insertedAt t t' := by
  have hs := handleRequest_serves tunables s d frag target payload
  have hs' := handleRequest_serves tunables s' d frag target payload
  rw [h.kept hd] at hs'
  cases hserve : serve tunables (s.kept tunables d target) d frag payload with
  | error fault =>
      rw [hserve] at hs
      have he : s.handleRequest tunables d frag target payload = .error fault := hs
      rw [he] at hstep
      cases hstep
  | ok r =>
      obtain ⟨out, left⟩ := r
      rw [hserve] at hs hs'
      obtain ⟨u, hu, hserves⟩ := hs
      obtain ⟨t', ht', hserves'⟩ := hs'
      rw [hu] at hstep
      cases hstep
      obtain ⟨_, _, hclosed, hport⟩ := handleRequest_kept hu
      obtain ⟨_, _, hclosed', hport'⟩ := handleRequest_kept ht'
      refine ⟨t', ht', hclosed'.trans (h.closed.trans hclosed.symm),
        hport'.trans (h.localPort.trans hport.symm), ?_, .inl ?_⟩
      · rw [hserves.forwarded, hserves'.forwarded, List.filter_append, filter_out, if_pos rfl,
          h.forwarded, h.localPort]
      · rw [hserves.lookup, hserves'.lookup, if_pos rfl, if_pos rfl]

theorem Projects.later (h : Projects tunables target now s s') {now' : Time} (hle : now ≤ now') :
    Projects tunables target now' s s' where
  closed := h.closed
  localPort := h.localPort
  forwarded := h.forwarded
  buffer := h.buffer.imp id (fun ⟨hnone, hold⟩ =>
    ⟨hnone, fun b hb later hlater => hold b hb later (Nat.le_trans hle hlater)⟩)

-- A request for the target is served alike in both runs, and one for another target in one only.
theorem receive_projects (h : Projects tunables target now s s') {d : RelayDatagram}
    (hd : now ≤ d.cleanedAt) (hi : d.cleanedAt ≤ d.insertedAt)
    (hstep : s.receive F tunables d = .ok t) :
    if concerns F tunables target (.datagram d) then
      ∃ t', s'.receive F tunables d = .ok t' ∧ Projects tunables target d.insertedAt t t'
    else Projects tunables target d.insertedAt t s' := by
  have hle := Nat.le_trans hd hi
  cases hr : request F tunables d with
  | none =>
      have hconcerns : concerns F tunables target (.datagram d) = false := by
        simp only [concerns, hr, Option.any_none]
      simp only [receive, hr] at hstep
      cases hstep
      rw [hconcerns]
      exact (h.readdress (some d.source) s'.clientAddr).later hle
  | some r =>
      obtain ⟨frag, k, payload⟩ := r
      have hconcerns : concerns F tunables target (.datagram d) = decide (k = target) := by
        simp only [concerns, hr, Option.any_some]
      simp only [receive, hr] at hstep ⊢
      rw [hconcerns]
      by_cases hk : k = target
      · subst hk
        rw [decide_eq_true rfl]
        exact (h.readdress (some d.source) (some d.source)).own hd hstep
      · rw [decide_eq_false hk]
        have hs := handleRequest_serves tunables
          { s with clientAddr := some d.source } d frag k payload
        split at hs
        · obtain ⟨u, hu, hserves⟩ := hs
          rw [hu] at hstep
          cases hstep
          obtain ⟨_, _, hclosed, hport⟩ := handleRequest_kept hu
          exact (h.readdress (some d.source) s'.clientAddr).other hd hi hk hserves hclosed hport
        · rw [hs] at hstep
          cases hstep

theorem run_projects {events : List RelayEvent} (ht : RelayEvent.timed now events)
    (h : Projects tunables target now s s')
    (hrun : Outcome.run (step F tunables) s events = .ok t) :
    ∃ t' now', Outcome.run (step F tunables) s' (events.filter (concerns F tunables target)) =
      .ok t' ∧ Projects tunables target now' t t' := by
  induction events generalizing now s s' with
  | nil =>
      cases hrun
      exact ⟨s', now, rfl, h⟩
  | cons event events ih =>
      by_cases hc : s.closed = true
      · rw [run_closed hc] at hrun
        cases hrun
        exact ⟨s', now, run_closed (h.closed.trans hc) _, h⟩
      · have hc' : ¬ s'.closed = true := by rw [h.closed]; exact hc
        obtain ⟨t₁, ht₁, hrest⟩ := Outcome.bind_eq_ok.mp hrun
        simp only [step, if_neg hc] at ht₁
        -- An event that concerns the target is taken in both runs.
        have htaken : ∀ {now₁ t₁'}, concerns F tunables target event = true →
            s'.step F tunables event = .ok t₁' → RelayEvent.timed now₁ events →
            Projects tunables target now₁ t₁ t₁' →
            ∃ t' now', Outcome.run (step F tunables) s'
              ((event :: events).filter (concerns F tunables target)) = .ok t' ∧
              Projects tunables target now' t t' := by
          intro now₁ t₁' hconcerns ht₁' htimed hp
          obtain ⟨t', now', ht', hp'⟩ := ih htimed hp hrest
          rw [List.filter_cons, if_pos hconcerns]
          exact ⟨t', now', Outcome.bind_eq_ok.mpr ⟨t₁', ht₁', ht'⟩, hp'⟩
        cases event with
        | tcpRead closed =>
            cases ht₁
            exact htaken rfl (if_neg hc') ht ⟨rfl, h.localPort, h.forwarded, h.buffer⟩
        | recvError =>
            cases ht₁
            exact htaken rfl (if_neg hc') ht h
        | fromTunnel remoteIp remotePort data sent =>
            cases ht₁
            refine htaken rfl (if_neg hc') ht ?_
            rw [respond_eq, respond_eq]
            exact ⟨h.closed, h.localPort, h.forwarded, h.buffer⟩
        | datagram d =>
            obtain ⟨hd, hi, htimed⟩ := ht
            have hp := receive_projects h hd hi ht₁
            split at hp
            · next hconcerns =>
                obtain ⟨t₁', ht₁', hp⟩ := hp
                exact htaken hconcerns ((if_neg hc').trans ht₁') htimed hp
            · next hconcerns =>
                rw [List.filter_cons, if_neg hconcerns]
                exact ih htimed hp hrest

def AllBounded (s : UdpForward) : Prop :=
  ∀ k, ∀ b ∈ s.fragBuffers.lookup k, b.Bounded

theorem fragBuffer_bounded (tunables : SocksTunables) {found : Option FragBuffer}
    (h : ∀ b ∈ found, b.Bounded) (now : Time) :
    (fragBuffer tunables found now).Bounded := by
  simp only [fragBuffer]
  split_ifs
  · exact FragBuffer.reset_bounded _ now
  · cases found with
    | none => exact FragBuffer.new_bounded now _
    | some b => exact h b rfl

theorem serve_ok (tunables : SocksTunables) {found : Option FragBuffer}
    (h : ∀ b ∈ found, b.Bounded) (d : RelayDatagram) (frag : UInt8) (payload : List UInt8) :
    ∃ out left, serve tunables found d frag payload = .ok (out, left) ∧ ∀ b ∈ left, b.Bounded := by
  simp only [serve]
  split_ifs
  · exact ⟨some payload, none, rfl, nofun⟩
  · exact ⟨none, found, rfl, h⟩
  · obtain ⟨assembled, b, hinsert, hb⟩ := FragBuffer.insert_ok
      (fragBuffer_bounded tunables h d.insertedAt) (frag &&& 0x7f)
      (frag &&& 0x80 ≠ 0) payload d.insertedAt
    rw [hinsert]
    cases assembled with
    | none => exact ⟨none, some b, rfl, fun b' hb' => Option.some.inj hb' ▸ hb⟩
    | some data => exact ⟨some data, none, rfl, nofun⟩

theorem kept_bounded (h : s.AllBounded) (d : RelayDatagram) (k : TargetAddr) :
    ∀ b ∈ s.kept tunables d k, b.Bounded :=
  fun b hb => h k b (Option.filter_eq_some_iff.mp hb).1

theorem step_ok (F : FastSocks) (tunables : SocksTunables) (h : s.AllBounded)
    (event : RelayEvent) :
    ∃ t, s.step F tunables event = .ok t ∧ t.AllBounded := by
  simp only [step]
  split
  · exact ⟨s, rfl, h⟩
  · cases event with
    | tcpRead closed => exact ⟨_, rfl, h⟩
    | recvError => exact ⟨s, rfl, h⟩
    | fromTunnel remoteIp remotePort data sent =>
        refine ⟨_, rfl, ?_⟩
        rw [respond_eq]
        exact h
    | datagram d =>
        simp only [receive]
        split
        · next frag target payload _ =>
            have h' : AllBounded { s with clientAddr := some d.source } := h
            have hs := handleRequest_serves tunables
              { s with clientAddr := some d.source } d frag target payload
            obtain ⟨out, left, hserve, hleft⟩ :=
              serve_ok tunables (kept_bounded h' d target) d frag payload
            rw [hserve] at hs
            obtain ⟨t, ht, hserves⟩ := hs
            refine ⟨t, ht, fun k b hb => ?_⟩
            rw [hserves.lookup] at hb
            split_ifs at hb
            · exact hleft b hb
            · exact kept_bounded h' d k b hb
        · exact ⟨_, rfl, h⟩

theorem init_bounded (localPort : UInt16) : (init localPort).AllBounded :=
  fun _ _ => nofun

theorem run_ok (F : FastSocks) (tunables : SocksTunables) (h : s.AllBounded)
    (events : List RelayEvent) :
    ∃ t, Outcome.run (step F tunables) s events = .ok t := by
  induction events generalizing s with
  | nil => exact ⟨s, rfl⟩
  | cons event events ih =>
      obtain ⟨t₁, ht₁, hb⟩ := step_ok F tunables h event
      obtain ⟨t, ht⟩ := ih hb
      exact ⟨t, Outcome.bind_eq_ok.mpr ⟨t₁, ht₁, ht⟩⟩

end UdpForward

end Usque
