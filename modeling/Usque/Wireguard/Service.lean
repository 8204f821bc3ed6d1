import Usque.Wireguard.Runs

namespace Usque

-- The last packet that the Tunn had queued has been taken.
def Gotatun.Drained (G : Gotatun) (now : Time) (tunn : G.Tunn) : Prop :=
  ∃ tunn', G.nextQueuedPacket now tunn' = (none, tunn)

namespace WgTunnel

variable {G : Gotatun} {t t' : WgTunnel G} {now : Time}

theorem forQueued_drained {give : WgTunnel G → G.WgKind → WgTunnel G}
    (hgive : ∀ t wg, (give t wg).tunn = t.tunn) {fuel : Nat}
    (hfuel : G.queuedPackets t.tunn < fuel) :
    G.Drained now (forQueued now give fuel t).tunn := by
  induction fuel generalizing t with
  | zero => exact absurd hfuel (Nat.not_lt_zero _)
  | succ fuel ih =>
      simp only [forQueued]
      cases hnext : G.nextQueuedPacket now t.tunn with
      | mk wg tunn =>
          cases wg with
          | none => exact ⟨t.tunn, hnext⟩
          | some wg =>
              have hlt := G.nextQueued_lt _ _ _ _ hnext
              refine ih ?_
              rw [hgive]
              exact Nat.lt_of_lt_of_le hlt (Nat.le_of_lt_succ hfuel)

theorem drainQueued_drained (t : WgTunnel G) (now : Time) :
    G.Drained now (t.drainQueued now).tunn := by
  have hgive : ∀ (t : WgTunnel G) (wg : G.WgKind), (t.prepareAndQueue wg).tunn = t.tunn :=
    fun _ _ => rfl
  exact forQueued_drained hgive (Nat.lt_succ_self _)

theorem flushSendQueue_drained (t : WgTunnel G) (now : Time) :
    G.Drained now (t.flushSendQueue now).2.tunn :=
  t.drainQueued_drained now

theorem flushTransportSideEffects_drained (t : WgTunnel G) (now : Time) :
    G.Drained now (t.flushTransportSideEffects now).tunn := by
  simp only [flushTransportSideEffects]
  split
  · exact flushSendQueue_drained _ now
  · exact t.drainQueued_drained now

theorem encryptIpPacket_ok (t : WgTunnel G) (now : Time) (ipData : Packet) :
    (∃ t', t.encryptIpPacket now ipData = .ok t') ↔ ipData.length ≤ G.pooledLen := by
  have hlen : ((List.replicate G.pooledLen (0 : UInt8)).take ipData.length).length =
      min ipData.length G.pooledLen := by
    rw [List.length_take, List.length_replicate]
  simp only [encryptIpPacket, copyFromSlice, hlen]
  split
  · next hcopy =>
      refine ⟨fun _ => by omega, fun _ => ?_⟩
      simp only [Outcome.ok_bind]
      split <;> exact ⟨_, rfl⟩
  · next hcopy =>
      constructor
      · rintro ⟨_, h⟩
        cases h
      · exact fun hle => absurd (by omega) hcopy

theorem encryptPackets_ok (t : WgTunnel G) (now : Time) (packets : List Packet) :
    (∃ t', t.encryptPackets now packets = .ok t') ↔ ∀ p ∈ packets, p.length ≤ G.pooledLen := by
  induction packets generalizing t with
  | nil => exact ⟨fun _ _ hp => absurd hp List.not_mem_nil, fun _ => ⟨t, rfl⟩⟩
  | cons p packets ih =>
      rw [List.forall_mem_cons, ← encryptIpPacket_ok t now p]
      simp only [encryptPackets, Outcome.run]
      constructor
      · rintro ⟨t', h⟩
        obtain ⟨u, hu, h⟩ := Outcome.bind_eq_ok.mp h
        exact ⟨⟨u, hu⟩, (ih u).mp ⟨t', h⟩⟩
      · rintro ⟨⟨u, hu⟩, hrest⟩
        obtain ⟨t', h⟩ := (ih u).mpr hrest
        exact ⟨t', Outcome.bind_eq_ok.mpr ⟨u, hu, h⟩⟩

theorem drainStackPackets_ok (t : WgTunnel G) (now : Time) (packets : List Packet) :
    (∃ t', t.drainStackPackets now packets = .ok t') ↔
      ∀ p ∈ packets, p.length ≤ G.pooledLen := by
  rw [← encryptPackets_ok t now packets]
  constructor
  · rintro ⟨t', h⟩
    obtain ⟨u, hu, _⟩ := Outcome.bind_eq_ok.mp h
    exact ⟨u, hu⟩
  · rintro ⟨u, hu⟩
    exact ⟨_, Outcome.bind_eq_ok.mpr ⟨u, hu, rfl⟩⟩

theorem drainStackPackets_drained {packets : List Packet} (hne : packets ≠ [])
    (h : t.drainStackPackets now packets = .ok t') : G.Drained now t'.tunn := by
  obtain ⟨u, hu, h⟩ := Outcome.bind_eq_ok.mp h
  rw [if_pos (.inl (List.length_pos_iff.mpr hne))] at h
  cases h
  exact u.flushSendQueue_drained now

end WgTunnel

namespace WgSystem

variable {S : Smoltcp} {G : Gotatun} {H : Hickory} {w w' : WgSystem S G} {l : WgLabel G}
  {params : ConnectionParams} {wg : WgParams}

-- The packets that the loop is about to encrypt fit in the pooled packets.
def Fits (w : WgSystem S G) (l : WgLabel G) : Prop :=
  match l with
  | .transmit => ∀ p ∈ w.stackPackets, p.length ≤ G.pooledLen
  | _ => True

theorem step_panicked (hfits : w.Fits l) (h : w.step H l = some w') :
    w'.panicked = w.panicked := by
  cases step_cases h with
  | system _ _ | serve _ _ _ | outcomes _ | establish _ _ _ => rfl
  | @panic t fault _ _ hfault _ =>
      obtain ⟨t', hok⟩ := (t.drainStackPackets_ok w.now w.stackPackets).mpr hfits
      rw [hok] at hfault
      cases hfault

theorem step_of_panicked (hp : w.panicked = true) (h : w.step H l = some w') :
    w'.panicked = true := by
  cases step_cases h with
  | system _ _ | serve _ _ _ | outcomes _ | establish _ _ _ => exact hp
  | panic _ _ _ => rfl

theorem step_panics (hfits : ¬w.Fits l) (h : w.step H l = some w') : w'.panicked = true := by
  cases l with
  | transmit =>
      cases ht : w.tunnel with
      | none =>
          simp only [step, ht] at h
          cases h
      | some t =>
          simp only [step, ht, tunnelStep] at h
          split at h
          · cases h
          · simp only [transmitStep] at h
            split at h
            · next t' hdrain => exact absurd ((t.drainStackPackets_ok _ _).mp ⟨t', hdrain⟩) hfits
            · obtain ⟨_, _, rfl⟩ := Option.map_eq_some_iff.mp h
              rfl
  | system _ | outcomes _ | establish _ _ _ _ _ | checkAlive | incoming | maintenance | pollTimer
  | refresh => exact absurd trivial hfits

theorem exec_of_panicked {ls : List (WgLabel G)} (hp : w.panicked = true)
    (h : Run.exec (step H) w ls = some w') : w'.panicked = true :=
  Run.Reaches.invariant (I := fun w => w.panicked = true)
    (fun _ _ _ hp _ hstep => step_of_panicked hp hstep) (Run.exec_reaches h) hp

theorem exec_survives {ls : List (WgLabel G)} (hp : w.panicked = false)
    (h : Run.exec (step H) w ls = some w') :
    w'.panicked = false ↔ Run.Guarded (step H) Fits w ls := by
  induction ls generalizing w with
  | nil =>
      cases h
      exact ⟨fun _ => trivial, fun _ => hp⟩
  | cons l ls ih =>
      obtain ⟨u, hu, h⟩ := Option.bind_eq_some_iff.mp h
      have hguard : Run.Guarded (step H) Fits w (l :: ls) ↔
          w.Fits l ∧ Run.Guarded (step H) Fits u ls :=
        and_congr_right fun _ => ⟨fun hg => hg u hu, fun hg v hv => by
          rw [hu] at hv
          cases hv
          exact hg⟩
      rw [hguard]
      by_cases hfits : w.Fits l
      · rw [ih ((step_panicked hfits hu).trans hp) h]
        exact (and_iff_right hfits).symm
      · have hpanicked := exec_of_panicked (step_panics hfits hu) h
        rw [hpanicked]
        exact ⟨fun hf => absurd hf (by decide), fun hg => absurd hg.1 hfits⟩

-- The manager panics in the encryption exactly when it takes a packet from the stack that does not
-- fit in a pooled packet.
theorem survives_iff {ls : List (WgLabel G)}
    (h : Run.exec (step H) (init S G params wg) ls = some w) :
    w.panicked = false ↔ Run.Guarded (step H) Fits (init S G params wg) ls :=
  exec_survives rfl h

theorem survives_iff_connecting :
    ∃ w : WgScript.Reached, w.panicked = false ∧
      Run.Guarded (step Script.hickory) Fits
        (init Reference.smoltcp Reference.gotatun Script.params WgScript.wgParams)
        (WgScript.establish ++ WgScript.connect) := by
  have h : (WgScript.run (WgScript.establish ++ WgScript.connect)).any (fun w =>
      w.panicked = false) = true := by decide +kernel
  obtain ⟨w, hw, hp⟩ := (Option.any_eq_true _ _).mp h
  exact ⟨w, of_decide_eq_true hp, (survives_iff hw).mp (of_decide_eq_true hp)⟩

theorem maintenance_connected {s t : System S} (h : s.managerStep H .maintenance = some t) :
    t.connected = true := by
  obtain ⟨schedule, hpc⟩ := System.maintenance_pc h
  simp only [System.managerStep, hpc, System.selectStep] at h
  split at h <;> cases h
  rfl

theorem step_maintenance (h : w.step H .maintenance = some w') :
    ∃ t, w.tunnel = some t ∧ (∃ schedule, w.sys.pc = .select schedule) ∧
      w'.tunnel = some (t.maintain w.now) := by
  cases ht : w.tunnel with
  | none =>
      simp only [step, ht] at h
      cases h
  | some t =>
      simp only [step, ht, tunnelStep] at h
      split at h
      · cases h
      · obtain ⟨sys, hstep, rfl⟩ := advance_eq h
        exact ⟨t, rfl, System.maintenance_pc hstep, if_pos (maintenance_connected hstep)⟩

-- A tick of the timers leaves nothing behind: the Tunn has no packet queued, the send queue is
-- empty, and all that the Tunn ever gave out has been offered to the socket.
theorem Reachable.maintained (h : Reachable H params wg w)
    (hstep : w.step H .maintenance = some w') :
    ∃ t, w'.tunnel = some t ∧ G.Drained w.now t.tunn ∧ t.sendQueue = [] ∧
      t.socket.offered.map Prod.fst =
        t.emitted.map (fun kind => withClientId wg.clientId (G.intoPacket kind)) := by
  obtain ⟨hw, rfl⟩ := h.sound
  obtain ⟨t, ht, ⟨schedule, hpc⟩, hnext⟩ := step_maintenance hstep
  have hf := (hw.flushedAt ht (by rw [hpc]; rfl)).maintain w.now
  refine ⟨_, hnext, WgTunnel.flushTransportSideEffects_drained _ _, hf.empty, ?_⟩
  have hwire := hf.wire
  rwa [hf.empty, List.append_nil, WgTunnel.wire, hf.clientId] at hwire

theorem maintained_connecting :
    ∃ (w w' : WgScript.Reached) (t : WgTunnel Reference.gotatun),
      w.step Script.hickory .maintenance = some w' ∧ w'.tunnel = some t ∧ t.sendQueue = [] ∧
        Reference.gotatun.Drained w.now t.tunn := by
  have h : (WgScript.run (WgScript.establish ++ WgScript.connect ++ WgScript.due)).any (fun w =>
      (w.step Script.hickory .maintenance).isSome) = true := by decide +kernel
  obtain ⟨w, hw, hp⟩ := WgScript.exists_reachable h
  obtain ⟨w', hstep⟩ := Option.isSome_iff_exists.mp hp
  obtain ⟨t, ht, hdrained, hempty, _⟩ := hw.maintained hstep
  exact ⟨w, w', t, hstep, ht, hempty, hdrained⟩

end WgSystem

end Usque
