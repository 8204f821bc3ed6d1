import Usque.Socks.Race

namespace Usque

namespace RacePc

def address : RacePc → Option IpAddress
  | .connectingFirst ip | .connecting ip => some ip
  | _ => none

def winner : RacePc → Option SocketHandle
  | .closingLosers winner | .ended (.winner winner) => some winner
  | _ => none

-- The race still looks for a winner, or it has found that there is none.
def searching : RacePc → Bool
  | .closingLosers _ | .cleanup | .ended (.winner _) | .ended .timedOut => false
  | _ => true

-- Each pending connection has a task that waits for it.
def watches : RacePc → Bool
  | .head | .select _ | .connecting _ | .closingFailed _ _ => true
  | _ => false

def outcome : RacePc → Option RaceOutcome
  | .ended outcome => some outcome
  | _ => none

end RacePc

namespace Race

variable {all : List IpAddress} {s t : Race} {handle : SocketHandle}

def settled (s : Race) (handle : SocketHandle) : Prop := handle ∈ s.closed ∨ handle ∈ s.dropped

-- One attempt for each address that is gone, in the order of the addresses.
structure Attempted (all : List IpAddress) (s : Race) : Prop where
  order : s.pc.searching = true →
    s.attempts.map Prod.fst ++ s.pc.address.toList ++ s.addrIter = all
  started : ∀ a ∈ s.attempts, ∀ h ∈ a.2, h ∈ s.started

structure Accounted (s : Race) : Prop where
  pending : ∀ h ∈ s.pending, h ∈ s.started
  distinct : s.pending.Nodup
  held : ∀ h ∈ s.started, h ∈ s.pending ∨ s.pc.winner = some h ∨ s.settled h
  lost : s.pc.searching = true → ∀ h ∈ s.started, h ∈ s.pending ∨ (h, .closed) ∈ s.reported
  winner : ∀ h ∈ s.pc.winner, h ∈ s.started ∧ (h, .established) ∈ s.reported
  ended : s.pc.outcome.isSome = true → s.pending = []
  failed : ∀ e, s.pc = .ended (.failed e) → s.addrIter = []

structure Watched (s : Race) : Prop where
  reported : ∀ r ∈ s.ready, r ∈ s.reported
  final : ∀ r ∈ s.ready, r.2 ≠ .connecting
  waits : s.pc.watches = true → ∀ h ∈ s.pending, h ∈ s.waiting ∨ h ∈ s.ready.map Prod.fst
  enabled : ∀ more, s.pc = .select more →
    (more = true ↔ s.addrIter ≠ []) ∧ (s.pending ≠ [] ∨ s.addrIter ≠ [])

theorem new_attempted (all : List IpAddress) : Attempted all (new all) := ⟨fun _ => rfl, nofun⟩

theorem new_accounted (all : List IpAddress) : Accounted (new all) :=
  ⟨nofun, .nil, nofun, fun _ => nofun, nofun, nofun, nofun⟩

theorem new_watched (all : List IpAddress) : Watched (new all) := ⟨nofun, nofun, nofun, nofun⟩

-- An attempt ends: its address has its result.
theorem Attempted.finish (h : Attempted all s) {ip : IpAddress} (hpc : s.pc.address = some ip)
    (hsearch : s.pc.searching = true)
    {result : Option SocketHandle} (hattempts : t.attempts = s.attempts ++ [(ip, result)])
    (haddr : t.addrIter = s.addrIter) (hpc' : t.pc.address = none)
    (hstarted : t.started = s.started ++ result.toList) : Attempted all t := by
  have horder := h.order hsearch
  rw [hpc] at horder
  refine ⟨fun _ => ?_, fun a ha k hk => ?_⟩
  · rw [hattempts, haddr, hpc', List.map_append]
    simpa using horder
  · rw [hattempts] at ha
    rw [hstarted]
    rcases List.mem_append.mp ha with ha | ha
    · exact List.mem_append_left _ (h.started a ha k hk)
    · rw [List.mem_singleton.mp ha] at hk
      exact List.mem_append_right _ (by simpa [Option.mem_toList] using hk)

theorem Attempted.keep (h : Attempted all s) (hattempts : t.attempts = s.attempts)
    (haddr : t.addrIter = s.addrIter)
    (hpc : t.pc.searching = true → s.pc.searching = true ∧ t.pc.address = s.pc.address)
    (hstarted : ∀ k ∈ s.started, k ∈ t.started) : Attempted all t := by
  refine ⟨fun hs => ?_, fun a ha k hk => ?_⟩
  · obtain ⟨hs', he⟩ := hpc hs
    rw [hattempts, haddr, he]
    exact h.order hs'
  · rw [hattempts] at ha
    exact hstarted k (h.started a ha k hk)

-- A step that leaves the connections as they are.
theorem Accounted.keep (h : Accounted s) (hpending : t.pending = s.pending)
    (hstarted : t.started = s.started) (hsettled : ∀ k, s.settled k → t.settled k)
    (hreported : ∀ r ∈ s.reported, r ∈ t.reported) (hwinner : t.pc.winner = s.pc.winner)
    (hsearch : t.pc.searching = true → s.pc.searching = true)
    (hended : t.pc.outcome.isSome = true → t.pending = [])
    (hfailed : ∀ e, t.pc = .ended (.failed e) → t.addrIter = []) : Accounted t where
  pending := fun k hk => by
    rw [hstarted]
    exact h.pending k (hpending ▸ hk)
  distinct := hpending ▸ h.distinct
  held := fun k hk => by
    rw [hpending, hwinner]
    rcases h.held k (hstarted ▸ hk) with hp | hw | hs
    · exact .inl hp
    · exact .inr (.inl hw)
    · exact .inr (.inr (hsettled k hs))
  lost := fun hs k hk => by
    rw [hpending]
    rcases h.lost (hsearch hs) k (hstarted ▸ hk) with hp | hr
    · exact .inl hp
    · exact .inr (hreported _ hr)
  winner := fun k hk => by
    obtain ⟨hs, hr⟩ := h.winner k (hwinner ▸ hk)
    exact ⟨hstarted ▸ hs, hreported _ hr⟩
  ended := hended
  failed := hfailed

-- From one point of the search to another, before there is a winner.
theorem Accounted.move (h : Accounted s) (hpending : t.pending = s.pending)
    (hstarted : t.started = s.started) (hsettled : ∀ k, s.settled k → t.settled k)
    (hreported : t.reported = s.reported)
    (hfrom : s.pc.searching = true ∧ s.pc.winner = none) (hwinner : t.pc.winner = none)
    (hended : t.pc.outcome = none) : Accounted t := by
  refine h.keep hpending hstarted hsettled (fun r hr => hreported ▸ hr)
    (hwinner.trans hfrom.2.symm) (fun _ => hfrom.1) (fun he => ?_) (fun e he => ?_)
  · rw [hended] at he
    cases he
  · rw [he] at hended
    cases hended

theorem Watched.keep (h : Watched s) (hready : t.ready = s.ready)
    (hreported : ∀ r ∈ s.reported, r ∈ t.reported)
    (hwaits : t.pc.watches = true →
      ∀ k ∈ t.pending, k ∈ t.waiting ∨ k ∈ t.ready.map Prod.fst)
    (henabled : ∀ more, t.pc = .select more →
      (more = true ↔ t.addrIter ≠ []) ∧ (t.pending ≠ [] ∨ t.addrIter ≠ [])) : Watched t where
  reported := fun r hr => hreported r (h.reported r (hready ▸ hr))
  final := fun r hr => h.final r (hready ▸ hr)
  waits := hwaits
  enabled := henabled

structure Sound (all : List IpAddress) (s : Race) : Prop where
  attempted : Attempted all s
  accounted : Accounted s
  watched : Watched s

theorem new_sound (all : List IpAddress) : Sound all (new all) :=
  ⟨new_attempted all, new_accounted all, new_watched all⟩

theorem advance_sound (h : Sound all s) (hstep : s.advance = some t) : Sound all t := by
  obtain ⟨ha, hc, hw⟩ := h
  have hwaits := hw.waits
  simp only [advance] at hstep
  split at hstep
  · next hpc =>
      have horder := ha.order (by rw [hpc]; rfl)
      rw [hpc] at horder
      split at hstep
      · next ip addrIter haddr =>
          cases hstep
          rw [haddr] at horder
          refine ⟨⟨fun _ => by simpa [RacePc.address] using horder, ha.started⟩, ?_, ?_⟩
          · exact hc.move rfl rfl (fun _ hs => hs) rfl (by rw [hpc]; exact ⟨rfl, rfl⟩) rfl rfl
          · exact hw.keep rfl (fun _ hr => hr) nofun nofun
      · next haddr =>
          cases hstep
          refine ⟨⟨fun _ => horder, ha.started⟩, ?_, ?_⟩
          · exact hc.move rfl rfl (fun _ hs => hs) rfl (by rw [hpc]; exact ⟨rfl, rfl⟩) rfl rfl
          · exact hw.keep rfl (fun _ hr => hr) nofun nofun
  · next hpc =>
      cases hstep
      refine ⟨ha.keep rfl rfl (fun _ => by rw [hpc]; exact ⟨rfl, rfl⟩) (fun _ hk => hk), ?_, ?_⟩
      · exact hc.move rfl rfl (fun _ hs => hs) rfl (by rw [hpc]; exact ⟨rfl, rfl⟩) rfl rfl
      · exact hw.keep rfl (fun _ hr => hr) (fun _ _ hk => .inl hk) nofun
  · next hpc =>
      split at hstep
      · next hnone =>
          rw [Bool.and_eq_true, List.isEmpty_iff, List.isEmpty_iff] at hnone
          cases hstep
          refine ⟨ha.keep rfl rfl (fun _ => by rw [hpc]; exact ⟨rfl, rfl⟩) (fun _ hk => hk), ?_, ?_⟩
          · exact hc.keep rfl rfl (fun _ hs => hs) (fun _ hr => hr) (by rw [hpc]; rfl)
              (fun _ => by rw [hpc]; rfl) (fun _ => hnone.1) (fun _ _ => hnone.2)
          · exact hw.keep rfl (fun _ hr => hr) nofun nofun
      · next hsome =>
          cases hstep
          refine ⟨ha.keep rfl rfl (fun _ => by rw [hpc]; exact ⟨rfl, rfl⟩) (fun _ hk => hk), ?_, ?_⟩
          · exact hc.move rfl rfl (fun _ hs => hs) rfl (by rw [hpc]; exact ⟨rfl, rfl⟩) rfl rfl
          · refine hw.keep rfl (fun _ hr => hr) (fun _ => hwaits (by rw [hpc]; rfl)) ?_
            intro more hmore
            cases hmore
            rw [Bool.and_eq_true, List.isEmpty_iff, List.isEmpty_iff] at hsome
            refine ⟨by simp, ?_⟩
            by_cases hp : s.pending = []
            · exact .inr (fun hnone => hsome ⟨hp, hnone⟩)
            · exact .inl hp
  · next winner hpc =>
      split at hstep
      · next hnone =>
          cases hstep
          refine ⟨ha.keep rfl rfl nofun (fun _ hk => hk), ?_, ?_⟩
          · exact hc.keep rfl rfl (fun _ hs => hs) (fun _ hr => hr) (by rw [hpc]; rfl)
              nofun (fun _ => List.isEmpty_iff.mp hnone) nofun
          · exact hw.keep rfl (fun _ hr => hr) nofun nofun
      · cases hstep
  · next hpc =>
      split at hstep
      · next hnone =>
          cases hstep
          refine ⟨ha.keep rfl rfl nofun (fun _ hk => hk), ?_, ?_⟩
          · exact hc.keep rfl rfl (fun _ hs => hs) (fun _ hr => hr) (by rw [hpc]; rfl)
              nofun (fun _ => List.isEmpty_iff.mp hnone) nofun
          · exact hw.keep rfl (fun _ hr => hr) nofun nofun
      · cases hstep
  · cases hstep

-- A new connection is pending.
theorem Accounted.join (h : Accounted s) (hnew : handle ∉ s.started)
    (hpending : t.pending = s.pending ++ [handle]) (hstarted : t.started = s.started ++ [handle])
    (hsettled : ∀ k, s.settled k → t.settled k) (hreported : t.reported = s.reported)
    (hsearch : s.pc.searching = true) (hwinner : s.pc.winner = none) (hwinner' : t.pc.winner = none)
    (hended : t.pc.outcome = none) : Accounted t where
  pending := fun k hk => by
    rw [hstarted]
    rcases List.mem_append.mp (hpending ▸ hk) with hk | hk
    · exact List.mem_append_left _ (h.pending k hk)
    · exact List.mem_append_right _ hk
  distinct := by
    rw [hpending]
    refine List.nodup_append.mpr ⟨h.distinct, List.nodup_singleton _, fun a ha b hb he => ?_⟩
    rw [List.mem_singleton.mp hb] at he
    exact hnew (he ▸ h.pending a ha)
  held := fun k hk => by
    rw [hpending]
    rcases List.mem_append.mp (hstarted ▸ hk) with hk | hk
    · rcases h.held k hk with hp | hw | hs
      · exact .inl (List.mem_append_left _ hp)
      · rw [hwinner] at hw
        cases hw
      · exact .inr (.inr (hsettled k hs))
    · exact .inl (List.mem_append_right _ hk)
  lost := fun _ k hk => by
    rw [hpending, hreported]
    rcases List.mem_append.mp (hstarted ▸ hk) with hk | hk
    · rcases h.lost hsearch k hk with hp | hr
      · exact .inl (List.mem_append_left _ hp)
      · exact .inr hr
    · exact .inl (List.mem_append_right _ hk)
  winner := fun k hk => by
    rw [hwinner'] at hk
    cases hk
  ended := fun he => by
    rw [hended] at he
    cases he
  failed := fun e he => by
    rw [he] at hended
    cases hended

theorem connected_sound (h : Sound all s) (hnew : handle ∉ s.started)
    (hstep : s.connected handle = some t) : Sound all t := by
  obtain ⟨ha, hc, hw⟩ := h
  have hwaits := hw.waits
  simp only [connected] at hstep
  split at hstep
  · next ip hpc =>
      cases hstep
      refine ⟨ha.finish (by rw [hpc]; rfl) (by rw [hpc]; rfl) rfl rfl rfl rfl, ?_, ?_⟩
      · exact hc.join hnew rfl rfl (fun _ hs => hs) rfl (by rw [hpc]; rfl) (by rw [hpc]; rfl) rfl rfl
      · exact hw.keep rfl (fun _ hr => hr) nofun nofun
  · next ip hpc =>
      cases hstep
      refine ⟨ha.finish (by rw [hpc]; rfl) (by rw [hpc]; rfl) rfl rfl rfl rfl, ?_, ?_⟩
      · exact hc.join hnew rfl rfl (fun _ hs => hs) rfl (by rw [hpc]; rfl) (by rw [hpc]; rfl) rfl rfl
      · refine hw.keep rfl (fun _ hr => hr) (fun _ k hk => ?_) nofun
        rcases List.mem_append.mp hk with hk | hk
        · rcases hwaits (by rw [hpc]; rfl) k hk with hwait | hready
          · exact .inl (List.mem_append_left _ hwait)
          · exact .inr hready
        · exact .inl (List.mem_append_right _ hk)
  · cases hstep

theorem refused_sound (h : Sound all s) {e : ManagerError} (hstep : s.refused e = some t) :
    Sound all t := by
  obtain ⟨ha, hc, hw⟩ := h
  have hwaits := hw.waits
  simp only [refused] at hstep
  split at hstep
  · next ip hpc =>
      cases hstep
      refine ⟨ha.finish (by rw [hpc]; rfl) (by rw [hpc]; rfl) rfl rfl rfl
        (List.append_nil _).symm, ?_, ?_⟩
      · exact hc.move rfl rfl (fun _ hs => hs) rfl (by rw [hpc]; exact ⟨rfl, rfl⟩) rfl rfl
      · exact hw.keep rfl (fun _ hr => hr) nofun nofun
  · next ip hpc =>
      cases hstep
      refine ⟨ha.finish (by rw [hpc]; rfl) (by rw [hpc]; rfl) rfl rfl rfl
        (List.append_nil _).symm, ?_, ?_⟩
      · exact hc.move rfl rfl (fun _ hs => hs) rfl (by rw [hpc]; exact ⟨rfl, rfl⟩) rfl rfl
      · exact hw.keep rfl (fun _ hr => hr) (fun _ => hwaits (by rw [hpc]; rfl)) nofun
  · cases hstep

theorem report_sound (h : Sound all s) {state : TcpSocketState} (hstate : state ≠ .connecting)
    (hstep : s.report handle state = some t) : Sound all t := by
  obtain ⟨ha, hc, hw⟩ := h
  simp only [report] at hstep
  split at hstep
  · cases hstep
    refine ⟨ha.keep rfl rfl (fun hs => ⟨hs, rfl⟩) (fun _ hk => hk), ?_, ?_⟩
    · exact hc.keep rfl rfl (fun _ hs => hs) (fun _ hr => List.mem_append_left _ hr) rfl
        (fun hs => hs) hc.ended hc.failed
    · refine ⟨fun r hr => ?_, fun r hr => ?_, fun hwatch k hk => ?_, hw.enabled⟩
      · rcases List.mem_append.mp hr with hr | hr
        · exact List.mem_append_left _ (hw.reported r hr)
        · exact List.mem_append_right _ hr
      · rcases List.mem_append.mp hr with hr | hr
        · exact hw.final r hr
        · rw [List.mem_singleton.mp hr]
          exact hstate
      · dsimp only
        rw [List.map_append]
        rcases hw.waits hwatch k hk with hwait | hready
        · by_cases he : k = handle
          · exact .inr (List.mem_append_right _ (by simp [he]))
          · exact .inl ((List.mem_erase_of_ne he).mpr hwait)
        · exact .inr (List.mem_append_left _ hready)
  · cases hstep

theorem elapse_sound (h : Sound all s) : Sound all { s with nextAttempt := true } := by
  obtain ⟨ha, hc, hw⟩ := h
  exact ⟨ha.keep rfl rfl (fun hs => ⟨hs, rfl⟩) (fun _ hk => hk),
    hc.keep rfl rfl (fun _ hs => hs) (fun _ hr => hr) rfl (fun hs => hs) hc.ended hc.failed,
    hw.keep rfl (fun _ hr => hr) hw.waits hw.enabled⟩

theorem attempt_sound (h : Sound all s) (hstep : s.attempt = some t) : Sound all t := by
  obtain ⟨ha, hc, hw⟩ := h
  have hwaits := hw.waits
  simp only [attempt] at hstep
  split at hstep
  · next hpc hready =>
      have horder := ha.order (by rw [hpc]; rfl)
      rw [hpc] at horder
      split at hstep
      · split at hstep
        · next ip addrIter haddr =>
            cases hstep
            rw [haddr] at horder
            refine ⟨⟨fun _ => by simpa [RacePc.address] using horder, ha.started⟩, ?_, ?_⟩
            · exact hc.move rfl rfl (fun _ hs => hs) rfl (by rw [hpc]; exact ⟨rfl, rfl⟩) rfl rfl
            · exact hw.keep rfl (fun _ hr => hr) (fun _ => hwaits (by rw [hpc]; rfl)) nofun
        · next haddr =>
            cases hstep
            refine ⟨ha.keep rfl rfl (fun _ => by rw [hpc]; exact ⟨rfl, rfl⟩) (fun _ hk => hk), ?_, ?_⟩
            · exact hc.move rfl rfl (fun _ hs => hs) rfl (by rw [hpc]; exact ⟨rfl, rfl⟩) rfl rfl
            · exact hw.keep rfl (fun _ hr => hr) (fun _ => hwaits (by rw [hpc]; rfl)) nofun
      · cases hstep
  · cases hstep

-- A notification is taken from the channel.
theorem Watched.take (h : Watched s) {state : TcpSocketState}
    {ready : List (SocketHandle × TcpSocketState)} (hready : s.ready = (handle, state) :: ready)
    (ht : t.ready = ready) (hreported : t.reported = s.reported) (hwaiting : t.waiting = s.waiting)
    (hwatch : s.pc.watches = true) (hpending : ∀ k ∈ t.pending, k ∈ s.pending ∧ k ≠ handle)
    (henabled : ∀ more, t.pc ≠ .select more) : Watched t where
  reported := fun r hr => by
    rw [hreported]
    exact h.reported r (by rw [hready]; exact List.mem_cons_of_mem _ (ht ▸ hr))
  final := fun r hr => h.final r (by rw [hready]; exact List.mem_cons_of_mem _ (ht ▸ hr))
  waits := fun _ k hk => by
    obtain ⟨hp, hne⟩ := hpending k hk
    rw [hwaiting, ht]
    rcases h.waits hwatch k hp with hwait | hsent
    · exact .inl hwait
    · rw [hready, List.map_cons, List.mem_cons] at hsent
      rcases hsent with rfl | hsent
      · exact absurd rfl hne
      · exact .inr hsent
  enabled := fun more hmore => absurd hmore (henabled more)

-- A connection is removed from the pending ones.
theorem Accounted.erase (h : Accounted s) (hstarted : t.started = s.started)
    (hpending : t.pending = s.pending.erase handle) (hsettled : ∀ k, s.settled k → t.settled k)
    (hreported : t.reported = s.reported) (hwinner : s.pc.winner = none)
    (hheld : t.pc.winner = some handle ∨ t.settled handle)
    (hlost : t.pc.searching = true → s.pc.searching = true ∧ (handle, .closed) ∈ s.reported)
    (hwon : ∀ k ∈ t.pc.winner, k ∈ s.started ∧ (k, .established) ∈ s.reported)
    (hended : t.pc.outcome = none) : Accounted t where
  pending := fun k hk => by
    rw [hstarted]
    exact h.pending k (List.mem_of_mem_erase (hpending ▸ hk))
  distinct := hpending ▸ h.distinct.erase handle
  held := fun k hk => by
    rw [hpending]
    by_cases he : k = handle
    · rw [he]
      exact .inr hheld
    · rcases h.held k (hstarted ▸ hk) with hp | hw | hs
      · exact .inl ((List.mem_erase_of_ne he).mpr hp)
      · rw [hwinner] at hw
        cases hw
      · exact .inr (.inr (hsettled k hs))
  lost := fun hs k hk => by
    rw [hpending, hreported]
    by_cases he : k = handle
    · rw [he]
      exact .inr (hlost hs).2
    · rcases h.lost (hlost hs).1 k (hstarted ▸ hk) with hp | hr
      · exact .inl ((List.mem_erase_of_ne he).mpr hp)
      · exact .inr hr
  winner := fun k hk => by
    rw [hstarted, hreported]
    exact hwon k hk
  ended := fun he => by
    rw [hended] at he
    cases he
  failed := fun e he => by
    rw [he] at hended
    cases hended

theorem recv_sound (h : Sound all s) (hstep : s.recv = some t) : Sound all t := by
  obtain ⟨ha, hc, hw⟩ := h
  simp only [recv] at hstep
  split at hstep
  · next more handle state ready hpc hready =>
      have hmem : (handle, state) ∈ s.reported :=
        hw.reported _ (by rw [hready]; exact List.mem_cons_self ..)
      have hwatch : s.pc.watches = true := by
        rw [hpc]
        rfl
      have hwinner : s.pc.winner = none := by
        rw [hpc]
        rfl
      have herase : ∀ k ∈ s.pending.erase handle, k ∈ s.pending ∧ k ≠ handle := fun k hk =>
        ⟨List.mem_of_mem_erase hk, fun he => hc.distinct.not_mem_erase (he ▸ hk)⟩
      have hhead : handle ∉ s.pending → Sound all { s with ready, pc := .head } := fun hnot =>
        ⟨ha.keep rfl rfl (fun _ => by rw [hpc]; exact ⟨rfl, rfl⟩) (fun _ hk => hk),
          hc.move rfl rfl (fun _ hs => hs) rfl (by rw [hpc]; exact ⟨rfl, rfl⟩) rfl rfl,
          hw.take hready rfl rfl rfl hwatch (fun k hk => ⟨hk, fun he => hnot (he ▸ hk)⟩) nofun⟩
      simp only [notified] at hstep
      split at hstep
      · split at hstep
        · next hpending =>
            cases hstep
            refine ⟨ha.keep rfl rfl (fun _ => by rw [hpc]; exact ⟨rfl, rfl⟩) (fun _ hk => hk), ?_, ?_⟩
            · exact hc.erase rfl rfl (fun _ hs => hs) rfl hwinner (.inl rfl) nofun
                (fun k hk => by cases hk; exact ⟨hc.pending _ hpending, hmem⟩) rfl
            · exact hw.take hready rfl rfl rfl hwatch herase nofun
        · next hpending =>
            cases hstep
            exact hhead hpending
      · split at hstep
        · next hpending =>
            cases hstep
            refine ⟨ha.keep rfl rfl (fun _ => by rw [hpc]; exact ⟨rfl, rfl⟩) (fun _ hk => hk), ?_, ?_⟩
            · refine hc.erase rfl rfl (fun k hs => ?_) rfl hwinner (.inr (.inr ?_))
                (fun _ => ⟨by rw [hpc]; rfl, hmem⟩) nofun rfl
              · rcases hs with hs | hs
                · exact .inl hs
                · exact .inr (List.mem_append_left _ hs)
              · exact List.mem_append_right _ (List.mem_singleton_self _)
            · exact hw.take hready rfl rfl rfl hwatch herase nofun
        · next hpending =>
            cases hstep
            exact hhead hpending
      · exact absurd rfl (hw.final _ (by rw [hready]; exact List.mem_cons_self ..))
  · cases hstep

-- The first of the pending connections is closed, once no winner is looked for any more.
theorem closeFirst_sound (h : Sound all s) {sent : Bool} (hsearch : s.pc.searching = false)
    (hended : s.pc.outcome = none) (hstep : s.closeFirst sent = some t) : Sound all t := by
  obtain ⟨ha, hc, hw⟩ := h
  have hwatches : s.pc.watches = false := by
    cases hpc : s.pc with
    | closingLosers _ | cleanup | ended _ => rfl
    | _ =>
        rw [hpc] at hsearch
        cases hsearch
  simp only [closeFirst] at hstep
  split at hstep
  · next first pending hpending =>
      cases hstep
      have hdistinct := hc.distinct
      have hold := hc.pending
      have hheld := hc.held
      rw [hpending] at hdistinct hold hheld
      have hsettled : ∀ k, s.settled k →
          k ∈ (if sent then s.closed ++ [first] else s.closed) ∨ k ∈ s.dropped ++ [first] := by
        intro k hs
        rcases hs with hs | hs
        · refine .inl ?_
          split_ifs
          · exact List.mem_append_left _ hs
          · exact hs
        · exact .inr (List.mem_append_left _ hs)
      refine ⟨ha.keep rfl rfl (fun hs => ⟨hs, rfl⟩) (fun _ hk => hk), ?_, ?_⟩
      · refine ⟨fun k hk => hold k (List.mem_cons_of_mem _ hk), (List.nodup_cons.mp hdistinct).2,
          fun k hk => ?_, fun hs => ?_, hc.winner, fun he => ?_, hc.failed⟩
        · rcases hheld k hk with hp | hwon | hs
          · rcases List.mem_cons.mp hp with rfl | hp
            · exact .inr (.inr (.inr (List.mem_append_right _ (List.mem_singleton_self _))))
            · exact .inl hp
          · exact .inr (.inl hwon)
          · exact .inr (.inr (hsettled k hs))
        · rw [hsearch] at hs
          cases hs
        · rw [hended] at he
          cases he
      · refine hw.keep rfl (fun _ hr => hr) (fun hwatch => ?_) (fun more hmore => ?_)
        · rw [hwatches] at hwatch
          cases hwatch
        · rw [show s.pc = .select more from hmore] at hwatches
          cases hwatches
  · cases hstep

theorem close_sound (h : Sound all s) {sent : Bool} (hstep : s.close sent = some t) :
    Sound all t := by
  simp only [close] at hstep
  split at hstep
  · next winner hpc => exact closeFirst_sound h (by rw [hpc]; rfl) (by rw [hpc]; rfl) hstep
  · next hpc => exact closeFirst_sound h (by rw [hpc]; rfl) (by rw [hpc]; rfl) hstep
  · next failed more hpc =>
      obtain ⟨ha, hc, hw⟩ := h
      have hwaits := hw.waits
      cases hstep
      refine ⟨ha.keep rfl rfl (fun _ => by rw [hpc]; exact ⟨rfl, rfl⟩) (fun _ hk => hk), ?_, ?_⟩
      · refine hc.keep rfl rfl (fun k hs => ?_) (fun _ hr => hr) (by rw [hpc]; rfl)
          (fun _ => by rw [hpc]; rfl) nofun nofun
        rcases hs with hs | hs
        · refine .inl ?_
          dsimp only
          split_ifs
          · exact List.mem_append_left _ hs
          · exact hs
        · exact .inr hs
      · exact hw.keep rfl (fun _ hr => hr) (fun _ => hwaits (by rw [hpc]; rfl)) nofun
  · cases hstep

theorem timeout_sound (h : Sound all s) {cutOff : Option SocketHandle}
    (hstep : s.timeout cutOff = some t) : Sound all t := by
  obtain ⟨ha, hc, hw⟩ := h
  simp only [timeout] at hstep
  have hstay : s.pc.winner = none → Sound all { s with pc := .cleanup } := fun hwinner =>
    ⟨ha.keep rfl rfl nofun (fun _ hk => hk),
      hc.keep rfl rfl (fun _ hs => hs) (fun _ hr => hr) hwinner.symm nofun nofun nofun,
      hw.keep rfl (fun _ hr => hr) nofun nofun⟩
  split at hstep
  · next hpc =>
      cases hstep
      exact hstay (by rw [hpc]; rfl)
  · next hpc =>
      cases hstep
      exact hstay (by rw [hpc]; rfl)
  · next ip hpc =>
      cases hstep
      refine ⟨ha.keep rfl rfl nofun (fun _ hk => List.mem_append_left _ hk), ?_,
        hw.keep rfl (fun _ hr => hr) nofun nofun⟩
      refine ⟨fun k hk => List.mem_append_left _ (hc.pending k hk), hc.distinct, fun k hk => ?_,
        nofun, nofun, nofun, nofun⟩
      rcases List.mem_append.mp hk with hk | hk
      · rcases hc.held k hk with hp | hwon | hs
        · exact .inl hp
        · rw [hpc] at hwon
          cases hwon
        · rcases hs with hs | hs
          · exact .inr (.inr (.inl hs))
          · exact .inr (.inr (.inr (List.mem_append_left _ hs)))
      · exact .inr (.inr (.inr (List.mem_append_right _ hk)))
  · next winner hpc =>
      cases hstep
      refine ⟨ha.keep rfl rfl nofun (fun _ hk => hk), ?_,
        hw.keep rfl (fun _ hr => hr) nofun nofun⟩
      refine ⟨nofun, .nil, fun k hk => ?_, nofun, nofun, nofun, nofun⟩
      rcases hc.held k hk with hp | hwon | hs
      · exact .inr (.inr (.inr (List.mem_append_right _ (List.mem_cons_of_mem _ hp))))
      · rw [hpc] at hwon
        cases hwon
        exact .inr (.inr (.inr (List.mem_append_right _ (List.mem_cons_self ..))))
      · rcases hs with hs | hs
        · exact .inr (.inr (.inl hs))
        · exact .inr (.inr (.inr (List.mem_append_left _ hs)))
  · cases hstep

theorem step_sound (h : Sound all s) {l : RaceLabel} (hg : s.managerAnswers l)
    (hstep : s.step l = some t) : Sound all t := by
  cases l with
  | advance => exact advance_sound h hstep
  | connected handle => exact connected_sound h hg hstep
  | refused e => exact refused_sound h hstep
  | report handle state => exact report_sound h hg hstep
  | recv => exact recv_sound h hstep
  | elapse =>
      cases hstep
      exact elapse_sound h
  | attempt => exact attempt_sound h hstep
  | close sent => exact close_sound h hstep
  | timeout cutOff => exact timeout_sound h hstep

-- What a race guarantees in every state that it can come to.
structure Fair (all : List IpAddress) (s : Race) : Prop where
  winner : ∀ handle, s.pc = .ended (.winner handle) →
    handle ∈ s.started ∧ (handle, .established) ∈ s.reported
  finished : ∀ outcome, s.pc = .ended outcome → s.pending = [] ∧
    ∀ handle ∈ s.started, outcome = .winner handle ∨ handle ∈ s.closed ∨ handle ∈ s.dropped
  exhausted : ∀ e, s.pc = .ended (.failed e) → s.attempts.map Prod.fst = all ∧
    ∀ a ∈ s.attempts, a.2 = none ∨ ∃ handle, a.2 = some handle ∧ (handle, .closed) ∈ s.reported
  enabled : ∀ more, s.pc = .select more → (s.pending ≠ [] ∨ s.addrIter ≠ []) ∧
    (more = true ∨ ∃ handle ∈ s.pending, handle ∈ s.waiting ∨ handle ∈ s.ready.map Prod.fst)

theorem Sound.fair (h : Sound all s) : Fair all s where
  winner := fun handle hpc => h.accounted.winner handle (by rw [hpc]; rfl)
  finished := fun outcome hpc => by
    have hended := h.accounted.ended (by rw [hpc]; rfl)
    refine ⟨hended, fun handle hs => ?_⟩
    rcases h.accounted.held handle hs with hp | hwon | hsettled
    · rw [hended] at hp
      cases hp
    · rw [hpc] at hwon
      cases outcome with
      | winner w =>
          cases hwon
          exact .inl rfl
      | _ => cases hwon
    · exact .inr hsettled
  exhausted := fun e hpc => by
    have hended := h.accounted.ended (by rw [hpc]; rfl)
    have hsearch : s.pc.searching = true := by
      rw [hpc]
      rfl
    have horder := h.attempted.order hsearch
    rw [hpc, h.accounted.failed e hpc] at horder
    refine ⟨by simpa [RacePc.address] using horder, fun a ha => ?_⟩
    cases hresult : a.2 with
    | none => exact .inl rfl
    | some handle =>
        refine .inr ⟨handle, rfl, ?_⟩
        rcases h.accounted.lost hsearch handle (h.attempted.started a ha handle hresult) with hp | hr
        · rw [hended] at hp
          cases hp
        · exact hr
  enabled := fun more hpc => by
    obtain ⟨hmore, hsome⟩ := h.watched.enabled more hpc
    refine ⟨hsome, ?_⟩
    by_cases haddr : s.addrIter = []
    · obtain ⟨handle, hp⟩ := List.exists_mem_of_ne_nil _ (hsome.resolve_right (not_not_intro haddr))
      exact .inr ⟨handle, hp, h.watched.waits (by rw [hpc]; rfl) handle hp⟩
    · exact .inl (hmore.mpr haddr)

theorem race_fair (h : Run.Reaches step managerAnswers (new all) s) : Fair all s :=
  (h.invariant (fun _ _ _ hs hg hstep => step_sound hs hg hstep) (new_sound all)).fair

instance decidableManagerAnswers (s : Race) : (l : RaceLabel) → Decidable (s.managerAnswers l)
  | .connected handle => inferInstanceAs (Decidable (handle ∉ s.started))
  | .report _ state => inferInstanceAs (Decidable (state ≠ .connecting))
  | .advance | .refused _ | .recv | .elapse | .attempt | .close _ | .timeout _ => .isTrue trivial

-- The first connection is closed by its peer, the second one wins and the third is closed.
theorem race_fair_second : ∃ s : Race, s.pc = .ended (.winner 4) ∧ s.started = [3, 4, 5] ∧
    s.closed = [3, 5] ∧ Fair [.ipv4 1, .ipv4 2, .ipv4 3] s := by
  have hg : Run.Guarded step managerAnswers (new [.ipv4 1, .ipv4 2, .ipv4 3])
      [.advance, .connected 3, .advance, .advance, .elapse, .attempt, .connected 4, .advance,
        .report 3 .closed, .recv, .close true, .advance, .elapse, .attempt, .connected 5, .advance,
        .report 4 .established, .recv, .close true, .advance] := by
    decide +kernel
  have h : (Run.exec step (new [.ipv4 1, .ipv4 2, .ipv4 3])
      [.advance, .connected 3, .advance, .advance, .elapse, .attempt, .connected 4, .advance,
        .report 3 .closed, .recv, .close true, .advance, .elapse, .attempt, .connected 5, .advance,
        .report 4 .established, .recv, .close true, .advance]).any (fun s =>
      s.pc = .ended (.winner 4) ∧ s.started = [3, 4, 5] ∧ s.closed = [3, 5]) = true := by
    decide +kernel
  obtain ⟨s, hs, hp⟩ := (Option.any_eq_true _ _).mp h
  obtain ⟨hpc, hstarted, hclosed⟩ := of_decide_eq_true hp
  exact ⟨s, hpc, hstarted, hclosed, race_fair (Run.exec_guarded hs hg)⟩

end Race

end Usque
