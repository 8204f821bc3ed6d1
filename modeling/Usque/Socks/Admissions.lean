import Usque.Manager.Changes
import Usque.Manager.Isolation
import Usque.Socks.Reservations

namespace Usque

-- A client of one manager: between the two loads of try_reserve_tcp_slot and its compare_exchange,
-- with the slot that it has reserved, or with its Connect sent.
inductive SlotClient where
  | idle
  | activeLoaded (active : Nat)
  | pendingLoaded (active pending : Nat)
  | reserved
  | connecting (response : OneshotId)
deriving DecidableEq, Repr

inductive SlotOp where
  | loadActive
  | loadPending
  | compareExchange
  | connect (remoteIp : IpAddress) (remotePort localPort : UInt16)
  | receive
deriving DecidableEq, Repr

inductive AdmissionLabel where
  | manager (l : Label)
  | join
  | client (i : Nat) (op : SlotOp)
deriving DecidableEq

namespace SlotClient

def permit : SlotClient → Permit OneshotId
  | .reserved => .held
  | .connecting response => .sent response
  | .idle | .activeLoaded _ | .pendingLoaded _ _ => .none

end SlotClient

-- One manager and its clients. `shortfall` is the most by which the active count that a granted
-- reservation had loaded was below the number of live sockets.
structure Admissions (S : Smoltcp) where
  manager : System S
  clients : List SlotClient
  shortfall : Nat

namespace Admissions

variable {S : Smoltcp} (H : Hickory)

def init (S : Smoltcp) (params : ConnectionParams) : Admissions S where
  manager := .init S params
  clients := []
  shortfall := 0

def stats (s : Admissions S) : ManagerRuntimeStats := s.manager.rt.shared.stats

-- The limit is the tunable that the stats were made with.
def maxTcpSocketsPerWorker (s : Admissions S) : Nat :=
  s.manager.params.managerTunables.managerMaxTcpSocketsPerWorker

def live (s : Admissions S) : Nat := Table.size s.manager.rt.sockets

def outstanding (s : Admissions S) : Nat :=
  s.clients.countP (fun c => Permits.counts s.manager.asked c.permit)

def full (s : Admissions S) (active pending : Nat) : Bool :=
  min (active + pending) usizeMax ≥ s.maxTcpSocketsPerWorker

def enter (s : Admissions S) (i : Nat) (c : SlotClient) : Admissions S :=
  { s with clients := s.clients.set i c }

def setPending (s : Admissions S) (pendingConnects : Nat) : Admissions S :=
  { s with
    manager := s.manager.setShared
      { s.manager.rt.shared with stats := { s.stats with pendingConnects } } }

def finishReserved (s : Admissions S) : Admissions S :=
  { s with manager := s.manager.finishReserved }

def loadPending (s : Admissions S) (i active : Nat) : Admissions S :=
  let pending := s.stats.pendingConnects
  if s.full active pending then s.enter i .idle else s.enter i (.pendingLoaded active pending)

def compareExchange (s : Admissions S) (i active pending : Nat) : Admissions S :=
  if s.stats.pendingConnects = pending then
    { s.setPending (pending + 1) with
      shortfall := max s.shortfall (s.live - active) }.enter i .reserved
  else s.enter i .idle

-- connect_reserved, up to the send and from the response on.
def connect (s : Admissions S) (i : Nat) (remoteIp : IpAddress) (remotePort localPort : UInt16) :
    Option (Admissions S) :=
  if s.manager.lost then some (s.finishReserved.enter i .idle)
  else
    let response := s.manager.nextOneshot
    (s.manager.submit (.connect remoteIp remotePort localPort true response)).map
      (fun manager => { s with manager }.enter i (.connecting response))

def receive (s : Admissions S) (i : Nat) (response : OneshotId) : Option (Admissions S) :=
  match s.manager.received response with
  | some reply => if reply.isConnect then some (s.enter i .idle) else none
  | none =>
      if s.manager.lost ∧ response ∈ s.manager.asked then
        some (s.finishReserved.enter i .idle)
      else none

def clientStep (s : Admissions S) (i : Nat) (c : SlotClient) (op : SlotOp) :
    Option (Admissions S) :=
  match op, c with
  | .loadActive, .idle => some (s.enter i (.activeLoaded s.stats.activeTcpSockets))
  | .loadPending, .activeLoaded active => some (s.loadPending i active)
  | .compareExchange, .pendingLoaded active pending =>
      some (s.compareExchange i active pending)
  | .connect remoteIp remotePort localPort, .reserved =>
      s.connect i remoteIp remotePort localPort
  | .receive, .connecting response => s.receive i response
  | _, _ => none

-- Slots are taken and Connects sent by the clients only.
def asideOfClients : Label → Bool
  | .submit (.connect ..) | .reserveSlot | .releaseSlot => false
  | _ => true

def step (s : Admissions S) : AdmissionLabel → Option (Admissions S)
  | .manager l =>
      if asideOfClients l then (s.manager.step H l).map (fun manager => { s with manager })
      else none
  | .join => some { s with clients := s.clients ++ [.idle] }
  | .client i op => s.clients[i]?.bind (fun c => s.clientStep i c op)

-- A tunnel session ends only when no reservation is out.
def withinSession (s : Admissions S) : AdmissionLabel → Prop
  | .manager l => s.manager.goesDown H l = true → s.outstanding = 0
  | _ => True

instance (s : Admissions S) : (l : AdmissionLabel) → Decidable (withinSession H s l)
  | .manager l => inferInstanceAs (Decidable (s.manager.goesDown H l = true → s.outstanding = 0))
  | .join | .client _ _ => .isTrue trivial

-- The step handles a Connect that holds a slot, and its answer is Overloaded.
def answersOverloaded (s : System S) (l : Label) : Bool :=
  match s.handled l with
  | some (.connect remoteIp remotePort localPort true _) =>
      match s.rt.createConnection remoteIp remotePort localPort s.params.tcpBufferSize true with
      | .ok (.error .overloaded, _) => true
      | _ => false
  | _ => false

structure Sound (s : Admissions S) : Prop where
  system : s.manager.Sound
  tuned : s.manager.Tuned
  bounded : s.maxTcpSocketsPerWorker ≤ usizeMax
  permits : (permitsOf s.manager (s.clients.map SlotClient.permit)).Sound
  askedOnce : s.manager.AskedOnce
  fresh : ∀ c ∈ s.clients, ∀ k, c.permit = .sent k → k < s.manager.nextOneshot
  connects : ∀ remoteIp remotePort localPort reservedSlot response,
    .connect remoteIp remotePort localPort reservedSlot response ∈ s.manager.cmdRx →
      reservedSlot = true
  loaded : ∀ active pending, SlotClient.pendingLoaded active pending ∈ s.clients →
    active + pending < s.maxTcpSocketsPerWorker
  live : s.live ≤ s.maxTcpSocketsPerWorker
  sum : s.live + s.stats.pendingConnects ≤ s.maxTcpSocketsPerWorker + s.shortfall

variable {H} {s t : Admissions S} {i : Nat} {c : SlotClient}

theorem outstanding_eq (s : Admissions S) :
    s.outstanding = (s.clients.map SlotClient.permit).countP
      (Permits.counts s.manager.asked) := by
  rw [List.countP_map]
  rfl

theorem Sound.outstanding (h : s.Sound) : s.outstanding = s.stats.pendingConnects := by
  rw [outstanding_eq]
  exact h.permits.used.symm

theorem init_sound {params : ConnectionParams}
    (hmax : params.managerTunables.managerMaxTcpSocketsPerWorker ≤ usizeMax) :
    (init S params).Sound where
  system := System.init_sound params
  tuned := System.init_tuned params
  bounded := hmax
  permits := .empty _
  askedOnce := .init params
  fresh := nofun
  connects := nofun
  loaded := nofun
  live := Nat.zero_le _
  sum := Nat.zero_le _

theorem setShared_sound {sys : System S} (h : sys.Sound) {shared : Shared}
    (hx : shared.streams = sys.rt.shared.streams)
    (hn : shared.nextStream = sys.rt.shared.nextStream) : (sys.setShared shared).Sound := by
  have hset := RuntimeState.setShared_settled (P := .any) h.consistent.slotted hx hn
  refine ⟨⟨hset.slotted, hset.aside.tracked h.consistent.tracked⟩, fun x hphase => ?_⟩
  show x < shared.nextStream
  rw [hn]
  exact h.born x hphase

-- A handled Connect that holds a slot leaves the sum as it was, and nothing else adds to it.
theorem Sound.sum_step (h : s.Sound) (hS : S.KeepsSockets) {sys : System S} {l : Label}
    (hstep : s.manager.step H l = some sys) (hs : System.SlotStep s.manager sys l) :
    Table.size sys.rt.sockets ≤ s.maxTcpSocketsPerWorker ∧
      Table.size sys.rt.sockets + sys.rt.shared.stats.pendingConnects ≤
        s.maxTcpSocketsPerWorker + s.shortfall := by
  have hsum := h.sum
  have hlive := h.live
  have hpending : sys.rt.shared.stats.pendingConnects ≤ s.stats.pendingConnects := by
    cases hs with
    | kept _ ht _ | sent _ _ ht _ _ =>
        exact Nat.le_of_eq (congrArg TcpSlots.pendingConnects ht)
    | reset _ _ _ ht _ =>
        have hzero : sys.rt.shared.stats.pendingConnects = 0 :=
          congrArg TcpSlots.pendingConnects ht
        omega
    | handled cmd _ _ ht _ =>
        rw [System.handled_pending ht]
        split_ifs
        · exact Nat.sub_le _ _
        · exact Nat.le_refl _
  rcases System.step_opens hS h.system hstep with
    hsame | ⟨hmore, hroom, remoteIp, remotePort, localPort, reservedSlot, response, hq⟩
  · exact ⟨Nat.le_trans hsame hlive, Nat.le_trans (Nat.add_le_add hsame hpending) hsum⟩
  · have hlimit : s.manager.rt.tunables.managerMaxTcpSocketsPerWorker =
        s.maxTcpSocketsPerWorker := by
      rw [show s.manager.rt.tunables = _ from h.tuned]
      rfl
    rw [hlimit] at hroom
    have hreserved : reservedSlot = true := h.connects _ _ _ _ _ (by
      rw [hq]
      exact List.mem_cons_self ..)
    subst hreserved
    have hlength := congrArg List.length hq
    rw [List.length_cons] at hlength
    cases hs with
    | kept hq' _ _ | reset _ _ hq' _ _ =>
        rw [hq'] at hlength
        omega
    | sent cmd hq' _ _ _ =>
        rw [hq', List.length_append, List.length_singleton] at hlength
        omega
    | handled cmd hl hq' ht _ =>
        rw [hq] at hq'
        cases hq'
        obtain ⟨choice, rfl⟩ := hl
        have hpos : 0 < s.stats.pendingConnects := by
          refine h.permits.used_pos (k := response) ?_ ?_
          · show (!s.manager.lost) = true
            rw [System.step_running hstep]
            rfl
          · show response ∈ s.manager.asked
            rw [System.handled_asked hq]
            exact List.mem_append_left _ (List.mem_singleton_self response)
        have hdone : sys.rt.shared.stats.pendingConnects = s.stats.pendingConnects - 1 :=
          System.handled_pending ht
        have hmore : Table.size sys.rt.sockets ≤ s.live + 1 := hmore
        have hroom : s.live < s.maxTcpSocketsPerWorker := hroom
        omega

theorem Sound.connects_step (h : s.Sound) {sys : System S} {l : Label}
    (hs : System.SlotStep s.manager sys l) (haside : asideOfClients l = true) :
    ∀ remoteIp remotePort localPort reservedSlot response,
      .connect remoteIp remotePort localPort reservedSlot response ∈ sys.cmdRx →
        reservedSlot = true := by
  intro remoteIp remotePort localPort reservedSlot response hm
  cases hs with
  | kept hq _ _ | reset _ _ hq _ _ => exact h.connects _ _ _ _ _ (hq ▸ hm)
  | handled cmd _ hq _ _ =>
      exact h.connects _ _ _ _ _ (by rw [hq]; exact List.mem_cons_of_mem _ hm)
  | sent cmd hq _ hl _ =>
      rw [hq] at hm
      rcases List.mem_append.mp hm with hm | hm
      · exact h.connects _ _ _ _ _ hm
      · cases List.mem_singleton.mp hm
        rcases hl with rfl | hsource
        · cases haside
        · exact absurd rfl hsource

theorem Sound.managerStep (h : s.Sound) (hS : S.KeepsSockets) {sys : System S} {l : Label}
    (haside : asideOfClients l = true) (hstep : s.manager.step H l = some sys)
    (hdown : s.manager.goesDown H l = true → s.outstanding = 0) :
    Sound { s with manager := sys } := by
  have hs : System.SlotStep s.manager sys l :=
    System.step_slotStep hstep (by rintro rfl; cases haside) (by rintro rfl; cases haside)
  obtain ⟨htuned, hparams⟩ := h.tuned.step hS h.system hstep
  obtain ⟨hlive, hsum⟩ := h.sum_step hS hstep hs
  have hlimit : ({ s with manager := sys } : Admissions S).maxTcpSocketsPerWorker =
      s.maxTcpSocketsPerWorker := by
    simp only [maxTcpSocketsPerWorker, hparams]
  refine ⟨System.step_sound hS h.system hstep, htuned, hlimit ▸ h.bounded, ?_,
    h.askedOnce.step hs, ?_, h.connects_step hs haside, hlimit ▸ h.loaded, hlimit ▸ hlive,
    hlimit ▸ hsum⟩
  · refine permitsOf_step h.permits hstep hs ?_ (fun hd => ?_)
    · rintro cmd rfl
      cases cmd with
      | connect _ _ _ _ _ => cases haside
      | _ => rfl
    · rw [← outstanding_eq]
      exact hdown hd
  · exact fun c hc k hk => Nat.lt_of_lt_of_le (h.fresh c hc k hk) hs.nextOneshot_le

theorem holder (hi : s.clients[i]? = some c) :
    (s.clients.map SlotClient.permit)[i]? = some c.permit := by
  rw [List.getElem?_map, hi, Option.map_some]

-- A client's step, which changes of the manager at most its count of slots and its commands.
theorem Sound.update (h : s.Sound) (c' : SlotClient) (hclients : t.clients = s.clients.set i c')
    (hsystem : t.manager.Sound) (hparams : t.manager.params = s.manager.params)
    (htunables : t.manager.rt.tunables = s.manager.rt.tunables)
    (hpermits : (permitsOf t.manager
      ((s.clients.map SlotClient.permit).set i c'.permit)).Sound)
    (hasked : t.manager.AskedOnce) (hnext : s.manager.nextOneshot ≤ t.manager.nextOneshot)
    (hfresh : ∀ k, c'.permit = .sent k → k < t.manager.nextOneshot)
    (hconnects : ∀ remoteIp remotePort localPort reservedSlot response,
      .connect remoteIp remotePort localPort reservedSlot response ∈ t.manager.cmdRx →
        reservedSlot = true)
    (hloaded : ∀ active pending, c' = .pendingLoaded active pending →
      active + pending < s.maxTcpSocketsPerWorker)
    (hlive : t.live = s.live)
    (hsum : s.live + t.stats.pendingConnects ≤ s.maxTcpSocketsPerWorker + t.shortfall) :
    t.Sound := by
  have hlimit : t.maxTcpSocketsPerWorker = s.maxTcpSocketsPerWorker := by
    simp only [maxTcpSocketsPerWorker, hparams]
  have htuned : t.manager.Tuned := by
    rw [System.Tuned, htunables, hparams]
    exact h.tuned
  refine ⟨hsystem, htuned, hlimit ▸ h.bounded, ?_, hasked, fun d hd k hk => ?_, hconnects,
    fun active pending hm => ?_, hlimit ▸ hlive ▸ h.live, hlimit ▸ hlive ▸ hsum⟩
  · rw [hclients, List.map_set]
    exact hpermits
  · rw [hclients] at hd
    rcases List.mem_or_eq_of_mem_set hd with hold | rfl
    · exact Nat.lt_of_lt_of_le (h.fresh d hold k hk) hnext
    · exact hfresh k hk
  · rw [hclients] at hm
    rw [hlimit]
    rcases List.mem_or_eq_of_mem_set hm with hold | hnew
    · exact h.loaded active pending hold
    · exact hloaded active pending hnew.symm

-- A client that has no slot, before and after.
theorem Sound.enter (h : s.Sound) (hi : s.clients[i]? = some c) {c' : SlotClient}
    (hc : Permits.counts s.manager.asked c.permit = false) (hc' : c'.permit = .none)
    (hloaded : ∀ active pending, c' = .pendingLoaded active pending →
      active + pending < s.maxTcpSocketsPerWorker) : (s.enter i c').Sound := by
  refine h.update (t := s.enter i c') c' rfl h.system rfl rfl ?_ h.askedOnce (Nat.le_refl _)
    (fun k hk => ?_) h.connects hloaded rfl h.sum
  · rw [hc']
    exact h.permits.leave (holder hi) hc
  · rw [hc'] at hk
    cases hk

theorem Sound.finishReserved (h : s.Sound) (hi : s.clients[i]? = some c)
    (hcounts : Permits.counts s.manager.asked c.permit = true) (hlost : s.manager.lost = true) :
    (s.finishReserved.enter i .idle).Sound := by
  obtain ⟨shared, heq, hreplies, hpending⟩ := TcpRequests.finishReserved_eq s.manager
  have hback := h.permits.giveBack (holder hi) hcounts (fun hlive => by
    simp only [permitsOf, hlost, Bool.not_true] at hlive
    cases hlive)
  have hasked : s.manager.finishReserved.AskedOnce := by
    rw [heq]
    exact TcpRequests.askedOnce_setShared h.askedOnce hreplies
  have hless : s.manager.finishReserved.rt.shared.stats.pendingConnects =
      s.stats.pendingConnects - 1 := by
    rw [heq]
    exact hpending
  refine h.update (t := s.finishReserved.enter i .idle) .idle rfl
    (setShared_sound h.system rfl rfl) rfl rfl ?_ hasked (Nat.le_refl _)
    (fun _ hk => by cases hk) h.connects (fun _ _ hm => by cases hm) rfl ?_
  · show Permits.Sound ⟨_, _, s.manager.finishReserved.rt.shared.stats.pendingConnects, _⟩
    rw [hless]
    exact hback
  · show s.live + s.manager.finishReserved.rt.shared.stats.pendingConnects ≤ _
    rw [hless]
    exact Nat.le_trans (Nat.add_le_add_left (Nat.sub_le _ _) _) h.sum

theorem full_eq_false (h : s.Sound) {active pending : Nat} (hfull : s.full active pending = false) :
    active + pending < s.maxTcpSocketsPerWorker := by
  have hroom : ¬ min (active + pending) usizeMax ≥ s.maxTcpSocketsPerWorker :=
    of_decide_eq_false hfull
  have hmax := h.bounded
  omega

theorem loadPending_sound (h : s.Sound) {active : Nat}
    (hi : s.clients[i]? = some (.activeLoaded active)) : (s.loadPending i active).Sound := by
  simp only [loadPending]
  cases hfull : s.full active s.stats.pendingConnects with
  | true => exact h.enter hi rfl rfl nofun
  | false =>
      refine h.enter hi rfl rfl (fun a p he => ?_)
      cases he
      exact full_eq_false h hfull

-- The slot is taken on a count of live sockets that may be old.
theorem compareExchange_sound (h : s.Sound) {active pending : Nat}
    (hi : s.clients[i]? = some (.pendingLoaded active pending)) :
    (s.compareExchange i active pending).Sound := by
  simp only [compareExchange]
  split_ifs with hsame
  · refine h.update .reserved rfl (setShared_sound h.system rfl rfl) rfl rfl ?_
      (TcpRequests.askedOnce_setShared h.askedOnce rfl) (Nat.le_refl _) nofun h.connects nofun
      rfl ?_
    · have htaken := h.permits.take (holder hi)
      show Permits.Sound ⟨_, _, pending + 1, _⟩
      rw [← hsame]
      exact htaken
    · have hroom := h.loaded active pending (List.mem_of_getElem? hi)
      show s.live + (pending + 1) ≤
        s.maxTcpSocketsPerWorker + max s.shortfall (s.live - active)
      omega
  · exact h.enter hi rfl rfl nofun

theorem connect_sound (h : s.Sound) (hi : s.clients[i]? = some .reserved)
    {remoteIp : IpAddress} {remotePort localPort : UInt16}
    (hstep : s.connect i remoteIp remotePort localPort = some t) : t.Sound := by
  simp only [connect] at hstep
  cases hlost : s.manager.lost with
  | true =>
      rw [hlost] at hstep
      cases hstep
      exact h.finishReserved hi rfl hlost
  | false =>
      rw [hlost] at hstep
      obtain ⟨manager, hsubmit, rfl⟩ := Option.map_eq_some_iff.mp hstep
      have hs := System.submit_slotStep hsubmit
      obtain ⟨he, _⟩ := TcpRequests.submit_some rfl hsubmit
      have hsystem : manager.Sound := by
        rw [he]
        exact ⟨h.system.consistent, h.system.born⟩
      have hrt : manager.rt = s.manager.rt := by rw [he]
      have hlost' : manager.lost = s.manager.lost := by
        rw [he]
        rfl
      have hasked : manager.asked = s.manager.asked ++ [s.manager.nextOneshot] := by
        simp only [he, System.asked, List.filterMap_append]
        rfl
      refine h.update (.connecting s.manager.nextOneshot) rfl hsystem (by rw [he]; rfl)
        (congrArg RuntimeState.tunables hrt) ?_ (h.askedOnce.step hs) hs.nextOneshot_le
        (fun k hk => ?_) ?_ (fun _ _ hm => by cases hm) ?_ ?_
      · have hnew : Permit.sent s.manager.nextOneshot ∉ s.clients.map SlotClient.permit := by
          intro hm
          obtain ⟨d, hd, hk⟩ := List.mem_map.mp hm
          exact Nat.lt_irrefl _ (h.fresh d hd _ hk)
        have hqueue : s.manager.nextOneshot ∉ s.manager.asked := fun hm =>
          Nat.lt_irrefl _ (h.askedOnce.fresh _ (System.asked_subset _ hm))
        have hsent := h.permits.send (holder hi) hnew hqueue
        show Permits.Sound ⟨_, manager.asked, manager.rt.shared.stats.pendingConnects,
          !manager.lost⟩
        rw [hasked, hrt, hlost']
        exact hsent
      · cases hk
        show s.manager.nextOneshot < manager.nextOneshot
        rw [he]
        exact Nat.lt_succ_self _
      · intro ip port localPort' reservedSlot response hm
        have hm : .connect ip port localPort' reservedSlot response ∈ manager.cmdRx := hm
        rw [he] at hm
        rcases List.mem_append.mp hm with hm | hm
        · exact h.connects _ _ _ _ _ hm
        · cases List.mem_singleton.mp hm
          rfl
      · show Table.size manager.rt.sockets = _
        rw [hrt]
        rfl
      · show s.live + manager.rt.shared.stats.pendingConnects ≤ _
        rw [hrt]
        exact h.sum

theorem receive_sound (h : s.Sound) {response : OneshotId}
    (hi : s.clients[i]? = some (.connecting response)) (hstep : s.receive i response = some t) :
    t.Sound := by
  simp only [receive] at hstep
  split at hstep
  · next reply hreply =>
      split_ifs at hstep with hconnect
      cases hstep
      exact h.enter hi (TcpRequests.received_counts h.askedOnce hreply hconnect) rfl nofun
  · split_ifs at hstep with hlost
    cases hstep
    exact h.finishReserved hi (decide_eq_true hlost.2) hlost.1

theorem clientStep_sound (h : s.Sound) (hi : s.clients[i]? = some c) {op : SlotOp}
    (hstep : s.clientStep i c op = some t) : t.Sound := by
  simp only [clientStep] at hstep
  split at hstep
  · cases hstep
    exact h.enter hi rfl rfl nofun
  · cases hstep
    exact loadPending_sound h hi
  · cases hstep
    exact compareExchange_sound h hi
  · exact connect_sound h hi hstep
  · exact receive_sound h hi hstep
  · cases hstep

theorem step_sound (hS : S.KeepsSockets) (h : s.Sound) {l : AdmissionLabel}
    (hg : withinSession H s l) (hstep : step H s l = some t) : t.Sound := by
  cases l with
  | manager l =>
      simp only [step] at hstep
      split_ifs at hstep with haside
      obtain ⟨sys, hsys, rfl⟩ := Option.map_eq_some_iff.mp hstep
      exact h.managerStep hS haside hsys hg
  | join =>
      cases hstep
      refine ⟨h.system, h.tuned, h.bounded, ?_, h.askedOnce, fun d hd k hk => ?_, h.connects,
        fun active pending hm => ?_, h.live, h.sum⟩
      · show (permitsOf s.manager ((s.clients ++ [SlotClient.idle]).map SlotClient.permit)).Sound
        rw [List.map_append]
        exact h.permits.join
      · rcases List.mem_append.mp hd with hold | hnew
        · exact h.fresh d hold k hk
        · rw [List.mem_singleton.mp hnew] at hk
          cases hk
      · rcases List.mem_append.mp hm with hold | hnew
        · exact h.loaded active pending hold
        · cases List.mem_singleton.mp hnew
  | client i op =>
      obtain ⟨c, hc, hstep⟩ := Option.bind_eq_some_iff.mp hstep
      exact clientStep_sound h hc hstep

-- While every slot was taken on a count that was not too small, a queued Connect finds room.
theorem Sound.answers (h : s.Sound) (hshort : s.shortfall = 0) (hrunning : s.manager.lost = false)
    (l : Label) : answersOverloaded s.manager l = false := by
  simp only [answersOverloaded]
  split
  · next remoteIp remotePort localPort response hhandled =>
      have hmem : response ∈ s.manager.asked :=
        List.mem_filterMap.mpr ⟨_, System.handled_mem hhandled, rfl⟩
      have hpos := h.permits.used_pos (by simp only [permitsOf, hrunning, Bool.not_false]) hmem
      have hsum := h.sum
      have hroom : ¬ Table.size s.manager.rt.sockets ≥
          s.manager.rt.tunables.managerMaxTcpSocketsPerWorker := by
        have hpos : 0 < s.stats.pendingConnects := hpos
        rw [show s.manager.rt.tunables = _ from h.tuned]
        show ¬ s.live ≥ s.maxTcpSocketsPerWorker
        omega
      simp only [RuntimeState.createConnection, if_neg hroom]
      split
      · next hresult =>
          obtain ⟨⟨connected, stack⟩, _, hresult⟩ := Outcome.bind_eq_ok.mp hresult
          dsimp only at hresult
          split at hresult
          · obtain ⟨_, _, hresult⟩ := Outcome.bind_eq_ok.mp hresult
            cases hresult
          · cases hresult
      · rfl
  · rfl

theorem reservations_admitted (hS : S.KeepsSockets) {params : ConnectionParams}
    (hmax : params.managerTunables.managerMaxTcpSocketsPerWorker ≤ usizeMax)
    (h : Run.Reaches (step H) (withinSession H) (init S params) s) :
    s.live ≤ s.maxTcpSocketsPerWorker ∧
      s.live + s.outstanding ≤ s.maxTcpSocketsPerWorker + s.shortfall ∧
      (s.shortfall = 0 → ∀ l t, step H s (.manager l) = some t →
        answersOverloaded s.manager l = false) := by
  have hs : s.Sound :=
    h.invariant (fun _ _ _ hs hg hstep => step_sound hS hs hg hstep) (init_sound hmax)
  refine ⟨hs.live, hs.outstanding ▸ hs.sum, fun hshort l t hstep => ?_⟩
  simp only [step] at hstep
  split_ifs at hstep with haside
  obtain ⟨sys, hsys, _⟩ := Option.map_eq_some_iff.mp hstep
  cases l with
  | manager choice => exact hs.answers hshort (System.step_running hsys) _
  | _ => rfl

def oneSocket : ConnectionParams :=
  { Script.params with
    managerTunables := { Script.params.managerTunables with managerMaxTcpSocketsPerWorker := 1 } }

def reserve (i : Nat) : List AdmissionLabel :=
  [.join, .client i .loadActive, .client i .loadPending, .client i .compareExchange]

def connected (i : Nat) (localPort : UInt16) : List AdmissionLabel :=
  [.client i (.connect (.ipv4 Script.remote) Script.remotePort localPort)]

def handleNext : List Label :=
  [.manager (.checkAlive true), .manager (.command 0)] ++ Script.skipDrains ++ [.manager .advance]

def firstHandled : List AdmissionLabel :=
  Script.establish.map .manager ++ reserve 0 ++ connected 0 5000 ++
    handleNext.map .manager

def refresh : List AdmissionLabel := [.manager Script.refresh]

def run (labels : List AdmissionLabel) : Option (Admissions Reference.smoltcp) :=
  Run.exec (step Script.hickory) (init Reference.smoltcp oneSocket) labels

theorem exists_within {labels : List AdmissionLabel} {p : Admissions Reference.smoltcp → Bool}
    (hg : Run.Guarded (step Script.hickory) (withinSession Script.hickory)
      (init Reference.smoltcp oneSocket) labels) (h : (run labels).any p = true) :
    ∃ s, Run.Reaches (step Script.hickory) (withinSession Script.hickory)
      (init Reference.smoltcp oneSocket) s ∧ p s = true := by
  obtain ⟨s, hs, hp⟩ := (Option.any_eq_true _ _).mp h
  exact ⟨s, Run.exec_guarded hs hg, hp⟩

-- A client that loads the count after the refresh finds the manager full.
theorem reservations_admitted_refreshed : ∃ s : Admissions Reference.smoltcp,
    s.clients = [.connecting 0, .activeLoaded 1] ∧ s.shortfall = 0 ∧ s.live = 1 ∧
      s.live + s.outstanding ≤ 1 := by
  have hg : Run.Guarded (step Script.hickory) (withinSession Script.hickory)
      (init Reference.smoltcp oneSocket)
      (firstHandled ++ refresh ++ [.join, .client 1 .loadActive]) := by decide +kernel
  have h : (run (firstHandled ++ refresh ++ [.join, .client 1 .loadActive])).any (fun s =>
      s.clients = [.connecting 0, .activeLoaded 1] ∧ s.shortfall = 0 ∧ s.live = 1 ∧
        s.maxTcpSocketsPerWorker = 1) = true := by decide +kernel
  obtain ⟨s, hs, hp⟩ := exists_within hg h
  obtain ⟨hclients, hshort, hlive, hmax⟩ := of_decide_eq_true hp
  have hsum := (reservations_admitted Reference.keepsSockets (by decide) hs).2.1
  rw [hshort, hmax] at hsum
  exact ⟨s, hclients, hshort, hlive, hsum⟩

def isOverloaded : Reply → Bool
  | .connectFailed .overloaded => true
  | _ => false

-- The second client takes a slot on the count from before the first connection, and its Connect is
-- answered Overloaded.
theorem reservation_overloaded : ∃ s t : Admissions Reference.smoltcp,
    Run.Reaches (step Script.hickory) (withinSession Script.hickory)
      (init Reference.smoltcp oneSocket) s ∧
    s.maxTcpSocketsPerWorker = 1 ∧ s.live + s.outstanding = 2 ∧
    step Script.hickory s (.manager (.manager (.command 0))) = some t ∧
    answersOverloaded s.manager (.manager (.command 0)) = true ∧
    s.manager.rt.shared.replies.any (fun p => p.1 = 1) = false ∧
    (t.manager.received 1).any isOverloaded = true := by
  have hg : Run.Guarded (step Script.hickory) (withinSession Script.hickory)
      (init Reference.smoltcp oneSocket)
      (firstHandled ++ reserve 1 ++ connected 1 5001 ++ refresh ++
        [.manager (.manager (.checkAlive true))]) := by decide +kernel
  have h : (run (firstHandled ++ reserve 1 ++ connected 1 5001 ++ refresh ++
      [.manager (.manager (.checkAlive true))])).any (fun s =>
      s.maxTcpSocketsPerWorker = 1 ∧ s.live + s.outstanding = 2 ∧
      answersOverloaded s.manager (.manager (.command 0)) = true ∧
      s.manager.rt.shared.replies.any (fun p => p.1 = 1) = false ∧
      (step Script.hickory s (.manager (.manager (.command 0)))).any (fun t =>
        (t.manager.received 1).any isOverloaded)) = true := by decide +kernel
  obtain ⟨s, hs, hp⟩ := exists_within hg h
  obtain ⟨hmax, hsum, hanswer, hfresh, hstep⟩ := of_decide_eq_true hp
  obtain ⟨t, ht, hreply⟩ := (Option.any_eq_true _ _).mp hstep
  exact ⟨s, t, hs, hmax, hsum, ht, hanswer, hfresh, hreply⟩

end Admissions

end Usque
