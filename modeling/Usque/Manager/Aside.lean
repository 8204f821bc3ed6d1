import Usque.Manager.Phases
import Usque.Stack.Calls

namespace Usque

variable {S : Smoltcp} {P : Policy} {rt rt' rt'' : RuntimeState S}

structure Slotted (rt : RuntimeState S) : Prop where
  wellFormed : rt.stack.WellFormed
  entry : ∀ h, rt.sockets.lookup h ≠ none ↔ rt.stack.kindAt h = some .tcp
  session : ∀ port se, rt.udpSessions.lookup port = some se →
    ∃ a, rt.stack.localAddrDefault = .ok a ∧
      rt.stack.kindAt se.handle = some (.udp (some ⟨a, port⟩))
  dns : ∀ version h, rt.dnsSockets.slot version = some h →
    ∃ a port, a.version = version ∧ rt.stack.kindAt h = some (.udp (some ⟨a, port⟩))
  apart : ∀ port se version, rt.udpSessions.lookup port = some se →
    rt.dnsSockets.slot version ≠ some se.handle

structure Aside (P : Policy) (rt rt' : RuntimeState S) : Prop where
  sockets : rt'.sockets = rt.sockets
  flows : ∀ key, rt'.tcpFlowMap.lookup key = rt.tcpFlowMap.lookup key
  handles : rt'.tcpHandles = rt.tcpHandles
  readyHandles : rt'.readyTcpHandles = rt.readyTcpHandles
  readySet : rt'.readyTcpSet = rt.readyTcpSet
  session : rt'.session = rt.session
  events : rt'.socketEvents = rt.socketEvents
  counters : rt'.counters = rt.counters
  tunables : rt'.tunables = rt.tunables
  streams : rt'.shared.streams = rt.shared.streams
  nextStream : rt'.shared.nextStream = rt.shared.nextStream
  stack : NetworkStack.TcpKept P rt.stack rt'.stack

namespace Aside

theorem refl (P : Policy) (rt : RuntimeState S) : Aside P rt rt :=
  ⟨rfl, fun _ => rfl, rfl, rfl, rfl, rfl, rfl, rfl, rfl, rfl, rfl, .refl _ _⟩

theorem trans (h : Aside P rt rt') (k : Aside P rt' rt'') : Aside P rt rt'' where
  sockets := k.sockets.trans h.sockets
  flows := fun key => (k.flows key).trans (h.flows key)
  handles := k.handles.trans h.handles
  readyHandles := k.readyHandles.trans h.readyHandles
  readySet := k.readySet.trans h.readySet
  session := k.session.trans h.session
  events := k.events.trans h.events
  counters := k.counters.trans h.counters
  tunables := k.tunables.trans h.tunables
  streams := k.streams.trans h.streams
  nextStream := k.nextStream.trans h.nextStream
  stack := h.stack.trans k.stack

end Aside

structure Settled (P : Policy) (rt rt' : RuntimeState S) : Prop where
  slotted : Slotted rt'
  aside : Aside P rt rt'

namespace Settled

theorem refl (hs : Slotted rt) : Settled P rt rt := ⟨hs, .refl _ _⟩

theorem trans (h : Settled P rt rt') (k : Settled P rt' rt'') : Settled P rt rt'' :=
  ⟨k.slotted, h.aside.trans k.aside⟩

end Settled

def Settles (P : Policy) (rt : RuntimeState S) : Outcome (RuntimeState S) → Prop
  | .ok rt' => Settled P rt rt'
  | .error .panic => False
  | .error .hang => True

namespace Settles

theorem ok (h : Settled P rt rt') : Settles P rt (.ok rt') := h

theorem after {o : Outcome (RuntimeState S)} (h : Settled P rt rt') (k : Settles P rt' o) :
    Settles P rt o := by
  match o with
  | .ok _ => exact h.trans k
  | .error .panic => exact k
  | .error .hang => trivial

theorem bind {o : Outcome (RuntimeState S)} {f : RuntimeState S → Outcome (RuntimeState S)}
    (h : Settles P rt o) (hf : ∀ rt', Settled P rt rt' → Settles P rt' (f rt')) :
    Settles P rt (o >>= f) := by
  match o with
  | .ok rt' => exact after h (hf rt' h)
  | .error .panic => exact h
  | .error .hang => trivial

theorem run {α : Type} {f : RuntimeState S → α → Outcome (RuntimeState S)}
    (hf : ∀ rt a, Slotted rt → Settles P rt (f rt a)) (hs : Slotted rt) (as : List α) :
    Settles P rt (Outcome.run f rt as) := by
  induction as generalizing rt with
  | nil => exact ok (.refl hs)
  | cons a as ih => exact (hf rt a hs).bind (fun rt' h => ih h.slotted)

theorem runWith {α : Type} {f : RuntimeState S → α → Outcome (RuntimeState S)}
    {I : RuntimeState S → Prop} {as : List α}
    (hf : ∀ rt a, Slotted rt → I rt → a ∈ as →
      Settles P rt (f rt a) ∧ ∀ rt', f rt a = .ok rt' → I rt')
    (hs : Slotted rt) (hi : I rt) : Settles P rt (Outcome.run f rt as) := by
  induction as generalizing rt with
  | nil => exact ok (.refl hs)
  | cons a as ih =>
      obtain ⟨ha, hk⟩ := hf rt a hs hi (List.mem_cons_self ..)
      simp only [Outcome.run]
      cases hr : f rt a with
      | error fault =>
          rw [hr] at ha
          exact ha
      | ok rt₁ =>
          rw [hr] at ha
          exact after ha (ih (fun rt b hs hi hb => hf rt b hs hi (List.mem_cons_of_mem _ hb))
            (Settled.slotted ha) (hk rt₁ hr))

theorem settled {o : Outcome (RuntimeState S)} (h : Settles P rt o) (ho : o = .ok rt') :
    Settled P rt rt' := by
  subst ho
  exact h

end Settles

namespace RuntimeState

theorem setShared_settled (hs : Slotted rt) {shared : Shared}
    (hx : shared.streams = rt.shared.streams) (hn : shared.nextStream = rt.shared.nextStream) :
    Settled P rt { rt with shared } :=
  ⟨⟨hs.wellFormed, hs.entry, hs.session, hs.dns, hs.apart⟩,
    ⟨rfl, fun _ => rfl, rfl, rfl, rfl, rfl, rfl, rfl, rfl, hx, hn, .refl _ _⟩⟩

theorem reply_settled (hs : Slotted rt) (response : OneshotId) (value : Reply) :
    Settled P rt (rt.reply response value) := by
  simp only [reply]
  split
  · exact .refl hs
  · exact setShared_settled hs rfl rfl

theorem replyAll_settled (hs : Slotted rt) (responses : List OneshotId) (value : Reply) :
    Settled P rt (rt.replyAll responses value) := by
  induction responses generalizing rt with
  | nil => exact .refl hs
  | cons response responses ih =>
      have h := reply_settled (P := P) hs response value
      exact h.trans (ih h.slotted)

theorem setStats_settled (hs : Slotted rt) (stats : ManagerRuntimeStats) :
    Settled P rt (rt.setStats stats) :=
  setShared_settled hs rfl rfl

theorem setStatics_settled (hs : Slotted rt) (statics : Statics) :
    Settled P rt (rt.setStatics statics) :=
  setShared_settled hs rfl rfl

theorem finishReserved_settled (hs : Slotted rt) (reservedSlot : Bool) :
    Settled P rt (rt.finishReserved reservedSlot) := by
  simp only [finishReserved]
  split
  · exact setStats_settled hs _
  · exact .refl hs

theorem setDns_settled (hs : Slotted rt) (queries : Table UInt16 DnsQueryState)
    (groups : Table UInt32 DnsQueryGroup) (cache : DnsCache) :
    Settled P rt { rt with dnsQueries := queries, dnsGroups := groups, dnsCache := cache } :=
  ⟨⟨hs.wellFormed, hs.entry, hs.session, hs.dns, hs.apart⟩,
    ⟨rfl, fun _ => rfl, rfl, rfl, rfl, rfl, rfl, rfl, rfl, rfl, rfl, .refl _ _⟩⟩

theorem setUdpPorts_settled (hs : Slotted rt) (ports : List UInt16) :
    Settled P rt { rt with udpPorts := ports } :=
  ⟨⟨hs.wellFormed, hs.entry, hs.session, hs.dns, hs.apart⟩,
    ⟨rfl, fun _ => rfl, rfl, rfl, rfl, rfl, rfl, rfl, rfl, rfl, rfl, .refl _ _⟩⟩

theorem localAddrDefault_keeps {st st' : NetworkStack S}
    (h4 : st'.localIpv4 = st.localIpv4) (h6 : st'.localIpv6 = st.localIpv6) :
    st'.localAddrDefault = st.localAddrDefault := by
  simp only [NetworkStack.localAddrDefault, h4, h6]

theorem setStack_slotted (hs : Slotted rt) {stack : NetworkStack S}
    (h : NetworkStack.Keeps rt.stack stack) : Slotted { rt with stack } where
  wellFormed := h.wellFormed hs.wellFormed
  entry := fun i => by rw [h.kindAt]; exact hs.entry i
  session := fun port se hse => by
    rw [h.kindAt, localAddrDefault_keeps h.localIpv4 h.localIpv6]
    exact hs.session port se hse
  dns := fun version i hi => by
    obtain ⟨a, port, ha, hk⟩ := hs.dns version i hi
    exact ⟨a, port, ha, by rw [h.kindAt]; exact hk⟩
  apart := hs.apart

theorem setStack_settled (hs : Slotted rt) {stack : NetworkStack S}
    (h : NetworkStack.Keeps rt.stack stack) (hk : NetworkStack.TcpKept P rt.stack stack) :
    Settled P rt { rt with stack } :=
  ⟨setStack_slotted hs h,
    ⟨rfl, fun _ => rfl, rfl, rfl, rfl, rfl, rfl, rfl, rfl, rfl, rfl, hk⟩⟩

theorem refreshRuntimeStats_settled (hs : Slotted rt) (pending : Nat) :
    Settled P rt (rt.refreshRuntimeStats pending) :=
  setStats_settled hs _

theorem opens_kindAt {st st' : NetworkStack S} {handle i : SocketHandle}
    {k k' : Smoltcp.SocketKind} (h : NetworkStack.Opens st st' handle k)
    (hk : st.kindAt i = some k') : st'.kindAt i = some k' := by
  rw [h.kindAt]
  split_ifs with hi
  · rw [hi, h.fresh] at hk
    cases hk
  · exact hk

theorem opens_ne {st st' : NetworkStack S} {handle i : SocketHandle} {k k' : Smoltcp.SocketKind}
    (h : NetworkStack.Opens st st' handle k) (hk : st.kindAt i = some k') : i ≠ handle := by
  intro hi
  rw [hi, h.fresh] at hk
  cases hk

theorem opens_udp_entry (hs : Slotted rt) {stack : NetworkStack S} {handle : SocketHandle}
    {endpoint : Option IpEndpoint}
    (h : NetworkStack.Opens rt.stack stack handle (.udp endpoint)) (i : SocketHandle) :
    rt.sockets.lookup i ≠ none ↔ stack.kindAt i = some .tcp := by
  rw [hs.entry, h.kindAt]
  split_ifs with hi
  · simp [hi, h.fresh]
  · rfl

theorem slot_setSlot (d : DnsSockets) (version version' : IpVersion) (handle : SocketHandle) :
    (d.setSlot version handle).slot version' =
      if version' = version then some handle else d.slot version' := by
  cases version <;> cases version' <;> rfl

theorem openDns_slotted (hs : Slotted rt) {stack : NetworkStack S} {handle : SocketHandle}
    {a : IpAddress} {port : UInt16} {version : IpVersion} (ha : a.version = version)
    (h : NetworkStack.Opens rt.stack stack handle (.udp (some ⟨a, port⟩))) :
    Slotted { rt with stack, dnsSockets := rt.dnsSockets.setSlot version handle } where
  wellFormed := h.wellFormed hs.wellFormed
  entry := opens_udp_entry hs h
  session := fun p se hse => by
    obtain ⟨b, hb, hk⟩ := hs.session p se hse
    exact ⟨b, by rw [localAddrDefault_keeps h.localIpv4 h.localIpv6]; exact hb,
      opens_kindAt h hk⟩
  dns := fun v i hi => by
    dsimp only at hi
    rw [slot_setSlot] at hi
    split_ifs at hi with hv
    · cases hi
      exact ⟨a, port, ha.trans hv.symm, by simp [h.kindAt]⟩
    · obtain ⟨b, p, hb, hk⟩ := hs.dns v i hi
      exact ⟨b, p, hb, opens_kindAt h hk⟩
  apart := fun p se v hse => by
    obtain ⟨b, _, hk⟩ := hs.session p se hse
    dsimp only
    rw [slot_setSlot]
    split_ifs with hv
    · intro he
      exact opens_ne h hk (Option.some.inj he).symm
    · exact hs.apart p se v hse

theorem openSession_slotted (hs : Slotted rt) {stack : NetworkStack S} {a : IpAddress}
    {localPort : UInt16} (se : UdpSessionState) (ha : rt.stack.localAddrDefault = .ok a)
    (h : NetworkStack.Opens rt.stack stack se.handle (.udp (some ⟨a, localPort⟩)))
    (ports : List UInt16) (shared : Shared) :
    Slotted { rt with
      stack
      udpSessions := AList.insert localPort se rt.udpSessions
      udpPorts := ports
      shared } where
  wellFormed := h.wellFormed hs.wellFormed
  entry := opens_udp_entry hs h
  session := fun p se' hse => by
    rw [localAddrDefault_keeps h.localIpv4 h.localIpv6]
    dsimp only at hse
    rw [Table.lookup_insert] at hse
    split_ifs at hse with hp
    · cases hse
      subst hp
      exact ⟨a, ha, by simp [h.kindAt]⟩
    · obtain ⟨b, hb, hk⟩ := hs.session p se' hse
      exact ⟨b, hb, opens_kindAt h hk⟩
  dns := fun v i hi => by
    obtain ⟨b, p, hb, hk⟩ := hs.dns v i hi
    exact ⟨b, p, hb, opens_kindAt h hk⟩
  apart := fun p se' v hse he => by
    obtain ⟨b, q, _, hk⟩ := hs.dns v _ he
    dsimp only at hse
    rw [Table.lookup_insert] at hse
    split_ifs at hse with hp
    · cases hse
      exact opens_ne h hk rfl
    · exact hs.apart p se' v hse he

theorem touchSession_slotted (hs : Slotted rt) {localPort : UInt16} {se : UdpSessionState}
    (se' : UdpSessionState) (hse : rt.udpSessions.lookup localPort = some se)
    (hh : se'.handle = se.handle) :
    Slotted { rt with udpSessions := AList.insert localPort se' rt.udpSessions } where
  wellFormed := hs.wellFormed
  entry := hs.entry
  session := fun p se'' h => by
    dsimp only at h
    rw [Table.lookup_insert] at h
    split_ifs at h with hp
    · cases h
      rw [hp, hh]
      exact hs.session localPort se hse
    · exact hs.session p se'' h
  dns := hs.dns
  apart := fun p se'' v h => by
    dsimp only at h
    rw [Table.lookup_insert] at h
    split_ifs at h with hp
    · cases h
      rw [hh]
      exact hs.apart localPort se v hse
    · exact hs.apart p se'' v h

theorem closeSession_slotted (hs : Slotted rt) {localPort : UInt16} {se : UdpSessionState}
    (hse : rt.udpSessions.lookup localPort = some se) {stack : NetworkStack S}
    (h : NetworkStack.Frees rt.stack stack se.handle) :
    Slotted { rt with stack, udpSessions := AList.erase localPort rt.udpSessions } := by
  obtain ⟨a, _, hk⟩ := hs.session localPort se hse
  have hfree : ∀ i k, rt.stack.kindAt i = some k → i ≠ se.handle → stack.kindAt i = some k := by
    intro i k hi hne
    rw [h.kindAt, if_neg hne]
    exact hi
  refine ⟨h.wellFormed hs.wellFormed, fun i => ?_, fun p se' hp => ?_, fun v i hi => ?_,
    fun p se' v hp => ?_⟩
  · rw [hs.entry, h.kindAt]
    split_ifs with hi
    · simp [hi, hk]
    · rfl
  · dsimp only at hp
    rw [Table.lookup_erase] at hp
    split_ifs at hp with hne
    obtain ⟨b, hb, hk'⟩ := hs.session p se' hp
    refine ⟨b, by rw [localAddrDefault_keeps h.localIpv4 h.localIpv6]; exact hb,
      hfree _ _ hk' (fun he => hne ?_)⟩
    rw [he, hk] at hk'
    cases hk'
    rfl
  · obtain ⟨b, p, hb, hk'⟩ := hs.dns v i hi
    exact ⟨b, p, hb, hfree _ _ hk' (fun he => hs.apart localPort se v hse (he ▸ hi))⟩
  · dsimp only at hp
    rw [Table.lookup_erase] at hp
    split_ifs at hp
    exact hs.apart p se' v hp

theorem setTables_aside {rt : RuntimeState S} {stack : NetworkStack S}
    (hk : NetworkStack.TcpKept P rt.stack stack) (dnsSockets : DnsSockets)
    (udpSessions : Table UInt16 UdpSessionState) (udpPorts : List UInt16) {shared : Shared}
    (hx : shared.streams = rt.shared.streams) (hn : shared.nextStream = rt.shared.nextStream) :
    Aside P rt { rt with stack, dnsSockets, udpSessions, udpPorts, shared } :=
  ⟨rfl, fun _ => rfl, rfl, rfl, rfl, rfl, rfl, rfl, rfl, hx, hn, hk⟩

theorem recordDnsError_settled (hs : Slotted rt) (groupId : UInt32) (queryType : DnsRecordType)
    (e : DnsError) : Settled P rt (rt.recordDnsError groupId queryType e) :=
  setDns_settled hs _ _ _

theorem insertDnsGroup_settled (hs : Slotted rt) (domain : String) (preferIpv6 : Bool)
    (response responseAll : Option OneshotId) :
    Settled P rt (rt.insertDnsGroup domain preferIpv6 response responseAll).2 := by
  have h := setStatics_settled (P := P) hs
    { rt.shared.statics with dnsGroupId := rt.shared.statics.dnsGroupId + 1 }
  exact h.trans (setDns_settled h.slotted _ _ _)

theorem answerOne_settled (hs : Slotted rt) (groupId : UInt32) (group : DnsQueryGroup) :
    Settled P rt (rt.answerOne groupId group) := by
  simp only [answerOne]
  split
  · have h := setDns_settled (P := P) hs rt.dnsQueries
      (AList.insert groupId { group with response := none } rt.dnsGroups) rt.dnsCache
    exact h.trans (reply_settled h.slotted _ _)
  · exact .refl hs

theorem answerAll_settled (hs : Slotted rt) (group : DnsQueryGroup) :
    Settled P rt (rt.answerAll group) := by
  simp only [answerAll]
  split
  · exact .refl hs
  · split <;> exact reply_settled hs _ _

theorem tryResolveDnsGroup_settled (hs : Slotted rt) (groupId : UInt32) :
    Settled P rt (rt.tryResolveDnsGroup groupId) := by
  simp only [tryResolveDnsGroup]
  split
  · exact .refl hs
  · next group _ =>
      have h := answerOne_settled (P := P) hs groupId group
      split
      · have hc : Settled P rt
            (if group.allRecords.isEmpty then rt.answerOne groupId group
            else
              { rt.answerOne groupId group with
                dnsCache := dnsCacheInsert (rt.answerOne groupId group).dnsCache
                  (rt.answerOne groupId group).shared.now group.domain group.allRecords }) := by
          split
          · exact h
          · exact h.trans (setDns_settled h.slotted _ _ _)
        have ha := hc.trans (answerAll_settled hc.slotted group)
        exact ha.trans (setDns_settled ha.slotted _ _ _)
      · exact h

theorem failDnsGroup_settled (hs : Slotted rt) (groupId : UInt32) (e : DnsError) :
    Settled P rt (rt.failDnsGroup groupId e) := by
  have h := recordDnsError_settled (P := P) hs groupId .a e
  have h' := h.trans (recordDnsError_settled h.slotted groupId .aaaa e)
  exact h'.trans (tryResolveDnsGroup_settled h'.slotted groupId)

theorem buildUniqueDnsQuery_settled (H : Hickory) (hs : Slotted rt) (domain : String)
    (recordType : DnsRecordType) (tries : Nat) :
    Settled P rt (rt.buildUniqueDnsQuery H domain recordType tries).2 := by
  obtain ⟨statics, hstatics⟩ := buildUniqueDnsQuery_statics H rt domain recordType tries
  rw [hstatics]
  exact setStatics_settled hs statics

theorem selectDnsServer_settled (hs : Slotted rt) (dnsServers : List IpAddress)
    (preferIpv6 : Bool) : Settled P rt (rt.selectDnsServer dnsServers preferIpv6).2 := by
  cases dnsServers with
  | nil => exact .refl hs
  | cons first rest => exact setStatics_settled hs _

theorem expireDnsGroup_settled (hs : Slotted rt) (groupId : UInt32) :
    Settled P rt (rt.expireDnsGroup groupId) := by
  simp only [expireDnsGroup]
  split
  · exact .refl hs
  · next group _ =>
      have h := setDns_settled (P := P) hs
        (Table.retain (fun _ q => q.groupId ≠ groupId) rt.dnsQueries)
        (AList.erase groupId rt.dnsGroups) rt.dnsCache
      have h' := h.trans (replyAll_settled h.slotted group.response.toList
        (.resolved (.error (.dns .timeout))))
      exact h'.trans (replyAll_settled h'.slotted _ _)

theorem expireDnsGroups_settled (hs : Slotted rt) : Settled P rt rt.expireDnsGroups := by
  suffices h : ∀ (ids : List UInt32) (rt : RuntimeState S), Slotted rt →
      Settled P rt (ids.foldl expireDnsGroup rt) from h _ _ hs
  intro ids
  induction ids with
  | nil => exact fun _ hs => .refl hs
  | cons id ids ih =>
      intro rt hs
      have h := expireDnsGroup_settled (P := P) hs id
      exact h.trans (ih _ h.slotted)

theorem handleCommandDisconnected_settled (hs : Slotted rt) (cmd : ManagerCommand) :
    Settled P rt (rt.handleCommandDisconnected cmd) := by
  cases cmd with
  | connect _ _ _ reservedSlot response =>
      have h := finishReserved_settled (P := P) hs reservedSlot
      exact h.trans (reply_settled h.slotted _ _)
  | close _ _ => exact .refl hs
  | udpUnregister _ => exact .refl hs
  | _ => exact reply_settled hs _ _

def opensSession (rt : RuntimeState S) (localPort : UInt16) : Bool :=
  (rt.stack.createUdpSocketDefault localPort).isOk

def needsDnsSocket (rt : RuntimeState S) (server : IpAddress) : Bool :=
  (rt.dnsSockets.slot server.version).isNone &&
    (rt.stack.createUdpSocketFor (getDnsLocalPort rt.shared.statics).1 server).isOk

def opensDnsSocket (rt : RuntimeState S) (dnsServers : List IpAddress) (preferIpv6 : Bool) :
    Bool :=
  let (server, rt) := rt.selectDnsServer dnsServers preferIpv6
  rt.needsDnsSocket server

theorem selectDnsServer_stack (rt : RuntimeState S) (dnsServers : List IpAddress)
    (preferIpv6 : Bool) : (rt.selectDnsServer dnsServers preferIpv6).2.stack = rt.stack := by
  cases dnsServers <;> rfl

theorem insertDnsGroup_opensDnsSocket (rt : RuntimeState S) (domain : String)
    (preferGroup : Bool) (response responseAll : Option OneshotId) (dnsServers : List IpAddress)
    (preferIpv6 : Bool) :
    (rt.insertDnsGroup domain preferGroup response responseAll).2.opensDnsSocket dnsServers
      preferIpv6 = rt.opensDnsSocket dnsServers preferIpv6 := by
  cases dnsServers <;> rfl

variable (hS : S.KeepsSockets) (hP : ∀ c : StackCall, c.matched → P.call c)

include hS in
theorem ensureSocket_settled (hs : Slotted rt) (server : IpAddress)
    (hf : rt.needsDnsSocket server → P.udp rt.stack.sockets.lowestFree) :
    Settled P rt (rt.ensureSocket server).2 ∧
      ∀ handle, (rt.ensureSocket server).1 = .ok handle →
        (rt.ensureSocket server).2.dnsSockets.slot server.version = some handle := by
  simp only [ensureSocket]
  split
  · next handle hslot =>
      refine ⟨.refl hs, fun h hh => ?_⟩
      cases hh
      exact hslot
  · next hnone =>
    have hst := setStatics_settled (P := P) hs (getDnsLocalPort rt.shared.statics).2
    split
    · exact ⟨hst, fun h hh => by cases hh⟩
    · next handle stack hc =>
        have hneed : rt.needsDnsSocket server = true := by
          have hc' : rt.stack.createUdpSocketFor (getDnsLocalPort rt.shared.statics).1 server =
              .ok (handle, stack) := hc
          simp only [needsDnsSocket, hnone, hc', Option.isNone_none, Except.isOk, Except.toBool,
            Bool.and_self]
        obtain ⟨a, ha, ho⟩ := NetworkStack.createUdpSocketFor_opens hS hc
        have hv := NetworkStack.localAddrForRemote_version ha
        have hkept : NetworkStack.TcpKept P
            (rt.setStatics (getDnsLocalPort rt.shared.statics).2).stack stack :=
          NetworkStack.createUdpSocketFor_kept hS (hf hneed) hc
        refine ⟨⟨openDns_slotted hst.slotted hv ho, ?_⟩, fun h hh => ?_⟩
        · exact hst.aside.trans (setTables_aside hkept _ _ _ rfl rfl)
        · cases hh
          simp [slot_setSlot]

theorem hasUdp_dns (hs : Slotted rt) {version : IpVersion} {handle : SocketHandle}
    (h : rt.dnsSockets.slot version = some handle) :
    ∃ u a port, rt.stack.HasUdp handle u ∧ S.udpEndpoint u = some ⟨a, port⟩ ∧
      a.version = version := by
  obtain ⟨a, port, ha, hk⟩ := hs.dns version handle h
  obtain ⟨u, hu, he⟩ := NetworkStack.hasUdp_of_kindAt hs.wellFormed hk
  exact ⟨u, a, port, hu, he, ha⟩

theorem hasUdp_session (hs : Slotted rt) {port : UInt16} {se : UdpSessionState}
    (h : rt.udpSessions.lookup port = some se) :
    ∃ u a, rt.stack.HasUdp se.handle u ∧ S.udpEndpoint u = some ⟨a, port⟩ ∧
      rt.stack.localAddrDefault = .ok a := by
  obtain ⟨a, ha, hk⟩ := hs.session port se h
  obtain ⟨u, hu, he⟩ := NetworkStack.hasUdp_of_kindAt hs.wellFormed hk
  exact ⟨u, a, hu, he, ha⟩

@[simp] theorem reply_dnsSockets (rt : RuntimeState S) (response : OneshotId) (value : Reply) :
    (rt.reply response value).dnsSockets = rt.dnsSockets := by
  simp only [reply]
  split <;> rfl

@[simp] theorem answerOne_dnsSockets (rt : RuntimeState S) (groupId : UInt32)
    (group : DnsQueryGroup) : (rt.answerOne groupId group).dnsSockets = rt.dnsSockets := by
  simp only [answerOne]
  split
  · rw [reply_dnsSockets]
  · rfl

@[simp] theorem answerAll_dnsSockets (rt : RuntimeState S) (group : DnsQueryGroup) :
    (rt.answerAll group).dnsSockets = rt.dnsSockets := by
  simp only [answerAll]
  split
  · rfl
  · split <;> rw [reply_dnsSockets]

@[simp] theorem tryResolveDnsGroup_dnsSockets (rt : RuntimeState S) (groupId : UInt32) :
    (rt.tryResolveDnsGroup groupId).dnsSockets = rt.dnsSockets := by
  simp only [tryResolveDnsGroup]
  split
  · rfl
  · split
    · rw [answerAll_dnsSockets]
      split <;> exact answerOne_dnsSockets _ _ _
    · exact answerOne_dnsSockets _ _ _

theorem buildUniqueDnsQuery_dnsSockets (H : Hickory) (rt : RuntimeState S) (domain : String)
    (recordType : DnsRecordType) (tries : Nat) :
    (rt.buildUniqueDnsQuery H domain recordType tries).2.dnsSockets = rt.dnsSockets := by
  obtain ⟨statics, hstatics⟩ := buildUniqueDnsQuery_statics H rt domain recordType tries
  rw [hstatics]
  rfl

include hS hP in
theorem dispatchDnsQuery_settles (H : Hickory) (hs : Slotted rt) (groupId : UInt32)
    (domain : String) {dnsHandle : SocketHandle} {dnsServer : IpAddress}
    (hd : rt.dnsSockets.slot dnsServer.version = some dnsHandle) (queryType : DnsRecordType)
    (logLabel : String) :
    Settles P rt
        (rt.dispatchDnsQuery H groupId domain dnsHandle dnsServer queryType logLabel) ∧
      ∀ rt', rt.dispatchDnsQuery H groupId domain dnsHandle dnsServer queryType logLabel = .ok rt' →
        rt'.dnsSockets = rt.dnsSockets := by
  have hb := buildUniqueDnsQuery_settled (P := P) H hs domain queryType 65536
  have hbd := buildUniqueDnsQuery_dnsSockets H rt domain queryType 65536
  simp only [dispatchDnsQuery]
  split
  · next e rt₁ he =>
      rw [he] at hb hbd
      have hr := hb.trans (recordDnsError_settled hb.slotted groupId queryType e)
      refine ⟨.ok (hr.trans (tryResolveDnsGroup_settled hr.slotted groupId)), fun rt' h => ?_⟩
      cases h
      rw [tryResolveDnsGroup_dnsSockets]
      exact hbd
  · next txId packet rt₁ he =>
      rw [he] at hb hbd
      dsimp only at hb hbd
      rw [← hbd] at hd
      obtain ⟨u, a, port, hu, hep, ha⟩ := hasUdp_dns hb.slotted hd
      obtain ⟨sent, stack, hsend⟩ := hu.udpSend dnsServer dnsPort packet
      have hm : P.call (.udpSend dnsHandle (S.udpEndpoint u) dnsServer) :=
        hP _ (by simp [StackCall.matched, hep, ha])
      have hst := hb.trans (setStack_settled hb.slotted (NetworkStack.udpSend_keeps hS hsend)
        (NetworkStack.udpSend_kept hS hu hm hsend))
      rw [hsend, Outcome.ok_bind]
      dsimp only
      split
      · refine ⟨.ok (hst.trans (setDns_settled hst.slotted _ _ _)), fun rt' h => ?_⟩
        cases h
        exact hbd
      · have hr := hst.trans (recordDnsError_settled hst.slotted groupId queryType
          (.socketError ("DNS " ++ logLabel ++ " send failed")))
        refine ⟨.ok (hr.trans (tryResolveDnsGroup_settled hr.slotted groupId)), fun rt' h => ?_⟩
        cases h
        rw [tryResolveDnsGroup_dnsSockets]
        exact hbd

include hS hP in
theorem startDnsQueriesForGroup_settles (H : Hickory) (hs : Slotted rt) (groupId : UInt32)
    (domain : String) {dnsServer : IpAddress} {dnsHandle : SocketHandle}
    (hd : rt.dnsSockets.slot dnsServer.version = some dnsHandle) (resolveAll : Bool) :
    Settles P rt
      (rt.startDnsQueriesForGroup H groupId domain dnsServer dnsHandle resolveAll) := by
  obtain ⟨ha, hda⟩ := dispatchDnsQuery_settles hS hP H hs groupId domain hd .a
    (logLabelOf resolveAll .a)
  simp only [startDnsQueriesForGroup, Outcome.run]
  cases hr : rt.dispatchDnsQuery H groupId domain dnsHandle dnsServer .a
      (logLabelOf resolveAll .a) with
  | error fault =>
      rw [hr] at ha
      exact ha
  | ok rt₁ =>
      have h₁ : Settled P rt rt₁ := ha.settled hr
      rw [← hda rt₁ hr] at hd
      rw [Outcome.ok_bind]
      have h₂ := (dispatchDnsQuery_settles hS hP H h₁.slotted groupId domain hd .aaaa
        (logLabelOf resolveAll .aaaa)).1
      exact .after h₁ (h₂.bind (fun rt₂ h => .ok (.refl h.slotted)))

include hS hP in
theorem startDnsQueryFor_settles (H : Hickory) (hs : Slotted rt) (domain : String)
    (preferIpv6 resolveAll : Bool) (response responseAll : Option OneshotId)
    (dnsServers : List IpAddress)
    (hf : rt.opensDnsSocket dnsServers preferIpv6 → P.udp rt.stack.sockets.lowestFree) :
    Settles P rt
      (rt.startDnsQueryFor H domain preferIpv6 resolveAll response responseAll dnsServers) := by
  have hi := insertDnsGroup_settled (P := P) hs domain preferIpv6 response responseAll
  have hd := hi.trans (selectDnsServer_settled hi.slotted dnsServers preferIpv6)
  have hopens := insertDnsGroup_opensDnsSocket rt domain preferIpv6 response responseAll
    dnsServers preferIpv6
  have hstack := selectDnsServer_stack (rt.insertDnsGroup domain preferIpv6 response responseAll).2
    dnsServers preferIpv6
  obtain ⟨hk, hslot⟩ := ensureSocket_settled (P := P) hS hd.slotted
    ((rt.insertDnsGroup domain preferIpv6 response responseAll).2.selectDnsServer dnsServers
      preferIpv6).1 (fun hneed => by
        rw [hstack]
        exact hf (hopens.symm.trans hneed))
  simp only [startDnsQueryFor]
  split
  · next e rt₁ he =>
      rw [he] at hk
      have h := hd.trans hk
      exact .ok (h.trans (failDnsGroup_settled h.slotted _ _))
  · next handle rt₁ he =>
      rw [he] at hk hslot
      have h := hd.trans hk
      exact .after h (startDnsQueriesForGroup_settles hS hP H h.slotted _ _ (hslot handle rfl) _)

include hS in
theorem registerUdpSession_settled (hs : Slotted rt) (localPort : UInt16) (response : OneshotId)
    (hf : rt.opensSession localPort → P.udp rt.stack.sockets.lowestFree) :
    Settled P rt (rt.registerUdpSession localPort response) := by
  simp only [registerUdpSession]
  split
  · exact reply_settled hs _ _
  · next handle stack hc =>
      obtain ⟨a, ha, ho⟩ := NetworkStack.createUdpSocketDefault_opens hS hc
      have hopen : rt.opensSession localPort = true := by
        simp only [opensSession, hc, Except.isOk, Except.toBool]
      have h : Settled P rt _ :=
        ⟨openSession_slotted hs ⟨handle, rt.shared.nextChannel, rt.shared.now⟩ ha ho
            (rt.udpPorts ++ [localPort])
            { rt.shared with
              nextChannel := rt.shared.nextChannel + 1
              udpChannels := Function.update rt.shared.udpChannels rt.shared.nextChannel
                ⟨[], decide (response ∈ rt.shared.closedReceivers)⟩ },
          setTables_aside (NetworkStack.createUdpSocketDefault_kept hS (hf hopen) hc) _ _ _ rfl rfl⟩
      exact h.trans (reply_settled h.slotted _ _)

def sendMatched (rt : RuntimeState S) (cmd : UdpSend) : Prop :=
  ∀ se a, rt.udpSessions.lookup cmd.localPort = some se → rt.stack.localAddrDefault = .ok a →
    a.version = cmd.remoteIp.version

include hS in
theorem handleUdpSend_settles (hs : Slotted rt) (cmd : UdpSend)
    (hp : ∀ se a, rt.udpSessions.lookup cmd.localPort = some se →
      rt.stack.localAddrDefault = .ok a →
      P.call (.udpSend se.handle (some ⟨a, cmd.localPort⟩) cmd.remoteIp)) :
    Settles P rt (rt.handleUdpSend cmd) := by
  simp only [handleUdpSend, sendUdpData]
  split
  · exact .ok (.refl hs)
  · next se hse =>
      obtain ⟨u, a, hu, hep, ha⟩ := hasUdp_session hs hse
      obtain ⟨r, stack, hsend⟩ := hu.udpSend cmd.remoteIp cmd.remotePort cmd.data
      rw [hsend, Outcome.ok_bind]
      have hk := setStack_settled hs (NetworkStack.udpSend_keeps hS hsend)
        (NetworkStack.udpSend_kept hS hu (hep ▸ hp se a hse ha) hsend)
      have ht := touchSession_slotted hk.slotted { se with lastActivity := rt.shared.now } hse rfl
      exact .ok ⟨ht, setTables_aside (NetworkStack.udpSend_kept hS hu (hep ▸ hp se a hse ha) hsend)
        _ _ _ rfl rfl⟩

theorem closeUdpSession_settles (hf : P.free) (hs : Slotted rt) (localPort : UInt16) :
    Settles P rt (rt.closeUdpSession localPort) := by
  simp only [closeUdpSession]
  split
  · exact .ok (.refl hs)
  · next se hse =>
      obtain ⟨a, _, hk⟩ := hs.session localPort se hse
      obtain ⟨stack, hr⟩ := NetworkStack.removeSocket_total hs.wellFormed se.handle
      rw [hr, Outcome.ok_bind]
      exact .ok ⟨closeSession_slotted hs hse (NetworkStack.removeSocket_frees hs.wellFormed hr),
        setTables_aside (NetworkStack.removeSocket_kept hf hs.wellFormed
          (NetworkStack.not_hasTcp_of_kindAt hk (by simp)) hr) _ _ _ rfl rfl⟩

theorem unregisterUdpSession_settles (hf : P.free) (hs : Slotted rt) (localPort : UInt16) :
    Settles P rt (rt.unregisterUdpSession localPort) :=
  (closeUdpSession_settles hf hs localPort).bind (fun _ h => .ok (setUdpPorts_settled h.slotted _))

theorem expireUdpSessions_settles (hf : P.free) (hs : Slotted rt) :
    Settles P rt rt.expireUdpSessions :=
  (Settles.run (fun _ port hs => closeUdpSession_settles hf hs port) hs _).bind
    (fun _ h => .ok (setUdpPorts_settled h.slotted _))

theorem acceptDnsResponse_settled (H : Hickory) (hs : Slotted rt) (data : List UInt8) :
    Settled P rt (rt.acceptDnsResponse H data) := by
  simp only [acceptDnsResponse]
  split
  · exact .refl hs
  · next transactionId result _ =>
      split
      · exact .refl hs
      · next query _ =>
          have h := setDns_settled (P := P) hs (AList.erase transactionId rt.dnsQueries)
            (Table.modify query.groupId (fun g => g.record query.queryType result) rt.dnsGroups)
            rt.dnsCache
          exact h.trans (tryResolveDnsGroup_settled h.slotted _)

theorem acceptDnsResponse_dnsSockets (H : Hickory) (rt : RuntimeState S) (data : List UInt8) :
    (rt.acceptDnsResponse H data).dnsSockets = rt.dnsSockets := by
  simp only [acceptDnsResponse]
  split
  · rfl
  · split
    · rfl
    · rw [tryResolveDnsGroup_dnsSockets]

include hS in
theorem receiveDnsResponses_settles (H : Hickory) (hs : Slotted rt) {version : IpVersion}
    {handle : SocketHandle} (hd : rt.dnsSockets.slot version = some handle) (fuel : Nat) :
    Settles P rt (receiveDnsResponses H handle fuel rt) ∧
      ∀ rt', receiveDnsResponses H handle fuel rt = .ok rt' → rt'.dnsSockets = rt.dnsSockets := by
  induction fuel generalizing rt with
  | zero => exact ⟨trivial, fun rt' h => by cases h⟩
  | succ fuel ih =>
      obtain ⟨u, a, port, hu, _, _⟩ := hasUdp_dns hs hd
      obtain ⟨received, stack, hrecv⟩ := hu.udpRecv 4096
      have hst := setStack_settled (P := P) hs (NetworkStack.udpRecv_keeps hS hrecv)
        (NetworkStack.udpRecv_kept hS hrecv)
      simp only [receiveDnsResponses, hu.udpCanRecv, Outcome.ok_bind]
      split
      · exact ⟨.ok (.refl hs), fun rt' h => by cases h; rfl⟩
      · rw [hrecv, Outcome.ok_bind]
        dsimp only
        split
        · exact ⟨.ok hst, fun rt' h => by cases h; rfl⟩
        · next data remote =>
            split
            · obtain ⟨hk, hkd⟩ := ih hst.slotted hd
              exact ⟨.after hst hk, hkd⟩
            · have ha := hst.trans (acceptDnsResponse_settled H hst.slotted data)
              have had := acceptDnsResponse_dnsSockets H { rt with stack } data
              obtain ⟨hk, hkd⟩ := ih ha.slotted (had.symm ▸ hd)
              exact ⟨.after ha hk, fun rt' h => (hkd rt' h).trans had⟩

theorem slot_of_mem_handles {d : DnsSockets} {handle : SocketHandle} (h : handle ∈ d.handles) :
    ∃ version, d.slot version = some handle := by
  rcases List.mem_append.mp h with h | h
  · exact ⟨.ipv4, Option.mem_toList.mp h⟩
  · exact ⟨.ipv6, Option.mem_toList.mp h⟩

include hS in
theorem processDnsResponses_settles (H : Hickory) (hs : Slotted rt) :
    Settles P rt (rt.processDnsResponses H) := by
  refine .runWith (I := fun rt' => rt'.dnsSockets = rt.dnsSockets) (fun rt' handle hs hi hm => ?_)
    hs rfl
  obtain ⟨version, hd⟩ := slot_of_mem_handles hm
  obtain ⟨h, hk⟩ := receiveDnsResponses_settles (P := P) hS H hs (hi ▸ hd)
    (rt'.stack.tunables.udpSocketMetadataCapacity + 1)
  exact ⟨h, fun rt'' hr => (hk rt'' hr).trans hi⟩

theorem deliverUdp_settled (hs : Slotted rt) {localPort : UInt16} {se : UdpSessionState}
    (hse : rt.udpSessions.lookup localPort = some se) (data : List UInt8) (remote : IpEndpoint) :
    Settled P rt (rt.deliverUdp localPort se data remote) := by
  have ht := touchSession_slotted hs { se with lastActivity := rt.shared.now } hse rfl
  exact ⟨⟨ht.wellFormed, ht.entry, ht.session, ht.dns, ht.apart⟩,
    setTables_aside (.refl _ _) _ _ _ rfl rfl⟩

include hS in
theorem processUdpResponse_settles (hs : Slotted rt) (localPort : UInt16) :
    Settles P rt (rt.processUdpResponse localPort) := by
  simp only [processUdpResponse]
  split
  · exact .ok (.refl hs)
  · next se hse =>
      obtain ⟨u, a, hu, _, _⟩ := hasUdp_session hs hse
      obtain ⟨received, stack, hrecv⟩ := hu.udpRecv rt.tunables.udpRecvBufferSize
      have hst := setStack_settled (P := P) hs (NetworkStack.udpRecv_keeps hS hrecv)
        (NetworkStack.udpRecv_kept hS hrecv)
      rw [hu.udpCanRecv, Outcome.ok_bind]
      split
      · exact .ok (.refl hs)
      · rw [hrecv, Outcome.ok_bind]
        dsimp only
        split
        · exact .ok hst
        · split
          · exact .ok hst
          · exact .ok (hst.trans (deliverUdp_settled hst.slotted hse _ _))

include hS in
theorem processUdpResponses_settles (hs : Slotted rt) : Settles P rt rt.processUdpResponses :=
  .run (fun _ port hs => processUdpResponse_settles hS hs port) hs _

end RuntimeState

end Usque
