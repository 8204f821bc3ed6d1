import Usque.Manager.DnsForms
import Usque.Manager.Handles

namespace Usque

-- What the manager keeps of its UDP sockets: where each is bound, and which one each port's
-- session and each family's DNS queries use.
structure UdpTable where
  bound : SocketHandle → Option (Option IpEndpoint)
  sessions : UInt16 → Option (SocketHandle × ChannelId)
  ports : List UInt16
  dns : IpVersion → Option SocketHandle
  nextChannel : ChannelId

inductive UdpOp where
  | rest
  | register (handle : SocketHandle) (endpoint : IpEndpoint)
  | dns (handle : SocketHandle) (endpoint : IpEndpoint)
  | close (ports : List UInt16)
  | reset

def UdpOp.binds : UdpOp → Option (SocketHandle × IpEndpoint)
  | .register handle endpoint | .dns handle endpoint => some (handle, endpoint)
  | _ => none

namespace UdpTable

def holds (t : UdpTable) (port : UInt16) (handle : SocketHandle) : Prop :=
  (t.sessions port).map Prod.fst = some handle

instance (t : UdpTable) (port : UInt16) (handle : SocketHandle) : Decidable (t.holds port handle) :=
  inferInstanceAs (Decidable (_ = _))

def cleared (t : UdpTable) (ports : List UInt16) : UdpTable :=
  { t with
    bound := fun h => if ∃ p ∈ ports, t.holds p h then none else t.bound h
    sessions := fun p => if p ∈ ports then none else t.sessions p }

def apply (t : UdpTable) : UdpOp → UdpTable
  | .rest => t
  | .register handle endpoint =>
      { bound := Function.update t.bound handle (some (some endpoint))
        sessions := Function.update t.sessions endpoint.port (some (handle, t.nextChannel))
        ports := t.ports ++ [endpoint.port]
        dns := t.dns
        nextChannel := t.nextChannel + 1 }
  | .dns handle endpoint =>
      { t with
        bound := Function.update t.bound handle (some (some endpoint))
        dns := Function.update t.dns endpoint.addr.version (some handle) }
  | .close ports => { t.cleared ports with ports := t.ports.filter (· ∉ ports) }
  | .reset => ⟨fun _ => none, fun _ => none, [], fun _ => none, t.nextChannel⟩

@[ext] theorem ext {t u : UdpTable} (hb : ∀ h, t.bound h = u.bound h)
    (hs : ∀ p, t.sessions p = u.sessions p) (hp : t.ports = u.ports)
    (hd : ∀ v, t.dns v = u.dns v) (hn : t.nextChannel = u.nextChannel) : t = u := by
  cases t
  cases u
  simp only [mk.injEq]
  exact ⟨funext hb, funext hs, hp, funext hd, hn⟩

theorem cleared_holds (t : UdpTable) (ports : List UInt16) (p : UInt16) (h : SocketHandle) :
    (t.cleared ports).holds p h ↔ p ∉ ports ∧ t.holds p h := by
  simp only [holds, cleared]
  split_ifs with hp <;> simp [hp]

theorem cleared_nil (t : UdpTable) : t.cleared [] = t := by
  ext <;> simp [cleared]

theorem cleared_cons (t : UdpTable) (p : UInt16) (ports : List UInt16) :
    (t.cleared [p]).cleared ports = t.cleared (p :: ports) := by
  apply ext
  · intro h
    have hone : (∃ q ∈ [p], t.holds q h) ↔ t.holds p h := by simp
    have hrest : (∃ q ∈ ports, (t.cleared [p]).holds q h) ↔
        ∃ q ∈ ports, q ≠ p ∧ t.holds q h := by
      simp [cleared_holds]
    show (if ∃ q ∈ ports, (t.cleared [p]).holds q h then none
      else if ∃ q ∈ [p], t.holds q h then none else t.bound h) =
        if ∃ q ∈ p :: ports, t.holds q h then none else t.bound h
    rw [if_congr hrest rfl rfl, if_congr hone rfl rfl]
    by_cases hp : t.holds p h
    · have hall : ∃ q ∈ p :: ports, t.holds q h := ⟨p, List.mem_cons_self .., hp⟩
      rw [if_pos hp, if_pos hall, ite_self]
    · rw [if_neg hp]
      refine if_congr ⟨?_, ?_⟩ rfl rfl
      · rintro ⟨q, hq, _, hh⟩
        exact ⟨q, List.mem_cons_of_mem _ hq, hh⟩
      · rintro ⟨q, hq, hh⟩
        have hne : q ≠ p := fun he => hp (he ▸ hh)
        exact ⟨q, (List.mem_cons.mp hq).resolve_left hne, hne, hh⟩
  · intro q
    show (if q ∈ ports then none else if q ∈ [p] then none else t.sessions q) =
      if q ∈ p :: ports then none else t.sessions q
    by_cases hq : q = p <;> by_cases hm : q ∈ ports <;> simp [hq, hm]
  · rfl
  · exact fun _ => rfl
  · rfl

-- Every socket has an owner, and the list of ports is the list of sessions.
structure Exact (t : UdpTable) : Prop where
  nodup : t.ports.Nodup
  keys : ∀ p, p ∈ t.ports ↔ t.sessions p ≠ none
  live : ∀ p h, t.holds p h → ∃ a, t.bound h = some (some ⟨a, p⟩)
  dnsLive : ∀ v h, t.dns v = some h → t.bound h ≠ none
  apart : ∀ p h v, t.holds p h → t.dns v ≠ some h
  owned : ∀ h, t.bound h ≠ none → (∃ v, t.dns v = some h) ∨ ∃ p, t.holds p h

structure Distinct (t : UdpTable) : Prop where
  named : ∀ h, t.bound h ≠ some none
  apart : ∀ h h' e, t.bound h = some (some e) → t.bound h' = some (some e) → h = h'

def fresh (t : UdpTable) (op : UdpOp) : Prop :=
  ∀ h e, op.binds = some (h, e) → t.bound h = none

def unregistered (t : UdpTable) : UdpOp → Prop
  | .register _ e => t.sessions e.port = none
  | .dns _ e => t.dns e.addr.version = none
  | _ => True

def unbound (t : UdpTable) (op : UdpOp) : Prop :=
  ∀ h e, op.binds = some (h, e) → ∀ i, t.bound i ≠ some (some e)

variable {t : UdpTable}

theorem Distinct.bind (ht : Distinct t) {handle : SocketHandle} {e : IpEndpoint}
    (hu : ∀ i, t.bound i ≠ some (some e)) {u : UdpTable}
    (hb : u.bound = Function.update t.bound handle (some (some e))) : Distinct u := by
  constructor
  · intro h
    rw [hb, Function.update_apply]
    split_ifs
    · simp
    · exact ht.named h
  · intro h h' e' hh hh'
    rw [hb, Function.update_apply] at hh hh'
    split_ifs at hh hh' with hi hi' hi'
    · rw [hi, hi']
    · cases hh
      exact absurd hh' (hu h')
    · cases hh'
      exact absurd hh (hu h)
    · exact ht.apart h h' e' hh hh'

theorem Distinct.apply (ht : Distinct t) {op : UdpOp} (hu : t.unbound op) :
    Distinct (t.apply op) := by
  cases op with
  | rest => exact ht
  | register handle e => exact ht.bind (hu handle e rfl) rfl
  | dns handle e => exact ht.bind (hu handle e rfl) rfl
  | close ports =>
      have hle : ∀ h b, (t.apply (.close ports)).bound h = some b → t.bound h = some b := by
        intro h b hb
        simp only [UdpTable.apply, cleared] at hb
        split_ifs at hb
        exact hb
      exact ⟨fun h hn => ht.named h (hle h _ hn),
        fun h h' e hh hh' => ht.apart h h' e (hle h _ hh) (hle h' _ hh')⟩
  | reset => exact ⟨fun h => by simp [UdpTable.apply], fun h h' e hh => by simp [UdpTable.apply] at hh⟩

theorem holds_register {p : UInt16} {h handle : SocketHandle} {e : IpEndpoint} :
    (t.apply (.register handle e)).holds p h ↔
      if p = e.port then h = handle else t.holds p h := by
  simp only [holds, UdpTable.apply, Function.update_apply]
  split_ifs with hp
  · simp [eq_comm]
  · rfl

theorem Exact.register (ht : Exact t) {handle : SocketHandle} {e : IpEndpoint}
    (hf : t.bound handle = none) (hu : t.sessions e.port = none) :
    Exact (t.apply (.register handle e)) where
  nodup := by
    refine List.nodup_append.mpr ⟨ht.nodup, List.nodup_singleton _, fun p hp q hq he => ?_⟩
    rw [List.mem_singleton.mp hq] at he
    exact (ht.keys p).mp hp (he ▸ hu)
  keys := fun p => by
    simp only [UdpTable.apply, List.mem_append, List.mem_singleton, Function.update_apply, ht.keys]
    split_ifs with hp <;> simp [hp]
  live := fun p h hh => by
    rw [holds_register] at hh
    simp only [UdpTable.apply, Function.update_apply]
    split_ifs at hh with hp
    · rw [if_pos hh, hp]
      exact ⟨e.addr, rfl⟩
    · obtain ⟨a, ha⟩ := ht.live p h hh
      rw [if_neg (fun hi => by rw [hi, hf] at ha; cases ha)]
      exact ⟨a, ha⟩
  dnsLive := fun v h hd => by
    have hl := ht.dnsLive v h hd
    simp only [UdpTable.apply, Function.update_apply]
    split_ifs
    · simp
    · exact hl
  apart := fun p h v hh hd => by
    rw [holds_register] at hh
    split_ifs at hh with hp
    · exact ht.dnsLive v h hd (hh ▸ hf)
    · exact ht.apart p h v hh hd
  owned := fun h hb => by
    simp only [UdpTable.apply, Function.update_apply] at hb
    split_ifs at hb with hi
    · exact .inr ⟨e.port, holds_register.mpr (by rw [if_pos rfl]; exact hi)⟩
    · rcases ht.owned h hb with hd | ⟨p, hp⟩
      · exact .inl hd
      · refine .inr ⟨p, holds_register.mpr ?_⟩
        rw [if_neg (fun he => by rw [holds, he, hu] at hp; cases hp)]
        exact hp

theorem Exact.dns (ht : Exact t) {handle : SocketHandle} {e : IpEndpoint}
    (hf : t.bound handle = none) (hu : t.dns e.addr.version = none) :
    Exact (t.apply (.dns handle e)) where
  nodup := ht.nodup
  keys := ht.keys
  live := fun p h hh => by
    obtain ⟨a, ha⟩ := ht.live p h hh
    simp only [UdpTable.apply, Function.update_apply]
    rw [if_neg (fun hi => by rw [hi, hf] at ha; cases ha)]
    exact ⟨a, ha⟩
  dnsLive := fun v h hd => by
    simp only [UdpTable.apply, Function.update_apply] at hd ⊢
    split_ifs at hd with hv
    · cases hd
      simp
    · split_ifs
      · simp
      · exact ht.dnsLive v h hd
  apart := fun p h v hh hd => by
    obtain ⟨a, ha⟩ := ht.live p h hh
    simp only [UdpTable.apply, Function.update_apply] at hd
    split_ifs at hd with hv
    · cases hd
      rw [hf] at ha
      cases ha
    · exact ht.apart p h v hh hd
  owned := fun h hb => by
    simp only [UdpTable.apply, Function.update_apply] at hb
    split_ifs at hb with hi
    · exact .inl ⟨e.addr.version, by simp [UdpTable.apply, hi]⟩
    · rcases ht.owned h hb with ⟨v, hv⟩ | hp
      · refine .inl ⟨v, ?_⟩
        simp only [UdpTable.apply, Function.update_apply]
        rw [if_neg (fun he => by rw [he, hu] at hv; cases hv)]
        exact hv
      · exact .inr hp

theorem Exact.close (ht : Exact t) (ports : List UInt16) : Exact (t.apply (.close ports)) where
  nodup := ht.nodup.filter _
  keys := fun p => by
    simp only [UdpTable.apply, cleared, List.mem_filter, ht.keys, decide_eq_true_eq]
    split_ifs with hp <;> simp [hp]
  live := fun p h hh => by
    obtain ⟨hp, hh⟩ := (cleared_holds t ports p h).mp hh
    obtain ⟨a, ha⟩ := ht.live p h hh
    refine ⟨a, ?_⟩
    simp only [UdpTable.apply, cleared]
    rw [if_neg]
    · exact ha
    · rintro ⟨q, hq, hqh⟩
      obtain ⟨b, hb⟩ := ht.live q h hqh
      rw [ha] at hb
      cases hb
      exact hp hq
  dnsLive := fun v h hd => by
    simp only [UdpTable.apply, cleared]
    rw [if_neg (fun ⟨q, _, hqh⟩ => ht.apart q h v hqh hd)]
    exact ht.dnsLive v h hd
  apart := fun p h v hh => ht.apart p h v ((cleared_holds t ports p h).mp hh).2
  owned := fun h hb => by
    simp only [UdpTable.apply, cleared] at hb
    split_ifs at hb with hc
    · exact absurd rfl hb
    · rcases ht.owned h hb with hd | ⟨p, hp⟩
      · exact .inl hd
      · exact .inr ⟨p, (cleared_holds t ports p h).mpr ⟨fun hm => hc ⟨p, hm, hp⟩, hp⟩⟩

theorem Exact.reset (t : UdpTable) : Exact (t.apply .reset) where
  nodup := List.nodup_nil
  keys := fun p => by simp [UdpTable.apply]
  live := fun p h hh => by simp [holds, UdpTable.apply] at hh
  dnsLive := fun v h hd => by cases hd
  apart := fun p h v hh => by simp [holds, UdpTable.apply] at hh
  owned := fun h hb => absurd rfl hb

theorem Exact.apply (ht : Exact t) {op : UdpOp} (hf : t.fresh op) (hu : t.unregistered op) :
    Exact (t.apply op) := by
  cases op with
  | rest => exact ht
  | register handle e => exact ht.register (hf handle e rfl) hu
  | dns handle e => exact ht.dns (hf handle e rfl) hu
  | close ports => exact ht.close ports
  | reset => exact .reset t

theorem Exact.unique (ht : Exact t) {h : SocketHandle} {p q : UInt16} (hp : t.holds p h)
    (hq : t.holds q h) : p = q := by
  obtain ⟨a, ha⟩ := ht.live p h hp
  obtain ⟨b, hb⟩ := ht.live q h hq
  rw [ha] at hb
  cases hb
  rfl

-- No two sessions share a channel: a registration takes the next one.
structure Routed (t : UdpTable) : Prop where
  born : ∀ p h c, t.sessions p = some (h, c) → c < t.nextChannel
  apart : ∀ p q h h' c, t.sessions p = some (h, c) → t.sessions q = some (h', c) → p = q

theorem Routed.shrink (ht : Routed t) {u : UdpTable} (hn : u.nextChannel = t.nextChannel)
    (hu : ∀ p r, u.sessions p = some r → t.sessions p = some r) : Routed u where
  born := fun p h c hs => hn ▸ ht.born p h c (hu p _ hs)
  apart := fun p q h h' c hp hq => ht.apart p q h h' c (hu p _ hp) (hu q _ hq)

theorem Routed.register (ht : Routed t) (handle : SocketHandle) (e : IpEndpoint) :
    Routed (t.apply (.register handle e)) := by
  have hcases : ∀ p h c, (t.apply (.register handle e)).sessions p = some (h, c) →
      (p = e.port ∧ c = t.nextChannel) ∨ (t.sessions p = some (h, c) ∧ c < t.nextChannel) := by
    intro p h c hs
    simp only [UdpTable.apply, Function.update_apply] at hs
    split_ifs at hs with hp
    · cases hs
      exact .inl ⟨hp, rfl⟩
    · exact .inr ⟨hs, ht.born p h c hs⟩
  constructor
  · intro p h c hs
    rcases hcases p h c hs with ⟨_, hc⟩ | ⟨_, hc⟩
    · exact hc ▸ Nat.lt_succ_self t.nextChannel
    · exact Nat.lt_succ_of_lt hc
  · intro p q h h' c hp hq
    rcases hcases p h c hp with ⟨hpe, hc⟩ | ⟨hps, hc⟩
    · rcases hcases q h' c hq with ⟨hqe, _⟩ | ⟨_, hc'⟩
      · rw [hpe, hqe]
      · exact absurd hc' (hc ▸ Nat.lt_irrefl _)
    · rcases hcases q h' c hq with ⟨_, hc'⟩ | ⟨hqs, _⟩
      · exact absurd (ht.born p h c hps) (hc' ▸ Nat.lt_irrefl _)
      · exact ht.apart p q h h' c hps hqs

theorem Routed.apply (ht : Routed t) (op : UdpOp) : Routed (t.apply op) := by
  cases op with
  | rest => exact ht
  | register handle e => exact ht.register handle e
  | dns handle e => exact ht.shrink rfl (fun _ _ h => h)
  | close ports =>
      refine ht.shrink rfl (fun p r h => ?_)
      simp only [UdpTable.apply, cleared] at h
      split_ifs at h
      exact h
  | reset => exact ht.shrink rfl (fun _ _ h => by cases h)

end UdpTable

end Usque
