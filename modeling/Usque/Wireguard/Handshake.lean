import Mathlib.Data.List.TakeWhile
import Usque.Wireguard.Script

namespace Usque

-- The timer arm of select! ends each wait.
def Paced (interval : Time) : Time → List (Time × HandshakeEvent) → Prop
  | _, [] => True
  | last, (now, _) :: events => now ≤ last + interval ∧ Paced interval now events

def inTime (deadline : Time) (e : Time × HandshakeEvent) : Bool := e.1 ≤ deadline

theorem elapsed_iff {start timeout now : Nat} :
    now - start > timeout ↔ ¬now ≤ start + timeout := by
  omega

namespace WgTunnel

variable {G : Gotatun} {start timeout interval now : Time} {t t' : WgTunnel G}
  {result : Except WgTunnelError Unit}

theorem awaitHandshake_late (h : ¬now ≤ start + timeout) (t : WgTunnel G)
    (events : List (Time × HandshakeEvent)) :
    awaitHandshake start timeout now t events = (some (.error .handshakeTimeout), t) := by
  have hlate : now - start > timeout := elapsed_iff.mpr h
  match events with
  | [] | (_, .recv _) :: _ | (_, .recvError) :: _ | (_, .timer) :: _ =>
      simp only [awaitHandshake, if_pos hlate]

-- What the loop does with the next event.
def handshakeTurn (t : WgTunnel G) (now : Time) (event : HandshakeEvent) :
    Option (Except WgTunnelError Unit) × WgTunnel G :=
  match event with
  | .recv data =>
      let t := t.processHandshakePacket now data
      (if (G.timeSinceLastHandshake now t.tunn).isSome then some (.ok ()) else none, t)
  | .recvError => (none, t)
  | .timer =>
      match t.tickTimers now with
      | (.ok (), t) => (none, t)
      | (.error e, t) => (some (.error e), t)

theorem awaitHandshake_nil (h : now ≤ start + timeout) (t : WgTunnel G) :
    awaitHandshake start timeout now t [] = (none, t) := by
  have hin : ¬now - start > timeout := fun hlate => elapsed_iff.mp hlate h
  simp only [awaitHandshake, if_neg hin]

theorem awaitHandshake_cons (h : now ≤ start + timeout) (t : WgTunnel G) (next : Time)
    (event : HandshakeEvent) (events : List (Time × HandshakeEvent)) :
    awaitHandshake start timeout now t ((next, event) :: events) =
      match t.handshakeTurn next event with
      | (some result, t) => (some result, t)
      | (none, t) => awaitHandshake start timeout next t events := by
  have hin : ¬now - start > timeout := fun hlate => elapsed_iff.mp hlate h
  cases event with
  | recv data =>
      simp only [awaitHandshake, if_neg hin, handshakeTurn]
      split <;> rfl
  | recvError => simp only [awaitHandshake, if_neg hin, handshakeTurn]
  | timer =>
      simp only [awaitHandshake, if_neg hin, handshakeTurn]
      obtain ⟨ticked, t'⟩ := t.tickTimers next
      cases ticked <;> rfl

theorem awaitHandshake_append {events : List (Time × HandshakeEvent)}
    (h : awaitHandshake start timeout now t events = (some result, t'))
    (more : List (Time × HandshakeEvent)) :
    awaitHandshake start timeout now t (events ++ more) = (some result, t') := by
  by_cases hin : now ≤ start + timeout
  · induction events generalizing now t with
    | nil =>
        rw [awaitHandshake_nil hin] at h
        cases h
    | cons e events ih =>
        rw [awaitHandshake_cons hin] at h
        rw [List.cons_append, awaitHandshake_cons hin]
        split at h
        · exact h
        · next u _ =>
            by_cases hnext : e.1 ≤ start + timeout
            · exact ih h hnext
            · rw [awaitHandshake_late hnext] at h ⊢
              exact h
  · rw [awaitHandshake_late hin] at h ⊢
    exact h

theorem awaitHandshake_decided {events : List (Time × HandshakeEvent)}
    (hpaced : Paced interval now events)
    (hlast : start + timeout < now ∨ ∃ e ∈ events, start + timeout < e.1) :
    ∃ result t', awaitHandshake start timeout now t
      (events.takeWhile (inTime (start + timeout + interval))) = (some result, t') := by
  by_cases hin : now ≤ start + timeout
  · induction events generalizing now t with
    | nil =>
        rcases hlast with hlate | ⟨e, he, _⟩
        · exact absurd hin (Nat.not_le.mpr hlate)
        · cases he
    | cons e events ih =>
        obtain ⟨hnext, hpaced⟩ := hpaced
        have hkept : inTime (start + timeout + interval) e = true :=
          decide_eq_true (Nat.le_trans hnext (Nat.add_le_add_right hin interval))
        rw [List.takeWhile_cons_of_pos hkept, awaitHandshake_cons hin]
        split
        · exact ⟨_, _, rfl⟩
        · next u _ =>
            by_cases hstill : e.1 ≤ start + timeout
            · refine ih hpaced (.inr ?_) hstill
              rcases hlast with hlate | ⟨e', he', hlate⟩
              · exact absurd hin (Nat.not_le.mpr hlate)
              · rcases List.mem_cons.mp he' with rfl | hmem
                · exact absurd hstill (Nat.not_le.mpr hlate)
                · exact ⟨e', hmem, hlate⟩
            · exact ⟨_, _, awaitHandshake_late hstill _ _⟩
  · exact ⟨_, _, awaitHandshake_late hin _ _⟩

theorem awaitHandshake_completed {events : List (Time × HandshakeEvent)}
    (h : awaitHandshake start timeout now t events = (some (.ok ()), t')) :
    ∃ (at' : Time) (data : Packet) (u : WgTunnel G), (at', .recv data) ∈ events ∧
      t' = u.processHandshakePacket at' data ∧
      (G.timeSinceLastHandshake at' t'.tunn).isSome = true := by
  by_cases hin : now ≤ start + timeout
  · induction events generalizing now t with
    | nil =>
        rw [awaitHandshake_nil hin] at h
        cases h
    | cons e events ih =>
        obtain ⟨next, event⟩ := e
        rw [awaitHandshake_cons hin] at h
        split at h
        · next result u hturn =>
            cases h
            cases event with
            | recv data =>
                simp only [handshakeTurn, Prod.mk.injEq] at hturn
                obtain ⟨hsome, rfl⟩ := hturn
                refine ⟨next, data, t, List.mem_cons_self, rfl, ?_⟩
                by_contra hno
                rw [if_neg hno] at hsome
                cases hsome
            | recvError => cases hturn
            | timer =>
                simp only [handshakeTurn] at hturn
                split at hturn <;> cases hturn
        · by_cases hstill : next ≤ start + timeout
          · obtain ⟨at', data, u, hmem, hrest⟩ := ih h hstill
            exact ⟨at', data, u, List.mem_cons_of_mem _ hmem, hrest⟩
          · rw [awaitHandshake_late hstill] at h
            cases h
  · rw [awaitHandshake_late hin] at h
    cases h

theorem establish_append {events : List (Time × HandshakeEvent)}
    (h : establish t now start timeout events = (some result, t'))
    (more : List (Time × HandshakeEvent)) :
    establish t now start timeout (events ++ more) = (some result, t') := by
  simp only [establish] at h ⊢
  split
  · next heq =>
      rw [heq] at h
      exact awaitHandshake_append h more
  · next heq =>
      rw [heq] at h
      exact h

-- establish is over at the latest one timer interval after its timeout, and Ok only when a received
-- datagram has completed the handshake.
theorem establish_decided (t : WgTunnel G) (now : Time) {events : List (Time × HandshakeEvent)}
    (hpaced : Paced interval start events) (hlast : ∃ e ∈ events, start + timeout < e.1) :
    ∃ result t', establish t now start timeout events = (some result, t') ∧
      establish t now start timeout
        (events.takeWhile (inTime (start + timeout + interval))) = (some result, t') ∧
      (result = .ok () → ∃ (at' : Time) (data : Packet) (u : WgTunnel G),
        at' ≤ start + timeout + interval ∧ (at', .recv data) ∈ events ∧
        t' = u.processHandshakePacket at' data ∧
        (G.timeSinceLastHandshake at' t'.tunn).isSome = true) := by
  obtain ⟨result, t', hprefix⟩ : ∃ result t', establish t now start timeout
      (events.takeWhile (inTime (start + timeout + interval))) = (some result, t') := by
    simp only [establish]
    split
    · exact awaitHandshake_decided hpaced (.inr hlast)
    · exact ⟨_, _, rfl⟩
  have hall := establish_append hprefix
    (events.dropWhile (inTime (start + timeout + interval)))
  rw [List.takeWhile_append_dropWhile] at hall
  refine ⟨result, t', hall, hprefix, ?_⟩
  rintro rfl
  simp only [establish] at hprefix
  split at hprefix
  · obtain ⟨at', data, u, hmem, hdone⟩ := awaitHandshake_completed hprefix
    have hkept := List.mem_takeWhile_imp hmem
    exact ⟨at', data, u, of_decide_eq_true hkept, List.takeWhile_subset _ hmem, hdone⟩
  · cases hprefix

theorem establish_decided_response :
    ∃ result t', establish (new (G := Reference.gotatun) ⟨none, []⟩ .zero) 0 0 30
      [(10, .timer), (20, .recv Reference.WgMessage.response.intoPacket), (30, .timer),
        (40, .timer)] = (some result, t') := by
  have hpaced : Paced 10 0 [(10, .timer),
      (20, .recv Reference.WgMessage.response.intoPacket), (30, .timer), (40, .timer)] :=
    ⟨by decide, by decide, by decide, by decide, trivial⟩
  have hlast : ∃ e ∈ [(10, .timer), (20, .recv Reference.WgMessage.response.intoPacket),
      (30, .timer), ((40 : Time), HandshakeEvent.timer)], 0 + 30 < e.1 :=
    ⟨(40, .timer), by decide, by decide⟩
  obtain ⟨result, t', h, _⟩ :=
    establish_decided (new (G := Reference.gotatun) ⟨none, []⟩ .zero) 0 hpaced hlast
  exact ⟨result, t', h⟩

end WgTunnel

end Usque
