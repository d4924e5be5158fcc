import KinectHelper.KinectServer.ExchangeSteps

namespace KinectHelper.Exchange

open Libevent KinectServer Transmission WireTransmission Clients

variable {ρ : Type} {env : Environment} {processor : Processor ρ} {skeleton : Block}
  {rest : ρ} {dates : ℕ → ℕ → Tm} {s t : State ρ}

/-- What the server writes comes after what it has written. -/
theorem Inv.server (h : Inv env processor skeleton rest dates s) {server : Clients.State ℕ ρ}
    (hserver : Clients.Inv env processor skeleton rest server)
    (hlog : ∀ k, (s.server.loop.control k).log <+: (server.loop.control k).log)
    (harrived : ∀ k, server.loop.arrived k <+: s.written k) :
    Inv env processor skeleton rest dates { s with server := server } := by
  have hhandled : ∀ k, s.handledOn k ≤ State.handledOn { s with server := server } k :=
    fun k => (requestsSeen_mono (hlog k)).length_le
  refine ⟨⟨hserver, h.core.sendable, harrived, ?_, h.core.fresh, h.core.numbers, h.core.ordered,
    h.core.packets, h.core.sockets, h.core.asked, h.core.deferred, ?_, ?_⟩, h.facts⟩
  · intro k
    exact (h.core.received k).trans (replyBytes_mono (dates k) (hlog k))
  · intro i code hi
    obtain ⟨hcode, k, hk⟩ := h.core.answered i code hi
    exact ⟨hcode, k, (List.take_subset_take_left _ (hhandled k)) hk⟩
  · intro k
    exact (h.core.outstanding k).trans (Nat.succ_le_succ (hhandled k))

theorem Inv.toServer (h : Inv env processor skeleton rest dates s) {k : ℕ} {piece : Block}
    (hpiece : s.server.loop.arrived k ++ piece <+: s.written k) {server : Clients.State ℕ ρ}
    (hstep : Clients.step env processor s.server (.arrive k piece) = some server) :
    Inv env processor skeleton rest dates { s with server := server } := by
  have hloop := loop_step hstep
  refine h.server (h.core.server.step hstep) (Multiplexed.out_step grows_reader hloop) ?_
  intro j
  have harrived : server.loop.arrived =
      Function.update s.server.loop.arrived k (s.server.loop.arrived k ++ piece) := by
    rw [← Option.some.inj hloop]
  rw [harrived]
  by_cases hj : j = k
  · subst hj
    rw [Function.update_self]
    exact hpiece
  · rw [Function.update_of_ne hj]
    exact h.core.arrived j

theorem Inv.turn (h : Inv env processor skeleton rest dates s) {k : ℕ}
    {server : Clients.State ℕ ρ}
    (hstep : Clients.step env processor s.server (.turn k) = some server) :
    Inv env processor skeleton rest dates { s with server := server } := by
  have hloop := loop_step hstep
  refine h.server (h.core.server.step hstep) (Multiplexed.out_step grows_reader hloop) ?_
  rw [Multiplexed.arrived_turn hloop]
  exact h.core.arrived

def packetIn : Action → Option Packet
  | .send p _ => some p
  | .client _ _ | .toServer _ _ | .turn _ => none

theorem inv_start : Inv env processor skeleton rest dates (start skeleton rest) where
  core := {
    server := Clients.inv_start
    sendable := nofun
    arrived := fun _ => List.prefix_refl _
    received := fun _ => List.nil_prefix
    fresh := fun _ _ => rfl
    numbers := List.Perm.refl _
    ordered := List.Pairwise.nil
    packets := nofun
    sockets := nofun
    asked := nofun
    deferred := rfl
    answered := nofun
    outstanding := fun _ => Nat.zero_le _ }
  facts := ⟨rfl, rfl⟩

theorem Inv.step (huri : env.uriParse ['/'] = some false)
    (h : Inv env processor skeleton rest dates s) {a : Action}
    (ha : ∀ p, packetIn a = some p → Sendable env.abi processor p)
    (hstep : step env processor dates s a = some t) :
    Inv env processor skeleton rest dates t := by
  cases a with
  | send p res =>
    obtain ⟨r, hr, rfl⟩ := Option.map_eq_some_iff.mp hstep
    obtain ⟨r', hr', hinv⟩ := h.send huri res (ha p rfl)
    obtain rfl := Option.some.inj (hr.symm.trans hr')
    exact hinv
  | client e res =>
    unfold Exchange.step at hstep
    dsimp only at hstep
    split_ifs at hstep with hguard
    obtain ⟨c, hc, rfl⟩ := Option.map_eq_some_iff.mp hstep
    obtain ⟨c', hc', hinv⟩ := h.event huri res hguard.1 hguard.2
    obtain rfl := Option.some.inj (hc.symm.trans hc')
    exact hinv
  | toServer k piece =>
    unfold Exchange.step at hstep
    dsimp only at hstep
    split_ifs at hstep with hpiece
    obtain ⟨server, hserver, rfl⟩ := Option.map_eq_some_iff.mp hstep
    exact h.toServer hpiece hserver
  | turn k =>
    obtain ⟨server, hserver, rfl⟩ := Option.map_eq_some_iff.mp hstep
    exact h.turn hserver

end KinectHelper.Exchange
