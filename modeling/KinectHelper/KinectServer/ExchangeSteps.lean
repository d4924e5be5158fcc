import Mathlib.Data.List.GetD
import KinectHelper.KinectServer.Exchange

namespace KinectHelper.Exchange

open Libevent KinectServer Transmission WireTransmission Clients

variable {ρ : Type}

/-- What holds whatever the client is doing. -/
structure Core (env : Environment) (processor : Processor ρ) (skeleton : Block)
    (rest : ρ) (dates : ℕ → ℕ → Tm) (s : State ρ) : Prop where
  server : Clients.Inv env processor skeleton rest s.server
  sendable : ∀ p ∈ s.made, Sendable env.abi processor p
  arrived : ∀ k, s.server.loop.arrived k <+: s.written k
  received : ∀ k, s.received k <+: s.returned dates k
  fresh : ∀ k, s.client.socket < k → s.received k = []
  numbers : s.client.numbers.Perm (List.range s.made.length)
  ordered : (s.client.line.map Prod.fst).Pairwise (· < ·)
  packets : ∀ e ∈ s.client.line, e.1 < s.made.length ∧ e.2 = wire (s.packet e.1)
  sockets : ∀ e ∈ s.client.sent, e.1 ≤ s.client.socket
  asked : ∀ q ∈ s.client.requests, Asked q.2
  deferred : s.client.deferred = false
  answered : ∀ i code, (i, .answered code) ∈ s.client.called →
    code = 200 ∧ ∃ k, i ∈ (s.sentOn k).take (s.handledOn k)
  outstanding : ∀ k, (s.sentOn k).length ≤ s.handledOn k + 1

/-- The first request is the last one written to the socket; of the replies, those to the ones
before it have been read, and then `v`. -/
def Pending (dates : ℕ → ℕ → Tm) (received : ℕ → Block) (c : Client) (req : EvhttpRequest)
    (v : Block) : Prop :=
  ∃ i rest bytes before, c.requests = (i, req)::rest ∧ c.sent = before ++ [(c.socket, i, bytes)] ∧
    received c.socket = replyStream (dates c.socket) (eventsOf c.socket before).length ++ v

/-- What holds while the client is in its state. -/
def Facts (env : Environment) (dates : ℕ → ℕ → Tm) (received : ℕ → Block) (c : Client) : Prop :=
  match c.state with
  | .disconnected => c.closeDetect = false ∧ c.fd = false
  | .connecting => c.closeDetect = false ∧ (c.fd = true → c.requests ≠ [] ∧ c.input = [] ∧
      (∀ e ∈ c.sent, e.1 < c.socket) ∧ received c.socket = [])
  | .idle => c.closeDetect = true ∧ c.requests = [] ∧ c.input = [] ∧ c.writeEnabled = false ∧
      received c.socket = replyStream (dates c.socket) (eventsOf c.socket c.sent).length
  | .writing => c.closeDetect = false ∧ c.input = [] ∧ c.readEnabled = false ∧
      ∃ req, Pending dates received c req []
  | .reading r => c.closeDetect = false ∧ c.writeEnabled = false ∧ r.Unfinished ∧
      ∃ req v, Pending dates received c req v ∧
        (Reading.reader env).settle (.start req) v = (r, c.input)

structure Inv (env : Environment) (processor : Processor ρ) (skeleton : Block)
    (rest : ρ) (dates : ℕ → ℕ → Tm) (s : State ρ) : Prop where
  core : Core env processor skeleton rest dates s
  facts : Facts env dates s.received s.client

theorem eventsOf_nil_of_lt {k : ℕ} {sent : List (ℕ × ℕ × Block)} (h : ∀ e ∈ sent, e.1 < k) :
    eventsOf k sent = [] := by
  unfold eventsOf
  rw [List.filter_eq_nil_iff.mpr, List.map_nil]
  intro e he
  have hlt := h e he
  simp
  omega

section Core

variable {env : Environment} {processor : Processor ρ} {skeleton : Block} {rest : ρ}
  {dates : ℕ → ℕ → Tm} {s : State ρ}

theorem Core.sent_packets (h : Core env processor skeleton rest dates s) {k : ℕ}
    {e : ℕ × Block} (he : e ∈ eventsOf k s.client.sent) :
    e.1 < s.made.length ∧ e.2 = wire (s.packet e.1) := by
  apply h.packets
  apply List.mem_append_left
  exact List.mem_map.mpr ⟨(k, e), mem_eventsOf.mp he, rfl⟩

theorem Core.written (h : Core env processor skeleton rest dates s) (k : ℕ) :
    s.written k = ((s.sentOn k).map s.packet).flatMap wire := by
  unfold State.written State.sentOn
  rw [List.map_map, List.flatMap_map]
  apply List.flatMap_congr
  intro e he
  exact (h.sent_packets he).2

theorem Core.packet_sendable (h : Core env processor skeleton rest dates s) {i : ℕ}
    (hi : i < s.made.length) : Sendable env.abi processor (s.packet i) := by
  apply h.sendable
  unfold State.packet
  rw [List.getD_eq_getElem _ _ hi]
  exact List.getElem_mem hi

theorem Core.sentOn_sendable (h : Core env processor skeleton rest dates s) (k : ℕ) :
    ∀ p ∈ (s.sentOn k).map s.packet, Sendable env.abi processor p := by
  intro p hp
  obtain ⟨i, hi, rfl⟩ := List.mem_map.mp hp
  obtain ⟨e, he, rfl⟩ := List.mem_map.mp hi
  exact h.packet_sendable (h.sent_packets he).1

theorem Core.sentOn_short (h : Core env processor skeleton rest dates s) (k : ℕ) :
    ∀ p ∈ (s.sentOn k).map s.packet, p.data.length < 2^31 :=
  fun p hp => (h.sentOn_sendable k p hp).short

theorem Core.arrived_packets (h : Core env processor skeleton rest dates s) (k : ℕ) :
    s.server.loop.arrived k <+: ((s.sentOn k).map s.packet).flatMap wire := by
  rw [← h.written k]
  exact h.arrived k

/-- The server has handled the first requests of the socket, and answered at most these. -/
theorem Core.replied (huri : env.uriParse ['/'] = some false)
    (h : Core env processor skeleton rest dates s) (k : ℕ) :
    s.handledOn k ≤ (s.sentOn k).length ∧
      requestsSeen (s.server.loop.control k).log =
        ((s.sentOn k).take (s.handledOn k)).map (fun i => requestOf (s.packet i)) ∧
      ∃ r ≤ s.handledOn k, s.returned dates k = replyStream (dates k) r := by
  obtain ⟨n, hn, hrequests, r, hr, hreplies⟩ :=
    exists_replied huri h.sentOn_short h.server.apart h.arrived_packets k
  rw [List.length_map] at hn
  have hhandled : s.handledOn k = n := by
    unfold State.handledOn
    rw [hrequests, List.length_map, List.length_take, List.length_map, Nat.min_eq_left hn]
  refine ⟨hhandled ▸ hn, ?_, r, hhandled ▸ hr, ?_⟩
  · rw [hrequests, hhandled, ← List.map_take, List.map_map]
    rfl
  · unfold State.returned
    rw [hreplies]
    rfl

/-- Where the client has read a reply to each request of a socket, the server has handled them. -/
theorem Core.all_handled (huri : env.uriParse ['/'] = some false)
    (h : Core env processor skeleton rest dates s) {k : ℕ}
    (hreceived : s.received k = replyStream (dates k) (eventsOf k s.client.sent).length) :
    (s.sentOn k).length ≤ s.handledOn k := by
  obtain ⟨_, _, r, hr, hreturned⟩ := h.replied huri k
  have hbeginning := h.received k
  rw [hreceived, hreturned, ← List.append_nil (replyStream _ (eventsOf _ _).length)] at hbeginning
  unfold State.sentOn
  rw [List.length_map]
  exact (le_of_replyStream hbeginning).trans hr

/-- A client that writes nothing. -/
theorem Core.client (h : Core env processor skeleton rest dates s) {c : Client}
    (hkeeps : s.client.Keeps c) (hsent : c.sent = s.client.sent)
    (hsocket : s.client.socket ≤ c.socket) (hasked : ∀ q ∈ c.requests, Asked q.2)
    (hdeferred : c.deferred = false)
    (hanswered : ∀ i code, (i, .answered code) ∈ c.called →
      code = 200 ∧ ∃ k, i ∈ (s.sentOn k).take (s.handledOn k)) :
    Core env processor skeleton rest dates { s with client := c } := by
  have hwritten : State.written { s with client := c } = s.written := by
    unfold State.written
    rw [← hsent]
  have hsentOn : State.sentOn { s with client := c } = s.sentOn := by
    unfold State.sentOn
    rw [← hsent]
  refine ⟨h.server, h.sendable, ?_, h.received, ?_, hkeeps.numbers.trans h.numbers, ?_, ?_, ?_,
    hasked, hdeferred, ?_, ?_⟩
  · rw [hwritten]
    exact h.arrived
  · intro k hk
    exact h.fresh k (hsocket.trans_lt hk)
  · exact h.ordered.sublist (hkeeps.line.map Prod.fst)
  · intro e he
    exact h.packets e (hkeeps.line.subset he)
  · intro e he
    dsimp only at he
    rw [hsent] at he
    exact (h.sockets e he).trans hsocket
  · rw [hsentOn]
    exact hanswered
  · rw [hsentOn]
    exact h.outstanding

/-- A client that is somewhere else with the same requests. -/
theorem Core.unchanged (h : Core env processor skeleton rest dates s) {c : Client}
    (hrequests : c.requests = s.client.requests) (hcalled : c.called = s.client.called)
    (hsent : c.sent = s.client.sent) (hwaiting : c.waiting = s.client.waiting)
    (hsocket : c.socket = s.client.socket) (hdeferred : c.deferred = false) :
    Core env processor skeleton rest dates { s with client := c } := by
  apply h.client
  · exact Client.Keeps.of_eq hcalled hrequests hsent hwaiting
  · exact hsent
  · exact hsocket.ge
  · rw [hrequests]
    exact h.asked
  · exact hdeferred
  · rw [hcalled]
    exact h.answered

/-- The connection is given up. -/
theorem Core.down (h : Core env processor skeleton rest dates s)
    (hdetect : s.client.closeDetect = false) {c : Client} (hkeeps : s.client.Keeps c)
    (hdown : s.client.Down c) :
    Inv env processor skeleton rest dates { s with client := c } := by
  refine ⟨h.client hkeeps hdown.sent hdown.socket (fun q hq => h.asked q (hdown.requests hq))
    (hdown.deferred.trans h.deferred)
    (fun i code hi => h.answered i code (hdown.answered i code hi)), ?_⟩
  have hnone : c.closeDetect = false := hdown.closeDetect.trans hdetect
  unfold Facts
  rcases hdown.state with ⟨hstate, hfd⟩ | hstate
  · simp only [hstate]
    exact ⟨hnone, hfd⟩
  · simp only [hstate]
    refine ⟨hnone, ?_⟩
    intro hfd
    obtain ⟨hrequests, hinput, hsocket⟩ := hdown.attempt hfd
    refine ⟨hrequests, hinput, ?_, h.fresh _ hsocket⟩
    intro e he
    rw [hdown.sent] at he
    exact (h.sockets e he).trans_lt hsocket

/-- The next piece of the replies. -/
theorem Core.receive (h : Core env processor skeleton rest dates s) {piece : Block}
    (hpiece : s.received s.client.socket ++ piece <+: s.returned dates s.client.socket) :
    Core env processor skeleton rest dates
      { s with received := s.receivedAfter (.readable piece) } where
  server := h.server
  sendable := h.sendable
  arrived := h.arrived
  received k := by
    by_cases hk : k = s.client.socket
    · subst hk
      simp only [State.receivedAfter, Function.update_self]
      exact hpiece
    · simp only [State.receivedAfter, Function.update_of_ne hk]
      exact h.received k
  fresh k hk := by
    simp only [State.receivedAfter, Function.update_of_ne (Nat.ne_of_gt hk)]
    exact h.fresh k hk
  numbers := h.numbers
  ordered := h.ordered
  packets := h.packets
  sockets := h.sockets
  asked := h.asked
  deferred := h.deferred
  answered := h.answered
  outstanding := h.outstanding

/-- A client that has written a request to its socket, where the server has answered all those
before it. -/
theorem Core.writes (huri : env.uriParse ['/'] = some false)
    (h : Core env processor skeleton rest dates s) {c : Client} {i : ℕ} {bytes : Block}
    (hkeeps : s.client.Keeps c) (hsent : c.sent = s.client.sent ++ [(s.client.socket, i, bytes)])
    (hsocket : c.socket = s.client.socket) (hcalled : c.called = s.client.called)
    (hdeferred : c.deferred = false) (hasked : ∀ q ∈ c.requests, Asked q.2)
    (hreceived : s.received s.client.socket =
      replyStream (dates s.client.socket) (eventsOf s.client.socket s.client.sent).length) :
    Core env processor skeleton rest dates { s with client := c } := by
  have heventsOf : ∀ k, eventsOf k c.sent = eventsOf k s.client.sent ++
      if k = s.client.socket then [(i, bytes)] else [] := by
    intro k
    rw [hsent, eventsOf_concat]
  have hsentOn : ∀ k, State.sentOn { s with client := c } k = s.sentOn k ++
      if k = s.client.socket then [i] else [] := by
    intro k
    unfold State.sentOn
    dsimp only
    rw [heventsOf, List.map_append]
    split <;> rfl
  refine ⟨h.server, h.sendable, ?_, h.received, ?_, hkeeps.numbers.trans h.numbers,
    h.ordered.sublist (hkeeps.line.map Prod.fst), fun e he => h.packets e (hkeeps.line.subset he),
    ?_, hasked, hdeferred, ?_, ?_⟩
  · intro k
    apply (h.arrived k).trans
    unfold State.written
    dsimp only
    rw [heventsOf, List.flatMap_append]
    exact List.prefix_append _ _
  · intro k hk
    dsimp only at hk
    rw [hsocket] at hk
    exact h.fresh k hk
  · intro e he
    dsimp only at he ⊢
    rw [hsocket]
    rw [hsent] at he
    rcases List.mem_append.mp he with he | he
    · exact h.sockets e he
    · rw [List.mem_singleton.mp he]
  · intro j code hj
    dsimp only at hj
    rw [hcalled] at hj
    obtain ⟨hcode, k, hk⟩ := h.answered j code hj
    refine ⟨hcode, k, ?_⟩
    rw [hsentOn]
    exact ((List.prefix_append _ _).take _).subset hk
  · intro k
    rw [hsentOn, List.length_append]
    split
    · next hk =>
      subst hk
      exact Nat.succ_le_succ (h.all_handled huri hreceived)
    · exact h.outstanding k

/-- The next request is written once the server has answered all those before it. -/
theorem Core.dispatch (huri : env.uriParse ['/'] = some false)
    (h : Core env processor skeleton rest dates s) (hstate : s.client.state = .idle)
    (hrequests : s.client.requests ≠ []) (hinput : s.client.input = [])
    (hreceived : s.received s.client.socket =
      replyStream (dates s.client.socket) (eventsOf s.client.socket s.client.sent).length) :
    ∃ c, s.client.dispatch = some c ∧
      Inv env processor skeleton rest dates { s with client := c } := by
  obtain ⟨⟨i, req⟩, more, hcons⟩ := List.exists_cons_of_ne_nil hrequests
  have hdispatch := Client.dispatch_spec hstate hcons
  have hasked : ∀ q ∈ (i, { req with outputHeaders := makeHeaderRequest req, outputBuffer := [] })
      ::more, Asked q.2 := by
    intro q hq
    rcases List.mem_cons.mp hq with rfl | hq
    · exact (h.asked (i, req) (by rw [hcons]; exact List.mem_cons_self)).dispatched
    · exact h.asked q (by rw [hcons]; exact List.mem_cons_of_mem _ hq)
  refine ⟨_, hdispatch, ?_, ?_⟩
  · exact h.writes huri (Client.keeps_dispatch hdispatch) rfl rfl rfl h.deferred hasked hreceived
  · unfold Facts
    dsimp only
    refine ⟨rfl, hinput, rfl, _, i, more, makeHeader req, s.client.sent, rfl, rfl, ?_⟩
    rw [List.append_nil]
    exact hreceived

end Core

section Events

variable {env : Environment} {processor : Processor ρ} {skeleton : Block} {rest : ρ}
  {dates : ℕ → ℕ → Tm} {s : State ρ} {res : ConnectResult}

theorem Facts.closeDetect {received : ℕ → Block} {c : Client} (h : Facts env dates received c)
    (hstate : c.state ≠ .idle) : c.closeDetect = false := by
  unfold Facts at h
  cases hc : c.state with
  | disconnected | connecting | writing | reading _ =>
    simp only [hc] at h
    exact h.1
  | idle => exact absurd hc hstate

theorem Pending.requests_ne_nil {received : ℕ → Block} {c : Client} {req : EvhttpRequest}
    {v : Block} (h : Pending dates received c req v) : c.requests ≠ [] := by
  obtain ⟨i, more, _, _, hrequests, _⟩ := h
  rw [hrequests]
  exact List.cons_ne_nil _ _

/-- The connection breaks while a request is waiting. -/
theorem Inv.fail (h : Inv env processor skeleton rest dates s) (hstate : s.client.state ≠ .idle)
    (hrequests : s.client.requests ≠ []) :
    ∃ c, s.client.connectionError res = some c ∧
      Inv env processor skeleton rest dates { s with client := c } := by
  have hdetect := h.facts.closeDetect hstate
  obtain ⟨c, hc, hdown⟩ := Client.connectionError_spec res hrequests hdetect
  exact ⟨c, hc, h.core.down hdetect (Client.keeps_connectionError hc) hdown⟩

theorem Inv.connected (huri : env.uriParse ['/'] = some false)
    (h : Inv env processor skeleton rest dates s) (henabled : s.client.Enabled .connected) :
    ∃ c, s.client.event env res .connected = some c ∧
      Inv env processor skeleton rest dates { s with client := c } := by
  have hsocket : s.client.state = .connecting ∧ s.client.fd = true := henabled
  obtain ⟨hstate, hfd⟩ := hsocket
  have hfacts := h.facts
  simp only [Facts, hstate] at hfacts
  obtain ⟨hrequests, hinput, hsockets, hreceived⟩ := hfacts.2 hfd
  have hidle : Core env processor skeleton rest dates
      { s with client := { s.client with state := .idle } } := by
    have hwaiting : Client.waiting { s.client with state := .idle } = s.client.waiting := by
      simp [Client.waiting, hstate]
    exact h.core.unchanged rfl rfl rfl hwaiting rfl h.core.deferred
  refine hidle.dispatch huri rfl hrequests hinput ?_
  dsimp only
  rw [hreceived, eventsOf_nil_of_lt hsockets]
  rfl

theorem Inv.error (h : Inv env processor skeleton rest dates s) {what : ErrorEvent}
    (hfd : s.client.fd = true) :
    ∃ c, s.client.event env res (.error what) = some c ∧
      Inv env processor skeleton rest dates { s with client := c } := by
  have hfacts := h.facts
  unfold Facts at hfacts
  change ∃ c, s.client.error res what = some c ∧ _
  unfold Client.error
  cases hc : s.client.state with
  | disconnected =>
    simp only [hc] at hfacts
    exact absurd (hfd.symm.trans hfacts.2) Bool.false_ne_true.symm
  | connecting =>
    simp only [hc] at hfacts
    dsimp only
    split
    · exact ⟨_, rfl, h.core.down hfacts.1 (Client.keeps_cleanup _) (Client.down_cleanup _)⟩
    · exact h.fail (by simp [hc]) (hfacts.2 hfd).1
  | idle =>
    simp only [hc] at hfacts
    have hreset : s.client.connectionError res =
        some (Client.reset { s.client with closeDetect := false }) := by
      unfold Client.connectionError Client.connectionErrorWith
      rw [if_pos hfacts.1, if_pos hc]
    have hwaiting : Client.waiting (Client.reset { s.client with closeDetect := false }) =
        s.client.waiting := by
      simp [Client.waiting, Client.reset, hc]
    refine ⟨_, hreset, ?_, rfl, rfl⟩
    exact h.core.unchanged rfl rfl rfl hwaiting rfl h.core.deferred
  | writing =>
    simp only [hc] at hfacts
    obtain ⟨_, _, _, req, hpending⟩ := hfacts
    exact h.fail (by simp [hc]) hpending.requests_ne_nil
  | reading r =>
    simp only [hc] at hfacts
    obtain ⟨_, _, hunfinished, req, v, hpending, _⟩ := hfacts
    have hopen : ¬ (r.phase = .body ∧ r.req.chunked = false ∧ r.req.ntoread < 0 ∧ what = .eof) := by
      intro hclose
      exact absurd hclose.2.2.1 (not_lt.mpr (hunfinished.length hclose.1))
    dsimp only
    rw [if_neg hopen]
    exact h.fail (by simp [hc]) hpending.requests_ne_nil

theorem Inv.written (h : Inv env processor skeleton rest dates s)
    (henabled : s.client.Enabled .written) :
    ∃ c, s.client.event env res .written = some c ∧
      Inv env processor skeleton rest dates { s with client := c } := by
  have hflags : s.client.writeEnabled = true ∧ s.client.isConnected = true := henabled
  obtain ⟨hwrite, hconnected⟩ := hflags
  have hfacts := h.facts
  unfold Facts at hfacts
  cases hc : s.client.state with
  | disconnected | connecting => simp [Client.isConnected, hc] at hconnected
  | idle =>
    simp only [hc] at hfacts
    exact absurd (hwrite.symm.trans hfacts.2.2.2.1) Bool.false_ne_true.symm
  | reading r =>
    simp only [hc] at hfacts
    exact absurd (hwrite.symm.trans hfacts.2.1) Bool.false_ne_true.symm
  | writing =>
    simp only [hc] at hfacts
    obtain ⟨hdetect, hinput, hread, req, hpending⟩ := hfacts
    have hwritten : s.client.event env res .written = some (s.client.startRead req) := by
      obtain ⟨i, more, _, _, hrequests, _⟩ := hpending
      change s.client.written = _
      unfold Client.written
      rw [hrequests]
      exact if_pos hc
    have hwaiting : (s.client.startRead req).waiting = s.client.waiting := by
      simp [Client.waiting, Client.startRead, hc]
    have hdeferred : (s.client.startRead req).deferred = false := by
      simp [Client.startRead, h.core.deferred, hinput]
    refine ⟨_, hwritten, h.core.unchanged rfl rfl rfl hwaiting rfl hdeferred, ?_⟩
    have hsettle : (Reading.reader env).settle (.start req) [] = (.start req, []) :=
      Stepper.settle_none rfl
    unfold Facts
    dsimp only [Client.startRead]
    rw [hinput]
    exact ⟨hdetect, rfl, Reading.unfinished_of (.inl rfl), req, [], hpending, hsettle⟩

/-- The reply to the first request is complete. -/
theorem Core.answer (huri : env.uriParse ['/'] = some false)
    (h : Core env processor skeleton rest dates s) (res : ConnectResult) (tm : Tm) {i : ℕ}
    {req : EvhttpRequest} {more : List (ℕ × EvhttpRequest)}
    (hstate : ∃ r, s.client.state = .reading r) (hrequests : s.client.requests = (i, req)::more)
    (hinput : s.client.input = []) (hwrite : s.client.writeEnabled = false)
    (hreceived : s.received s.client.socket =
      replyStream (dates s.client.socket) (eventsOf s.client.socket s.client.sent).length)
    (hlast : i ∈ s.sentOn s.client.socket) :
    ∃ c, s.client.done res (Reading.replied req okReply tm) = some c ∧
      Inv env processor skeleton rest dates { s with client := c } := by
  obtain ⟨r, hstate⟩ := hstate
  have hasked : Asked req := h.asked (i, req) (by rw [hrequests]; exact List.mem_cons_self)
  have hmore : ∀ q ∈ more, Asked q.2 := fun q hq =>
    h.asked q (by rw [hrequests]; exact List.mem_cons_of_mem _ hq)
  have hanswered : ∀ j code,
      (j, .answered code) ∈ s.client.called ++ [(i, Outcome.answered 200)] →
      code = 200 ∧ ∃ k, j ∈ (s.sentOn k).take (s.handledOn k) := by
    intro j code hj
    rcases List.mem_append.mp hj with hj | hj
    · exact h.answered j code hj
    · cases List.mem_singleton.mp hj
      refine ⟨rfl, s.client.socket, ?_⟩
      rw [List.take_of_length_le (h.all_handled huri hreceived)]
      exact hlast
  have hkeeps : ∀ c₁ : Client, c₁.called = s.client.called → c₁.requests = more →
      c₁.sent = s.client.sent → c₁.state = .idle →
      s.client.Keeps { c₁ with called := c₁.called ++ [(i, Outcome.answered 200)] } := by
    intro c₁ hcalled₁ hrequests₁ hsent₁ hstate₁
    refine Client.Keeps.called hrequests hcalled₁ hrequests₁ ?_ (Client.Keeps.refl c₁) _
    have hline : c₁.line = s.client.line := by
      simp [Client.line, Client.waiting, hstate, hstate₁, hrequests₁, hrequests, hsent₁]
    rw [hline]
  obtain ⟨hcloseInput, hcloseOutput⟩ := hasked.keepsOpen tm
  rw [Client.done_spec res hrequests hcloseInput hcloseOutput]
  have hcode : (Reading.replied req okReply tm).responseCode = 200 := rfl
  rw [hcode]
  split
  · next hempty =>
    refine ⟨_, rfl, ?_, ?_⟩
    · apply h.client
      · exact hkeeps { s.client with
          state := .idle, requests := [], readEnabled := true, closeDetect := true }
          rfl hempty.symm rfl rfl
      · rfl
      · exact Nat.le_refl _
      · intro q hq
        cases hq
      · exact h.deferred
      · exact hanswered
    · exact ⟨rfl, rfl, hinput, hwrite, hreceived⟩
  · next hempty =>
    have hidle : Core env processor skeleton rest dates
        { s with client := { s.client with
          state := .idle, requests := more
          called := s.client.called ++ [(i, .answered 200)] } } := by
      apply h.client
      · exact hkeeps { s.client with state := .idle, requests := more } rfl rfl rfl rfl
      · rfl
      · exact Nat.le_refl _
      · exact hmore
      · exact h.deferred
      · exact hanswered
    exact hidle.dispatch huri rfl hempty hinput hreceived

/-- While the connection is idle, nothing is on its way to it. -/
theorem Core.nothing_idle (huri : env.uriParse ['/'] = some false)
    (h : Core env processor skeleton rest dates s) {piece : Block} (hpiece : piece ≠ [])
    (hreceived : s.received s.client.socket =
      replyStream (dates s.client.socket) (eventsOf s.client.socket s.client.sent).length) :
    ¬ s.received s.client.socket ++ piece <+: s.returned dates s.client.socket := by
  intro hprefix
  obtain ⟨hhandled, _, m, hm, hreturned⟩ := h.replied huri s.client.socket
  have hlength : (s.sentOn s.client.socket).length =
      (eventsOf s.client.socket s.client.sent).length := List.length_map _
  rw [hreceived, hreturned] at hprefix
  obtain ⟨heq, _⟩ := next_reply (by omega) hpiece hprefix
  omega

/-- What arrives belongs to the reply to the request written last. -/
theorem Core.next_of_reply (huri : env.uriParse ['/'] = some false)
    (h : Core env processor skeleton rest dates s) {i : ℕ} {bytes v piece : Block}
    {before : List (ℕ × ℕ × Block)}
    (hsent : s.client.sent = before ++ [(s.client.socket, i, bytes)])
    (hreceived : s.received s.client.socket =
      replyStream (dates s.client.socket) (eventsOf s.client.socket before).length ++ v)
    (hpiece : piece ≠ [])
    (hnext : s.received s.client.socket ++ piece <+: s.returned dates s.client.socket) :
    v ++ piece <+:
      okReply.wire (dates s.client.socket (eventsOf s.client.socket before).length) := by
  obtain ⟨hhandled, _, m, hm, hreturned⟩ := h.replied huri s.client.socket
  have hlength : (s.sentOn s.client.socket).length =
      (eventsOf s.client.socket before).length + 1 := by
    unfold State.sentOn
    rw [hsent, eventsOf_concat, if_pos rfl, List.length_map, List.length_append,
      List.length_singleton]
  rw [hreceived, hreturned, List.append_assoc] at hnext
  exact (next_reply (by omega) (by simp [hpiece]) hnext).2

/-- With the last piece of a reply the next request is written, if there is one. -/
theorem Core.read_whole (huri : env.uriParse ['/'] = some false) {piece : Block}
    (h : Core env processor skeleton rest dates
      { s with received := s.receivedAfter (.readable piece) }) {r : Reading}
    (hc : s.client.state = .reading r) (hwrite : s.client.writeEnabled = false) {i : ℕ}
    {req : EvhttpRequest} {more : List (ℕ × EvhttpRequest)} {bytes v : Block}
    {before : List (ℕ × ℕ × Block)} (hrequests : s.client.requests = (i, req)::more)
    (hsent : s.client.sent = before ++ [(s.client.socket, i, bytes)])
    (hreceived : s.received s.client.socket =
      replyStream (dates s.client.socket) (eventsOf s.client.socket before).length ++ v)
    (hwhole : v ++ piece =
      okReply.wire (dates s.client.socket (eventsOf s.client.socket before).length))
    (hreplied : (Reading.reader env).settle r (s.client.input ++ piece) =
      (Reading.replied req okReply
        (dates s.client.socket (eventsOf s.client.socket before).length), [])) :
    ∃ c, s.client.event env res (.readable piece) = some c ∧
      Inv env processor skeleton rest dates
        { s with client := c, received := s.receivedAfter (.readable piece) } := by
  generalize hn : (eventsOf s.client.socket before).length = n at hreceived hwhole hreplied
  generalize htm : dates s.client.socket n = tm at hwhole hreplied
  have hcore : Core env processor skeleton rest dates
      { s with
        client := { s.client with
          state := .reading (Reading.replied req okReply tm), input := []
          readEnabled := false, deferred := false }
        received := s.receivedAfter (.readable piece) } :=
    h.unchanged rfl rfl rfl (by simp [Client.waiting, hc]) rfl rfl
  have hall : s.receivedAfter (.readable piece) s.client.socket =
      replyStream (dates s.client.socket) (eventsOf s.client.socket s.client.sent).length := by
    simp only [State.receivedAfter, Function.update_self]
    rw [hreceived, List.append_assoc, hwhole, hsent, eventsOf_concat, if_pos rfl,
      List.length_append, List.length_singleton, hn, replyStream_succ, htm]
  have hlast : i ∈ s.sentOn s.client.socket := by
    unfold State.sentOn
    rw [hsent, eventsOf_concat, if_pos rfl, List.map_append]
    exact List.mem_append_right _ List.mem_cons_self
  obtain ⟨c, hdone, hinv⟩ := hcore.answer huri res tm ⟨_, rfl⟩ hrequests rfl hwrite hall hlast
  refine ⟨c, ?_, hinv⟩
  simp only [Client.event, hc, reduceCtorEq, if_false, Client.read, hreplied]
  exact hdone

/-- With another piece the reply is still being read. -/
theorem Core.read_part {piece : Block}
    (h : Core env processor skeleton rest dates
      { s with received := s.receivedAfter (.readable piece) }) {r r' : Reading}
    (hc : s.client.state = .reading r) (hdetect : s.client.closeDetect = false)
    (hwrite : s.client.writeEnabled = false) {req : EvhttpRequest} {v input : Block}
    (hpending : Pending dates s.received s.client req v)
    (hsettled : (Reading.reader env).settle r (s.client.input ++ piece) = (r', input))
    (hsettle : (Reading.reader env).settle (.start req) (v ++ piece) = (r', input))
    (hunfinished : r'.Unfinished) :
    ∃ c, s.client.event env res (.readable piece) = some c ∧
      Inv env processor skeleton rest dates
        { s with client := c, received := s.receivedAfter (.readable piece) } := by
  refine ⟨{ s.client with state := .reading r', input := input, deferred := false }, ?_, ?_, ?_⟩
  · simp only [Client.event, hc, reduceCtorEq, if_false, Client.read, hsettled]
    cases hp : r'.phase with
    | finished => exact absurd hp hunfinished.finished
    | corrupted => exact absurd hp hunfinished.corrupted
    | undefined => exact absurd hp hunfinished.undefined
    | firstline | headers | body | trailer => rfl
  · exact h.unchanged rfl rfl rfl (by simp [Client.waiting, hc]) rfl rfl
  · obtain ⟨i, more, bytes, before, hrequests, hsent, hreceived⟩ := hpending
    refine ⟨hdetect, hwrite, hunfinished, req, v ++ piece, ?_, hsettle⟩
    refine ⟨i, more, bytes, before, hrequests, hsent, ?_⟩
    simp only [State.receivedAfter, Function.update_self]
    rw [hreceived, List.append_assoc]

theorem Inv.readable (huri : env.uriParse ['/'] = some false)
    (h : Inv env processor skeleton rest dates s) {piece : Block}
    (henabled : s.client.Enabled (.readable piece)) (harrives : s.Arrives dates (.readable piece)) :
    ∃ c, s.client.event env res (.readable piece) = some c ∧
      Inv env processor skeleton rest dates
        { s with client := c, received := s.receivedAfter (.readable piece) } := by
  have hflags : s.client.readEnabled = true ∧ s.client.isConnected = true ∧ piece ≠ [] := henabled
  obtain ⟨hread, hconnected, hpiece⟩ := hflags
  have hnext : s.received s.client.socket ++ piece <+: s.returned dates s.client.socket := harrives
  have hfacts := h.facts
  unfold Facts at hfacts
  cases hc : s.client.state with
  | disconnected | connecting => simp [Client.isConnected, hc] at hconnected
  | idle =>
    simp only [hc] at hfacts
    exact absurd hnext (h.core.nothing_idle huri hpiece hfacts.2.2.2.2)
  | writing =>
    simp only [hc] at hfacts
    exact absurd (hread.symm.trans hfacts.2.2.1) Bool.false_ne_true.symm
  | reading r =>
    simp only [hc] at hfacts
    obtain ⟨hdetect, hwrite, _, req, v, hpending, hsettle⟩ := hfacts
    obtain ⟨i, more, bytes, before, hrequests, hsent, hreceived⟩ := id hpending
    have hasked : Asked req := h.core.asked (i, req) (by rw [hrequests]; exact List.mem_cons_self)
    have hbegins := h.core.next_of_reply huri hsent hreceived hpiece hnext
    have hconsumes := @Reading.consumes_reply env okReply _
      (delimited_okReply (dates s.client.socket (eventsOf s.client.socket before).length)) req
      hasked.waiting (Nat.zero_le _)
    have hsettled : (Reading.reader env).settle r (s.client.input ++ piece) =
        (Reading.reader env).settle (.start req) (v ++ piece) := by
      have happend := @Reader.settle_append _ _ (Reading.reader env) (.start req) v piece
      rw [hsettle] at happend
      exact happend.symm
    have hcore := h.core.receive hnext
    by_cases hwhole : v ++ piece =
        okReply.wire (dates s.client.socket (eventsOf s.client.socket before).length)
    · have hall := hconsumes.whole []
      rw [List.append_nil] at hall
      refine hcore.read_whole huri hc hwrite hrequests hsent hreceived hwhole ?_
      rw [hsettled, hwhole, hall]
      exact Stepper.settle_none rfl
    · exact hcore.read_part hc hdetect hwrite hpending hsettled rfl
        (hconsumes.early (v ++ piece) hbegins hwhole)

/-- No assertion fails in any event of the client. -/
theorem Inv.event (huri : env.uriParse ['/'] = some false)
    (h : Inv env processor skeleton rest dates s) (res : ConnectResult) {e : Client.Event}
    (henabled : s.client.Enabled e) (harrives : s.Arrives dates e) :
    ∃ c, s.client.event env res e = some c ∧
      Inv env processor skeleton rest dates
        { s with client := c, received := s.receivedAfter e } := by
  cases e with
  | connected => exact h.connected huri henabled
  | error what => exact h.error henabled
  | written => exact h.written henabled
  | readable piece => exact h.readable huri henabled harrives
  | deferredRead =>
    have hdeferred : s.client.deferred = true := henabled
    exact absurd (hdeferred.symm.trans h.core.deferred) Bool.false_ne_true.symm

/-- A request in the queue, with the number that comes next. -/
theorem Core.queue (h : Core env processor skeleton rest dates s) {p : Packet}
    (hp : Sendable env.abi processor p)
    (hqueue : s.client.isConnected = true → s.client.state ≠ .idle → s.client.requests ≠ []) :
    Core env processor skeleton rest dates
      { s with
        client := { s.client with
          requests := s.client.requests ++ [(s.made.length, sendRequest p)] }
        made := s.made ++ [p] } := by
  have hpacket : ∀ i < s.made.length,
      State.packet { s with made := s.made ++ [p] } i = s.packet i :=
    fun i hi => List.getD_append _ _ _ _ hi
  have hline : ({ s.client with
      requests := s.client.requests ++ [(s.made.length, sendRequest p)] } : Client).line =
      s.client.line ++ [(s.made.length, wire p)] := by
    have hwaiting : ({ s.client with
        requests := s.client.requests ++ [(s.made.length, sendRequest p)] } : Client).waiting =
        s.client.waiting ++ [(s.made.length, sendRequest p)] := by
      unfold Client.waiting
      cases hstate : s.client.state with
      | disconnected | connecting | idle => rfl
      | writing | reading _ =>
        exact List.tail_append_of_ne_nil (hqueue (by simp [Client.isConnected, hstate])
          (by simp [hstate]))
    unfold Client.line
    rw [hwaiting, List.map_append, List.append_assoc]
    rfl
  have hlast : State.packet { s with made := s.made ++ [p] } s.made.length = p := by
    unfold State.packet
    rw [List.getD_append_right _ _ _ _ (Nat.le_refl _), Nat.sub_self]
    rfl
  refine ⟨h.server, ?_, h.arrived, h.received, h.fresh, ?_, ?_, ?_, h.sockets, ?_, h.deferred,
    h.answered, h.outstanding⟩
  · intro q hq
    rcases List.mem_append.mp hq with hq | hq
    · exact h.sendable q hq
    · rw [List.mem_singleton.mp hq]
      exact hp
  · have hnumbers : ({ s.client with
        requests := s.client.requests ++ [(s.made.length, sendRequest p)] } : Client).numbers =
        s.client.numbers ++ [s.made.length] := by
      simp [Client.numbers, List.append_assoc]
    dsimp only
    rw [hnumbers, List.length_append, List.length_singleton, List.range_succ]
    exact h.numbers.append_right _
  · dsimp only
    rw [hline, List.map_append, List.pairwise_append]
    refine ⟨h.ordered, List.pairwise_singleton _ _, ?_⟩
    intro i hi j hj
    obtain ⟨e, he, rfl⟩ := List.mem_map.mp hi
    rw [List.mem_singleton.mp hj]
    exact (h.packets e he).1
  · intro e he
    dsimp only at he ⊢
    rw [hline] at he
    rw [List.length_append, List.length_singleton]
    rcases List.mem_append.mp he with he | he
    · obtain ⟨hlt, hbytes⟩ := h.packets e he
      exact ⟨hlt.trans (Nat.lt_succ_self _), hbytes.trans (by rw [← hpacket e.1 hlt]; rfl)⟩
    · rw [List.mem_singleton.mp he]
      exact ⟨Nat.lt_succ_self _, (congrArg wire hlast).symm⟩
  · intro q hq
    rcases List.mem_append.mp hq with hq | hq
    · exact h.asked q hq
    · rw [List.mem_singleton.mp hq]
      exact asked_sendRequest p

theorem Facts.requests_ne_nil {received : ℕ → Block} {c : Client}
    (h : Facts env dates received c) (hconnected : c.isConnected = true)
    (hstate : c.state ≠ .idle) : c.requests ≠ [] := by
  unfold Facts at h
  cases hc : c.state with
  | disconnected | connecting => simp [Client.isConnected, hc] at hconnected
  | idle => exact absurd hc hstate
  | writing =>
    simp only [hc] at h
    obtain ⟨_, _, _, req, hpending⟩ := h
    exact hpending.requests_ne_nil
  | reading r =>
    simp only [hc] at h
    obtain ⟨_, _, _, req, v, hpending, _⟩ := h
    exact hpending.requests_ne_nil

theorem Pending.queue {received : ℕ → Block} {c : Client} {req : EvhttpRequest} {v : Block}
    (h : Pending dates received c req v) (more : List (ℕ × EvhttpRequest)) :
    Pending dates received { c with requests := c.requests ++ more } req v := by
  obtain ⟨i, rest, bytes, before, hrequests, hsent, hreceived⟩ := h
  refine ⟨i, rest ++ more, bytes, before, ?_, hsent, hreceived⟩
  dsimp only
  rw [hrequests]
  rfl

/-- A request behind others changes nothing for them. -/
theorem Facts.queue {received : ℕ → Block} {c : Client} (h : Facts env dates received c)
    (hstate : c.state ≠ .idle) (more : List (ℕ × EvhttpRequest)) :
    Facts env dates received { c with requests := c.requests ++ more } := by
  unfold Facts at h ⊢
  cases hc : c.state with
  | disconnected =>
    simp only [hc] at h ⊢
    exact h
  | connecting =>
    simp only [hc] at h ⊢
    refine ⟨h.1, ?_⟩
    intro hfd
    obtain ⟨hrequests, hrest⟩ := h.2 hfd
    exact ⟨List.append_ne_nil_of_left_ne_nil hrequests _, hrest⟩
  | idle => exact absurd hc hstate
  | writing =>
    simp only [hc] at h ⊢
    obtain ⟨hdetect, hinput, hread, req, hpending⟩ := h
    exact ⟨hdetect, hinput, hread, req, hpending.queue more⟩
  | reading r =>
    simp only [hc] at h ⊢
    obtain ⟨hdetect, hwrite, hunfinished, req, v, hpending, hsettle⟩ := h
    exact ⟨hdetect, hwrite, hunfinished, req, v, hpending.queue more, hsettle⟩

/-- No assertion fails when a request is made. -/
theorem Inv.send (huri : env.uriParse ['/'] = some false)
    (h : Inv env processor skeleton rest dates s) (res : ConnectResult) {p : Packet}
    (hp : Sendable env.abi processor p) :
    ∃ r, s.client.make res s.made.length (sendRequest p) = some r ∧
      Inv env processor skeleton rest dates
        { s with client := r.1, made := if r.2 then s.made ++ [p] else s.made } := by
  have hfacts := h.facts
  have hqueue := h.core.queue hp hfacts.requests_ne_nil
  by_cases hconnected : s.client.isConnected = true
  · unfold Client.make
    dsimp only
    rw [if_pos hconnected]
    by_cases hempty : s.client.requests = []
    · rw [if_pos hempty]
      have hidle : s.client.state = .idle :=
        not_not.mp fun hstate => hfacts.requests_ne_nil hconnected hstate hempty
      unfold Facts at hfacts
      simp only [hidle] at hfacts
      obtain ⟨_, _, hinput, _, hreceived⟩ := hfacts
      have hsent := hqueue.dispatch huri hidle (List.append_ne_nil_of_right_ne_nil _
        (List.cons_ne_nil _ _)) hinput hreceived
      obtain ⟨c, hc, hinv⟩ := hsent
      exact ⟨(c, true), congrArg _ hc, hinv⟩
    · rw [if_neg hempty]
      refine ⟨_, rfl, hqueue, ?_⟩
      by_cases hidle : s.client.state = .idle
      · unfold Facts at hfacts
        simp only [hidle] at hfacts
        exact absurd hfacts.2.1 hempty
      · exact hfacts.queue hidle _
  · have hidle : s.client.state ≠ .idle := by
      intro hidle
      simp [Client.isConnected, hidle] at hconnected
    generalize hqueued : ({ s.client with
      requests := s.client.requests ++ [(s.made.length, sendRequest p)] } : Client) = queued
        at hqueue
    have hsame : queued.state = s.client.state ∧ queued.requests ≠ [] ∧
        queued.isConnected = false ∧ queued.closeDetect = false ∧
        Facts env dates s.received queued := by
      rw [← hqueued]
      exact ⟨rfl, List.append_ne_nil_of_right_ne_nil _ (List.cons_ne_nil _ _),
        Bool.eq_false_iff.mpr hconnected, hfacts.closeDetect hidle, hfacts.queue hidle _⟩
    obtain ⟨hstate, hrequests, hdown, hdetect, hqueuedFacts⟩ := hsame
    have hmake : s.client.make res s.made.length (sendRequest p) =
        (queued.connect res).map fun r =>
          if r.2 then (r.1, true) else ({ r.1 with requests := s.client.requests }, false) := by
      rw [← hqueued]
      exact if_neg hconnected
    by_cases hconnecting : queued.state = .connecting
    · have hsame : queued.connect res = some (queued, true) := by
        unfold Client.connect
        exact if_pos hconnecting
      rw [hsame] at hmake
      exact ⟨(queued, true), hmake, hqueue, hqueuedFacts⟩
    · obtain ⟨r, hr, hgiven⟩ := Client.connect_spec res hconnecting hrequests hdetect
      rw [hr, Option.map_some] at hmake
      cases hok : r.2 with
      | true =>
        rw [if_pos hok] at hmake
        refine ⟨_, hmake, ?_⟩
        exact hqueue.down hdetect (Client.attempts_connect res _ r hdown hr).1 hgiven
      | false =>
        rw [if_neg (by rw [hok]; exact Bool.false_ne_true)] at hmake
        refine ⟨_, hmake, ?_⟩
        exact h.core.down (hfacts.closeDetect hidle) (Client.keeps_make hmake)
          (Client.make_fails hmake)

end Events

end KinectHelper.Exchange
