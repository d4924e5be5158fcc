import KinectHelper.Framework.Multiplex
import KinectHelper.Libevent.EvhttpResponse

namespace KinectHelper.Libevent

/-- The states of an outgoing connection; `EVCON_READING_FIRSTLINE` and the other three are one
with the reading of the reply. -/
inductive ClientState where
  | disconnected
  | connecting
  | idle
  | writing
  | reading (r : Reading)
  deriving DecidableEq

/-- What a request's callback is called with: the request and its reply, the request although it
was never sent, or NULL. -/
inductive Outcome where
  | answered (responseCode : Int)
  | unsent
  | failed
  deriving DecidableEq

/-- Requests are numbered as they are made. -/
structure Client where
  state : ClientState
  /-- how many sockets there have been -/
  socket : Nat
  /-- whether `evcon->fd` is the last of them -/
  fd : Bool
  requests : List (Nat × EvhttpRequest)
  /-- what is in the input buffer -/
  input : Block
  readEnabled : Bool
  writeEnabled : Bool
  /-- `EVHTTP_CON_CLOSEDETECT` -/
  closeDetect : Bool
  /-- `read_more_deferred_cb` is scheduled -/
  deferred : Bool
  /-- the callbacks called so far -/
  called : List (Nat × Outcome)
  /-- what has been written, with the number of the request, and to which socket -/
  sent : List (Nat × Nat × Block)
  deriving DecidableEq

/-- The outcome of the attempt to connect in `evhttp_connection_connect`. -/
inductive ConnectResult where
  /-- `bind_socket` fails -/
  | noSocket
  /-- `bufferevent_socket_connect_hostname` knows no such port -/
  | badPort
  /-- it calls the callback at once, with `ECONNREFUSED` -/
  | refused
  /-- it calls the callback at once with another error; `next` is the outcome of the attempt that
  `evhttp_connection_fail` then makes for the other requests, if there are any -/
  | failed (next : ConnectResult)
  | inProgress
  deriving DecidableEq

/-- The `what` of `evhttp_connection_cb` and `evhttp_error_cb`. -/
inductive ErrorEvent where
  /-- `ECONNREFUSED`, or an error of the socket after connecting -/
  | refused
  | timeout
  /-- the end of the input -/
  | eof
  | other
  deriving DecidableEq

namespace Client

/-- `evhttp_connection_base_new` -/
def new : Client := ⟨.disconnected, 0, false, [], [], false, true, false, false, [], []⟩

/-- `evhttp_connected` -/
def isConnected (c : Client) : Bool :=
  match c.state with
  | .disconnected | .connecting => false
  | _ => true

/-- `evhttp_connection_reset` -/
def reset (c : Client) : Client :=
  { c with
    state := .disconnected, fd := false, input := [], readEnabled := false, writeEnabled := false }

/-- `evhttp_connection_cb_cleanup` with `retry_max` zero. -/
def cleanup (c : Client) : Client :=
  { c.reset with requests := [], called := c.called ++ c.requests.map fun q => (q.1, .unsent) }

/-- `evhttp_connection_fail`; `connect` is the next attempt. Here and below `none` is a failed
assertion, or a step that has no meaning. -/
def failWith (connect : Client → Option (Client × Bool)) (c : Client) : Option Client :=
  match c.requests with
  | [] => none
  | (i, _)::rest =>
      let c := reset { c with requests := rest, readEnabled := false, writeEnabled := false }
      let next := if rest = [] then some c else (connect c).map Prod.fst
      next.map fun c => { c with called := c.called ++ [(i, .failed)] }

/-- The end of `evhttp_error_cb`. -/
def connectionErrorWith (connect : Client → Option (Client × Bool)) (c : Client) : Option Client :=
  if c.closeDetect then
    if c.state = .idle then some (reset { c with closeDetect := false }) else none
  else c.failWith connect

/-- `evhttp_connection_connect` once it has a socket. -/
def opened (c : Client) : Client :=
  { c.reset with socket := c.socket + 1, fd := true, writeEnabled := true }

/-- `evhttp_connection_connect`, and whether it returns zero. Where the callback has been called at
once, the state is `EVCON_CONNECTING` all the same. -/
def connect : ConnectResult → Client → Option (Client × Bool)
  | res, c =>
      if c.state = .connecting then some (c, true)
      else
        match res with
        | .noSocket => some (c.reset, false)
        | .badPort => some (c.opened.cleanup, true)
        | .refused => some ({ c.opened.cleanup with state := .connecting }, true)
        | .failed next =>
            (c.opened.connectionErrorWith (connect next)).map fun c =>
              ({ c with state := .connecting }, true)
        | .inProgress => some ({ c.opened with state := .connecting }, true)

/-- `evhttp_connection_fail` -/
def fail (res : ConnectResult) (c : Client) : Option Client := c.failWith (connect res)

def connectionError (res : ConnectResult) (c : Client) : Option Client :=
  c.connectionErrorWith (connect res)

/-- `evhttp_request_dispatch` -/
def dispatch (c : Client) : Option Client :=
  match c.requests with
  | [] => some c
  | (i, req)::rest =>
      if c.state = .idle then
        some { c with
          state := .writing
          requests :=
            (i, { req with outputHeaders := makeHeaderRequest req, outputBuffer := [] })::rest
          readEnabled := false
          writeEnabled := true
          closeDetect := false
          sent := c.sent ++ [(c.socket, i, makeHeader req)] }
      else none

/-- `evhttp_make_request` for a request whose type, URI and version are set, and whether it returns
zero. -/
def make (res : ConnectResult) (i : Nat) (req : EvhttpRequest) (c : Client) :
    Option (Client × Bool) :=
  let queued := { c with requests := c.requests ++ [(i, req)] }
  if c.isConnected then
    if c.requests = [] then queued.dispatch.map fun c => (c, true) else some (queued, true)
  else
    (queued.connect res).map fun r =>
      if r.2 then (r.1, true) else ({ r.1 with requests := c.requests }, false)

/-- `evhttp_connection_done` -/
def done (res : ConnectResult) (r : Reading) (c : Client) : Option Client :=
  match c.requests with
  | [] => none
  | (i, _)::rest =>
      let needClose := isConnectionClose r.req.proxy r.req.inputHeaders ||
        isConnectionClose r.req.proxy r.req.outputHeaders
      let c := { c with state := .idle, requests := rest }
      let c := if needClose then c.reset else c
      let next :=
        if rest ≠ [] then
          if c.isConnected then c.dispatch else (c.connect res).map Prod.fst
        else if needClose then some c
        else some { c with closeDetect := true, readEnabled := true }
      next.map fun c => { c with called := c.called ++ [(i, .answered r.responseCode)] }

/-- `evhttp_start_read` -/
def startRead (req : EvhttpRequest) (c : Client) : Client :=
  { c with
    state := .reading (.start req)
    readEnabled := true
    writeEnabled := false
    deferred := c.deferred || !c.input.isEmpty }

/-- `evhttp_read_cb` -/
def read (env : Environment) (res : ConnectResult) (c : Client) : Option Client :=
  let c := { c with deferred := false }
  match c.state with
  | .reading r =>
      let (r, input) := (Reading.reader env).settle r c.input
      let c := { c with state := .reading r, input := input }
      match r.phase with
      | .finished => done res r { c with readEnabled := false }
      | .corrupted => c.fail res
      | .undefined => none
      | _ => some c
  | .idle => some c.reset
  | .disconnected | .connecting | .writing => none

/-- `evhttp_write_connectioncb` -/
def written (c : Client) : Option Client :=
  match c.requests with
  | [] => none
  | (_, req)::_ => if c.state = .writing then some (c.startRead req) else none

/-- `evhttp_connection_cb` where there is no connection, and `evhttp_error_cb`. -/
def error (res : ConnectResult) (what : ErrorEvent) (c : Client) : Option Client :=
  match c.state with
  | .connecting =>
      if what = .refused ∨ what = .timeout then some c.cleanup else c.connectionError res
  | .reading r =>
      if r.phase = .body ∧ r.req.chunked = false ∧ r.req.ntoread < 0 ∧ what = .eof then c.done res r
      else c.connectionError res
  | _ => c.connectionError res

/-- What the event loop calls the connection for. -/
inductive Event where
  | connected
  | error (what : ErrorEvent)
  /-- the output buffer has been written -/
  | written
  /-- some input has arrived -/
  | readable (piece : Block)
  | deferredRead
  deriving DecidableEq

def Enabled (c : Client) : Event → Prop
  | .connected => c.state = .connecting ∧ c.fd = true
  | .error _ => c.fd = true
  | .written => c.writeEnabled = true ∧ c.isConnected = true
  | .readable piece => c.readEnabled = true ∧ c.isConnected = true ∧ piece ≠ []
  | .deferredRead => c.deferred = true

instance (c : Client) : (e : Event) → Decidable (c.Enabled e)
  | .connected => inferInstanceAs (Decidable (c.state = .connecting ∧ c.fd = true))
  | .error _ => inferInstanceAs (Decidable (c.fd = true))
  | .written => inferInstanceAs (Decidable (c.writeEnabled = true ∧ c.isConnected = true))
  | .readable piece =>
      inferInstanceAs (Decidable (c.readEnabled = true ∧ c.isConnected = true ∧ piece ≠ []))
  | .deferredRead => inferInstanceAs (Decidable (c.deferred = true))

/-- `evhttp_write_buffer` takes the read callback away until the request is written. -/
def event (env : Environment) (res : ConnectResult) (c : Client) : Event → Option Client
  | .connected => dispatch { c with state := .idle }
  | .error what => c.error res what
  | .written => c.written
  | .readable piece =>
      let c := { c with input := c.input ++ piece }
      if c.state = .writing then some c else c.read env res
  | .deferredRead => c.read env res

/-- The requests whose callback has been called, and those whose callback has not. -/
def numbers (c : Client) : List Nat := c.called.map Prod.fst ++ c.requests.map Prod.fst

/-- The requests that have not been written yet. -/
def waiting (c : Client) : List (Nat × EvhttpRequest) :=
  match c.state with
  | .writing | .reading _ => c.requests.tail
  | _ => c.requests

/-- What has been written, and what is to be written. -/
def line (c : Client) : List (Nat × Block) :=
  c.sent.map Prod.snd ++ c.waiting.map fun q => (q.1, makeHeader q.2)

/-- The code keeps every request; it may drop some of what is to be written. -/
structure Keeps (c c' : Client) : Prop where
  numbers : c'.numbers.Perm c.numbers
  line : c'.line.Sublist c.line

variable {c c' : Client} {res : ConnectResult}

theorem Keeps.refl (c : Client) : Keeps c c := ⟨List.Perm.refl _, List.Sublist.refl _⟩

theorem Keeps.trans {c'' : Client} (h : Keeps c c') (h' : Keeps c' c'') : Keeps c c'' :=
  ⟨h'.numbers.trans h.numbers, h'.line.trans h.line⟩

theorem Keeps.of_eq (hcalled : c'.called = c.called) (hrequests : c'.requests = c.requests)
    (hsent : c'.sent = c.sent) (hwaiting : c'.waiting = c.waiting) : Keeps c c' where
  numbers := by
    have hnumbers : c'.numbers = c.numbers := by
      rw [Client.numbers, hcalled, hrequests, Client.numbers]
    rw [hnumbers]
  line := by
    have hline : c'.line = c.line := by rw [Client.line, hsent, hwaiting, Client.line]
    rw [hline]

theorem keeps_cleanup (c : Client) : Keeps c c.cleanup where
  numbers := by
    have hcalled : c.cleanup.numbers = c.numbers := by
      simp [Client.numbers, cleanup, List.map_append]
    rw [hcalled]
  line := by
    have hline : c.cleanup.line = c.sent.map Prod.snd := by
      simp [Client.line, cleanup, reset, waiting]
    rw [hline]
    exact List.sublist_append_left _ _

theorem waiting_disconnected (h : c.isConnected = false) : c.waiting = c.requests := by
  unfold isConnected at h
  unfold waiting
  cases hstate : c.state <;> simp [hstate] at h ⊢

theorem keeps_reset (h : c.waiting = c.requests) : Keeps c c.reset :=
  Keeps.of_eq rfl rfl rfl h.symm

theorem keeps_dispatch (h : c.dispatch = some c') : Keeps c c' := by
  unfold dispatch at h
  split at h
  · cases h
    exact Keeps.refl c
  · next i req rest hrequests =>
    split_ifs at h with hstate
    cases h
    constructor
    · simp [Client.numbers, hrequests]
    · have hline : ∀ c' : Client, c'.state = .writing → c'.requests.tail = rest →
          c'.sent = c.sent ++ [(c.socket, i, makeHeader req)] → c'.line = c.line := by
        intro c' hstate' htail hsent
        simp [Client.line, waiting, hstate, hstate', htail, hsent, hrequests]
      rw [hline _ rfl rfl rfl]

/-- The callback of the first request. -/
theorem Keeps.called {i : Nat} {req : EvhttpRequest} {rest : List (Nat × EvhttpRequest)}
    {c₁ : Client} (hrequests : c.requests = (i, req)::rest) (hcalled : c₁.called = c.called)
    (hrest : c₁.requests = rest) (hline : c₁.line.Sublist c.line) (h : Keeps c₁ c')
    (outcome : Outcome) : Keeps c { c' with called := c'.called ++ [(i, outcome)] } where
  numbers := by
    have hlast : ({ c' with called := c'.called ++ [(i, outcome)] } : Client).numbers.Perm
        (i::c'.numbers) := by
      simp only [Client.numbers, List.map_append, List.map_cons, List.map_nil, List.append_assoc,
        List.singleton_append]
      exact List.perm_middle
    have hfirst : (i::c₁.numbers).Perm c.numbers := by
      simp only [Client.numbers, hcalled, hrest, hrequests, List.map_cons]
      exact List.perm_middle.symm
    exact (hlast.trans (h.numbers.cons i)).trans hfirst
  line := h.line.trans hline

theorem line_rest {i : Nat} {req : EvhttpRequest} {rest : List (Nat × EvhttpRequest)}
    (hrequests : c.requests = (i, req)::rest) :
    (c.sent.map Prod.snd ++ rest.map fun q => (q.1, makeHeader q.2)).Sublist c.line := by
  apply List.Sublist.append (List.Sublist.refl _)
  apply List.Sublist.map
  unfold waiting
  rw [hrequests]
  split
  · exact List.Sublist.refl _
  · exact List.Sublist.refl _
  · exact List.sublist_cons_self _ _

/-- An attempt to connect keeps the requests, and there is no connection yet after it. -/
def Attempts (connect : Client → Option (Client × Bool)) : Prop :=
  ∀ c r, c.isConnected = false → connect c = some r → Keeps c r.1 ∧ r.1.isConnected = false

theorem keeps_failWith {connect : Client → Option (Client × Bool)} (hconnect : Attempts connect)
    (h : c.failWith connect = some c') : Keeps c c' ∧ c'.isConnected = false := by
  unfold failWith at h
  split at h
  · cases h
  · next i req rest hrequests =>
    dsimp only at h
    obtain ⟨c₂, hnext, rfl⟩ := Option.map_eq_some_iff.mp h
    generalize hc₁ :
      reset { c with requests := rest, readEnabled := false, writeEnabled := false } = c₁ at hnext
    have hdown : c₁.isConnected = false := by
      rw [← hc₁]
      rfl
    have hline : c₁.line.Sublist c.line := by
      rw [← hc₁]
      exact line_rest hrequests
    have hkeeps : Keeps c₁ c₂ ∧ c₂.isConnected = false := by
      split at hnext
      · cases hnext
        exact ⟨Keeps.refl _, hdown⟩
      · obtain ⟨r, hr, rfl⟩ := Option.map_eq_some_iff.mp hnext
        exact hconnect c₁ r hdown hr
    refine ⟨?_, hkeeps.2⟩
    exact Keeps.called hrequests (by rw [← hc₁]; rfl) (by rw [← hc₁]; rfl) hline hkeeps.1 .failed

theorem keeps_connectionErrorWith {connect : Client → Option (Client × Bool)}
    (hconnect : Attempts connect) (h : c.connectionErrorWith connect = some c') :
    Keeps c c' ∧ c'.isConnected = false := by
  unfold connectionErrorWith at h
  split_ifs at h with hdetect hstate
  · cases h
    exact ⟨Keeps.of_eq rfl rfl rfl (by simp [waiting, reset, hstate]), rfl⟩
  · exact keeps_failWith hconnect h

/-- While there is no connection, its state makes no difference to what is waiting. -/
theorem Keeps.connecting (h : Keeps c c') (hdown : c'.isConnected = false) :
    Keeps c { c' with state := .connecting } := by
  apply h.trans
  refine Keeps.of_eq rfl rfl rfl ?_
  rw [waiting_disconnected hdown]
  rfl

theorem keeps_opened (hdown : c.isConnected = false) : Keeps c c.opened :=
  Keeps.of_eq rfl rfl rfl (waiting_disconnected hdown).symm

/-- There is an attempt only where there is none yet. -/
theorem attempts_of_first
    (h : ∀ c r, c.state ≠ .connecting → c.isConnected = false → connect res c = some r →
      Keeps c r.1 ∧ r.1.isConnected = false) : Attempts (connect res) := by
  intro c r hdown hr
  by_cases hstate : c.state = .connecting
  · unfold connect at hr
    rw [if_pos hstate] at hr
    cases hr
    exact ⟨Keeps.refl c, hdown⟩
  · exact h c r hstate hdown hr

theorem attempts_connect (res : ConnectResult) : Attempts (connect res) := by
  induction res with
  | noSocket =>
    apply attempts_of_first
    intro c r hstate hdown h
    unfold connect at h
    rw [if_neg hstate] at h
    cases h
    exact ⟨keeps_reset (waiting_disconnected hdown), rfl⟩
  | badPort =>
    apply attempts_of_first
    intro c r hstate hdown h
    unfold connect at h
    rw [if_neg hstate] at h
    cases h
    exact ⟨(keeps_opened hdown).trans (keeps_cleanup _), rfl⟩
  | refused =>
    apply attempts_of_first
    intro c r hstate hdown h
    unfold connect at h
    rw [if_neg hstate] at h
    cases h
    exact ⟨((keeps_opened hdown).trans (keeps_cleanup _)).connecting rfl, rfl⟩
  | failed next ih =>
    apply attempts_of_first
    intro c r hstate hdown h
    unfold connect at h
    rw [if_neg hstate] at h
    obtain ⟨c₁, hc₁, rfl⟩ := Option.map_eq_some_iff.mp h
    obtain ⟨hkeeps, hdown₁⟩ := keeps_connectionErrorWith ih hc₁
    exact ⟨((keeps_opened hdown).trans hkeeps).connecting hdown₁, rfl⟩
  | inProgress =>
    apply attempts_of_first
    intro c r hstate hdown h
    unfold connect at h
    rw [if_neg hstate] at h
    cases h
    exact ⟨(keeps_opened hdown).connecting rfl, rfl⟩

theorem connect_fails {r : Client × Bool} (h : c.connect res = some r) (hr : r.2 = false) :
    res = .noSocket ∧ c.state ≠ .connecting ∧ r.1 = c.reset := by
  unfold connect at h
  split_ifs at h with hstate
  · cases h
    cases hr
  · cases res with
    | noSocket =>
      cases h
      exact ⟨rfl, hstate, rfl⟩
    | failed next =>
      obtain ⟨c₁, _, rfl⟩ := Option.map_eq_some_iff.mp h
      cases hr
    | badPort | refused | inProgress =>
      cases h
      cases hr

theorem keeps_fail (h : c.fail res = some c') : Keeps c c' :=
  (keeps_failWith (attempts_connect res) h).1

theorem keeps_done {r : Reading} (h : c.done res r = some c') : Keeps c c' := by
  unfold done at h
  split at h
  · cases h
  · next i req rest hrequests =>
    dsimp only at h
    generalize (isConnectionClose r.req.proxy r.req.inputHeaders ||
      isConnectionClose r.req.proxy r.req.outputHeaders) = needClose at h
    obtain ⟨c₂, hnext, rfl⟩ := Option.map_eq_some_iff.mp h
    generalize hc₁ : (if needClose = true then
      reset { c with state := .idle, requests := rest } else
      { c with state := .idle, requests := rest }) = c₁ at hnext
    have hfacts : c₁.called = c.called ∧ c₁.requests = rest ∧ c₁.line.Sublist c.line := by
      rw [← hc₁]
      split
      · exact ⟨rfl, rfl, line_rest hrequests⟩
      · exact ⟨rfl, rfl, line_rest hrequests⟩
    have hkeeps : Keeps c₁ c₂ := by
      split_ifs at hnext with hmore hconnected hclose
      · exact keeps_dispatch hnext
      · obtain ⟨p, hp, rfl⟩ := Option.map_eq_some_iff.mp hnext
        exact (attempts_connect res c₁ p (Bool.eq_false_iff.mpr hconnected) hp).1
      · cases hnext
        exact Keeps.refl _
      · cases hnext
        exact Keeps.of_eq rfl rfl rfl rfl
    exact Keeps.called hrequests hfacts.1 hfacts.2.1 hfacts.2.2 hkeeps _

theorem keeps_read {env : Environment} (h : c.read env res = some c') : Keeps c c' := by
  unfold read at h
  dsimp only at h
  cases hstate : c.state with
  | reading r =>
    simp only [hstate] at h
    generalize (Reading.reader env).settle r c.input = s at h
    have hreading : ∀ enabled, Keeps c
        { c with
          state := .reading s.1, input := s.2, readEnabled := enabled, deferred := false } := by
      intro enabled
      exact Keeps.of_eq rfl rfl rfl (by simp [waiting, hstate])
    split at h
    · exact (hreading false).trans (keeps_done h)
    · exact (hreading _).trans (keeps_fail h)
    · cases h
    · cases h
      exact hreading _
  | idle =>
    simp only [hstate] at h
    cases h
    exact Keeps.of_eq rfl rfl rfl (by simp [waiting, reset, hstate])
  | disconnected | connecting | writing =>
    simp only [hstate] at h
    cases h

theorem keeps_connectionError (h : c.connectionError res = some c') : Keeps c c' :=
  (keeps_connectionErrorWith (attempts_connect res) h).1

theorem keeps_error {what : ErrorEvent} (h : c.error res what = some c') : Keeps c c' := by
  unfold error at h
  split at h
  · split_ifs at h
    · cases h
      exact keeps_cleanup c
    · exact keeps_connectionError h
  · split_ifs at h
    · exact keeps_done h
    · exact keeps_connectionError h
  · exact keeps_connectionError h

theorem keeps_event {env : Environment} {e : Event} (henabled : c.Enabled e)
    (h : c.event env res e = some c') : Keeps c c' := by
  cases e with
  | connected =>
    have hconnecting : c.state = .connecting := henabled.1
    have hidle : Keeps c { c with state := .idle } :=
      Keeps.of_eq rfl rfl rfl (by simp [waiting, hconnecting])
    exact hidle.trans (keeps_dispatch h)
  | error what => exact keeps_error h
  | written =>
    change c.written = some c' at h
    unfold written at h
    split at h
    · cases h
    · split_ifs at h with hstate
      cases h
      exact Keeps.of_eq rfl rfl rfl (by simp [waiting, startRead, hstate])
  | readable piece =>
    simp only [event] at h
    have hinput : Keeps c { c with input := c.input ++ piece } := Keeps.of_eq rfl rfl rfl rfl
    split_ifs at h
    · cases h
      exact hinput
    · exact hinput.trans (keeps_read h)
  | deferredRead => exact keeps_read h

/-- A request that is made comes after the others. -/
theorem keeps_make {i : Nat} {req : EvhttpRequest} {ok : Bool}
    (h : c.make res i req = some (c', ok)) :
    Keeps (if ok then { c with requests := c.requests ++ [(i, req)] } else c) c' := by
  unfold make at h
  dsimp only at h
  split_ifs at h with hconnected hempty
  · obtain ⟨c₁, hdispatch, heq⟩ := Option.map_eq_some_iff.mp h
    cases heq
    exact keeps_dispatch hdispatch
  · cases h
    exact Keeps.refl _
  · have hdown := Bool.eq_false_iff.mpr hconnected
    obtain ⟨r, hr, heq⟩ := Option.map_eq_some_iff.mp h
    split_ifs at heq with hok
    · cases heq
      exact (attempts_connect res { c with requests := c.requests ++ [(i, req)] } r hdown hr).1
    · cases heq
      obtain ⟨_, _, hreset⟩ := connect_fails hr (Bool.eq_false_iff.mpr hok)
      rw [if_neg Bool.false_ne_true, hreset]
      exact Keeps.of_eq rfl rfl rfl (waiting_disconnected hdown).symm

/-- At most a new connection is on its way, with a socket or without. -/
structure Down (c c' : Client) : Prop where
  state : (c'.state = .disconnected ∧ c'.fd = false) ∨ c'.state = .connecting
  attempt : c'.fd = true → c'.requests ≠ [] ∧ c'.input = [] ∧ c.socket < c'.socket
  sent : c'.sent = c.sent
  socket : c.socket ≤ c'.socket
  requests : c'.requests ⊆ c.requests
  deferred : c'.deferred = c.deferred
  closeDetect : c'.closeDetect = c.closeDetect
  answered : ∀ i code, (i, .answered code) ∈ c'.called → (i, .answered code) ∈ c.called

theorem Down.connecting (h : Down c c') : Down c { c' with state := .connecting } :=
  ⟨.inr rfl, h.attempt, h.sent, h.socket, h.requests, h.deferred, h.closeDetect, h.answered⟩

/-- What was given up before does not matter. -/
theorem Down.of_eq {c₁ : Client} (h : Down c₁ c') (hsent : c₁.sent = c.sent)
    (hsocket : c.socket ≤ c₁.socket) (hrequests : c₁.requests ⊆ c.requests)
    (hdeferred : c₁.deferred = c.deferred) (hdetect : c₁.closeDetect = c.closeDetect)
    (hcalled : c₁.called = c.called) : Down c c' where
  state := h.state
  attempt hfd :=
    have hfresh := h.attempt hfd
    ⟨hfresh.1, hfresh.2.1, hsocket.trans_lt hfresh.2.2⟩
  sent := h.sent.trans hsent
  socket := hsocket.trans h.socket
  requests := List.Subset.trans h.requests hrequests
  deferred := h.deferred.trans hdeferred
  closeDetect := h.closeDetect.trans hdetect
  answered := by
    rw [← hcalled]
    exact h.answered

theorem down_reset (c : Client) : Down c c.reset :=
  ⟨.inl ⟨rfl, rfl⟩, nofun, rfl, Nat.le_refl _, List.Subset.refl _, rfl, rfl, fun _ _ h => h⟩

theorem down_cleanup (c : Client) : Down c c.cleanup where
  state := .inl ⟨rfl, rfl⟩
  attempt := nofun
  sent := rfl
  socket := Nat.le_refl _
  requests := List.nil_subset _
  deferred := rfl
  closeDetect := rfl
  answered := by
    intro i code h
    rcases List.mem_append.mp h with h | h
    · exact h
    · obtain ⟨q, _, heq⟩ := List.mem_map.mp h
      cases heq

/-- Where nothing waits for the end of the input, a request fails with whatever else was on the
connection. -/
theorem failWith_spec {connect : Client → Option (Client × Bool)}
    (hconnect : ∀ c : Client, c.state ≠ .connecting → c.requests ≠ [] → c.closeDetect = false →
      ∃ r, connect c = some r ∧ Down c r.1)
    (hrequests : c.requests ≠ []) (hdetect : c.closeDetect = false) :
    ∃ c', c.failWith connect = some c' ∧ Down c c' := by
  obtain ⟨⟨i, req⟩, rest, hcons⟩ := List.exists_cons_of_ne_nil hrequests
  have hfail : c.failWith connect =
      let c₁ := reset { c with requests := rest, readEnabled := false, writeEnabled := false }
      (if rest = [] then some c₁ else (connect c₁).map Prod.fst).map fun c₂ =>
        { c₂ with called := c₂.called ++ [(i, .failed)] } := by
    unfold failWith
    rw [hcons]
  rw [hfail]
  dsimp only
  generalize hc₁ :
    reset { c with requests := rest, readEnabled := false, writeEnabled := false } = c₁
  have hsame : c₁.sent = c.sent ∧ c₁.socket = c.socket ∧ c₁.requests = rest ∧
      c₁.deferred = c.deferred ∧ c₁.closeDetect = c.closeDetect ∧ c₁.called = c.called := by
    rw [← hc₁]
    exact ⟨rfl, rfl, rfl, rfl, rfl, rfl⟩
  obtain ⟨hsent, hsocket, hrest, hdeferred, hdetect₁, hcalled⟩ := hsame
  have hnext : ∃ c₂, (if rest = [] then some c₁ else (connect c₁).map Prod.fst) = some c₂ ∧
      Down c₁ c₂ := by
    split
    · have hdown : Down c₁ c₁ := by
        rw [← hc₁]
        exact down_reset (reset _)
      exact ⟨c₁, rfl, hdown⟩
    · next hmore =>
      have hstate : c₁.state ≠ .connecting := by
        rw [← hc₁]
        exact nofun
      obtain ⟨r, hr, hdown⟩ := hconnect c₁ hstate (by rw [hrest]; exact hmore)
        (hdetect₁.trans hdetect)
      exact ⟨r.1, by rw [hr, Option.map_some], hdown⟩
  obtain ⟨c₂, hc₂, hdown⟩ := hnext
  rw [hc₂]
  refine ⟨_, rfl, ?_⟩
  have hall : Down c c₂ := by
    apply hdown.of_eq hsent hsocket.ge _ hdeferred hdetect₁ hcalled
    rw [hrest, hcons]
    exact List.subset_cons_self _ _
  refine ⟨hall.state, hall.attempt, hall.sent, hall.socket, hall.requests, hall.deferred,
    hall.closeDetect, ?_⟩
  intro j code hj
  apply hall.answered
  rcases List.mem_append.mp hj with hj | hj
  · exact hj
  · cases List.mem_singleton.mp hj

theorem connectionErrorWith_spec {connect : Client → Option (Client × Bool)}
    (hconnect : ∀ c : Client, c.state ≠ .connecting → c.requests ≠ [] → c.closeDetect = false →
      ∃ r, connect c = some r ∧ Down c r.1)
    (hrequests : c.requests ≠ []) (hdetect : c.closeDetect = false) :
    ∃ c', c.connectionErrorWith connect = some c' ∧ Down c c' := by
  unfold connectionErrorWith
  rw [if_neg (by rw [hdetect]; exact Bool.false_ne_true)]
  exact failWith_spec hconnect hrequests hdetect

/-- Whatever comes of an attempt to connect, no assertion fails. -/
theorem connect_spec (res : ConnectResult) (hstate : c.state ≠ .connecting)
    (hrequests : c.requests ≠ []) (hdetect : c.closeDetect = false) :
    ∃ r, c.connect res = some r ∧ Down c r.1 := by
  have hopened : ∀ c c' : Client, Down c.opened c' → Down c c' := fun c c' h =>
    h.of_eq rfl (Nat.le_succ _) (List.Subset.refl _) rfl rfl rfl
  induction res generalizing c with
  | noSocket =>
    refine ⟨(c.reset, false), ?_, down_reset c⟩
    unfold connect
    exact if_neg hstate
  | badPort =>
    refine ⟨(c.opened.cleanup, true), ?_, hopened c _ (down_cleanup _)⟩
    unfold connect
    exact if_neg hstate
  | refused =>
    refine ⟨({ c.opened.cleanup with state := .connecting }, true), ?_,
      hopened c _ (down_cleanup _).connecting⟩
    unfold connect
    exact if_neg hstate
  | inProgress =>
    refine ⟨({ c.opened with state := .connecting }, true), ?_, .inr rfl,
      fun _ => ⟨hrequests, rfl, Nat.lt_succ_self _⟩, rfl, Nat.le_succ _, List.Subset.refl _, rfl,
      rfl, fun _ _ h => h⟩
    unfold connect
    exact if_neg hstate
  | failed next ih =>
    obtain ⟨c', hc', hdown⟩ := connectionErrorWith_spec (c := c.opened)
      (fun c h₁ h₂ h₃ => ih h₁ h₂ h₃) hrequests hdetect
    refine ⟨({ c' with state := .connecting }, true), ?_, (hopened c _ hdown).connecting⟩
    unfold connect
    rw [if_neg hstate]
    dsimp only
    rw [hc']
    rfl

/-- A request is taken back where there is no socket. -/
theorem make_fails {i : Nat} {req : EvhttpRequest} (h : c.make res i req = some (c', false)) :
    Down c c' := by
  unfold make at h
  dsimp only at h
  split_ifs at h with hconnected hempty
  · obtain ⟨c₁, _, heq⟩ := Option.map_eq_some_iff.mp h
    cases heq
  · cases h
  · obtain ⟨r, hr, heq⟩ := Option.map_eq_some_iff.mp h
    split_ifs at heq with hok
    · cases heq
    · cases heq
      obtain ⟨_, _, hreset⟩ := connect_fails hr (Bool.eq_false_iff.mpr hok)
      rw [hreset]
      exact (down_reset c).of_eq rfl (Nat.le_refl _) (List.Subset.refl _) rfl rfl rfl

/-- The first request fails, with whatever else was on the connection. -/
theorem connectionError_spec (res : ConnectResult) (hrequests : c.requests ≠ [])
    (hdetect : c.closeDetect = false) : ∃ c', c.connectionError res = some c' ∧ Down c c' :=
  connectionErrorWith_spec
    (fun _ hstate hrequests hdetect => connect_spec res hstate hrequests hdetect) hrequests hdetect

/-- What `evhttp_request_dispatch` does for the first request. -/
theorem dispatch_spec {i : Nat} {req : EvhttpRequest} {rest : List (Nat × EvhttpRequest)}
    (hstate : c.state = .idle) (hrequests : c.requests = (i, req)::rest) :
    c.dispatch =
      some { c with
        state := .writing
        requests :=
          (i, { req with outputHeaders := makeHeaderRequest req, outputBuffer := [] })::rest
        readEnabled := false
        writeEnabled := true
        closeDetect := false
        sent := c.sent ++ [(c.socket, i, makeHeader req)] } := by
  unfold dispatch
  rw [hrequests]
  exact if_pos hstate

/-- Where neither side asks for a close, the next request is written on the same connection. -/
theorem done_spec (res : ConnectResult) {i : Nat} {req : EvhttpRequest}
    {rest : List (Nat × EvhttpRequest)} {r : Reading} (hrequests : c.requests = (i, req)::rest)
    (hinput : isConnectionClose r.req.proxy r.req.inputHeaders = false)
    (houtput : isConnectionClose r.req.proxy r.req.outputHeaders = false) :
    c.done res r =
      if rest = [] then
        some { c with
          state := .idle, requests := [], readEnabled := true, closeDetect := true
          called := c.called ++ [(i, .answered r.responseCode)] }
      else
        dispatch { c with
          state := .idle, requests := rest
          called := c.called ++ [(i, .answered r.responseCode)] } := by
  unfold done
  rw [hrequests, hinput, houtput]
  by_cases hempty : rest = []
  · subst hempty
    rfl
  · obtain ⟨⟨j, next⟩, more, rfl⟩ := List.exists_cons_of_ne_nil hempty
    rw [if_neg hempty]
    rfl

end Client

end KinectHelper.Libevent
