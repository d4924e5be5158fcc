import KinectHelper.KinectServer.ReplyStream
import KinectHelper.Libevent.EvhttpClient

namespace KinectHelper.Exchange

open Libevent KinectServer Transmission WireTransmission Clients

variable {ρ : Type}

structure State (ρ : Type) where
  client : Client
  /-- the packets of the requests made, in the order of their numbers -/
  made : List Packet
  /-- the server, with one connection for each socket -/
  server : Clients.State ℕ ρ
  /-- what the client has read from each socket -/
  received : ℕ → Block

def start (skeleton : Block) (rest : ρ) : State ρ :=
  ⟨Client.new, [], Clients.start skeleton rest, fun _ => []⟩

namespace State

/-- The packet of a request. -/
def packet (s : State ρ) (i : ℕ) : Packet := s.made.getD i ⟨[], .connectionInit⟩

/-- The numbers of the requests written to a socket. -/
def sentOn (s : State ρ) (k : ℕ) : List ℕ := (eventsOf k s.client.sent).map Prod.fst

/-- What the client has written to a socket. -/
def written (s : State ρ) (k : ℕ) : Block := (eventsOf k s.client.sent).flatMap Prod.snd

/-- What the server has written to a socket. -/
def returned (dates : ℕ → ℕ → Tm) (s : State ρ) (k : ℕ) : Block :=
  replyBytes (dates k) (repliesIn (s.server.loop.control k).log)

/-- How many requests of a socket the server has handled. -/
def handledOn (s : State ρ) (k : ℕ) : ℕ := (requestsSeen (s.server.loop.control k).log).length

/-- What the client reads is the next piece of the replies. -/
def Arrives (dates : ℕ → ℕ → Tm) (s : State ρ) : Client.Event → Prop
  | .readable piece =>
      s.received s.client.socket ++ piece <+: s.returned dates s.client.socket
  | _ => True

instance (dates : ℕ → ℕ → Tm) (s : State ρ) : (e : Client.Event) → Decidable (s.Arrives dates e)
  | .readable piece => inferInstanceAs (Decidable
      (s.received s.client.socket ++ piece <+: s.returned dates s.client.socket))
  | .connected | .error _ | .written | .deferredRead => isTrue trivial

def receivedAfter (s : State ρ) : Client.Event → ℕ → Block
  | .readable piece =>
      Function.update s.received s.client.socket (s.received s.client.socket ++ piece)
  | _ => s.received

end State

inductive Action where
  /-- `Send` makes a request -/
  | send (p : Packet) (res : ConnectResult)
  /-- the event loop of the client -/
  | client (e : Client.Event) (res : ConnectResult)
  /-- the next bytes that the client has written to a socket reach the server -/
  | toServer (k : ℕ) (piece : Block)
  /-- a step of the server's thread -/
  | turn (k : ℕ)

/-- An error of a socket may come at any time; what is on its way is then never read. -/
def step (env : Environment) (processor : Processor ρ) (dates : ℕ → ℕ → Tm)
    (s : State ρ) : Action → Option (State ρ)
  | .send p res =>
      (s.client.make res s.made.length (sendRequest p)).map fun r =>
        { s with client := r.1, made := if r.2 then s.made ++ [p] else s.made }
  | .client e res =>
      if s.client.Enabled e ∧ s.Arrives dates e then
        (s.client.event env res e).map fun c =>
          { s with client := c, received := s.receivedAfter e }
      else none
  | .toServer k piece =>
      if s.server.loop.arrived k ++ piece <+: s.written k then
        (Clients.step env processor s.server (.arrive k piece)).map fun server =>
          { s with server := server }
      else none
  | .turn k =>
      (Clients.step env processor s.server (.turn k)).map fun server =>
        { s with server := server }

/-- Its reply has not been read, and neither side is asked to close the connection. -/
structure Asked (req : EvhttpRequest) : Prop where
  waiting : Reading.Waiting req
  proxy : req.proxy = false
  connection : findHeader req.outputHeaders "Connection".toList = some "Keep-Alive".toList

theorem asked_sendRequest (p : Packet) : Asked (sendRequest p) where
  waiting := ⟨nofun, rfl, rfl, rfl, rfl⟩
  proxy := rfl
  connection := by
    rw [outputHeaders_sendRequest]
    rfl

theorem findHeader_removeHeader {key other : List Char}
    (hother : ∀ k, strcaseEq k other = true → strcaseEq k key = false) (headers : Headers) :
    findHeader (removeHeader headers other) key = findHeader headers key := by
  unfold findHeader removeHeader
  congr 1
  induction headers with
  | nil => rfl
  | cons e headers ih =>
    cases hremoved : strcaseEq e.1 other with
    | true =>
      rw [List.eraseP_cons_of_pos (by simpa using hremoved), List.find?_cons_of_neg]
      rw [hother e.1 hremoved]
      exact Bool.false_ne_true
    | false =>
      rw [List.eraseP_cons_of_neg (by simpa using hremoved)]
      cases hfound : strcaseEq e.1 key with
      | true => rw [List.find?_cons_of_pos (by simpa using hfound),
          List.find?_cons_of_pos (by simpa using hfound)]
      | false => rw [List.find?_cons_of_neg (by simpa using hfound),
          List.find?_cons_of_neg (by simpa using hfound), ih]

theorem Asked.dispatched {req : EvhttpRequest} (h : Asked req) :
    Asked { req with outputHeaders := makeHeaderRequest req, outputBuffer := [] } where
  waiting := ⟨h.waiting.type, h.waiting.inputHeaders, h.waiting.inputBuffer, h.waiting.chunked,
    h.waiting.bodySize⟩
  proxy := h.proxy
  connection := by
    have hremoved : findHeader (removeHeader req.outputHeaders "Proxy-Connection".toList)
        "Connection".toList = some "Keep-Alive".toList := by
      rw [findHeader_removeHeader _ req.outputHeaders, h.connection]
      intro k hk
      unfold strcaseEq at hk ⊢
      rw [of_decide_eq_true hk]
      decide
    change findHeader (makeHeaderRequest req) _ = _
    unfold makeHeaderRequest
    dsimp only
    split
    · rw [put_plain _ (by decide) (plain_toDigits _), findHeader_append, hremoved]
      rfl
    · exact hremoved

/-- The connection stays open after the reply. -/
theorem Asked.keepsOpen {req : EvhttpRequest} (h : Asked req) (tm : Tm) :
    isConnectionClose (Reading.replied req okReply tm).req.proxy
        (Reading.replied req okReply tm).req.inputHeaders = false ∧
      isConnectionClose (Reading.replied req okReply tm).req.proxy
        (Reading.replied req okReply tm).req.outputHeaders = false := by
  have hproxy : (Reading.replied req okReply tm).req.proxy = false := h.proxy
  have houtput : (Reading.replied req okReply tm).req.outputHeaders = req.outputHeaders := rfl
  rw [hproxy, houtput]
  refine ⟨isConnectionClose_okReply tm, ?_⟩
  unfold isConnectionClose
  simp only [Bool.false_eq_true, if_false, h.connection, Option.any_some]
  decide

end KinectHelper.Exchange
