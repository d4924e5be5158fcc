import KinectHelper.Framework.Multiplex
import KinectHelper.KinectServer.WireTransmission

namespace KinectHelper.Clients

open Libevent KinectServer Transmission WireTransmission

variable {ι : Type*} {ρ : Type} [DecidableEq ι]

/-- The connections, one for each client, and the data processor. -/
structure State (ι : Type*) (ρ : Type) where
  loop : Multiplexed ι Connection UInt8 Event
  server : DataProcessor ρ

def start (skeleton : Block) (rest : ρ) : State ι ρ :=
  ⟨Multiplexed.start .start, DataProcessor.start skeleton rest⟩

/-- Bytes arrive at a connection, or it takes a step; a request that the step completes is handled
in it. -/
def step (env : Environment) (processor : Processor ρ) (s : State ι ρ)
    (a : LoopAction ι UInt8) : Option (State ι ρ) :=
  (s.loop.step (Connection.reader env) Connection.log a).bind fun loop =>
    let news := (loop.merged.drop s.loop.merged.length).map Prod.snd
    (handle env.abi processor s.server (requestsSeen news)).map fun server => ⟨loop, server⟩

def requestIn : Event → Option Request
  | .request req => some (requestSeen req)
  | .reply _ => none

/-- The requests of a history, each with its client. -/
def requestsOf (merged : List (ι × Event)) : List (ι × Request) :=
  merged.filterMap fun e => (requestIn e.2).map fun request => (e.1, request)

/-- The requests handled so far. -/
def State.handled (s : State ι ρ) : List (ι × Request) := requestsOf s.loop.merged

/-- The connection waits for more bytes. -/
def State.Waits (env : Environment) (s : State ι ρ) (i : ι) : Prop :=
  Connection.step env (s.loop.control i) (s.loop.buffer i) = none

structure Inv (env : Environment) (processor : Processor ρ) (skeleton : Block)
    (rest : ρ) (s : State ι ρ) : Prop where
  apart : s.loop.Apart (Connection.reader env) Connection.log .start
  server : handle env.abi processor (DataProcessor.start skeleton rest)
    (requestsSeen (s.loop.merged.map Prod.snd)) = some s.server

section Inv

variable {env : Environment} {processor : Processor ρ} {skeleton : Block} {rest : ρ}
  {s t : State ι ρ} {a : LoopAction ι UInt8}

theorem requestsSeen_append (log more : List Event) :
    requestsSeen (log ++ more) = requestsSeen log ++ requestsSeen more :=
  List.filterMap_append

theorem handle_append (server : DataProcessor ρ) (requests more : List Request) :
    handle env.abi processor server (requests ++ more) =
      (handle env.abi processor server requests).bind fun p => handle env.abi processor p more :=
  exec_append _ server requests more

theorem grows_reader (c : Connection) (buf : Block) (r : Connection × Block)
    (h : (Connection.reader env).step c buf = some r) : c.log <+: r.1.log :=
  Connection.grows_step h

theorem inv_start : Inv env processor skeleton rest (start skeleton rest : State ι ρ) where
  apart := Multiplexed.apart_start rfl
  server := rfl

/-- The data processor has been given the requests of all clients, in the order in which they were
completed. -/
theorem Inv.handle_merged (h : Inv env processor skeleton rest s)
    {loop : Multiplexed ι Connection UInt8 Event}
    (hloop : s.loop.step (Connection.reader env) Connection.log a = some loop) :
    handle env.abi processor (DataProcessor.start skeleton rest)
        (requestsSeen (loop.merged.map Prod.snd)) =
      handle env.abi processor s.server
        (requestsSeen ((loop.merged.drop s.loop.merged.length).map Prod.snd)) := by
  have hmerged : loop.merged = s.loop.merged ++ loop.merged.drop s.loop.merged.length :=
    (List.prefix_iff_eq_append.mp (Multiplexed.merged_step hloop)).symm
  rw [hmerged, List.map_append, requestsSeen_append, handle_append, h.server, Option.bind_some,
    List.drop_left]

theorem Inv.step (h : Inv env processor skeleton rest s)
    (ha : step env processor s a = some t) : Inv env processor skeleton rest t := by
  obtain ⟨loop, hloop, ht⟩ := Option.bind_eq_some_iff.mp ha
  obtain ⟨server, hserver, rfl⟩ := Option.map_eq_some_iff.mp ht
  constructor
  · exact h.apart.step grows_reader hloop
  · exact (h.handle_merged hloop).trans hserver

theorem loop_step (h : step env processor s a = some t) :
    s.loop.step (Connection.reader env) Connection.log a = some t.loop := by
  obtain ⟨loop, hloop, ht⟩ := Option.bind_eq_some_iff.mp h
  obtain ⟨server, _, rfl⟩ := Option.map_eq_some_iff.mp ht
  exact hloop

end Inv

omit [DecidableEq ι] in
theorem map_requestsOf (merged : List (ι × Event)) :
    (requestsOf merged).map Prod.snd = requestsSeen (merged.map Prod.snd) := by
  unfold requestsOf requestsSeen
  rw [List.map_filterMap, List.filterMap_map]
  apply List.filterMap_congr
  intro e _
  obtain ⟨i, event⟩ := e
  cases event <;> rfl

/-- The packets of one client that have been served: every one of which the last byte has arrived,
once the connection waits. No request has asked for a `100 Continue`. -/
structure Served (env : Environment) (loop : Multiplexed ι Connection UInt8 Event)
    (packets : List Packet) (i : ι) (n : Nat) : Prop where
  bound : n ≤ packets.length
  whole : (packets.take n).flatMap wire <+: loop.arrived i
  requests : eventsOf i (requestsOf loop.merged) = (packets.take n).map requestOf
  nothing : (loop.control i).expected = []
  waits : Connection.step env (loop.control i) (loop.buffer i) = none →
    (loop.control i).log = dialogue ((packets.take n).map received) none ∧
      ∀ m ≤ packets.length, (packets.take m).flatMap wire <+: loop.arrived i → m ≤ n

section Served

variable {env : Environment} {packets : ι → List Packet}
  {loop : Multiplexed ι Connection UInt8 Event}

theorem requestsSeen_mono {log more : List Event} (h : log <+: more) :
    requestsSeen log <+: requestsSeen more := List.IsPrefix.filterMap _ h

theorem eventsOf_requestsOf (i : ι) (merged : List (ι × Event)) :
    eventsOf i (requestsOf merged) = requestsSeen (eventsOf i merged) :=
  eventsOf_filterMap i requestIn merged

theorem exists_served (huri : env.uriParse ['/'] = some false)
    (hpackets : ∀ i, ∀ p ∈ packets i, p.data.length < 2^31)
    (hapart : loop.Apart (Connection.reader env) Connection.log .start)
    (harrived : ∀ i, loop.arrived i <+: (packets i).flatMap wire) (i : ι) :
    ∃ n, Served env loop (packets i) i n := by
  obtain ⟨N, hN, hiff, hlog, hexpected⟩ := settle_dialogue huri (hpackets i) (harrived i)
  have hnothing : (loop.control i).expected = [] := by
    have hgrows : (loop.control i).expected <+:
        ((Connection.reader env).settle (loop.control i) (loop.buffer i)).1.expected :=
      Connection.expected_settle (loop.control i) (loop.buffer i)
    rw [hapart.settle i, hexpected] at hgrows
    exact List.prefix_nil.mp hgrows
  obtain ⟨hbeginning, hwaits⟩ := hapart.events grows_reader i
  rw [hlog] at hbeginning hwaits
  have hseen := requestsSeen_mono hbeginning
  rw [requestsSeen_dialogue, ← eventsOf_requestsOf] at hseen
  by_cases hnone : Connection.step env (loop.control i) (loop.buffer i) = none
  · have hall := hwaits hnone
    refine ⟨N, hN, (hiff N hN).mp (Nat.le_refl N), ?_, hnothing, ?_⟩
    · rw [eventsOf_requestsOf, hall, requestsSeen_dialogue]
    · intro _
      refine ⟨by rw [← hapart.merged i, hall], ?_⟩
      intro m hm
      exact (hiff m hm).mpr
  · obtain ⟨n, hn, htake⟩ : ∃ n ≤ N, eventsOf i (requestsOf loop.merged) =
        ((packets i).take n).map requestOf := by
      generalize hrequests : eventsOf i (requestsOf loop.merged) = requests at hseen
      have hlength : requests.length ≤ N := by
        have hle := hseen.length_le
        rw [List.length_map, List.length_take] at hle
        omega
      refine ⟨requests.length, hlength, ?_⟩
      calc requests
          = (((packets i).take N).map requestOf).take requests.length :=
            List.prefix_iff_eq_take.mp hseen
        _ = ((packets i).take requests.length).map requestOf := by
            rw [← List.map_take, List.take_take, Nat.min_eq_left hlength]
    refine ⟨n, hn.trans hN, (hiff n (hn.trans hN)).mp hn, htake, hnothing, ?_⟩
    intro hwait
    exact absurd hwait hnone

omit [DecidableEq ι] in
/-- What the data processor has made of the packets that have been served. -/
theorem exists_shown (processor : Processor ρ) (skeleton : Block) (rest : ρ) {γ : Type*}
    (packet : γ → Packet) {merged : List (ι × Event)} {served : List (ι × γ)}
    (hserved : requestsOf merged = served.map fun e => (e.1, requestOf (packet e.2)))
    (hsendable : ∀ e ∈ served, Sendable env.abi processor (packet e.2)) :
    ∃ shown : List Capture,
      shown.map Capture.packet = (served.map fun e => packet e.2).filter isData ∧
      ∃ server, handle env.abi processor (DataProcessor.start skeleton rest)
          (requestsSeen (merged.map Prod.snd)) = some server ∧
        server.rgbFrame = (shown.filterMap Capture.colorFrame).getLast? ∧
        server.depthFrame = (shown.filterMap Capture.depthFrame).getLast? ∧
        server.skeleton = (shown.filterMap Capture.skeletonBytes).getLast?.getD skeleton := by
  have hrequests : requestsSeen (merged.map Prod.snd) =
      (served.map fun e => packet e.2).map requestOf := by
    rw [← map_requestsOf, hserved, List.map_map, List.map_map]
    rfl
  rw [hrequests]
  apply handle_sendable processor skeleton rest
  intro p hp
  obtain ⟨e, he, rfl⟩ := List.mem_map.mp hp
  exact hsendable e he

/-- What all the clients together have sent, and what the data processor has made of it. -/
theorem exists_held (huri : env.uriParse ['/'] = some false) (processor : Processor ρ)
    (hpackets : ∀ i, ∀ p ∈ packets i, Sendable env.abi processor p) (skeleton : Block) (rest : ρ)
    (hapart : loop.Apart (Connection.reader env) Connection.log .start)
    (harrived : ∀ i, loop.arrived i <+: (packets i).flatMap wire) :
    ∃ served : List (ι × Packet),
      requestsOf loop.merged = served.map (fun e => (e.1, requestOf e.2)) ∧
      (∀ i, ∃ n, Served env loop (packets i) i n ∧ eventsOf i served = (packets i).take n) ∧
      ∃ shown : List Capture, shown.map Capture.packet = (served.map Prod.snd).filter isData ∧
        ∃ server, handle env.abi processor (DataProcessor.start skeleton rest)
            (requestsSeen (loop.merged.map Prod.snd)) = some server ∧
          server.rgbFrame = (shown.filterMap Capture.colorFrame).getLast? ∧
          server.depthFrame = (shown.filterMap Capture.depthFrame).getLast? ∧
          server.skeleton = (shown.filterMap Capture.skeletonBytes).getLast?.getD skeleton := by
  choose n hn using exists_served huri (fun i p hp => (hpackets i p hp).short) hapart harrived
  obtain ⟨served, hserved, heach⟩ := exists_eventsOf fun i => (hn i).requests
  have hsendable : ∀ e ∈ served, Sendable env.abi processor e.2 := by
    intro e he
    have hmem := mem_eventsOf.mpr he
    rw [heach] at hmem
    exact hpackets e.1 e.2 (List.mem_of_mem_take hmem)
  exact ⟨served, hserved.symm, fun i => ⟨n i, hn i, heach i⟩,
    exists_shown processor skeleton rest id hserved.symm hsendable⟩

/-- No step of a connection makes the server fault. -/
theorem Inv.turn {processor : Processor ρ} {skeleton : Block} {rest : ρ} {s : State ι ρ}
    (huri : env.uriParse ['/'] = some false)
    {packets : ι → List Packet} (hpackets : ∀ i, ∀ p ∈ packets i, Sendable env.abi processor p)
    (h : Inv env processor skeleton rest s)
    (harrived : ∀ i, s.loop.arrived i <+: (packets i).flatMap wire) {i : ι}
    (hturn : ¬ s.Waits env i) : ∃ t, Clients.step env processor s (.turn i) = some t := by
  obtain ⟨r, hr⟩ := Option.ne_none_iff_exists'.mp hturn
  have hloop : ∃ loop,
      s.loop.step (Connection.reader env) Connection.log (.turn i) = some loop := by
    change ∃ loop, (Connection.step env (s.loop.control i) (s.loop.buffer i)).map _ = some loop
    rw [hr]
    exact ⟨_, rfl⟩
  obtain ⟨loop, hloop⟩ := hloop
  rw [← Multiplexed.arrived_turn hloop] at harrived
  obtain ⟨_, _, _, _, _, server, hserver, _⟩ := exists_held huri processor hpackets
    skeleton rest (h.apart.step grows_reader hloop) harrived
  rw [h.handle_merged hloop] at hserver
  refine ⟨⟨loop, server⟩, ?_⟩
  unfold Clients.step
  rw [hloop, Option.bind_some]
  dsimp only
  rw [hserver]
  rfl

end Served

end KinectHelper.Clients
