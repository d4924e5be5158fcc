import KinectHelper.KinectServer.Transmission
import KinectHelper.Libevent.EvhttpWire

namespace KinectHelper.WireTransmission

open Libevent KinectServer Transmission

variable {ρ : Type}

/-- The request that `KinectDataSender::Send` makes. -/
def sendRequest (p : Packet) : EvhttpRequest :=
  let headers := put [] "Kinect-Data".toList (toString p.type.toInt).toList
  makeRequest
    { EvhttpRequest.new with
      outputHeaders := put headers "Connection".toList "Keep-Alive".toList
      outputBuffer := p.data }
    .post ['/']

/-- What the client writes to the connection. -/
def wire (p : Packet) : Block := makeHeader (sendRequest p)

/-- What `_OnRequest` reads of a request. -/
def requestSeen (req : EvhttpRequest) : Request :=
  ⟨(findHeader req.inputHeaders "Kinect-Data".toList).map String.ofList, some req.inputBuffer⟩

/-- The requests of a dialogue. -/
def requestsSeen (log : List Event) : List Request :=
  log.filterMap fun
    | .request req => some (requestSeen req)
    | .reply _ => none

/-- The request of a packet as the server has read it. -/
def received (p : Packet) : EvhttpRequest where
  type := some .post
  uri := some ['/']
  proxy := false
  major := 1
  minor := 1
  inputHeaders := makeHeaderRequest (sendRequest p)
  outputHeaders := []
  inputBuffer := p.data
  outputBuffer := []
  chunked := false
  ntoread := 0
  bodySize := p.data.length

theorem put_plain (headers : Headers) {key value : List Char} (hkey : Plain key)
    (hvalue : Plain value) : put headers key value = headers ++ [(key, value)] := by
  have hline : ¬ ('\r' ∈ key ∨ '\n' ∈ key) :=
    not_or.mpr ⟨fun hcr => (hkey _ hcr).2.2.2 rfl, fun hlf => (hkey _ hlf).2.2.1 rfl⟩
  unfold put addHeader
  rw [if_neg hline, headerIsValidValue, if_pos (validFrom_plain hvalue), Option.getD_some]

theorem plain_type (type : KinectDataType) : Plain (toString type.toInt).toList := by
  cases type <;> decide

theorem outputHeaders_sendRequest (p : Packet) :
    (sendRequest p).outputHeaders =
      [("Kinect-Data".toList, (toString p.type.toInt).toList),
        ("Connection".toList, "Keep-Alive".toList)] := by
  simp only [sendRequest, makeRequest]
  rw [put_plain _ (by decide) (plain_type p.type), put_plain _ (by decide) (by decide)]
  rfl

theorem headers_sendRequest (p : Packet) :
    makeHeaderRequest (sendRequest p) =
      [("Kinect-Data".toList, (toString p.type.toInt).toList),
        ("Connection".toList, "Keep-Alive".toList),
        ("Content-Length".toList, Nat.toDigits 10 p.data.length)] := by
  have houtput := outputHeaders_sendRequest p
  have hremove : removeHeader (sendRequest p).outputHeaders "Proxy-Connection".toList =
      (sendRequest p).outputHeaders := by
    rw [houtput]
    rfl
  unfold makeHeaderRequest
  dsimp only
  rw [hremove, if_pos ⟨.inl rfl, by rw [houtput]; rfl⟩,
    put_plain _ (by decide) (plain_toDigits _), houtput]
  rfl

theorem wellFormed_headers (p : Packet) :
    ∀ e ∈ makeHeaderRequest (sendRequest p), WellFormed e := by
  have htype : (toString p.type.toInt).toList.head? ≠ some ' ' := by
    cases p.type <;> decide
  have hdigits : (Nat.toDigits 10 p.data.length).head? ≠ some ' ' := by
    intro hhead
    have hdigit := isDigit_toDigits (List.mem_of_mem_head? (Option.mem_def.mpr hhead))
    cases hdigit
  rw [headers_sendRequest]
  intro e he
  simp only [List.mem_cons, List.not_mem_nil, or_false] at he
  rcases he with rfl | rfl | rfl
  · exact wellFormed_of (by decide) (plain_type p.type) htype
  · exact wellFormed_of (by decide) (by decide) (by decide)
  · exact wellFormed_of (by decide) (plain_toDigits _) hdigits

theorem received_connection (p : Packet) :
    findHeader (received p).inputHeaders "Connection".toList = some "Keep-Alive".toList := by
  change findHeader (makeHeaderRequest (sendRequest p)) _ = _
  rw [headers_sendRequest]
  rfl

theorem received_close (p : Packet) :
    isConnectionClose false (received p).inputHeaders = false := by
  change (findHeader (received p).inputHeaders "Connection".toList).any _ = false
  rw [received_connection]
  decide

/-- The reply says nothing of a close. -/
theorem makeHeaderResponse_received (p : Packet) :
    makeHeaderResponse (received p) = [("Content-Length".toList, ['0']),
      ("Content-Type".toList, "text/html; charset=ISO-8859-1".toList)] := by
  have hkeepalive : isConnectionKeepalive (received p).inputHeaders = true := by
    unfold isConnectionKeepalive
    rw [received_connection]
    decide
  have hproxy : (received p).proxy = false := rfl
  have hmajor : (received p).major = 1 := rfl
  have hminor : (received p).minor = 1 := rfl
  have hneeds : (received p).responseNeedsBody = true := rfl
  have hheaders : (received p).outputHeaders = [] := rfl
  have hbuffer : (received p).outputBuffer = [] := rfl
  simp only [makeHeaderResponse, hkeepalive, hproxy, received_close, hmajor, hminor, hneeds,
    hheaders, hbuffer]
  decide

theorem requestLine_sendRequest (p : Packet) :
    requestLine (sendRequest p) = "POST / HTTP/1.1".toList := by
  have htype : (sendRequest p).type = some .post := rfl
  have huri : (sendRequest p).uri = some ['/'] := rfl
  have hmajor : (sendRequest p).major = 1 := rfl
  have hminor : (sendRequest p).minor = 1 := rfl
  simp only [requestLine, htype, huri, hmajor, hminor]
  decide

theorem parse_firstLine {env : Environment} (huri : env.uriParse ['/'] = some false) :
    parseRequestLine env EvhttpRequest.new "POST / HTTP/1.1".toList =
      ({ EvhttpRequest.new with
          type := some .post, uri := some ['/'], major := 1, minor := 1 }, .wellFormed) := by
  have hmethod : strsep ' ' "POST / HTTP/1.1".toList =
      ("POST".toList, some "/ HTTP/1.1".toList) := by decide
  have htarget : strsep ' ' "/ HTTP/1.1".toList = (['/'], some "HTTP/1.1".toList) := by decide
  have hlast : strsep ' ' "HTTP/1.1".toList = ("HTTP/1.1".toList, none) := by decide
  simp only [parseRequestLine, hmethod, htarget, hlast, parseHttpVersion_one, huri]
  rfl

section Consumes

variable {env : Environment} (p : Packet) (log : List Event)

/-- The connection has handled the request of the packet. -/
def afterwards (c : Connection) (p : Packet) : Connection :=
  { c with log := c.log ++ [.request (received p), .reply (received p).answer] }

def ready (log : List Event) : Connection := ⟨.readingFirstline, EvhttpRequest.new, log, []⟩

/-- What the connection has done and what it has been asked for. -/
def told (c : Connection) : List Event × List Nat := (c.log, c.expected)

/-- The state of the connection once the headers have been read. -/
def headersRead : Connection where
  state := .readingHeaders
  req := { EvhttpRequest.new with
    type := some .post, uri := some ['/'], major := 1, minor := 1
    inputHeaders := makeHeaderRequest (sendRequest p) }
  log := log
  expected := []

theorem findHeader_sendRequest_none {key : List Char}
    (hkey : ∀ k ∈ ["Kinect-Data".toList, "Connection".toList, "Content-Length".toList],
      strcaseEq k key = false) :
    findHeader (makeHeaderRequest (sendRequest p)) key = none := by
  rw [headers_sendRequest]
  apply findHeader_eq_none
  intro e he
  apply hkey
  simp only [List.mem_cons, List.not_mem_nil, or_false] at he ⊢
  rcases he with rfl | rfl | rfl <;> simp

theorem getBodyLength_sendRequest (hsize : p.data.length < 2^63) :
    getBodyLength (makeHeaderRequest (sendRequest p)) = some (p.data.length : Int) := by
  have hlength : findHeader (makeHeaderRequest (sendRequest p)) "Content-Length".toList =
      some (Nat.toDigits 10 p.data.length) := by
    rw [headers_sendRequest]
    rfl
  have hgood : ¬ (Nat.toDigits 10 p.data.length = [] ∨ ([] : List Char) ≠ [] ∨
      (p.data.length : Int) < 0) := by
    simp [Nat.toDigits_ne_nil]
  unfold getBodyLength
  rw [hlength]
  dsimp only
  rw [strtoll_toDigits hsize, if_neg hgood]

/-- The end of the headers. -/
theorem getBody_headersRead (hsize : p.data.length < 2^63) :
    (headersRead p log).getBody =
      if p.data = [] then Connection.done ⟨.readingBody, received p, log, []⟩
      else
        { headersRead p log with
          state := .readingBody
          req := { (headersRead p log).req with ntoread := p.data.length } } := by
  have hencoding : findHeader (headersRead p log).req.inputHeaders "Transfer-Encoding".toList =
      none := findHeader_sendRequest_none p (by decide)
  have hexpect : findHeader (headersRead p log).req.inputHeaders "Expect".toList = none :=
    findHeader_sendRequest_none p (by decide)
  have hmay : (headersRead p log).req.type.any CmdType.mayHaveBody = true := rfl
  have hlength : getBodyLength (headersRead p log).req.inputHeaders = some (p.data.length : Int) :=
    getBodyLength_sendRequest p hsize
  simp only [Connection.getBody, hmay, hencoding, hlength, Option.any_none, if_true,
    Bool.false_eq_true, if_false]
  by_cases hempty : p.data = []
  · rw [if_pos hempty, if_pos (by simp [hempty])]
    unfold received
    rw [hempty]
    rfl
  · have hpos : 0 < p.data.length := List.length_pos_iff.mpr hempty
    rw [if_neg hempty, if_neg (by omega)]
    simp only [Connection.expect, hexpect, ite_self]

theorem done_received :
    Connection.done ⟨.readingBody, received p, log, []⟩ =
      ⟨.writing, { received p with outputHeaders := makeHeaderResponse (received p) },
        log ++ [.request (received p), .reply (received p).answer], []⟩ := by
  have hlog : log ++ [.request (received p)] ++ [.reply (received p).answer] =
      log ++ [.request (received p), .reply (received p).answer] := by simp
  rw [← hlog]
  rfl

/-- The connection stays open. -/
theorem needClose_received :
    EvhttpRequest.needClose { received p with outputHeaders := makeHeaderResponse (received p) } =
      false := by
  have houtput : isConnectionClose false (makeHeaderResponse (received p)) = false := by
    rw [makeHeaderResponse_received]
    decide
  change (_ || isConnectionClose false (received p).inputHeaders ||
    isConnectionClose false (makeHeaderResponse (received p))) = false
  rw [received_close, houtput]
  rfl

/-- Once the request is there, it is handled, and the next one may come. -/
theorem consumes_done {P : Connection → Prop} :
    (Connection.reader env).Consumes P (Connection.done ⟨.readingBody, received p, log, []⟩) []
      (afterwards (ready log) p) := by
  apply Reader.Consumes.silent
  intro more
  rw [done_received]
  change some (Connection.sendDone _, more) = _
  unfold Connection.sendDone
  rw [if_neg (by rw [needClose_received]; exact Bool.false_ne_true)]
  rfl

/-- The request of one packet: nothing is handled before its last byte has arrived, and it asks for
no `100 Continue`. -/
theorem consumes_wire (huri : env.uriParse ['/'] = some false) (hsize : p.data.length < 2^31) :
    (Connection.reader env).Consumes (fun c => told c = (log, [])) (ready log) (wire p)
      (afterwards (ready log) p) := by
  have hfirst : (Connection.reader env).Consumes (fun c => told c = (log, [])) (ready log)
      (written (requestLine (sendRequest p)))
      { headersRead p log with req := { (headersRead p log).req with inputHeaders := [] } } := by
    have hread : (ready log).readFirstline env "POST / HTTP/1.1".toList =
        { headersRead p log with req := { (headersRead p log).req with inputHeaders := [] } } := by
      unfold Connection.readFirstline ready
      rw [parse_firstLine huri]
      rfl
    rw [requestLine_sendRequest, ← hread]
    exact consumes_written (by decide) (fun buf => rfl) rfl
  have hheaders : (Connection.reader env).Consumes (fun c => told c = (log, []))
      { headersRead p log with req := { (headersRead p log).req with inputHeaders := [] } }
      ((makeHeaderRequest (sendRequest p)).flatMap fun e => written (headerLine e))
      (headersRead p log) :=
    Connection.consumes_headers (wellFormed_headers p) rfl fun inputHeaders => rfl
  have hend : (Connection.reader env).Consumes (fun c => told c = (log, [])) (headersRead p log)
      (written []) ((headersRead p log).readHeader Connection.getBody []) :=
    consumes_written (by decide) (fun buf => rfl) rfl
  have hbody : (Connection.reader env).Consumes (fun c => told c = (log, []))
      (headersRead p log).getBody p.data (Connection.done ⟨.readingBody, received p, log, []⟩) := by
    have hmax : p.data.length ≤ env.sizeMax := hsize.le.trans env.sizeMax_ge
    rw [getBody_headersRead p log (by omega)]
    by_cases hempty : p.data = []
    · rw [if_pos hempty, hempty]
      exact Reader.Consumes.refl _ _
    · rw [if_neg hempty]
      have hdata : (Connection.reader env).Consumes (fun c => told c = (log, [])) _ p.data _ :=
        @Connection.consumes_body env
          { headersRead p log with
            state := .readingBody
            req := { (headersRead p log).req with ntoread := p.data.length } }
          (fun c => told c = (log, [])) rfl rfl p.data hempty rfl hmax rfl
      have hreceived : ({ headersRead p log with
          state := .readingBody
          req := { (headersRead p log).req with
            inputBuffer := [] ++ p.data, ntoread := 0, bodySize := 0 + p.data.length } } :
          Connection) = ⟨.readingBody, received p, log, []⟩ := by
        rw [Nat.zero_add]
        rfl
      rw [← hreceived]
      exact hdata
  have hall := (((hfirst.trans hheaders).trans hend).trans hbody).trans (consumes_done p log)
  rw [List.append_nil] at hall
  exact hall

end Consumes

theorem requestSeen_received (p : Packet) : requestSeen (received p) = requestOf p := by
  have htype : findHeader (received p).inputHeaders "Kinect-Data".toList =
      some (toString p.type.toInt).toList := by
    change findHeader (makeHeaderRequest (sendRequest p)) _ = _
    rw [headers_sendRequest]
    rfl
  unfold requestSeen requestOf
  rw [htype, Option.map_some, String.ofList_toList]
  rfl

theorem requestsSeen_dialogue (packets : List Packet) :
    requestsSeen (dialogue (packets.map received) none) = packets.map requestOf := by
  induction packets with
  | nil => rfl
  | cons p packets ih =>
    have hcons : dialogue ((p::packets).map received) none =
        .request (received p)::.reply (received p).answer::
          dialogue (packets.map received) none := by
      simp [dialogue]
    rw [hcons]
    change requestSeen (received p)::requestsSeen (dialogue (packets.map received) none) = _
    rw [requestSeen_received, ih]
    rfl

theorem foldl_afterwards (packets : List Packet) (log : List Event) :
    packets.foldl afterwards (ready log) = ready (log ++ dialogue (packets.map received) none) := by
  induction packets generalizing log with
  | nil => simp [dialogue]
  | cons p packets ih =>
    have hcons : log ++ [.request (received p), .reply (received p).answer] ++
        dialogue (packets.map received) none =
          log ++ dialogue ((p::packets).map received) none := by
      simp [dialogue]
    rw [List.foldl_cons, ← hcons, ← ih]
    rfl

/-- A packet that `Send` is called with: the greeting, or what the main frame has captured. -/
def Sendable (abi : Abi) (processor : Processor ρ) (p : Packet) : Prop :=
  (p.type = .connectionInit ∧ p.data.length < 2^31) ∨ Captured abi processor p

theorem Sendable.short {abi : Abi} {processor : Processor ρ} {p : Packet}
    (h : Sendable abi processor p) : p.data.length < 2^31 := by
  rcases h with ⟨_, hlen⟩ | hcaptured
  · exact hlen
  · exact hcaptured.answerable.1 p.data rfl

theorem handle_filter (abi : Abi) (processor : Processor ρ) (server : DataProcessor ρ)
    (packets : List Packet) :
    handle abi processor server (packets.map requestOf) =
      handle abi processor server ((packets.filter isData).map requestOf) := by
  induction packets generalizing server with
  | nil => rfl
  | cons p packets ih =>
    cases hdata : isData p with
    | true =>
      rw [List.filter_cons_of_pos hdata, List.map_cons, List.map_cons]
      unfold handle
      rw [exec_cons, exec_cons]
      congr 1
      funext t
      exact ih t
    | false =>
      have htype : p.type = .connectionInit := by simpa [isData] using hdata
      rw [List.filter_cons_of_neg (by rw [hdata]; exact Bool.false_ne_true), List.map_cons, ← ih]
      unfold handle
      rw [exec_cons, onRequest_connectionInit _ _ _ htype]
      rfl

/-- What a beginning of the stream leads to. -/
theorem settle_dialogue {env : Environment} (huri : env.uriParse ['/'] = some false)
    {packets : List Packet} (hpackets : ∀ p ∈ packets, p.data.length < 2^31) {v : Block}
    (hv : v <+: packets.flatMap wire) :
    ∃ n ≤ packets.length,
      (∀ m ≤ packets.length, m ≤ n ↔ (packets.take m).flatMap wire <+: v) ∧
      ((Connection.reader env).settle .start v).1.log =
        dialogue ((packets.take n).map received) none ∧
      ((Connection.reader env).settle .start v).1.expected = [] := by
  have hready : ∀ c : Connection, ∀ p ∈ packets, c = ready c.log →
      afterwards c p = ready (afterwards c p).log := by
    intro c p _ hc
    rw [hc]
    rfl
  have hwaits : ∀ c : Connection, c = ready c.log → (Connection.reader env).step c [] = none := by
    intro c hc
    rw [hc]
    rfl
  have hitem : ∀ c : Connection, ∀ p ∈ packets, c = ready c.log →
      (Connection.reader env).Consumes (fun c' => told c' = told c) c (wire p)
        (afterwards c p) := by
    intro c p hp hc
    have hwire := consumes_wire p c.log huri (hpackets p hp)
    rw [← hc] at hwire
    have htold : told c = (c.log, []) := by
      rw [hc]
      rfl
    rw [htold]
    exact hwire
  obtain ⟨n, hn, hiff, htold⟩ := Reader.settle_items hready hwaits hitem (k := .start) rfl hv
  have hend : told ((packets.take n).foldl afterwards .start) =
      (dialogue ((packets.take n).map received) none, []) := by
    change told ((packets.take n).foldl afterwards (ready [])) = _
    rw [foldl_afterwards]
    rfl
  rw [hend] at htold
  exact ⟨n, hn, hiff, congrArg Prod.fst htold, congrArg Prod.snd htold⟩

/-- What the server makes of packets: the greetings leave nothing behind. -/
theorem handle_sendable {abi : Abi} (processor : Processor ρ) (skeleton : Block) (rest : ρ)
    {packets : List Packet} (hpackets : ∀ p ∈ packets, Sendable abi processor p) :
    ∃ shown : List Capture, shown.map Capture.packet = packets.filter isData ∧
      ∃ server, handle abi processor (DataProcessor.start skeleton rest)
          (packets.map requestOf) = some server ∧
        server.rgbFrame = (shown.filterMap Capture.colorFrame).getLast? ∧
        server.depthFrame = (shown.filterMap Capture.depthFrame).getLast? ∧
        server.skeleton = (shown.filterMap Capture.skeletonBytes).getLast?.getD skeleton := by
  have hcaptured : ∀ p ∈ packets.filter isData, Captured abi processor p := by
    intro p hp
    obtain ⟨hmem, hdata⟩ := List.mem_filter.mp hp
    rcases hpackets p hmem with ⟨htype, _⟩ | hcaptured
    · simp [isData, htype] at hdata
    · exact hcaptured
  rw [handle_filter]
  exact handle_captures processor skeleton rest hcaptured

end KinectHelper.WireTransmission
