import KinectHelper.Framework.Incremental
import KinectHelper.Libevent.Evhttp

namespace KinectHelper.Libevent

inductive ConnectionState where
  | readingFirstline
  | readingHeaders
  | readingBody
  | readingTrailer
  | writing
  | closed
  /-- the code has read a variable that it has not assigned -/
  | undefined
  deriving DecidableEq

/-- What the connection has done: a request passed to the callback, or a reply written. -/
inductive Event where
  | request (req : EvhttpRequest)
  | reply (reply : Reply)
  deriving DecidableEq

structure Connection where
  state : ConnectionState
  req : EvhttpRequest
  log : List Event
  /-- for each request that has asked for a `100 Continue`: how long the log was then -/
  expected : List Nat
  deriving DecidableEq

namespace Connection

def start : Connection := ⟨.readingFirstline, EvhttpRequest.new, [], []⟩

/-- `evhttp_send` -/
def send (c : Connection) (code : ResponseCode) : Connection :=
  let headers := makeHeaderResponse c.req
  { c with
    state := .writing
    req := { c.req with outputHeaders := headers }
    log := c.log ++ [.reply ⟨c.req.major, c.req.minor, code, headers, c.req.outputBuffer⟩] }

/-- `evhttp_send_page` -/
def sendPage (c : Connection) (code : ResponseCode) (page : List Char) : Connection :=
  let known := c.req.major ≠ 0 ∧ c.req.minor ≠ 0
  let req :=
    { c.req with
      major := if known then c.req.major else 1
      minor := if known then c.req.minor else 1
      outputHeaders := pageHeaders
      outputBuffer := c.req.outputBuffer ++ bytesOf page }
  send { c with req := req } code

/-- `evhttp_send_error` -/
def sendError (c : Connection) (code : ResponseCode) : Connection :=
  c.sendPage code (errorPage code)

/-- `evhttp_handle_request`, with a callback that sends an empty reply. -/
def handleRequest (c : Connection) : Connection :=
  match c.req.type, c.req.uri with
  | some type, some _ =>
      if type.allowed then send { c with log := c.log ++ [.request c.req] } .ok
      else c.sendError .notImplemented
  | _, _ => c.sendError .badRequest

/-- `evhttp_connection_fail` for a malformed request. -/
def fail (c : Connection) : Connection := handleRequest { c with req := { c.req with uri := none } }

/-- `evhttp_connection_done` -/
def done (c : Connection) : Connection := handleRequest { c with state := .writing }

/-- `evhttp_send_done` -/
def sendDone (c : Connection) : Connection :=
  if c.req.needClose then { c with state := .closed }
  else { c with state := .readingFirstline, req := EvhttpRequest.new }

/-- The end of `evhttp_get_body`: only `100-continue` may be expected. No body is too large, as
`max_body_size` is `EV_UINT64_MAX`. -/
def expect (c : Connection) : Connection :=
  if c.req.versionAtLeast then
    match findHeader c.req.inputHeaders "Expect".toList with
    | none => c
    | some expect =>
        if strcaseEq expect "100-continue".toList then
          { c with expected := c.expected ++ [c.log.length] }
        else c.sendError .expectationFailed
  else c

/-- `evhttp_get_body` -/
def getBody (c : Connection) : Connection :=
  if c.req.type.any CmdType.mayHaveBody then
    let encoding := findHeader c.req.inputHeaders "Transfer-Encoding".toList
    if encoding.any fun encoding => strcaseEq encoding "chunked".toList then
      expect { c with state := .readingBody, req := { c.req with chunked := true, ntoread := -1 } }
    else
      match getBodyLength c.req.inputHeaders with
      | none => c.fail
      | some ntoread =>
          let c := { c with state := .readingBody, req := { c.req with ntoread := ntoread } }
          if ntoread < 1 then c.done else c.expect
  else c.done

/-- `evhttp_read_firstline` -/
def readFirstline (env : Environment) (c : Connection) (line : List Char) : Connection :=
  match parseRequestLine env c.req line with
  | (req, .wellFormed) => { c with state := .readingHeaders, req := req }
  | (req, .malformed) => fail { c with req := req }
  | (req, .undefined) => { c with state := .undefined, req := req }

/-- One line of `evhttp_parse_headers`; `last` is what the caller does after the last one. -/
def readHeader (last : Connection → Connection) (c : Connection) (line : List Char) : Connection :=
  if line = [] then last c
  else
    match parseHeaderLine c.req.inputHeaders line with
    | none => c.fail
    | some headers => { c with req := { c.req with inputHeaders := headers } }

/-- The size of a chunk in `evhttp_handle_chunked_read`. -/
def readChunkSize (env : Environment) (c : Connection) (line : List Char) : Connection :=
  if line = [] then c
  else
    let (ntoread, endp) := strtoll 16 line
    if (endp ≠ [] ∧ endp.head? ≠ some ' ') ∨ ntoread < 0 then c.fail
    else if ntoread > env.sizeMax - c.req.bodySize then c.fail
    else
      { c with
        state := if ntoread = 0 then .readingTrailer else c.state
        req := { c.req with bodySize := c.req.bodySize + ntoread.toNat, ntoread := ntoread } }

/-- The data of a chunk in `evhttp_handle_chunked_read`. -/
def readChunk (env : Environment) (c : Connection) (buf : Block) : Option (Connection × Block) :=
  let n := c.req.ntoread.toNat
  if buf = [] then none
  else if n > env.sizeMax / 2 then some (c.fail, buf)
  else if buf.length < n then none
  else
    some ({ c with
      req := { c.req with inputBuffer := c.req.inputBuffer ++ buf.take n, ntoread := -1 } },
      buf.drop n)

/-- `evhttp_read_body` for a body of known length, which is read when it is there as a whole. -/
def readLength (env : Environment) (c : Connection) (buf : Block) : Option (Connection × Block) :=
  let n := c.req.ntoread.toNat % (env.sizeMax + 1)
  if n = 0 ∨ buf.length < n then none
  else
    let c :=
      { c with
        req := { c.req with
          inputBuffer := c.req.inputBuffer ++ buf.take n
          ntoread := c.req.ntoread - n
          bodySize := c.req.bodySize + n } }
    some (if c.req.ntoread = 0 then c.done else c, buf.drop n)

/-- `evhttp_read_body` -/
def readBody (env : Environment) (c : Connection) (buf : Block) : Option (Connection × Block) :=
  if c.req.chunked then
    if c.req.ntoread < 0 then (readln buf).map fun r => (c.readChunkSize env (cString r.1), r.2)
    else c.readChunk env buf
  else c.readLength env buf

/-- One line, one chunk or one body of `evhttp_read_cb`, or the end of writing a reply. -/
def step (env : Environment) (c : Connection) (buf : Block) : Option (Connection × Block) :=
  match c.state with
  | .readingFirstline => (readln buf).map fun r => (c.readFirstline env (cString r.1), r.2)
  | .readingHeaders => (readln buf).map fun r => (c.readHeader getBody (cString r.1), r.2)
  | .readingBody => c.readBody env buf
  | .readingTrailer => (readln buf).map fun r => (c.readHeader done (cString r.1), r.2)
  | .writing => some (c.sendDone, buf)
  | .closed | .undefined => none

/-- A reply that is to be written, and a chunk that has begun, are steps without input. -/
def rank (c : Connection) : Nat :=
  match c.state with
  | .readingBody => if c.req.ntoread < 0 then 0 else 2
  | .writing => 1
  | _ => 0

@[simp] theorem handleRequest_state (c : Connection) : c.handleRequest.state = .writing := by
  unfold handleRequest
  split
  · split <;> rfl
  · rfl

@[simp] theorem fail_state (c : Connection) : c.fail.state = .writing := handleRequest_state _

theorem rank_of_writing {c : Connection} (h : c.state = .writing) : c.rank = 1 := by
  unfold rank
  rw [h]

theorem rank_sendDone (c : Connection) : c.sendDone.rank = 0 := by
  unfold sendDone
  split <;> rfl

variable {env : Environment} {c c' : Connection} {buf buf' : Block}

theorem of_line {f : List Char → Connection}
    (h : ((readln buf).map fun r => (f (cString r.1), r.2)) = some (c', buf')) :
    ∃ line, readln buf = some (line, buf') ∧ c' = f (cString line) := by
  obtain ⟨⟨line, rest⟩, hline, heq⟩ := Option.map_eq_some_iff.mp h
  cases heq
  exact ⟨line, hline, rfl⟩

private theorem take_drop_append {n : Nat} (hn : n ≤ buf.length) (more : Block) :
    (buf ++ more).take n = buf.take n ∧ (buf ++ more).drop n = buf.drop n ++ more :=
  ⟨List.take_append_of_le_length hn, List.drop_append_of_le_length hn⟩

theorem readChunk_cases (hpos : ¬ c.req.ntoread < 0) (hstate : c.state = .readingBody)
    (h : c.readChunk env buf = some (c', buf')) :
    ∃ n, n ≤ buf.length ∧ buf' = buf.drop n ∧ (n = 0 → c'.rank < c.rank) ∧
      ∀ more, c.readChunk env (buf ++ more) = some (c', buf.drop n ++ more) := by
  have hrank : c.rank = 2 := by
    unfold rank
    rw [hstate]
    exact if_neg hpos
  unfold readChunk at h
  dsimp only at h
  split_ifs at h with hempty hlarge hshort
  · cases h
    refine ⟨0, Nat.zero_le _, rfl, ?_, ?_⟩
    · intro _
      rw [rank_of_writing (fail_state c), hrank]
      decide
    · intro more
      unfold readChunk
      dsimp only
      rw [if_neg fun hnil => hempty (List.append_eq_nil_iff.mp hnil).1, if_pos hlarge]
      rfl
  · cases h
    have hn : c.req.ntoread.toNat ≤ buf.length := not_lt.mp hshort
    refine ⟨c.req.ntoread.toNat, hn, rfl, ?_, ?_⟩
    · intro _
      rw [hrank]
      simp [rank, hstate]
    · intro more
      obtain ⟨htake, hdrop⟩ := take_drop_append hn more
      have hlong : ¬ (buf ++ more).length < c.req.ntoread.toNat := by
        rw [List.length_append]
        omega
      unfold readChunk
      dsimp only
      rw [if_neg fun hnil => hempty (List.append_eq_nil_iff.mp hnil).1, if_neg hlarge,
        if_neg hlong, htake, hdrop]

theorem readLength_cases (h : c.readLength env buf = some (c', buf')) :
    ∃ n, 0 < n ∧ n ≤ buf.length ∧ buf' = buf.drop n ∧
      ∀ more, c.readLength env (buf ++ more) = some (c', buf.drop n ++ more) := by
  unfold readLength at h
  dsimp only at h
  generalize hn : c.req.ntoread.toNat % (env.sizeMax + 1) = n at h
  split_ifs at h with hwait hdone
  all_goals
    cases h
    push Not at hwait
    refine ⟨n, Nat.pos_of_ne_zero hwait.1, hwait.2, rfl, ?_⟩
    intro more
    obtain ⟨htake, hdrop⟩ := take_drop_append hwait.2 more
    have hlong : ¬ (n = 0 ∨ (buf ++ more).length < n) := by
      rw [List.length_append]
      omega
    unfold readLength
    dsimp only
    rw [hn, if_neg hlong, htake, hdrop]
  · rw [if_pos hdone]
  · rw [if_neg hdone]

/-- A line is read, a chunk or the body is taken whole, or the buffer stays as it is. -/
theorem step_cases (h : c.step env buf = some (c', buf')) :
    (∃ line, readln buf = some (line, buf') ∧
      ∀ more more', readln more = some (line, more') → c.step env more = some (c', more')) ∨
    (∃ n, n ≤ buf.length ∧ buf' = buf.drop n ∧ (n = 0 → c'.rank < c.rank) ∧
      ∀ more, c.step env (buf ++ more) = some (c', buf.drop n ++ more)) := by
  unfold step at h
  cases hstate : c.state with
  | readingFirstline =>
    simp only [hstate] at h
    obtain ⟨line, hline, rfl⟩ := of_line h
    refine .inl ⟨line, hline, fun more more' hmore => ?_⟩
    simp only [step, hstate, hmore, Option.map_some]
  | readingHeaders =>
    simp only [hstate] at h
    obtain ⟨line, hline, rfl⟩ := of_line h
    refine .inl ⟨line, hline, fun more more' hmore => ?_⟩
    simp only [step, hstate, hmore, Option.map_some]
  | readingTrailer =>
    simp only [hstate] at h
    obtain ⟨line, hline, rfl⟩ := of_line h
    refine .inl ⟨line, hline, fun more more' hmore => ?_⟩
    simp only [step, hstate, hmore, Option.map_some]
  | readingBody =>
    simp only [hstate, readBody] at h
    split_ifs at h with hchunked hnew
    · obtain ⟨line, hline, rfl⟩ := of_line h
      refine .inl ⟨line, hline, fun more more' hmore => ?_⟩
      simp only [step, hstate, readBody, hchunked, hnew, if_true, hmore, Option.map_some]
    · obtain ⟨n, hn, hdrop, hrank, hmore⟩ := readChunk_cases hnew hstate h
      refine .inr ⟨n, hn, hdrop, hrank, fun more => ?_⟩
      simp only [step, hstate, readBody, hchunked, hnew, if_true, if_false, hmore]
    · obtain ⟨n, hpos, hn, hdrop, hmore⟩ := readLength_cases h
      refine .inr ⟨n, hn, hdrop, fun hzero => absurd hzero hpos.ne', fun more => ?_⟩
      simp only [step, hstate, readBody, hchunked, if_false, hmore, Bool.false_eq_true]
  | writing =>
    simp only [hstate] at h
    cases h
    refine .inr ⟨0, Nat.zero_le _, rfl, ?_, ?_⟩
    · intro _
      rw [rank_sendDone, rank_of_writing hstate]
      exact Nat.zero_lt_one
    · intro more
      simp only [step, hstate, List.drop_zero]
  | closed | undefined =>
    simp only [hstate] at h
    cases h

section Log

variable {log : List Event}

theorem grows_send (h : log <+: c.log) (code : ResponseCode) : log <+: (c.send code).log :=
  h.trans (List.prefix_append _ _)

theorem grows_sendError (h : log <+: c.log) (code : ResponseCode) :
    log <+: (c.sendError code).log := h.trans (List.prefix_append _ _)

theorem grows_handleRequest (h : log <+: c.log) : log <+: c.handleRequest.log := by
  unfold handleRequest
  split
  · split
    · apply grows_send
      exact h.trans (List.prefix_append _ _)
    · exact grows_sendError h _
  · exact grows_sendError h _

theorem grows_fail (h : log <+: c.log) : log <+: c.fail.log := by
  apply grows_handleRequest
  exact h

theorem grows_done (h : log <+: c.log) : log <+: c.done.log := by
  apply grows_handleRequest
  exact h

theorem log_sendDone (c : Connection) : c.sendDone.log = c.log := by
  unfold sendDone
  split <;> rfl

theorem grows_expect (h : log <+: c.log) : log <+: c.expect.log := by
  unfold expect
  split
  · split
    · exact h
    · split
      · exact h
      · exact grows_sendError h _
  · exact h

theorem grows_getBody (h : log <+: c.log) : log <+: c.getBody.log := by
  unfold getBody
  dsimp only
  split
  · split
    · apply grows_expect
      exact h
    · split
      · exact grows_fail h
      · split
        · apply grows_done
          exact h
        · apply grows_expect
          exact h
  · exact grows_done h

theorem grows_readFirstline (h : log <+: c.log) (line : List Char) :
    log <+: (c.readFirstline env line).log := by
  unfold readFirstline
  split
  · exact h
  · apply grows_fail
    exact h
  · exact h

theorem grows_readHeader {last : Connection → Connection}
    (hlast : ∀ c, log <+: c.log → log <+: (last c).log) (h : log <+: c.log) (line : List Char) :
    log <+: (c.readHeader last line).log := by
  unfold readHeader
  split
  · exact hlast c h
  · split
    · exact grows_fail h
    · exact h

theorem grows_readChunkSize (h : log <+: c.log) (line : List Char) :
    log <+: (c.readChunkSize env line).log := by
  unfold readChunkSize
  split
  · exact h
  · split
    split
    · exact grows_fail h
    · split
      · exact grows_fail h
      · exact h

theorem grows_readChunk (h : c.readChunk env buf = some (c', buf')) : c.log <+: c'.log := by
  unfold readChunk at h
  dsimp only at h
  split_ifs at h
  · cases h
    exact grows_fail (List.prefix_refl _)
  · cases h
    exact List.prefix_refl _

theorem grows_readLength (h : c.readLength env buf = some (c', buf')) : c.log <+: c'.log := by
  unfold readLength at h
  dsimp only at h
  split_ifs at h
  · cases h
    apply grows_done
    exact List.prefix_refl _
  · cases h
    exact List.prefix_refl _

theorem grows_step (h : c.step env buf = some (c', buf')) : c.log <+: c'.log := by
  unfold step at h
  cases hstate : c.state with
  | readingFirstline =>
    simp only [hstate] at h
    obtain ⟨line, _, rfl⟩ := of_line h
    exact grows_readFirstline (List.prefix_refl _) _
  | readingHeaders =>
    simp only [hstate] at h
    obtain ⟨line, _, rfl⟩ := of_line h
    exact grows_readHeader (fun _ => grows_getBody) (List.prefix_refl _) _
  | readingBody =>
    simp only [hstate, readBody] at h
    split_ifs at h
    · obtain ⟨line, _, rfl⟩ := of_line h
      exact grows_readChunkSize (List.prefix_refl _) _
    · exact grows_readChunk h
    · exact grows_readLength h
  | readingTrailer =>
    simp only [hstate] at h
    obtain ⟨line, _, rfl⟩ := of_line h
    exact grows_readHeader (fun _ => grows_done) (List.prefix_refl _) _
  | writing =>
    simp only [hstate] at h
    cases h
    rw [log_sendDone]
  | closed | undefined =>
    simp only [hstate] at h
    cases h

end Log

/-- A connection reads its input with `step`. -/
def reader (env : Environment) : Reader Connection UInt8 where
  step := step env
  rank := rank
  patient h more := by
    rcases step_cases h with ⟨line, hline, hstep⟩ | ⟨n, hn, rfl, _, hstep⟩
    · exact hstep _ _ (readln_append hline more)
    · exact hstep more
  shrinks {c buf r} h := by
    rcases step_cases h with ⟨line, hline, _⟩ | ⟨n, hn, hdrop, hrank, _⟩
    · exact Prod.Lex.left _ _ (readln_length hline)
    · rw [hdrop]
      cases n with
      | zero => exact Prod.Lex.right _ (hrank rfl)
      | succ n =>
        apply Prod.Lex.left
        rw [List.length_drop]
        omega

end Connection

end KinectHelper.Libevent
