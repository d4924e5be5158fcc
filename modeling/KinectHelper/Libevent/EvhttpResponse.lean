import KinectHelper.Libevent.EvhttpWire

namespace KinectHelper.Libevent

/-- The fields of a `struct tm` that a `Date` shows. -/
structure Tm where
  wday : Fin 7
  mday : Nat
  mon : Fin 12
  year : Nat
  hour : Nat
  min : Nat
  sec : Nat

def dayName (wday : Fin 7) : List Char :=
  match wday with
  | 0 => "Sun".toList
  | 1 => "Mon".toList
  | 2 => "Tue".toList
  | 3 => "Wed".toList
  | 4 => "Thu".toList
  | 5 => "Fri".toList
  | 6 => "Sat".toList

def monthName (mon : Fin 12) : List Char :=
  match mon with
  | 0 => "Jan".toList
  | 1 => "Feb".toList
  | 2 => "Mar".toList
  | 3 => "Apr".toList
  | 4 => "May".toList
  | 5 => "Jun".toList
  | 6 => "Jul".toList
  | 7 => "Aug".toList
  | 8 => "Sep".toList
  | 9 => "Oct".toList
  | 10 => "Nov".toList
  | 11 => "Dec".toList

/-- `%02d` -/
def twoDigits (n : Nat) : List Char :=
  if n < 10 then '0'::Nat.toDigits 10 n else Nat.toDigits 10 n

/-- `strftime` with `"%a, %d %b %Y %H:%M:%S GMT"`. -/
def Tm.date (tm : Tm) : List Char :=
  dayName tm.wday ++ [',', ' '] ++ twoDigits tm.mday ++ [' '] ++ monthName tm.mon ++ [' '] ++
    Nat.toDigits 10 tm.year ++ [' '] ++ twoDigits tm.hour ++ [':'] ++ twoDigits tm.min ++ [':'] ++
    twoDigits tm.sec ++ " GMT".toList

namespace Reply

/-- How many headers there were when `evhttp_make_header_response` added the `Date`: those of a
page, of which it may move the second one to the end later, and none for `_OnRequest`. -/
def before (reply : Reply) : Nat :=
  if reply.code = .ok then 0 else if pageHeaders <+: reply.headers then 2 else 1

/-- The headers with the `Date` of `evhttp_maybe_add_date_header`. -/
def datedHeaders (reply : Reply) (tm : Tm) : Headers :=
  if reply.major = 1 ∧ reply.minor ≥ 1 then
    put (reply.headers.take reply.before) "Date".toList tm.date ++ reply.headers.drop reply.before
  else reply.headers

/-- `"HTTP/%d.%d %d %s"` -/
def statusLine (reply : Reply) : List Char :=
  "HTTP/".toList ++ (toString reply.major).toList ++ ['.'] ++ (toString reply.minor).toList ++
    [' '] ++ Nat.toDigits 10 reply.code.toNat ++ [' '] ++ reply.code.phrase

/-- `evhttp_make_header` for a reply. -/
def wire (reply : Reply) (tm : Tm) : Block :=
  written reply.statusLine ++ (reply.datedHeaders tm).flatMap (fun e => written (headerLine e)) ++
    [13, 10] ++ reply.body

end Reply

inductive Phase where
  | firstline
  | headers
  | body
  | trailer
  | finished
  | corrupted
  /-- the code has read a variable that it has not assigned -/
  | undefined
  deriving DecidableEq

/-- The request whose reply is read. -/
structure Reading where
  phase : Phase
  req : EvhttpRequest
  responseCode : Int
  deriving DecidableEq

namespace Reading

/-- After `evhttp_start_read`. -/
def start (req : EvhttpRequest) : Reading := ⟨.firstline, req, 0⟩

def finish (r : Reading) : Reading := { r with phase := .finished }

def corrupt (r : Reading) : Reading := { r with phase := .corrupted }

/-- `evhttp_parse_response_line`. What follows the number is kept for nobody. -/
def parseResponseLine (env : Environment) (r : Reading) (line : List Char) :
    Reading × LineStatus :=
  match strsep ' ' line with
  | (_, none) => (r, .malformed)
  | (protocol, some line) =>
      match parseHttpVersion env protocol r.req with
      | (req, .wellFormed) =>
          let r := { r with
            req := req
            responseCode := atoi env.abi.longBits (strsep ' ' line).1 }
          if r.responseCode = 0 then (r, .malformed) else (r, .wellFormed)
      | (req, status) => ({ r with req := req }, status)

/-- `evhttp_read_firstline` -/
def readFirstline (env : Environment) (r : Reading) (line : List Char) : Reading :=
  match parseResponseLine env r line with
  | (r, .wellFormed) => { r with phase := .headers }
  | (r, .malformed) => r.corrupt
  | (r, .undefined) => { r with phase := .undefined }

/-- `evhttp_response_needs_body` -/
def responseNeedsBody (r : Reading) : Bool :=
  decide (r.responseCode ≠ 204 ∧ r.responseCode ≠ 304 ∧
    (r.responseCode < 100 ∨ r.responseCode ≥ 200) ∧ r.req.type ≠ some .head)

/-- `evhttp_get_body` for a reply. -/
def getBody (r : Reading) : Reading :=
  let encoding := findHeader r.req.inputHeaders "Transfer-Encoding".toList
  if encoding.any fun encoding => strcaseEq encoding "chunked".toList then
    { r with phase := .body, req := { r.req with chunked := true, ntoread := -1 } }
  else
    match getBodyLength r.req.inputHeaders with
    | none => r.corrupt
    | some ntoread => { r with phase := .body, req := { r.req with ntoread := ntoread } }

/-- The end of `evhttp_read_header`: after `100 Continue` the reply is still to come. -/
def endHeaders (r : Reading) : Reading :=
  if r.responseCode = 100 then { r with phase := .firstline }
  else if r.responseNeedsBody then r.getBody
  else r.finish

/-- One line of `evhttp_parse_headers`; `last` is what the caller does after the last one. -/
def readHeader (last : Reading → Reading) (r : Reading) (line : List Char) : Reading :=
  if line = [] then last r
  else
    match parseHeaderLine r.req.inputHeaders line with
    | none => r.corrupt
    | some headers => { r with req := { r.req with inputHeaders := headers } }

/-- The size of a chunk in `evhttp_handle_chunked_read`. -/
def readChunkSize (env : Environment) (r : Reading) (line : List Char) : Reading :=
  if line = [] then r
  else
    let (ntoread, endp) := strtoll 16 line
    if (endp ≠ [] ∧ endp.head? ≠ some ' ') ∨ ntoread < 0 then r.corrupt
    else if ntoread > env.sizeMax - r.req.bodySize then r.corrupt
    else
      { r with
        phase := if ntoread = 0 then .trailer else r.phase
        req := { r.req with bodySize := r.req.bodySize + ntoread.toNat, ntoread := ntoread } }

/-- The data of a chunk in `evhttp_handle_chunked_read`. -/
def readChunk (env : Environment) (r : Reading) (buf : Block) : Option (Reading × Block) :=
  let n := r.req.ntoread.toNat
  if buf = [] then none
  else if n > env.sizeMax / 2 then some (r.corrupt, buf)
  else if buf.length < n then none
  else
    some ({ r with
      req := { r.req with inputBuffer := r.req.inputBuffer ++ buf.take n, ntoread := -1 } },
      buf.drop n)

/-- `evhttp_read_body` for a body that ends with the connection, one byte at a time. -/
def readUntilClose (env : Environment) (r : Reading) : Block → Option (Reading × Block)
  | [] => none
  | b::buf =>
      if r.req.bodySize ≥ env.sizeMax then some (r.corrupt, b::buf)
      else
        some ({ r with
          req := { r.req with
            inputBuffer := r.req.inputBuffer ++ [b], bodySize := r.req.bodySize + 1 } }, buf)

/-- `evhttp_read_body` for a body of known length, which is read when it is there as a whole. -/
def readLength (env : Environment) (r : Reading) (buf : Block) : Option (Reading × Block) :=
  let n := r.req.ntoread.toNat % (env.sizeMax + 1)
  if buf.length < n ∨ (n = 0 ∧ r.req.ntoread ≠ 0) then none
  else
    let r :=
      { r with
        req := { r.req with
          inputBuffer := r.req.inputBuffer ++ buf.take n
          ntoread := r.req.ntoread - n
          bodySize := r.req.bodySize + n } }
    some (if r.req.ntoread = 0 then r.finish else r, buf.drop n)

/-- `evhttp_read_body` -/
def readBody (env : Environment) (r : Reading) (buf : Block) : Option (Reading × Block) :=
  if r.req.chunked then
    if r.req.ntoread < 0 then (readln buf).map fun l => (r.readChunkSize env (cString l.1), l.2)
    else r.readChunk env buf
  else if r.req.ntoread < 0 then r.readUntilClose env buf
  else r.readLength env buf

/-- One line, one chunk or one body of `evhttp_read_cb` for a reply. -/
def step (env : Environment) (r : Reading) (buf : Block) : Option (Reading × Block) :=
  match r.phase with
  | .firstline => (readln buf).map fun l => (r.readFirstline env (cString l.1), l.2)
  | .headers => (readln buf).map fun l => (r.readHeader endHeaders (cString l.1), l.2)
  | .body => r.readBody env buf
  | .trailer => (readln buf).map fun l => (r.readHeader finish (cString l.1), l.2)
  | .finished | .corrupted | .undefined => none

/-- A chunk that has begun, a body of no bytes and one that has grown too long are steps without
input. -/
def rank (r : Reading) : Nat :=
  match r.phase with
  | .body => if r.req.ntoread < 0 then 1 else 2
  | _ => 0

variable {env : Environment} {r r' : Reading} {buf buf' : Block}

theorem of_line {f : List Char → Reading}
    (h : ((readln buf).map fun l => (f (cString l.1), l.2)) = some (r', buf')) :
    ∃ line, readln buf = some (line, buf') ∧ r' = f (cString line) := by
  obtain ⟨⟨line, rest⟩, hline, heq⟩ := Option.map_eq_some_iff.mp h
  cases heq
  exact ⟨line, hline, rfl⟩

private theorem take_drop_more {n : Nat} (hn : n ≤ buf.length) (more : Block) :
    (buf ++ more).take n = buf.take n ∧ (buf ++ more).drop n = buf.drop n ++ more :=
  ⟨List.take_append_of_le_length hn, List.drop_append_of_le_length hn⟩

theorem rank_body_pos (hphase : r.phase = .body) : 0 < r.rank := by
  unfold rank
  rw [hphase]
  dsimp only
  split <;> decide

/-- What `n` bytes, or none at a lower rank, lead to is the same whatever follows them. -/
def Takes (env : Environment) (r : Reading) (buf : Block) (r' : Reading) (buf' : Block) : Prop :=
  ∃ n, n ≤ buf.length ∧ buf' = buf.drop n ∧ (n = 0 → r'.rank < r.rank) ∧
    ∀ more, r.readBody env (buf ++ more) = some (r', buf.drop n ++ more)

theorem readChunk_takes (hphase : r.phase = .body) (hchunked : r.req.chunked = true)
    (hpos : ¬ r.req.ntoread < 0) (h : r.readChunk env buf = some (r', buf')) :
    Takes env r buf r' buf' := by
  have hrank : r.rank = 2 := by
    unfold rank
    rw [hphase]
    exact if_neg hpos
  have hbody : ∀ buf, r.readBody env buf = r.readChunk env buf := by
    intro buf
    unfold readBody
    rw [if_pos hchunked, if_neg hpos]
  unfold readChunk at h
  dsimp only at h
  split_ifs at h with hempty hlarge hshort
  · cases h
    refine ⟨0, Nat.zero_le _, rfl, ?_, ?_⟩
    · intro _
      rw [hrank]
      exact Nat.zero_lt_two
    · intro more
      rw [hbody]
      unfold readChunk
      dsimp only
      rw [if_neg fun hnil => hempty (List.append_eq_nil_iff.mp hnil).1, if_pos hlarge]
      rfl
  · cases h
    have hn : r.req.ntoread.toNat ≤ buf.length := not_lt.mp hshort
    refine ⟨r.req.ntoread.toNat, hn, rfl, ?_, ?_⟩
    · intro _
      rw [hrank]
      simp [rank, hphase]
    · intro more
      obtain ⟨htake, hdrop⟩ := take_drop_more hn more
      have hlong : ¬ (buf ++ more).length < r.req.ntoread.toNat := by
        rw [List.length_append]
        omega
      rw [hbody]
      unfold readChunk
      dsimp only
      rw [if_neg fun hnil => hempty (List.append_eq_nil_iff.mp hnil).1, if_neg hlarge,
        if_neg hlong, htake, hdrop]

theorem readUntilClose_takes (hphase : r.phase = .body) (hchunked : r.req.chunked = false)
    (hneg : r.req.ntoread < 0) (h : r.readUntilClose env buf = some (r', buf')) :
    Takes env r buf r' buf' := by
  have hbody : ∀ buf, r.readBody env buf = r.readUntilClose env buf := by
    intro buf
    unfold readBody
    rw [if_neg (by rw [hchunked]; exact Bool.false_ne_true), if_pos hneg]
  cases buf with
  | nil => cases h
  | cons b buf =>
    unfold readUntilClose at h
    split_ifs at h with hfull
    · cases h
      refine ⟨0, Nat.zero_le _, rfl, fun _ => rank_body_pos hphase, ?_⟩
      intro more
      rw [hbody, List.cons_append, readUntilClose, if_pos hfull]
      rfl
    · cases h
      refine ⟨1, by simp, rfl, fun hone => absurd hone Nat.one_ne_zero, ?_⟩
      intro more
      rw [hbody, List.cons_append, readUntilClose, if_neg hfull]
      rfl

theorem readLength_takes (hphase : r.phase = .body) (hchunked : r.req.chunked = false)
    (hpos : ¬ r.req.ntoread < 0) (h : r.readLength env buf = some (r', buf')) :
    Takes env r buf r' buf' := by
  have hbody : ∀ buf, r.readBody env buf = r.readLength env buf := by
    intro buf
    unfold readBody
    rw [if_neg (by rw [hchunked]; exact Bool.false_ne_true), if_neg hpos]
  unfold readLength at h
  dsimp only at h
  generalize hn : r.req.ntoread.toNat % (env.sizeMax + 1) = n at h
  by_cases hwait : buf.length < n ∨ (n = 0 ∧ r.req.ntoread ≠ 0)
  · rw [if_pos hwait] at h
    cases h
  · rw [if_neg hwait] at h
    cases h
    obtain ⟨hlong, hzero⟩ := not_or.mp hwait
    refine ⟨n, not_lt.mp hlong, rfl, ?_, ?_⟩
    · intro hnone
      have hnone' : r.req.ntoread - (n : Int) = 0 := by
        rw [hnone, Nat.cast_zero, sub_zero]
        exact not_not.mp fun hne => hzero ⟨hnone, hne⟩
      rw [if_pos hnone']
      exact rank_body_pos hphase
    · intro more
      obtain ⟨htake, hdrop⟩ := take_drop_more (not_lt.mp hlong) more
      have hmore : ¬ ((buf ++ more).length < n ∨ (n = 0 ∧ r.req.ntoread ≠ 0)) := by
        rw [List.length_append]
        exact not_or.mpr ⟨by omega, hzero⟩
      rw [hbody]
      unfold readLength
      dsimp only
      rw [hn, if_neg hmore, htake, hdrop]

/-- A line is read, or some of the body. -/
theorem step_cases (h : r.step env buf = some (r', buf')) :
    (∃ line, readln buf = some (line, buf') ∧
      ∀ more more', readln more = some (line, more') → r.step env more = some (r', more')) ∨
    (∃ n, n ≤ buf.length ∧ buf' = buf.drop n ∧ (n = 0 → r'.rank < r.rank) ∧
      ∀ more, r.step env (buf ++ more) = some (r', buf.drop n ++ more)) := by
  have of_takes : r.phase = .body → Takes env r buf r' buf' →
      ∃ n, n ≤ buf.length ∧ buf' = buf.drop n ∧ (n = 0 → r'.rank < r.rank) ∧
        ∀ more, r.step env (buf ++ more) = some (r', buf.drop n ++ more) := by
    intro hphase ⟨n, hn, hdrop, hrank, hmore⟩
    refine ⟨n, hn, hdrop, hrank, ?_⟩
    intro more
    simp only [step, hphase, hmore]
  unfold step at h
  cases hphase : r.phase with
  | firstline =>
    simp only [hphase] at h
    obtain ⟨line, hline, rfl⟩ := of_line h
    refine .inl ⟨line, hline, fun more more' hmore => ?_⟩
    simp only [step, hphase, hmore, Option.map_some]
  | headers =>
    simp only [hphase] at h
    obtain ⟨line, hline, rfl⟩ := of_line h
    refine .inl ⟨line, hline, fun more more' hmore => ?_⟩
    simp only [step, hphase, hmore, Option.map_some]
  | trailer =>
    simp only [hphase] at h
    obtain ⟨line, hline, rfl⟩ := of_line h
    refine .inl ⟨line, hline, fun more more' hmore => ?_⟩
    simp only [step, hphase, hmore, Option.map_some]
  | body =>
    simp only [hphase, readBody] at h
    split_ifs at h with hchunked hnew hclose
    · obtain ⟨line, hline, rfl⟩ := of_line h
      refine .inl ⟨line, hline, fun more more' hmore => ?_⟩
      simp only [step, hphase, readBody, hchunked, hnew, if_true, hmore, Option.map_some]
    · exact .inr (of_takes hphase (readChunk_takes hphase hchunked hnew h))
    · exact .inr (of_takes hphase
        (readUntilClose_takes hphase (Bool.eq_false_iff.mpr hchunked) hclose h))
    · exact .inr (of_takes hphase
        (readLength_takes hphase (Bool.eq_false_iff.mpr hchunked) hclose h))
  | finished =>
    simp only [hphase] at h
    cases h
  | corrupted | undefined =>
    simp only [hphase] at h
    cases h

theorem step_append (h : r.step env buf = some (r', buf')) (more : Block) :
    r.step env (buf ++ more) = some (r', buf' ++ more) := by
  rcases step_cases h with ⟨line, hline, hstep⟩ | ⟨n, hn, rfl, _, hstep⟩
  · exact hstep _ _ (readln_append hline more)
  · exact hstep more

theorem step_shrinks (h : r.step env buf = some (r', buf')) :
    Prod.Lex (· < ·) (· < ·) (buf'.length, r'.rank) (buf.length, r.rank) := by
  rcases step_cases h with ⟨line, hline, _⟩ | ⟨n, hn, hdrop, hrank, _⟩
  · exact Prod.Lex.left _ _ (readln_length hline)
  · rw [hdrop]
    cases n with
    | zero => exact Prod.Lex.right _ (hrank rfl)
    | succ n =>
      apply Prod.Lex.left
      rw [List.length_drop]
      omega

/-- A client reads a reply with `step`. -/
def reader (env : Environment) : Reader Reading UInt8 where
  step := step env
  rank := rank
  patient := step_append
  shrinks := step_shrinks

/-- There is more to come, and the connection need not end for it. -/
structure Unfinished (r : Reading) : Prop where
  finished : r.phase ≠ .finished
  corrupted : r.phase ≠ .corrupted
  undefined : r.phase ≠ .undefined
  length : r.phase = .body → 0 ≤ r.req.ntoread

theorem unfinished_of {r : Reading} (h : r.phase = .firstline ∨ r.phase = .headers) :
    r.Unfinished := by
  rcases h with h | h
  · exact ⟨by simp [h], by simp [h], by simp [h], by simp [h]⟩
  · exact ⟨by simp [h], by simp [h], by simp [h], by simp [h]⟩

/-- The reply says where it ends. -/
structure Delimited (reply : Reply) (tm : Tm) : Prop where
  version : reply.major = 1 ∧ reply.minor = 1
  headers : ∀ e ∈ reply.datedHeaders tm, WellFormed e
  encoding : findHeader (reply.datedHeaders tm) "Transfer-Encoding".toList = none
  length : getBodyLength (reply.datedHeaders tm) = some (reply.body.length : Int)

/-- A request that is waiting for its reply. -/
structure Waiting (req : EvhttpRequest) : Prop where
  type : req.type ≠ some .head
  inputHeaders : req.inputHeaders = []
  inputBuffer : req.inputBuffer = []
  chunked : req.chunked = false
  bodySize : req.bodySize = 0

/-- The request with the whole reply. -/
def replied (req : EvhttpRequest) (reply : Reply) (tm : Tm) : Reading where
  phase := .finished
  req := { req with
    major := 1
    minor := 1
    inputHeaders := reply.datedHeaders tm
    inputBuffer := reply.body
    ntoread := 0
    bodySize := reply.body.length }
  responseCode := reply.code.toNat

theorem parseResponseLine_statusLine {reply : Reply}
    (hversion : reply.major = 1 ∧ reply.minor = 1) (r : Reading) :
    parseResponseLine env r reply.statusLine =
      ({ r with req := { r.req with major := 1, minor := 1 }, responseCode := reply.code.toNat },
        .wellFormed) := by
  have hline : reply.statusLine = "HTTP/1.1 ".toList ++ Nat.toDigits 10 reply.code.toNat ++ [' '] ++
      reply.code.phrase := by
    unfold Reply.statusLine
    rw [hversion.1, hversion.2]
    rfl
  have hprotocol : strsep ' ' reply.statusLine = ("HTTP/1.1".toList,
      some (Nat.toDigits 10 reply.code.toNat ++ [' '] ++ reply.code.phrase)) := by
    rw [hline]
    cases reply.code <;> decide
  have hnumber : atoi env.abi.longBits (strsep ' '
      (Nat.toDigits 10 reply.code.toNat ++ [' '] ++ reply.code.phrase)).1 = reply.code.toNat := by
    cases env.abi <;> cases reply.code <;> decide
  have hvalid : (reply.code.toNat : Int) ≠ 0 := by
    cases reply.code <;> decide
  simp only [parseResponseLine, hprotocol, hnumber, parseHttpVersion_one, if_neg hvalid]

theorem plain_statusLine {reply : Reply} (hversion : reply.major = 1 ∧ reply.minor = 1) :
    Plain reply.statusLine := by
  unfold Reply.statusLine
  rw [hversion.1, hversion.2]
  cases reply.code <;> decide

/-- The state of the reading at the headers of the reply. -/
def atHeaders (req : EvhttpRequest) (reply : Reply) (headers : Headers) : Reading where
  phase := .headers
  req := { req with major := 1, minor := 1, inputHeaders := headers }
  responseCode := reply.code.toNat

theorem endHeaders_atHeaders {req : EvhttpRequest} {reply : Reply} {tm : Tm}
    (h : Delimited reply tm) (hreq : Waiting req) :
    (atHeaders req reply (reply.datedHeaders tm)).endHeaders =
      { atHeaders req reply (reply.datedHeaders tm) with
        phase := .body
        req := { (atHeaders req reply (reply.datedHeaders tm)).req with
          ntoread := reply.body.length } } := by
  have hcode : (atHeaders req reply (reply.datedHeaders tm)).responseCode = reply.code.toNat := rfl
  have hcontinue : (reply.code.toNat : Int) ≠ 100 := by
    cases reply.code <;> decide
  have hneeds : (atHeaders req reply (reply.datedHeaders tm)).responseNeedsBody = true := by
    apply decide_eq_true
    rw [hcode]
    refine ⟨?_, ?_, ?_, hreq.type⟩
    all_goals cases reply.code <;> decide
  have hheaders : (atHeaders req reply (reply.datedHeaders tm)).req.inputHeaders =
      reply.datedHeaders tm := rfl
  unfold endHeaders
  rw [hcode, if_neg hcontinue, if_pos hneeds]
  unfold getBody
  simp only [hheaders, h.encoding, h.length, Option.any_none, Bool.false_eq_true, if_false]

theorem consumes_length {r : Reading} (hphase : r.phase = .body) (hchunked : r.req.chunked = false)
    {body : Block} (hlength : r.req.ntoread = body.length) (hsize : body.length ≤ env.sizeMax) :
    (reader env).Consumes Unfinished r body
      { r with
        phase := .finished
        req := { r.req with
          inputBuffer := r.req.inputBuffer ++ body
          ntoread := 0
          bodySize := r.req.bodySize + body.length } } := by
  have hn : r.req.ntoread.toNat % (env.sizeMax + 1) = body.length := by
    rw [hlength, Int.toNat_natCast, Nat.mod_eq_of_lt (Nat.lt_succ_of_le hsize)]
  have hpos : ¬ r.req.ntoread < 0 := by omega
  have hstep : ∀ buf, (reader env).step r buf = r.readLength env buf := by
    intro buf
    change r.step env buf = _
    simp only [step, hphase, readBody, hchunked, Bool.false_eq_true, if_false, if_neg hpos]
  apply Reader.Consumes.of_step
  · intro more
    have hlong : ¬ ((body ++ more).length < body.length ∨
        (body.length = 0 ∧ r.req.ntoread ≠ 0)) := by
      rw [List.length_append]
      omega
    rw [hstep]
    unfold readLength
    dsimp only
    rw [hn, if_neg hlong, hlength, sub_self, if_pos rfl, List.take_left, List.drop_left]
    rfl
  · intro v hv hne
    have hshort : v.length < body.length :=
      lt_of_le_of_ne hv.length_le fun heq => hne (hv.eq_of_length heq)
    rw [hstep]
    unfold readLength
    dsimp only
    rw [hn, if_pos (.inl hshort)]
  · exact ⟨by simp [hphase], by simp [hphase], by simp [hphase], fun _ => not_lt.mp hpos⟩

/-- However much of it has arrived, the client knows whether the reply is complete; it then has
what the server has written, and has read nothing else. -/
theorem consumes_reply {reply : Reply} {tm : Tm} (h : Delimited reply tm) {req : EvhttpRequest}
    (hreq : Waiting req) (hsize : reply.body.length ≤ env.sizeMax) :
    (reader env).Consumes Unfinished (start req) (reply.wire tm) (replied req reply tm) := by
  have hfirst : (reader env).Consumes Unfinished (start req) (written reply.statusLine)
      (atHeaders req reply []) := by
    have hread : (start req).readFirstline env reply.statusLine = atHeaders req reply [] := by
      unfold readFirstline
      rw [parseResponseLine_statusLine h.version]
      simp only [start, atHeaders, ← hreq.inputHeaders]
    rw [← hread]
    exact consumes_written (plain_statusLine h.version) (fun buf => rfl)
      (unfinished_of (.inl rfl))
  have hheaders : (reader env).Consumes Unfinished (atHeaders req reply [])
      ((reply.datedHeaders tm).flatMap fun e => written (headerLine e))
      (atHeaders req reply (reply.datedHeaders tm)) := by
    have hread : ∀ before line after, line ≠ [] → parseHeaderLine before line = some after →
        (atHeaders req reply before).readHeader endHeaders line = atHeaders req reply after := by
      intro before line after hline hparse
      have hparse' : parseHeaderLine (atHeaders req reply before).req.inputHeaders line =
          some after := hparse
      rw [readHeader, if_neg hline, hparse']
      rfl
    exact consumes_headerLines h.headers (fun before buf => rfl) hread
      (fun before => unfinished_of (.inr rfl)) []
  have hend : (reader env).Consumes Unfinished (atHeaders req reply (reply.datedHeaders tm))
      (written []) ((atHeaders req reply (reply.datedHeaders tm)).readHeader endHeaders []) :=
    consumes_written (by decide) (fun buf => rfl) (unfinished_of (.inr rfl))
  rw [readHeader, if_pos rfl, endHeaders_atHeaders h hreq] at hend
  have hbody : (reader env).Consumes Unfinished
      { atHeaders req reply (reply.datedHeaders tm) with
        phase := .body
        req := { (atHeaders req reply (reply.datedHeaders tm)).req with
          ntoread := reply.body.length } } reply.body (replied req reply tm) := by
    have hall := @consumes_length env
      { atHeaders req reply (reply.datedHeaders tm) with
        phase := .body
        req := { (atHeaders req reply (reply.datedHeaders tm)).req with
          ntoread := reply.body.length } } rfl hreq.chunked reply.body rfl hsize
    have hreplied : replied req reply tm =
        { atHeaders req reply (reply.datedHeaders tm) with
          phase := .finished
          req := { (atHeaders req reply (reply.datedHeaders tm)).req with
            inputBuffer := req.inputBuffer ++ reply.body
            ntoread := 0
            bodySize := req.bodySize + reply.body.length } } := by
      rw [hreq.inputBuffer, hreq.bodySize, List.nil_append, Nat.zero_add]
      rfl
    rw [hreplied]
    exact hall
  exact ((hfirst.trans hheaders).trans hend).trans hbody

end Reading

end KinectHelper.Libevent
