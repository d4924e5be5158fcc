import KinectHelper.Libevent.EvhttpContinue

namespace KinectHelper.Libevent

/-- The reply to a request that the callback was given. -/
def EvhttpRequest.answer (req : EvhttpRequest) : Reply :=
  ⟨req.major, req.minor, .ok, makeHeaderResponse req, req.outputBuffer⟩

/-- Every byte of the body that the request announces is there. -/
def EvhttpRequest.WholeBody (req : EvhttpRequest) : Prop :=
  if req.type.any CmdType.mayHaveBody then
    if req.chunked then req.inputBuffer.length = req.bodySize
    else ∃ n, getBodyLength req.inputHeaders = some n ∧ req.inputBuffer.length = n.toNat
  else req.inputBuffer = []

/-- What the callback may rely on. -/
structure EvhttpRequest.Complete (req : EvhttpRequest) : Prop where
  type : req.type.any CmdType.allowed = true
  uri : req.uri.isSome = true
  body : req.WholeBody

/-- Requests, each with its reply, and an error page at the end if there is one. -/
def dialogue (requests : List EvhttpRequest) (error : Option Reply) : List Event :=
  (requests.flatMap fun req => [.request req, .reply req.answer]) ++ error.toList.map .reply

theorem dialogue_concat (requests : List EvhttpRequest) (req : EvhttpRequest) :
    dialogue (requests ++ [req]) none =
      dialogue requests none ++ [.request req] ++ [.reply req.answer] := by
  simp [dialogue]

theorem dialogue_error (requests : List EvhttpRequest) (error : Reply) :
    dialogue requests (some error) = dialogue requests none ++ [.reply error] := by
  simp [dialogue]

theorem findHeader_append (headers extra : Headers) (key : List Char) :
    findHeader (headers ++ extra) key = (findHeader headers key).or (findHeader extra key) := by
  unfold findHeader
  rw [List.find?_append]
  cases headers.find? fun header => strcaseEq header.1 key <;> rfl

theorem findHeader_eq_none {headers : Headers} {key : List Char}
    (h : ∀ e ∈ headers, strcaseEq e.1 key = false) : findHeader headers key = none := by
  unfold findHeader
  rw [List.find?_eq_none.mpr fun e he => by rw [h e he]; exact Bool.false_ne_true]
  rfl

def responseKeys : List (List Char) :=
  ["Connection".toList, "Content-Length".toList, "Content-Type".toList]

/-- The headers that a reply adds stand after those it had. -/
def Extended (headers headers' : Headers) : Prop :=
  ∃ extra, headers' = headers ++ extra ∧ ∀ e ∈ extra, e.1 ∈ responseKeys

namespace Extended

theorem refl (headers : Headers) : Extended headers headers := ⟨[], by simp, by simp⟩

theorem trans {a b c : Headers} (h : Extended a b) (h' : Extended b c) : Extended a c := by
  obtain ⟨extra, rfl, hkeys⟩ := h
  obtain ⟨extra', rfl, hkeys'⟩ := h'
  refine ⟨extra ++ extra', List.append_assoc _ _ _, ?_⟩
  intro e he
  rcases List.mem_append.mp he with he | he
  · exact hkeys e he
  · exact hkeys' e he

theorem ite {p : Prop} [Decidable p] {headers a b : Headers} (ha : Extended headers a)
    (hb : Extended headers b) : Extended headers (if p then a else b) := by
  split
  · exact ha
  · exact hb

theorem put {key : List Char} (hkey : key ∈ responseKeys) (headers : Headers) (value : List Char) :
    Extended headers (put headers key value) := by
  unfold Libevent.put addHeader
  split_ifs
  · exact refl headers
  · refine ⟨[(key, value)], rfl, ?_⟩
    intro e he
    rw [List.mem_singleton.mp he]
    exact hkey
  · exact refl headers

theorem maybeAddContentLength (headers : Headers) (n : Nat) :
    Extended headers (maybeAddContentLength headers n) :=
  ite (put (by decide) headers _) (refl headers)

theorem makeHeaderResponse {req : EvhttpRequest}
    (h : isConnectionClose req.proxy req.inputHeaders = false) :
    Extended req.outputHeaders (makeHeaderResponse req) := by
  have hkeepalive : Extended req.outputHeaders
      (if req.minor = 0 ∧ isConnectionKeepalive req.inputHeaders then
        Libevent.put req.outputHeaders "Connection".toList "keep-alive".toList
      else req.outputHeaders) := ite (put (by decide) _ _) (refl _)
  simp only [Libevent.makeHeaderResponse, h, Bool.false_eq_true, if_false]
  refine trans ?_ (ite (put (by decide) _ _) (refl _))
  exact ite (ite (hkeepalive.trans (maybeAddContentLength _ _)) hkeepalive) (refl _)

theorem find {headers headers' : Headers} (h : Extended headers headers') {key value : List Char}
    (hfind : findHeader headers key = some value) : findHeader headers' key = some value := by
  obtain ⟨extra, rfl, _⟩ := h
  rw [findHeader_append, hfind]
  rfl

theorem find_none {headers headers' : Headers} (h : Extended headers headers') {key : List Char}
    (hfind : findHeader headers key = none) (hkey : ∀ k ∈ responseKeys, strcaseEq k key = false) :
    findHeader headers' key = none := by
  obtain ⟨extra, rfl, hkeys⟩ := h
  rw [findHeader_append, hfind]
  exact findHeader_eq_none fun e he => hkey e.1 (hkeys e he)

end Extended

/-- A reply with the headers of a page closes the connection. -/
theorem needClose_send {c : Connection} (code : ResponseCode)
    (h : c.req.outputHeaders = pageHeaders) : (c.send code).req.needClose = true := by
  have hclose : isConnectionClose c.req.proxy c.req.inputHeaders = true ∨
      isConnectionClose c.req.proxy (makeHeaderResponse c.req) = true := by
    cases hinput : isConnectionClose c.req.proxy c.req.inputHeaders with
    | true => exact .inl rfl
    | false =>
      have hextended := Extended.makeHeaderResponse hinput
      rw [h] at hextended
      refine .inr ?_
      cases c.req.proxy with
      | false =>
        have hfind : findHeader (makeHeaderResponse c.req) "Connection".toList =
            some "close".toList := hextended.find (by decide)
        simp only [isConnectionClose, hfind, Bool.false_eq_true, if_false, Option.any_some]
        decide
      | true =>
        have hfind : findHeader (makeHeaderResponse c.req) "Proxy-Connection".toList = none :=
          hextended.find_none (by decide) (by decide)
        simp only [isConnectionClose, hfind, if_true, Option.all_none]
  change (_ || isConnectionClose c.req.proxy c.req.inputHeaders ||
    isConnectionClose c.req.proxy (makeHeaderResponse c.req)) = true
  rcases hclose with hinput | houtput
  · rw [hinput, Bool.or_true, Bool.true_or]
  · rw [houtput, Bool.or_true]

theorem needClose_sendError (c : Connection) (code : ResponseCode) :
    (c.sendError code).req.needClose = true := needClose_send code rfl

namespace EvhttpRequest

def Parsed (req : EvhttpRequest) : Prop := req.type.isSome = true ∧ req.uri.isSome = true

/-- Nothing of the body has been read. -/
structure Fresh (req : EvhttpRequest) : Prop where
  parsed : req.Parsed
  inputBuffer : req.inputBuffer = []
  chunked : req.chunked = false
  bodySize : req.bodySize = 0

/-- The body has been read as far as `ntoread` says. -/
structure PartOfBody (req : EvhttpRequest) : Prop where
  parsed : req.Parsed
  mayHaveBody : req.type.any CmdType.mayHaveBody = true
  chunks : req.chunked = true → (req.inputBuffer.length : Int) + max req.ntoread 0 = req.bodySize
  length : req.chunked = false → 0 < req.ntoread ∧ ∃ n, getBodyLength req.inputHeaders = some n ∧
    (req.inputBuffer.length : Int) + req.ntoread = n

/-- All the chunks have been read. -/
structure Chunked (req : EvhttpRequest) : Prop where
  parsed : req.Parsed
  mayHaveBody : req.type.any CmdType.mayHaveBody = true
  chunked : req.chunked = true
  bodySize : req.inputBuffer.length = req.bodySize

theorem Chunked.wholeBody {req : EvhttpRequest} (h : req.Chunked) : req.WholeBody := by
  unfold WholeBody
  rw [if_pos h.mayHaveBody, if_pos h.chunked]
  exact h.bodySize

end EvhttpRequest

namespace Connection

/-- Every request has had its reply, and there was no error. -/
def Answered (c : Connection) : Prop :=
  ∃ requests, c.log = dialogue requests none ∧ ∀ req ∈ requests, req.Complete

/-- The last reply was an error page. -/
structure Ended (c : Connection) : Prop where
  closing : c.state = .closed ∨ (c.state = .writing ∧ c.req.needClose = true)
  error : ∃ requests error, c.log = dialogue requests (some error) ∧
    (∀ req ∈ requests, req.Complete) ∧ error.code ≠ .ok

def Facts (c : Connection) : Prop :=
  match c.state with
  | .readingFirstline => c.req = EvhttpRequest.new
  | .readingHeaders => c.req.Fresh
  | .readingBody => c.req.PartOfBody
  | .readingTrailer => c.req.Chunked
  | .writing | .closed | .undefined => True

def Inv (c : Connection) : Prop := (c.Answered ∧ c.Facts) ∨ c.Ended

variable {env : Environment} {c c' : Connection} {buf buf' : Block}

theorem Answered.of_log (h : c.Answered) (hlog : c'.log = c.log) : c'.Answered := by
  unfold Answered
  rw [hlog]
  exact h

theorem log_sendError (c : Connection) (code : ResponseCode) :
    ∃ error, (c.sendError code).log = c.log ++ [.reply error] ∧ error.code = code := ⟨_, rfl, rfl⟩

theorem Answered.sendError (h : c.Answered) {code : ResponseCode} (hcode : code ≠ .ok) :
    (c.sendError code).Ended where
  closing := .inr ⟨rfl, needClose_sendError c code⟩
  error := by
    obtain ⟨requests, hlog, hcomplete⟩ := h
    obtain ⟨error, herror, rfl⟩ := log_sendError c code
    exact ⟨requests, error, by rw [herror, hlog, dialogue_error], hcomplete, hcode⟩

theorem Answered.fail (h : c.Answered) : c.fail.Ended := by
  have hfail : c.fail =
      Connection.sendError { c with req := { c.req with uri := none } } .badRequest := by
    unfold Connection.fail handleRequest
    cases c.req.type <;> rfl
  rw [hfail]
  apply Answered.sendError
  · exact h.of_log rfl
  · decide

theorem Answered.done (h : c.Answered) (hbody : c.req.WholeBody) : c.done.Inv := by
  unfold Connection.done handleRequest
  dsimp only
  split
  · next type uri htype huri =>
    split_ifs with hallowed
    · refine .inl ⟨?_, trivial⟩
      obtain ⟨requests, hlog, hcomplete⟩ := h
      refine ⟨requests ++ [c.req], ?_, ?_⟩
      · rw [dialogue_concat, ← hlog]
        rfl
      · intro req hreq
        rcases List.mem_append.mp hreq with hreq | hreq
        · exact hcomplete req hreq
        · rw [List.mem_singleton.mp hreq]
          exact ⟨by rw [htype]; exact hallowed, by rw [huri]; rfl, hbody⟩
    · exact .inr (Answered.sendError h (by decide))
  · exact .inr (Answered.sendError h (by decide))

theorem Answered.expect (h : c.Answered) (hfacts : c.Facts) : c.expect.Inv := by
  unfold Connection.expect
  split
  · split
    · exact .inl ⟨h, hfacts⟩
    · split
      · exact .inl ⟨h.of_log rfl, hfacts⟩
      · exact .inr (h.sendError (by decide))
  · exact .inl ⟨h, hfacts⟩

theorem Answered.getBody (h : c.Answered) (hfresh : c.req.Fresh) : c.getBody.Inv := by
  unfold Connection.getBody
  dsimp only
  split_ifs with hmay hencoding
  · refine Answered.expect (h.of_log rfl) ?_
    refine ⟨hfresh.parsed, hmay, ?_, fun hchunked => nomatch hchunked⟩
    intro _
    simp [hfresh.inputBuffer, hfresh.bodySize]
  · cases hlength : getBodyLength c.req.inputHeaders with
    | none => exact .inr h.fail
    | some ntoread =>
      dsimp only
      split_ifs with hnone
      · refine Answered.done (h.of_log rfl) ?_
        unfold EvhttpRequest.WholeBody
        rw [if_pos hmay, if_neg (by rw [hfresh.chunked]; exact Bool.false_ne_true)]
        refine ⟨ntoread, hlength, ?_⟩
        rw [hfresh.inputBuffer, List.length_nil]
        omega
      · refine Answered.expect (h.of_log rfl) ?_
        refine ⟨hfresh.parsed, hmay, ?_, ?_⟩
        · intro hchunked
          exact absurd (hfresh.chunked.symm.trans hchunked) Bool.false_ne_true
        · intro _
          refine ⟨by dsimp only; omega, ntoread, hlength, ?_⟩
          simp [hfresh.inputBuffer]
  · apply Answered.done h
    unfold EvhttpRequest.WholeBody
    rw [if_neg hmay]
    exact hfresh.inputBuffer

theorem parseHttpVersion_fields {version : List Char} {req req' : EvhttpRequest}
    {status : LineStatus} (h : parseHttpVersion env version req = (req', status)) :
    ∃ major minor, req' = { req with major := major, minor := minor } := by
  unfold parseHttpVersion at h
  split at h
  · cases h
    exact ⟨req.major, req.minor, rfl⟩
  · cases h
    exact ⟨req.major, req.minor, rfl⟩
  · split at h
    · cases h
      exact ⟨req.major, req.minor, rfl⟩
    · split at h
      · cases h
        exact ⟨req.major, req.minor, rfl⟩
      · cases h
        exact ⟨_, _, rfl⟩

theorem parseRequestLine_fresh {line : List Char} {req : EvhttpRequest}
    (h : parseRequestLine env EvhttpRequest.new line = (req, .wellFormed)) : req.Fresh := by
  unfold parseRequestLine at h
  dsimp only at h
  split at h
  · cases h
  · split at h
    · cases h
    · split at h
      · cases h
      · split at h
        · next hversion =>
          obtain ⟨major, minor, rfl⟩ := parseHttpVersion_fields hversion
          split at h
          · cases h
          · cases h
            exact ⟨⟨rfl, rfl⟩, rfl, rfl, rfl⟩
        · next hrefused => exact absurd h (hrefused req)

theorem Answered.readFirstline (h : c.Answered) (hreq : c.req = EvhttpRequest.new)
    (line : List Char) : (c.readFirstline env line).Inv := by
  unfold Connection.readFirstline
  rw [hreq]
  cases hparse : parseRequestLine env EvhttpRequest.new line with
  | mk req status =>
    cases status with
    | wellFormed => exact .inl ⟨h, parseRequestLine_fresh hparse⟩
    | malformed => exact .inr (Answered.fail (h.of_log rfl))
    | undefined => exact .inl ⟨h, trivial⟩

theorem Answered.readHeader {last : Connection → Connection} (h : c.Answered)
    (hlast : (last c).Inv)
    (hkeep : ∀ headers, Facts { c with req := { c.req with inputHeaders := headers } })
    (line : List Char) : (c.readHeader last line).Inv := by
  unfold Connection.readHeader
  split_ifs
  · exact hlast
  · cases parseHeaderLine c.req.inputHeaders line with
    | none => exact .inr h.fail
    | some headers => exact .inl ⟨h, hkeep headers⟩

theorem Answered.readChunkSize (h : c.Answered) (hstate : c.state = .readingBody)
    (hpart : c.req.PartOfBody) (hchunked : c.req.chunked = true) (hnew : c.req.ntoread < 0)
    (line : List Char) : (c.readChunkSize env line).Inv := by
  have hfacts : c.Facts := by
    unfold Facts
    rw [hstate]
    exact hpart
  have hsize := hpart.chunks hchunked
  rw [max_eq_right hnew.le, add_zero] at hsize
  unfold Connection.readChunkSize
  dsimp only
  generalize (strtoll 16 line).1 = n
  split_ifs with hempty hbad hlarge hzero
  · exact .inl ⟨h, hfacts⟩
  · exact .inr h.fail
  · exact .inr h.fail
  · refine .inl ⟨h.of_log rfl, ?_⟩
    refine ⟨hpart.parsed, hpart.mayHaveBody, hchunked, ?_⟩
    dsimp only
    omega
  · refine .inl ⟨h.of_log rfl, ?_⟩
    have hpos : 0 ≤ n := not_lt.mp fun hn => hbad (.inr hn)
    unfold Facts
    rw [hstate]
    refine ⟨hpart.parsed, hpart.mayHaveBody, ?_, ?_⟩
    · intro _
      dsimp only
      omega
    · intro hnot
      exact absurd (hchunked.symm.trans hnot) Bool.false_ne_true.symm

theorem Answered.readChunk (h : c.Answered) (hstate : c.state = .readingBody)
    (hpart : c.req.PartOfBody) (hchunked : c.req.chunked = true)
    (hstep : c.readChunk env buf = some (c', buf')) : c'.Inv := by
  have hsize := hpart.chunks hchunked
  unfold Connection.readChunk at hstep
  dsimp only at hstep
  split_ifs at hstep with hempty hlarge hshort
  · cases hstep
    exact .inr h.fail
  · cases hstep
    refine .inl ⟨h.of_log rfl, ?_⟩
    unfold Facts
    rw [hstate]
    refine ⟨hpart.parsed, hpart.mayHaveBody, ?_, ?_⟩
    · intro _
      simp only [List.length_append, List.length_take]
      omega
    · intro hnot
      exact absurd (hchunked.symm.trans hnot) Bool.false_ne_true.symm

theorem Answered.readLength (h : c.Answered) (hstate : c.state = .readingBody)
    (hpart : c.req.PartOfBody) (hchunked : c.req.chunked = false)
    (hstep : c.readLength env buf = some (c', buf')) : c'.Inv := by
  obtain ⟨hpos, total, htotal, hsum⟩ := hpart.length hchunked
  unfold Connection.readLength at hstep
  dsimp only at hstep
  have hle : c.req.ntoread.toNat % (env.sizeMax + 1) ≤ c.req.ntoread.toNat := Nat.mod_le _ _
  generalize c.req.ntoread.toNat % (env.sizeMax + 1) = n at hstep hle
  split_ifs at hstep with hwait hdone
  · cases hstep
    refine Answered.done (h.of_log rfl) ?_
    unfold EvhttpRequest.WholeBody
    rw [if_pos hpart.mayHaveBody, if_neg (by rw [hchunked]; exact Bool.false_ne_true)]
    refine ⟨total, htotal, ?_⟩
    simp only [List.length_append, List.length_take]
    omega
  · cases hstep
    refine .inl ⟨h.of_log rfl, ?_⟩
    unfold Facts
    rw [hstate]
    refine ⟨hpart.parsed, hpart.mayHaveBody, ?_, ?_⟩
    · intro hyes
      exact absurd (hchunked.symm.trans hyes) Bool.false_ne_true
    · intro _
      refine ⟨by dsimp only at hdone ⊢; omega, total, htotal, ?_⟩
      simp only [List.length_append, List.length_take]
      omega

theorem Inv.sendDone (h : c.Inv) (hstate : c.state = .writing) : c.sendDone.Inv := by
  unfold Connection.sendDone
  rcases h with ⟨hanswered, _⟩ | hended
  · split_ifs with hclose
    · exact .inl ⟨hanswered, trivial⟩
    · exact .inl ⟨hanswered, rfl⟩
  · have hclose : c.req.needClose = true := by
      rcases hended.closing with hclosed | ⟨_, hclose⟩
      · exact absurd (hstate.symm.trans hclosed) (by decide)
      · exact hclose
    rw [if_pos hclose]
    exact .inr ⟨.inl rfl, hended.error⟩

/-- While a request is read, nothing is unanswered. -/
theorem Inv.reading (h : c.Inv) (hwriting : c.state ≠ .writing) (hclosed : c.state ≠ .closed) :
    c.Answered ∧ c.Facts := by
  rcases h with h | hended
  · exact h
  · rcases hended.closing with hstate | ⟨hstate, _⟩
    · exact absurd hstate hclosed
    · exact absurd hstate hwriting

/-- A step keeps the dialogue going. -/
theorem Inv.step (h : c.Inv) (hstep : c.step env buf = some (c', buf')) : c'.Inv := by
  cases hstate : c.state with
  | readingFirstline =>
    obtain ⟨hanswered, hfacts⟩ := h.reading (by simp [hstate]) (by simp [hstate])
    simp only [Connection.step, hstate] at hstep
    obtain ⟨line, _, rfl⟩ := of_line hstep
    simp only [Facts, hstate] at hfacts
    exact hanswered.readFirstline hfacts _
  | readingHeaders =>
    obtain ⟨hanswered, hfacts⟩ := h.reading (by simp [hstate]) (by simp [hstate])
    simp only [Connection.step, hstate] at hstep
    obtain ⟨line, _, rfl⟩ := of_line hstep
    simp only [Facts, hstate] at hfacts
    apply hanswered.readHeader (hanswered.getBody hfacts)
    intro headers
    simp only [Facts, hstate]
    exact ⟨hfacts.parsed, hfacts.inputBuffer, hfacts.chunked, hfacts.bodySize⟩
  | readingTrailer =>
    obtain ⟨hanswered, hfacts⟩ := h.reading (by simp [hstate]) (by simp [hstate])
    simp only [Connection.step, hstate] at hstep
    obtain ⟨line, _, rfl⟩ := of_line hstep
    simp only [Facts, hstate] at hfacts
    apply hanswered.readHeader (hanswered.done hfacts.wholeBody)
    intro headers
    simp only [Facts, hstate]
    exact ⟨hfacts.parsed, hfacts.mayHaveBody, hfacts.chunked, hfacts.bodySize⟩
  | readingBody =>
    obtain ⟨hanswered, hfacts⟩ := h.reading (by simp [hstate]) (by simp [hstate])
    simp only [Connection.step, hstate, readBody] at hstep
    simp only [Facts, hstate] at hfacts
    split_ifs at hstep with hchunked hnew
    · obtain ⟨line, _, rfl⟩ := of_line hstep
      exact hanswered.readChunkSize hstate hfacts hchunked hnew _
    · exact hanswered.readChunk hstate hfacts hchunked hstep
    · exact hanswered.readLength hstate hfacts (Bool.eq_false_iff.mpr hchunked) hstep
  | writing =>
    simp only [Connection.step, hstate] at hstep
    cases hstep
    exact h.sendDone hstate
  | closed | undefined =>
    simp only [Connection.step, hstate] at hstep
    cases hstep

theorem inv_start : start.Inv := .inl ⟨⟨[], rfl, nofun⟩, rfl⟩

theorem settle_dialogue (env : Environment) (buf : Block) :
    let c := ((reader env).settle .start buf).1
    ∃ requests error, c.log = dialogue requests error ∧ (∀ req ∈ requests, req.Complete) ∧
      ∀ reply ∈ error, reply.code ≠ .ok ∧ c.state = .closed := by
  have hinv : ((reader env).settle .start buf).1.Inv :=
    Stepper.settle_invariant (fun c buf r hstep h => Inv.step h hstep) inv_start
  have hsettled := Stepper.settled (S := (reader env).toStepper) .start buf
  generalize (reader env).settle .start buf = s at hinv hsettled
  rcases hinv with ⟨⟨requests, hlog, hcomplete⟩, _⟩ | hended
  · exact ⟨requests, none, hlog, hcomplete, nofun⟩
  · obtain ⟨requests, error, hlog, hcomplete, hcode⟩ := hended.error
    refine ⟨requests, some error, hlog, hcomplete, ?_⟩
    intro reply hreply
    obtain rfl := Option.some.inj hreply
    refine ⟨hcode, hended.closing.resolve_right ?_⟩
    intro hwriting
    have hstep : (reader env).step s.1 s.2 = some (s.1.sendDone, s.2) := by
      simp only [reader, Connection.step, hwriting.1]
    exact absurd (hsettled.symm.trans hstep) (Option.some_ne_none _).symm

end Connection

end KinectHelper.Libevent
