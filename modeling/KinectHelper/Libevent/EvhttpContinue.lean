import Mathlib.Data.List.Basic
import KinectHelper.Libevent.EvhttpConnection

namespace KinectHelper.Libevent

/-- A connection, and how long its log was at each `100 Continue` that it has written. -/
structure ContinuedConnection where
  connection : Connection
  continued : List Nat
  deriving DecidableEq

namespace ContinuedConnection

def start : ContinuedConnection := ⟨.start, []⟩

/-- `Connection.step` with `evhttp_send_continue`, which is called unless there is more in the input
buffer. -/
def step (env : Environment) (s : ContinuedConnection) (buf : Block) :
    Option (ContinuedConnection × Block) :=
  (s.connection.step env buf).map fun r =>
    let asked := r.1.expected.drop s.connection.expected.length
    (⟨r.1, if r.2 = [] then s.continued ++ asked else s.continued⟩, r.2)

end ContinuedConnection

/-- The request asks for a `100 Continue`; a line that continues its last header may have added to
what it asks for. -/
def EvhttpRequest.Expects (req : EvhttpRequest) : Prop :=
  req.versionAtLeast = true ∧ ∃ value, findHeader req.inputHeaders "Expect".toList = some value ∧
    strcaseEq (value.take 12) "100-continue".toList = true

/-- What may come of a request that has asked for a `100 Continue`. -/
def Event.Expected : Event → Prop
  | .request req => req.Expects
  | .reply error => error.code ≠ .ok

theorem findHeader_cons (header : List Char × List Char) (headers : Headers) (key : List Char) :
    findHeader (header::headers) key =
      if strcaseEq header.1 key then some header.2 else findHeader headers key := by
  unfold findHeader
  cases h : strcaseEq header.1 key with
  | true =>
    rw [List.find?_cons_of_pos (by simpa using h)]
    rfl
  | false =>
    rw [List.find?_cons_of_neg (by simpa using h)]
    rfl

/-- More is added to the end of a value only. -/
theorem findHeader_appendToLastHeader {headers headers' : Headers} {line key value : List Char}
    (h : appendToLastHeader headers line = some headers')
    (hfind : findHeader headers key = some value) :
    ∃ more, findHeader headers' key = some (value ++ more) := by
  obtain ⟨last, hlast, rfl⟩ := Option.map_eq_some_iff.mp h
  have hheaders : headers = headers.dropLast ++ [last] :=
    (List.dropLast_append_getLast? last hlast).symm
  clear h
  generalize headers.dropLast = before at hheaders ⊢
  subst hheaders
  clear hlast
  induction before with
  | nil =>
    rw [List.nil_append, findHeader_cons] at hfind ⊢
    split_ifs at hfind ⊢
    · cases hfind
      exact ⟨line, rfl⟩
    · cases hfind
  | cons header before ih =>
    rw [List.cons_append, findHeader_cons] at hfind ⊢
    split_ifs at hfind ⊢
    · exact ⟨[], by rw [hfind, List.append_nil]⟩
    · exact ih hfind

theorem findHeader_addHeader {headers headers' : Headers} {skey svalue key value : List Char}
    (h : addHeader headers skey svalue = some headers')
    (hfind : findHeader headers key = some value) : findHeader headers' key = some value := by
  unfold addHeader at h
  split_ifs at h
  cases h
  induction headers with
  | nil => cases hfind
  | cons header headers ih =>
    rw [List.cons_append, findHeader_cons]
    rw [findHeader_cons] at hfind
    split_ifs at hfind ⊢
    · exact hfind
    · exact ih hfind

theorem findHeader_parseHeaderLine {headers headers' : Headers} {line key value : List Char}
    (h : parseHeaderLine headers line = some headers')
    (hfind : findHeader headers key = some value) :
    ∃ more, findHeader headers' key = some (value ++ more) := by
  unfold parseHeaderLine at h
  split at h
  · exact findHeader_appendToLastHeader h hfind
  · split at h
    · cases h
    · exact ⟨[], by rw [findHeader_addHeader h hfind, List.append_nil]⟩

theorem EvhttpRequest.Expects.parseHeaderLine {req : EvhttpRequest} (h : req.Expects)
    {line : List Char} {headers : Headers}
    (hline : parseHeaderLine req.inputHeaders line = some headers) :
    EvhttpRequest.Expects { req with inputHeaders := headers } := by
  obtain ⟨hversion, value, hfind, hvalue⟩ := h
  obtain ⟨more, hmore⟩ := findHeader_parseHeaderLine hline hfind
  refine ⟨hversion, value ++ more, hmore, ?_⟩
  have hlength : 12 ≤ value.length := by
    have hlower := congrArg List.length (of_decide_eq_true hvalue)
    rw [List.length_map, List.length_map, List.length_take] at hlower
    have htwelve : "100-continue".toList.length = 12 := rfl
    omega
  rw [List.take_append_of_le_length hlength]
  exact hvalue

namespace Connection

/-- Whatever has asked for a `100 Continue` has led to an event. -/
structure Settled (c : Connection) : Prop where
  ordered : c.expected.Pairwise (· < ·)
  answered : ∀ n ∈ c.expected, ∃ e, c.log[n]? = some e ∧ e.Expected

/-- The same, but for the request that is being read. -/
structure Asking (c : Connection) : Prop where
  ordered : c.expected.Pairwise (· < ·)
  answered : ∀ n ∈ c.expected,
    (∃ e, c.log[n]? = some e ∧ e.Expected) ∨ (n = c.log.length ∧ c.req.Expects)

/-- What every step keeps. -/
def Expecting (c : Connection) : Prop :=
  match c.state with
  | .readingBody | .readingTrailer => c.Asking
  | _ => c.Settled

variable {env : Environment} {c c' : Connection} {buf buf' : Block}

theorem Settled.asking (h : c.Settled) : c.Asking where
  ordered := h.ordered
  answered n hn := .inl (h.answered n hn)

theorem Settled.expecting (h : c.Settled) : c.Expecting := by
  unfold Expecting
  split
  · exact h.asking
  · exact h.asking
  · exact h

theorem Asking.expecting (h : c.Asking)
    (hstate : c.state = .readingBody ∨ c.state = .readingTrailer) : c.Expecting := by
  unfold Expecting
  rcases hstate with hstate | hstate
  · rw [hstate]
    exact h
  · rw [hstate]
    exact h

theorem Settled.of_eq (h : c.Settled) (hlog : c'.log = c.log)
    (hexpected : c'.expected = c.expected) : c'.Settled := by
  constructor
  · rw [hexpected]
    exact h.ordered
  · rw [hexpected, hlog]
    exact h.answered

theorem Asking.of_eq (h : c.Asking) (hlog : c'.log = c.log) (hexpected : c'.expected = c.expected)
    (hreq : c.req.Expects → c'.req.Expects) : c'.Asking := by
  constructor
  · rw [hexpected]
    exact h.ordered
  · rw [hexpected, hlog]
    intro n hn
    exact (h.answered n hn).imp_right fun hasks => ⟨hasks.1, hreq hasks.2⟩

/-- An event follows what has been asked for. -/
theorem Asking.settled (h : c.Asking) {e : Event} {more : List Event}
    (hlog : c'.log = c.log ++ e::more) (hexpected : c'.expected = c.expected)
    (he : c.req.Expects → e.Expected) : c'.Settled := by
  constructor
  · rw [hexpected]
    exact h.ordered
  · rw [hexpected, hlog]
    intro n hn
    rcases h.answered n hn with ⟨e', he', hexpects⟩ | ⟨rfl, hasks⟩
    · refine ⟨e', ?_, hexpects⟩
      rw [List.getElem?_append_left (List.getElem?_eq_some_iff.mp he').1]
      exact he'
    · refine ⟨e, ?_, he hasks⟩
      rw [List.getElem?_append_right (Nat.le_refl _), Nat.sub_self, List.getElem?_cons_zero]

theorem Asking.sendError (h : c.Asking) {code : ResponseCode} (hcode : code ≠ .ok) :
    (c.sendError code).Settled := by
  apply h.settled
  · rfl
  · rfl
  · intro _
    exact hcode

theorem Asking.handleRequest (h : c.Asking) : c.handleRequest.Settled := by
  unfold Connection.handleRequest
  split
  · split
    · apply h.settled (e := .request c.req)
      · exact List.append_assoc _ _ _
      · rfl
      · exact id
    · exact h.sendError (by decide)
  · exact h.sendError (by decide)

theorem Asking.fail (h : c.Asking) : c.fail.Settled := by
  apply Asking.handleRequest
  exact h.of_eq rfl rfl id

theorem Asking.done (h : c.Asking) : c.done.Settled := by
  apply Asking.handleRequest
  exact h.of_eq rfl rfl id

/-- The request that is being read asks. -/
theorem Settled.ask (h : c.Settled) (hexpects : c.req.Expects) :
    Asking { c with expected := c.expected ++ [c.log.length] } where
  ordered := by
    apply List.pairwise_append.mpr
    refine ⟨h.ordered, List.pairwise_singleton _ _, ?_⟩
    intro n hn m hm
    obtain ⟨e, he, _⟩ := h.answered n hn
    rw [List.mem_singleton.mp hm]
    exact (List.getElem?_eq_some_iff.mp he).1
  answered n hn := by
    rcases List.mem_append.mp hn with hn | hn
    · exact .inl (h.answered n hn)
    · exact .inr ⟨List.mem_singleton.mp hn, hexpects⟩

theorem Settled.expect (h : c.Settled) (hstate : c.state = .readingBody) : c.expect.Expecting := by
  unfold Connection.expect
  split
  · next hversion =>
    split
    · exact h.expecting
    · next value hvalue =>
      split
      · next hcontinue =>
        have hexpects : c.req.Expects := by
          refine ⟨hversion, value, hvalue, ?_⟩
          have hlength := congrArg List.length (of_decide_eq_true hcontinue)
          rw [List.length_map, List.length_map] at hlength
          have htwelve : "100-continue".toList.length = 12 := rfl
          rw [List.take_of_length_le (by omega)]
          exact hcontinue
        exact (h.ask hexpects).expecting (.inl hstate)
      · exact (h.asking.sendError (by decide)).expecting
  · exact h.expecting

theorem Settled.getBody (h : c.Settled) : c.getBody.Expecting := by
  unfold Connection.getBody
  dsimp only
  split
  · split
    · exact Settled.expect (h.of_eq rfl rfl) rfl
    · split
      · exact h.asking.fail.expecting
      · split
        · apply Settled.expecting
          apply Asking.done
          exact h.asking.of_eq rfl rfl id
        · exact Settled.expect (h.of_eq rfl rfl) rfl
  · exact h.asking.done.expecting

theorem Settled.readFirstline (h : c.Settled) (line : List Char) :
    (c.readFirstline env line).Expecting := by
  unfold Connection.readFirstline
  split
  · apply Settled.expecting
    exact h.of_eq rfl rfl
  · apply Settled.expecting
    apply Asking.fail
    apply Settled.asking
    exact h.of_eq rfl rfl
  · apply Settled.expecting
    exact h.of_eq rfl rfl

theorem Asking.readTrailer (h : c.Asking) (hstate : c.state = .readingTrailer) (line : List Char) :
    (c.readHeader Connection.done line).Expecting := by
  unfold Connection.readHeader
  split
  · exact h.done.expecting
  · split
    · exact h.fail.expecting
    · next headers hheaders =>
      unfold Expecting
      rw [hstate]
      exact h.of_eq rfl rfl fun hexpects => hexpects.parseHeaderLine hheaders

theorem Asking.readChunkSize (h : c.Asking) (hstate : c.state = .readingBody) (line : List Char) :
    (c.readChunkSize env line).Expecting := by
  unfold Connection.readChunkSize
  dsimp only
  split_ifs with hempty hbad hlarge hlast
  · exact h.expecting (.inl hstate)
  · exact h.fail.expecting
  · exact h.fail.expecting
  · exact Asking.expecting (h.of_eq rfl rfl id) (.inr rfl)
  · exact Asking.expecting (h.of_eq rfl rfl id) (.inl hstate)

theorem Asking.readChunk (h : c.Asking) (hstate : c.state = .readingBody)
    (hstep : c.readChunk env buf = some (c', buf')) : c'.Expecting := by
  unfold Connection.readChunk at hstep
  dsimp only at hstep
  split_ifs at hstep
  · cases hstep
    exact h.fail.expecting
  · cases hstep
    exact Asking.expecting (h.of_eq rfl rfl id) (.inl hstate)

theorem Asking.readLength (h : c.Asking) (hstate : c.state = .readingBody)
    (hstep : c.readLength env buf = some (c', buf')) : c'.Expecting := by
  unfold Connection.readLength at hstep
  dsimp only at hstep
  split_ifs at hstep
  · cases hstep
    apply Settled.expecting
    apply Asking.done
    exact h.of_eq rfl rfl id
  · cases hstep
    exact Asking.expecting (h.of_eq rfl rfl id) (.inl hstate)

/-- A step asks for a `100 Continue` at most once before the next event. -/
theorem Expecting.step (h : c.Expecting) (hstep : c.step env buf = some (c', buf')) :
    c'.Expecting := by
  unfold Expecting at h
  unfold Connection.step at hstep
  cases hstate : c.state with
  | readingFirstline =>
    simp only [hstate] at h hstep
    obtain ⟨line, _, rfl⟩ := of_line hstep
    exact h.readFirstline _
  | readingHeaders =>
    simp only [hstate] at h hstep
    obtain ⟨line, _, rfl⟩ := of_line hstep
    unfold Connection.readHeader
    split
    · exact h.getBody
    · split
      · exact h.asking.fail.expecting
      · apply Settled.expecting
        exact h.of_eq rfl rfl
  | readingTrailer =>
    simp only [hstate] at h hstep
    obtain ⟨line, _, rfl⟩ := of_line hstep
    exact h.readTrailer hstate _
  | readingBody =>
    simp only [hstate, readBody] at h hstep
    split_ifs at hstep
    · obtain ⟨line, _, rfl⟩ := of_line hstep
      exact h.readChunkSize hstate _
    · exact h.readChunk hstate hstep
    · exact h.readLength hstate hstep
  | writing =>
    simp only [hstate] at h hstep
    cases hstep
    unfold Connection.sendDone
    split
    · apply Settled.expecting
      exact h.of_eq rfl rfl
    · apply Settled.expecting
      exact h.of_eq rfl rfl
  | closed | undefined =>
    simp only [hstate] at hstep
    cases hstep

@[simp] theorem handleRequest_expected (c : Connection) :
    c.handleRequest.expected = c.expected := by
  unfold handleRequest
  split
  · split <;> rfl
  · rfl

@[simp] theorem fail_expected (c : Connection) : c.fail.expected = c.expected :=
  handleRequest_expected _

@[simp] theorem done_expected (c : Connection) : c.done.expected = c.expected :=
  handleRequest_expected _

theorem expect_expected {asked : List Nat} (h : asked <+: c.expected) :
    asked <+: c.expect.expected := by
  unfold Connection.expect
  split
  · split
    · exact h
    · split
      · exact h.trans (List.prefix_append _ _)
      · exact h
  · exact h

theorem getBody_expected (c : Connection) : c.expected <+: c.getBody.expected := by
  unfold Connection.getBody
  dsimp only
  split
  · split
    · apply expect_expected
      exact List.prefix_refl _
    · split
      · simp
      · split
        · simp
        · apply expect_expected
          exact List.prefix_refl _
  · simp

theorem readHeader_expected {last : Connection → Connection}
    (hlast : c.expected <+: (last c).expected) (line : List Char) :
    c.expected <+: (c.readHeader last line).expected := by
  unfold Connection.readHeader
  split
  · exact hlast
  · split
    · simp
    · exact List.prefix_refl _

theorem readChunkSize_expected (line : List Char) :
    (c.readChunkSize env line).expected = c.expected := by
  unfold Connection.readChunkSize
  dsimp only
  split_ifs <;> simp

theorem readBody_expected (h : c.readBody env buf = some (c', buf')) :
    c'.expected = c.expected := by
  unfold Connection.readBody at h
  split_ifs at h
  · obtain ⟨line, _, rfl⟩ := of_line h
    exact readChunkSize_expected _
  · unfold Connection.readChunk at h
    dsimp only at h
    split_ifs at h
    · cases h
      exact fail_expected c
    · cases h
      rfl
  · unfold Connection.readLength at h
    dsimp only at h
    split_ifs at h
    · cases h
      exact done_expected _
    · cases h
      rfl

theorem step_expected (h : c.step env buf = some (c', buf')) : c.expected <+: c'.expected := by
  unfold Connection.step at h
  cases hstate : c.state with
  | readingFirstline =>
    simp only [hstate] at h
    obtain ⟨line, _, rfl⟩ := of_line h
    unfold Connection.readFirstline
    split <;> simp
  | readingHeaders =>
    simp only [hstate] at h
    obtain ⟨line, _, rfl⟩ := of_line h
    exact readHeader_expected (getBody_expected c) _
  | readingTrailer =>
    simp only [hstate] at h
    obtain ⟨line, _, rfl⟩ := of_line h
    apply readHeader_expected
    simp
  | readingBody =>
    simp only [hstate] at h
    rw [readBody_expected h]
  | writing =>
    simp only [hstate] at h
    cases h
    unfold Connection.sendDone
    split <;> exact List.prefix_refl _
  | closed | undefined =>
    simp only [hstate] at h
    cases h

/-- What has been asked for on the way to a state is among what has been asked for there. -/
theorem expected_settle (c : Connection) (buf : Block) :
    c.expected <+: ((reader env).settle c buf).1.expected :=
  Stepper.settle_grows expected (fun _ _ _ => step_expected) c buf

end Connection

namespace ContinuedConnection

end ContinuedConnection

end KinectHelper.Libevent
