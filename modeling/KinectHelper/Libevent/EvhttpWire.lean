import KinectHelper.Libevent.EvhttpDialogue

namespace KinectHelper.Libevent

/-- `evhttp_make_request`: the version is 1.1 unless there is one. -/
def makeRequest (req : EvhttpRequest) (type : CmdType) (uri : List Char) : EvhttpRequest :=
  let unset := req.major = 0 ∧ req.minor = 0
  { req with
    type := some type
    uri := some uri
    major := if unset then 1 else req.major
    minor := if unset then 1 else req.minor }

/-- The `Content-Length` that `evhttp_make_header_request` adds to the output headers. -/
def makeHeaderRequest (req : EvhttpRequest) : Headers :=
  let output := removeHeader req.outputHeaders "Proxy-Connection".toList
  if (req.type = some .post ∨ req.type = some .put) ∧
      findHeader output "Content-Length".toList = none then
    put output "Content-Length".toList (Nat.toDigits 10 req.outputBuffer.length)
  else output

/-- `"%s %s HTTP/%d.%d"` -/
def requestLine (req : EvhttpRequest) : List Char :=
  (req.type.bind CmdType.method).getD "(null)".toList ++ [' '] ++
    req.uri.getD "(null)".toList ++ " HTTP/".toList ++
    (toString req.major).toList ++ ['.'] ++ (toString req.minor).toList

/-- `"%s: %s"` -/
def headerLine (header : List Char × List Char) : List Char := header.1 ++ [':', ' '] ++ header.2

/-- A line with its `"\r\n"`. -/
def written (line : List Char) : Block := bytesOf line ++ [13, 10]

/-- `evhttp_make_header` for a request: what goes to the output buffer of the connection. -/
def makeHeader (req : EvhttpRequest) : Block :=
  written (requestLine req) ++ (makeHeaderRequest req).flatMap (fun e => written (headerLine e)) ++
    [13, 10] ++ req.outputBuffer

theorem parseHttpVersion_one (env : Environment) (req : EvhttpRequest) :
    parseHttpVersion env "HTTP/1.1".toList req =
      ({ req with major := 1, minor := 1 }, .wellFormed) := by
  have hscan : scanHttpVersion env "HTTP/1.1".toList = some (some 1, some 1) := by
    unfold scanHttpVersion
    cases env.abi <;> decide
  unfold parseHttpVersion
  rw [hscan]
  rfl

/-- The character ends neither a line nor a C string. -/
def plainChar (c : Char) : Bool := decide (0 < c.toNat ∧ c.toNat < 256 ∧ c ≠ '\n' ∧ c ≠ '\r')

def Plain (text : List Char) : Prop :=
  ∀ c ∈ text, 0 < c.toNat ∧ c.toNat < 256 ∧ c ≠ '\n' ∧ c ≠ '\r'

instance (text : List Char) : Decidable (Plain text) :=
  decidable_of_iff (text.all plainChar = true) (by simp [Plain, plainChar])

theorem byte_toNat {c : Char} (h : c.toNat < 256) : (UInt8.ofNat c.toNat).toNat = c.toNat := by
  rw [UInt8.toNat_ofNat']
  exact Nat.mod_eq_of_lt h

theorem Plain.oneLine {text : List Char} (h : Plain text) : OneLine (bytesOf text) := by
  intro b hb
  obtain ⟨c, hc, rfl⟩ := List.mem_map.mp hb
  obtain ⟨_, hlt, hlf, hcr⟩ := h c hc
  have hne : ∀ d : Char, d.toNat < 256 → c ≠ d → UInt8.ofNat c.toNat ≠ UInt8.ofNat d.toNat := by
    intro d hd hcd heq
    apply hcd
    apply Char.toNat_inj.mp
    rw [← byte_toNat hlt, heq, byte_toNat hd]
  exact ⟨hne '\n' (by decide) hlf, hne '\r' (by decide) hcr⟩

theorem Plain.cString_bytesOf {text : List Char} (h : Plain text) :
    cString (bytesOf text) = text := by
  have hnonzero : ∀ b ∈ bytesOf text, decide (b ≠ 0) = true := by
    intro b hb
    obtain ⟨c, hc, rfl⟩ := List.mem_map.mp hb
    obtain ⟨hpos, hlt, _⟩ := h c hc
    refine decide_eq_true fun hzero => ?_
    have hbyte := congrArg UInt8.toNat hzero
    rw [byte_toNat hlt] at hbyte
    exact hpos.ne' hbyte
  unfold cString
  rw [List.takeWhile_eq_self_iff.mpr hnonzero]
  unfold bytesOf
  rw [List.map_map]
  conv_rhs => rw [← List.map_id text]
  apply List.map_congr_left
  intro c hc
  obtain ⟨_, hlt, _⟩ := h c hc
  change Char.ofNat (UInt8.ofNat c.toNat).toNat = c
  rw [byte_toNat hlt, Char.ofNat_toNat]

theorem Plain.append {s t : List Char} (hs : Plain s) (ht : Plain t) : Plain (s ++ t) := by
  intro c hc
  rcases List.mem_append.mp hc with hc | hc
  · exact hs c hc
  · exact ht c hc

theorem plain_toDigits (n : Nat) : Plain (Nat.toDigits 10 n) := by
  intro c hc
  have hdigit := isDigit_toDigits hc
  have hrange : 48 ≤ c.toNat ∧ c.toNat ≤ 57 := Char.isDigit_iff_toNat.mp hdigit
  refine ⟨by omega, by omega, ?_, ?_⟩
  · intro heq
    rw [heq] at hdigit
    cases hdigit
  · intro heq
    rw [heq] at hdigit
    cases hdigit

/-- A header that can be written as one line. -/
structure WellFormed (header : List Char × List Char) : Prop where
  key : Plain header.1
  value : Plain header.2
  colon : ':' ∉ header.1
  start : header.1.head? ≠ some ' ' ∧ header.1.head? ≠ some '\t'
  blank : header.2.head? ≠ some ' '

theorem wellFormed_of {key value : List Char}
    (hkey : Plain key ∧ ':' ∉ key ∧ key.head? ≠ some ' ' ∧ key.head? ≠ some '\t')
    (hvalue : Plain value) (hblank : value.head? ≠ some ' ') : WellFormed (key, value) :=
  ⟨hkey.1, hvalue, hkey.2.1, hkey.2.2, hblank⟩

theorem strsep_append {delim : Char} {s : List Char} (h : delim ∉ s) (rest : List Char) :
    strsep delim (s ++ delim::rest) = (s, some rest) := by
  induction s with
  | nil => simp [strsep]
  | cons c s ih =>
    have hne : c ≠ delim := fun heq => h (heq ▸ List.mem_cons_self)
    have hrest := ih fun hmem => h (List.mem_cons_of_mem c hmem)
    rw [List.cons_append, strsep, if_neg hne, hrest]

theorem validFrom_plain {text : List Char} (h : Plain text) : validFrom false text = true := by
  induction text with
  | nil => rfl
  | cons c text ih =>
    obtain ⟨_, _, hlf, hcr⟩ := h c List.mem_cons_self
    have hrest := ih fun d hd => h d (List.mem_cons_of_mem c hd)
    simp [validFrom, hlf, hcr, hrest]

theorem parseHeaderLine_headerLine {header : List Char × List Char} (h : WellFormed header)
    (headers : Headers) :
    parseHeaderLine headers (headerLine header) = some (headers ++ [header]) := by
  obtain ⟨key, value⟩ := header
  have hline : headerLine (key, value) = key ++ ':' :: ' ' :: value := by simp [headerLine]
  have hfirst : ¬ ((headerLine (key, value)).head? = some ' ' ∨
      (headerLine (key, value)).head? = some '\t') := by
    rw [hline]
    cases key with
    | nil => simp
    | cons c key => exact not_or.mpr h.start
  have hvalue : (' '::value).dropWhile (· = ' ') = value := by
    rw [List.dropWhile_cons_of_pos (by decide)]
    cases value with
    | nil => rfl
    | cons c value =>
      have hc : c ≠ ' ' := fun heq => h.blank (congrArg some heq)
      exact List.dropWhile_cons_of_neg (by simp [hc])
  have hkey : ¬ ('\r' ∈ key ∨ '\n' ∈ key) :=
    not_or.mpr ⟨fun hcr => (h.key _ hcr).2.2.2 rfl, fun hlf => (h.key _ hlf).2.2.1 rfl⟩
  unfold parseHeaderLine
  rw [if_neg hfirst, hline, strsep_append h.colon]
  dsimp only
  rw [hvalue, addHeader, if_neg hkey, headerIsValidValue, validFrom_plain h.value]
  rfl

theorem plain_headerLine {header : List Char × List Char} (h : WellFormed header) :
    Plain (headerLine header) := (h.key.append (by decide)).append h.value

section Lines

variable {κ : Type*} {R : Reader κ UInt8} {P : κ → Prop}

theorem consumes_written {k : κ} {f : List Char → κ} {line : List Char} (hline : Plain line)
    (hstep : ∀ buf, R.step k buf = (readln buf).map fun r => (f (cString r.1), r.2)) (hP : P k) :
    R.Consumes P k (written line) (f line) := by
  apply Reader.Consumes.of_step
  · intro more
    change R.step k (bytesOf line ++ [13, 10] ++ more) = _
    rw [hstep, readln_line hline.oneLine, Option.map_some, hline.cString_bytesOf]
  · intro v hv hne
    rw [hstep, readln_early hline.oneLine hv hne, Option.map_none]
  · exact hP

theorem consumes_headerLines {k : Headers → κ} {f : Headers → List Char → κ} {headers : Headers}
    (hheaders : ∀ e ∈ headers, WellFormed e)
    (hstep : ∀ before buf,
      R.step (k before) buf = (readln buf).map fun r => (f before (cString r.1), r.2))
    (hread : ∀ before line after, line ≠ [] → parseHeaderLine before line = some after →
      f before line = k after)
    (hP : ∀ before, P (k before)) (before : Headers) :
    R.Consumes P (k before) (headers.flatMap fun e => written (headerLine e))
      (k (before ++ headers)) := by
  induction headers generalizing before with
  | nil =>
    rw [List.append_nil]
    exact Reader.Consumes.refl P (k before)
  | cons e headers ih =>
    have he := hheaders e List.mem_cons_self
    have hnonempty : headerLine e ≠ [] := by simp [headerLine]
    have hline : R.Consumes P (k before) (written (headerLine e)) (f before (headerLine e)) :=
      consumes_written (plain_headerLine he) (hstep before) (hP before)
    rw [hread before _ _ hnonempty (parseHeaderLine_headerLine he before)] at hline
    have hrest := ih (fun e' he' => hheaders e' (List.mem_cons_of_mem e he')) (before ++ [e])
    rw [List.append_assoc, List.singleton_append] at hrest
    rw [List.flatMap_cons]
    exact hline.trans hrest

end Lines

namespace Connection

variable {env : Environment} {c c' : Connection} {P : Connection → Prop}

theorem consumes_headers {headers : Headers} (hheaders : ∀ e ∈ headers, WellFormed e)
    (hstate : c.state = .readingHeaders)
    (hP : ∀ inputHeaders, P { c with req := { c.req with inputHeaders := inputHeaders } }) :
    (reader env).Consumes P c (headers.flatMap fun e => written (headerLine e))
      { c with req := { c.req with inputHeaders := c.req.inputHeaders ++ headers } } := by
  let k : Headers → Connection := fun h => { c with req := { c.req with inputHeaders := h } }
  have hstep : ∀ before buf, (reader env).step (k before) buf =
      (readln buf).map fun r => ((k before).readHeader getBody (cString r.1), r.2) := by
    intro before buf
    have hk : (k before).state = .readingHeaders := hstate
    change (k before).step env buf = _
    simp only [Connection.step, hk]
  have hread : ∀ before line after, line ≠ [] → parseHeaderLine before line = some after →
      (k before).readHeader getBody line = k after := by
    intro before line after hline hparse
    have hk : parseHeaderLine (k before).req.inputHeaders line = some after := hparse
    rw [readHeader, if_neg hline, hk]
  exact consumes_headerLines hheaders hstep hread hP c.req.inputHeaders

theorem consumes_body (hstate : c.state = .readingBody) (hchunked : c.req.chunked = false)
    {body : Block} (hne : body ≠ []) (hlength : c.req.ntoread = body.length)
    (hsize : body.length ≤ env.sizeMax) (hP : P c) :
    (reader env).Consumes P c body (done
      { c with
        req := { c.req with
          inputBuffer := c.req.inputBuffer ++ body
          ntoread := 0
          bodySize := c.req.bodySize + body.length } }) := by
  have hn : c.req.ntoread.toNat % (env.sizeMax + 1) = body.length := by
    rw [hlength, Int.toNat_natCast, Nat.mod_eq_of_lt (Nat.lt_succ_of_le hsize)]
  have hstep : ∀ buf, c.step env buf = c.readLength env buf := by
    intro buf
    simp only [Connection.step, hstate, readBody, hchunked, Bool.false_eq_true, if_false]
  have hpos : body.length ≠ 0 := fun hzero => hne (List.length_eq_zero_iff.mp hzero)
  apply Reader.Consumes.of_step
  · intro more
    have hlong : ¬ (body.length = 0 ∨ (body ++ more).length < body.length) := by
      rw [List.length_append]
      omega
    change c.step env (body ++ more) = _
    rw [hstep]
    unfold readLength
    dsimp only
    rw [hn, if_neg hlong, hlength, sub_self, if_pos rfl, List.take_left, List.drop_left]
  · intro v hv hne
    have hshort : v.length < body.length :=
      lt_of_le_of_ne hv.length_le fun heq => hne (hv.eq_of_length heq)
    change c.step env v = none
    rw [hstep]
    unfold readLength
    dsimp only
    rw [hn, if_pos (.inr hshort)]
  · exact hP

end Connection

end KinectHelper.Libevent
