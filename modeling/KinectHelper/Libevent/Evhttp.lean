import KinectHelper.Libevent.Evbuffer

namespace KinectHelper.Libevent

abbrev Headers := List (List Char × List Char)

/-- `evhttp_find_header` -/
def findHeader (headers : Headers) (key : List Char) : Option (List Char) :=
  (headers.find? fun header => strcaseEq header.1 key).map Prod.snd

/-- `evhttp_remove_header` -/
def removeHeader (headers : Headers) (key : List Char) : Headers :=
  headers.eraseP fun header => strcaseEq header.1 key

/-- After line ends, and before more of the value, there is a blank. -/
def validFrom (broken : Bool) : List Char → Bool
  | [] => !broken
  | c::cs =>
      if c = '\r' ∨ c = '\n' then validFrom true cs
      else if broken ∧ c ≠ ' ' ∧ c ≠ '\t' then false
      else validFrom false cs

/-- `evhttp_header_is_valid_value` -/
def headerIsValidValue (value : List Char) : Bool := validFrom false value

/-- `evhttp_add_header` -/
def addHeader (headers : Headers) (key value : List Char) : Option Headers :=
  if '\r' ∈ key ∨ '\n' ∈ key then none
  else if headerIsValidValue value then some (headers ++ [(key, value)])
  else none

/-- `evhttp_append_to_last_header` -/
def appendToLastHeader (headers : Headers) (line : List Char) : Option Headers :=
  headers.getLast?.map fun header => headers.dropLast ++ [(header.1, header.2 ++ line)]

/-- The body of the loop of `evhttp_parse_headers`, for a line that is not the last. -/
def parseHeaderLine (headers : Headers) (line : List Char) : Option Headers :=
  if line.head? = some ' ' ∨ line.head? = some '\t' then appendToLastHeader headers line
  else
    match strsep ':' line with
    | (_, none) => none
    | (skey, some svalue) => addHeader headers skey (svalue.dropWhile (· = ' '))

/-- `evhttp_is_connection_close` -/
def isConnectionClose (proxy : Bool) (headers : Headers) : Bool :=
  if proxy then
    (findHeader headers "Proxy-Connection".toList).all fun connection =>
      !strcaseEq connection "keep-alive".toList
  else
    (findHeader headers "Connection".toList).any fun connection =>
      strcaseEq connection "close".toList

/-- `evhttp_is_connection_keepalive` -/
def isConnectionKeepalive (headers : Headers) : Bool :=
  (findHeader headers "Connection".toList).any fun connection =>
    strcaseEq (connection.take 10) "keep-alive".toList

inductive CmdType where
  | get
  | post
  | head
  | put
  | delete
  | options
  | trace
  | connect
  | patch
  | unknown
  deriving DecidableEq

/-- `evhttp_method` -/
def CmdType.method : CmdType → Option (List Char)
  | .get => some "GET".toList
  | .post => some "POST".toList
  | .head => some "HEAD".toList
  | .put => some "PUT".toList
  | .delete => some "DELETE".toList
  | .options => some "OPTIONS".toList
  | .trace => some "TRACE".toList
  | .connect => some "CONNECT".toList
  | .patch => some "PATCH".toList
  | .unknown => none

/-- The comparisons in `evhttp_parse_request_line`. -/
def CmdType.ofMethod (method : List Char) : CmdType :=
  if method = "GET".toList then .get
  else if method = "POST".toList then .post
  else if method = "HEAD".toList then .head
  else if method = "PUT".toList then .put
  else if method = "DELETE".toList then .delete
  else if method = "OPTIONS".toList then .options
  else if method = "TRACE".toList then .trace
  else if method = "PATCH".toList then .patch
  else .unknown

/-- `evhttp_method_may_have_body` -/
def CmdType.mayHaveBody : CmdType → Bool
  | .post | .put | .patch => true
  | _ => false

/-- The `allowed_methods` of `evhttp_new_object`. -/
def CmdType.allowed : CmdType → Bool
  | .get | .post | .head | .put | .delete => true
  | _ => false

/-- The fields of an `evhttp_request`. It has no type before its first line has been read; `major`
and `minor` are of type `char`. -/
structure EvhttpRequest where
  type : Option CmdType
  uri : Option (List Char)
  proxy : Bool
  major : Int
  minor : Int
  inputHeaders : Headers
  outputHeaders : Headers
  inputBuffer : Block
  outputBuffer : Block
  chunked : Bool
  ntoread : Int
  bodySize : Nat
  deriving DecidableEq

/-- `evhttp_request_new` -/
def EvhttpRequest.new : EvhttpRequest := ⟨none, none, false, 0, 0, [], [], [], [], false, 0, 0⟩

/-- What the code takes from its surroundings. -/
structure Environment where
  /-- `evhttp_uri_parse_with_flags`: whether the URI is that of an HTTP host, if it can be parsed -/
  uriParse : List Char → Option Bool
  abi : Abi

/-- `EV_SIZE_MAX` -/
def Environment.sizeMax (env : Environment) : Nat := 2^(8 * env.abi.sizeofPointer) - 1

theorem Environment.sizeMax_ge (env : Environment) : 2^31 ≤ env.sizeMax := by
  unfold sizeMax
  cases env.abi <;> decide

/-- What `sscanf` with `"HTTP/%d.%d%c"` assigns to `major` and `minor`, unless it reads a character
too. -/
def scanHttpVersion (env : Environment) (version : List Char) : Option (Option Int × Option Int) :=
  match (version.dropPrefix? "HTTP/".toList).bind (scanInt env.abi.longBits) with
  | none => some (none, none)
  | some (major, '.'::rest) =>
      match scanInt env.abi.longBits rest with
      | none => some (some major, none)
      | some (minor, []) => some (some major, some minor)
      | some (_, _::_) => none
  | some (major, _) => some (some major, none)

/-- What the code makes of a line. Where it reads a variable that `sscanf` has not assigned, it has
no meaning. -/
inductive LineStatus where
  | wellFormed
  | malformed
  | undefined
  deriving DecidableEq

/-- `(char) n` -/
def toChar (n : Int) : Int := n.bmod (2^8)

/-- `evhttp_parse_http_version` -/
def parseHttpVersion (env : Environment) (version : List Char) (req : EvhttpRequest) :
    EvhttpRequest × LineStatus :=
  match scanHttpVersion env version with
  | none => (req, .malformed)
  | some (none, _) => (req, .undefined)
  | some (some major, minor) =>
      if major > 1 then (req, .malformed)
      else
        match minor with
        | none => (req, .undefined)
        | some minor => ({ req with major := toChar major, minor := toChar minor }, .wellFormed)

/-- `evhttp_parse_request_line`: the request as far as it has been filled. -/
def parseRequestLine (env : Environment) (req : EvhttpRequest) (line : List Char) :
    EvhttpRequest × LineStatus :=
  match strsep ' ' line with
  | (_, none) => (req, .malformed)
  | (method, some line) =>
      match strsep ' ' line with
      | (_, none) => (req, .malformed)
      | (uri, some line) =>
          match strsep ' ' line with
          | (_, some _) => (req, .malformed)
          | (version, none) =>
              let req := { req with type := some (CmdType.ofMethod method) }
              match parseHttpVersion env version req with
              | (req, .wellFormed) =>
                  let req := { req with uri := some uri }
                  match env.uriParse uri with
                  | none => (req, .malformed)
                  | some proxy => ({ req with proxy := proxy }, .wellFormed)
              | refused => refused

/-- `evhttp_get_body_length`: the length, or -1 where there is none. -/
def getBodyLength (headers : Headers) : Option Int :=
  match findHeader headers "Content-Length".toList, findHeader headers "Connection".toList with
  | none, none => some (-1)
  | none, some connection => if strcaseEq connection "Close".toList then some (-1) else none
  | some contentLength, _ =>
      let (ntoread, endp) := strtoll 10 contentLength
      if contentLength = [] ∨ endp ≠ [] ∨ ntoread < 0 then none else some ntoread

/-- `REQ_VERSION_ATLEAST(req, 1, 1)` -/
def EvhttpRequest.versionAtLeast (req : EvhttpRequest) : Bool :=
  decide (req.major > 1 ∨ (req.major = 1 ∧ req.minor ≥ 1))

inductive ResponseCode where
  | ok
  | badRequest
  | expectationFailed
  | notImplemented
  deriving DecidableEq

def ResponseCode.toNat : ResponseCode → Nat
  | .ok => 200
  | .badRequest => 400
  | .expectationFailed => 417
  | .notImplemented => 501

/-- `evhttp_response_phrase_internal` -/
def ResponseCode.phrase : ResponseCode → List Char
  | .ok => "OK".toList
  | .badRequest => "Bad Request".toList
  | .expectationFailed => "Expectation Failed".toList
  | .notImplemented => "Not Implemented".toList

structure Reply where
  major : Int
  minor : Int
  code : ResponseCode
  headers : Headers
  body : Block
  deriving DecidableEq

/-- `evhttp_response_needs_body` -/
def EvhttpRequest.responseNeedsBody (req : EvhttpRequest) : Bool := decide (req.type ≠ some .head)

/-- A header added with `evhttp_add_header` whose result is not looked at. -/
def put (headers : Headers) (key value : List Char) : Headers :=
  (addHeader headers key value).getD headers

/-- `evhttp_maybe_add_content_length_header` -/
def maybeAddContentLength (headers : Headers) (contentLength : Nat) : Headers :=
  if findHeader headers "Transfer-Encoding".toList = none ∧
      findHeader headers "Content-Length".toList = none then
    put headers "Content-Length".toList (Nat.toDigits 10 contentLength)
  else headers

/-- `evhttp_make_header_response`, but for the `Date`: the output headers. -/
def makeHeaderResponse (req : EvhttpRequest) : Headers :=
  let isKeepalive := isConnectionKeepalive req.inputHeaders
  let output := req.outputHeaders
  let output :=
    if req.major = 1 then
      let output :=
        if req.minor = 0 ∧ isKeepalive then put output "Connection".toList "keep-alive".toList
        else output
      if (req.minor ≥ 1 ∨ isKeepalive) ∧ req.responseNeedsBody then
        maybeAddContentLength output req.outputBuffer.length
      else output
    else output
  let output :=
    if req.responseNeedsBody ∧ findHeader output "Content-Type".toList = none then
      put output "Content-Type".toList "text/html; charset=ISO-8859-1".toList
    else output
  if isConnectionClose req.proxy req.inputHeaders then
    let output := removeHeader output "Connection".toList
    let output := if req.proxy then output else put output "Connection".toList "close".toList
    removeHeader output "Proxy-Connection".toList
  else output

/-- `need_close` of `evhttp_send_done`. -/
def EvhttpRequest.needClose (req : EvhttpRequest) : Bool :=
  (!req.versionAtLeast && !isConnectionKeepalive req.inputHeaders) ||
    isConnectionClose req.proxy req.inputHeaders ||
    isConnectionClose req.proxy req.outputHeaders

/-- The output headers of `evhttp_send_page`. -/
def pageHeaders : Headers :=
  put (put [] "Content-Type".toList "text/html".toList) "Connection".toList "close".toList

/-- The text of `evhttp_send_error`. -/
def errorPage (code : ResponseCode) : List Char :=
  "<HTML><HEAD>\n<TITLE>".toList ++ Nat.toDigits 10 code.toNat ++ [' '] ++ code.phrase ++
    "</TITLE>\n</HEAD><BODY>\n<H1>".toList ++ code.phrase ++ "</H1>\n</BODY></HTML>\n".toList

end KinectHelper.Libevent
