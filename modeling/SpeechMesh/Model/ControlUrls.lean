import SpeechMesh.Model.CliCommands

/-! # The address of the control endpoint

How the gateway tells its endpoints apart by the path of a request, and how a WebSocket URL is taken
apart to send one: the authority goes up to the first slash, question mark or number sign, the path up
to the first of the latter two. The URI parser of the client is a parameter that divides a text so.
-/

namespace SpeechMesh.Model

/-! ## The gateway -/

inductive Endpoint where
  | agent
  | control
  | client
deriving DecidableEq, Repr

def normalizePath (path : List Char) : List Char :=
  if path = [] ∨ path = ['/'] then "/ws".toList else path

/-- The handler that `handle_connection` hands a connection to. -/
def endpointOf (path : List Char) : Endpoint :=
  let path := normalizePath path
  if path = "/agent".toList then .agent
  else if path = "/control".toList then .control
  else .client

/-! ## WebSocket URLs -/

inductive Scheme where
  | ws
  | wss
deriving DecidableEq, Repr

def Scheme.text : Scheme → List Char
  | .ws => "ws://".toList
  | .wss => "wss://".toList

structure WebSocketUrl where
  scheme : Scheme
  authority : List Char
  path : List Char
  /-- All that is behind the path, with its question mark or number sign. -/
  query : List Char
deriving DecidableEq, Repr

def WebSocketUrl.text (url : WebSocketUrl) : List Char :=
  url.scheme.text ++ (url.authority ++ (url.path ++ url.query))

def endsAuthority (c : Char) : Bool := c == '/' || c == '?' || c == '#'

def endsPath (c : Char) : Bool := c == '?' || c == '#'

/-- The parts are where the marks divide the text. -/
structure WellDivided (url : WebSocketUrl) : Prop where
  named : url.authority ≠ []
  authority : ∀ c ∈ url.authority, endsAuthority c = false
  rooted : url.path = [] ∨ ∃ rest, url.path = '/' :: rest
  path : ∀ c ∈ url.path, endsPath c = false
  marked : url.query = [] ∨ ∃ mark rest, url.query = mark :: rest ∧ endsPath mark = true

/-- `Uri` of the `http` crate: the parts that it finds in a text, and `Uri::path`, which the client
requests. -/
structure UriParser where
  parse : String → Option WebSocketUrl
  path : WebSocketUrl → List Char

/-- A text is read as the parts that it is made of, and the path of none is a slash. Which characters
a part may have is left to the crate, except that a path of letters, digits and slashes can stand
wherever another one does. -/
structure UriParser.Lawful (uri : UriParser) : Prop where
  divided : ∀ {text url}, uri.parse text = some url → WellDivided url ∧ text.toList = url.text
  moved : ∀ {text url path}, uri.parse text = some url →
    (∀ c ∈ path, c.isAlphanum = true ∨ c = '/') → path.head? = some '/' →
      uri.parse (String.ofList { url with path := path }.text) = some { url with path := path }
  path : ∀ url, uri.path url = if url.path = [] then ['/'] else url.path

/-- The endpoint that a connection to the URL reaches. -/
def UriParser.endpoint (uri : UriParser) (url : WebSocketUrl) : Endpoint := endpointOf (uri.path url)

/-- The parts behind the scheme. -/
def parseAuthority (scheme : Scheme) (text : List Char) : Option WebSocketUrl :=
  let authority := text.takeWhile fun c => !endsAuthority c
  let rest := text.dropWhile fun c => !endsAuthority c
  if authority = [] then none
  else some ⟨scheme, authority, rest.takeWhile fun c => !endsPath c,
    rest.dropWhile fun c => !endsPath c⟩

/-- The division at the marks, for the schemes of a WebSocket. -/
def parseUrl (text : String) : Option WebSocketUrl :=
  match text.toList with
  | 'w' :: 's' :: ':' :: '/' :: '/' :: rest => parseAuthority .ws rest
  | 'w' :: 's' :: 's' :: ':' :: '/' :: '/' :: rest => parseAuthority .wss rest
  | _ => none

/-- The parser that takes every character. -/
def anyCharacter : UriParser where
  parse := parseUrl
  path url := if url.path = [] then ['/'] else url.path

end SpeechMesh.Model
