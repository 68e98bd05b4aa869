import CallPlan.Http.Host
import CallPlan.Text.Digit

/-!
# CallPlan.Http.Url

Addresses.

* `Url.parse` takes a text apart and writes each part in its normal form: a small scheme and host,
  no port where it is the usual one, no dot segments in the path, and escapes for what may not stand
  in a part.
* `Url.below` is the address that a client with a base asks for: an address with a scheme and a host
  as it is, of any other one the path and the query below the base.
-/

namespace CallPlan

/-- An address in its parts. -/
structure Url where
  scheme : String := ""
  userInfo : List Char := []
  host : List Char := []
  port : Option Int := none
  path : List Char := []
  query : Option (List Char) := none
  fragment : Option (List Char) := none
  deriving DecidableEq, Inhabited

/-- Why a text is no address. -/
inductive UrlFault where
  | tooLong
  /-- A control character, and its position. -/
  | control (c : Char) (position : Nat)
  | host (fault : Host.Fault)
  | port (text : String)
  /-- A path after a host that does not start with a slash. -/
  | rootless
  | twoSlashes
  | colon
  deriving DecidableEq, Inhabited

/-- What is said about a text that is no address. -/
def UrlFault.message : UrlFault → String
  | .tooLong => "URL too long"
  | .control c position =>
    "Invalid non-printable ASCII character in URL, " ++
      String.ofList (Text.quoted (String.singleton c)) ++ " at position " ++ toString position ++
      "."
  | .host fault => fault.message
  | .port text => "Invalid port: " ++ String.ofList (Text.quoted text)
  | .rootless => "For absolute URLs, path must be empty or begin with '/'"
  | .twoSlashes => "Relative URLs cannot have a path starting with '//'"
  | .colon => "Relative URLs cannot have a path starting with ':'"

namespace Url

/-! ## What may stand in a part -/

/-- The printable ASCII characters other than some. -/
def isSafeBut (others : String) (c : Char) : Bool :=
  '!' ≤ c && c ≤ '~' && !others.contains c

/-- Whether a character may stand in a fragment. -/
def isFragmentSafe : Char → Bool := isSafeBut "\"<>\x60"

/-- Whether a character may stand in a query. -/
def isQuerySafe : Char → Bool := isSafeBut "\"#<>"

/-- Whether a character may stand in a path. -/
def isPathSafe : Char → Bool := isSafeBut "\"#<>?\x60\x7b\x7d"

/-- Whether a character may stand in the name and password of a user. -/
def isUserInfoSafe : Char → Bool := isSafeBut "\"#<>?\x60\x7b\x7d/;=@[\\]^|"

/-! ## Taking a text apart -/

/-- Whether a character may follow the first one of a scheme. -/
def isSchemeChar (c : Char) : Bool := c.isAlphanum || c = '+' || c = '.' || c = '-'

/-- The scheme before the first colon, and the rest. -/
def splitScheme (cs : List Char) : List Char × List Char :=
  let scheme := cs.takeWhile isSchemeChar
  match cs.drop scheme.length with
  | ':' :: rest => if scheme.head?.all Char.isAlpha then (scheme, rest) else ([], cs)
  | _ => ([], cs)

/-- What stands between two slashes and the path, and the rest. -/
def splitAuthority : List Char → List Char × List Char
  | '/' :: '/' :: rest => rest.span fun c => c ≠ '/' && c ≠ '?' && c ≠ '#'
  | cs => ([], cs)

/-- What stands before a mark, and what follows it if it is there. -/
def splitAt (mark : Char) (cs : List Char) : List Char × Option (List Char) :=
  match cs.span (· ≠ mark) with
  | (before, []) => (before, none)
  | (before, _ :: rest) => (before, some rest)

/-- The user before the last at sign, and the rest. -/
def splitUser (cs : List Char) : List Char × List Char :=
  match splitAt '@' cs.reverse with
  | (rest, some user) => (user.reverse, rest.reverse)
  | (_, none) => ([], cs)

/-- The host, which ends at the first colon outside brackets, and the port after the colon. -/
def splitPort (cs : List Char) : List Char × List Char :=
  let bracketed := ((splitAt ']' cs.reverse).2.getD []).reverse ++ [']']
  let host := if cs.head? = some '[' && cs.contains ']' then bracketed else cs.takeWhile (· ≠ ':')
  match cs.drop host.length with
  | ':' :: port => (host, port)
  | port => (host, port)

/-! ## Normal forms -/

/-- The port that is usual for a scheme. -/
def usualPort? (scheme : String) : Option Int :=
  List.lookup scheme [("ftp", 21), ("http", 80), ("https", 443), ("ws", 80), ("wss", 443)]

/-- The number of a port; there is none where it is the usual one of the scheme. -/
def normalPort (scheme : String) (cs : List Char) : Except UrlFault (Option Int) :=
  if cs.isEmpty then .ok none
  else
    match Text.wholeNumber? cs with
    | some port => .ok (if usualPort? scheme = some port then none else some port)
    | none => .error (.port (String.ofList cs))

/-- The segments of a path without dot segments; two dots take the segment before them away. -/
def withoutDots (found : List (List Char)) : List (List Char) → List (List Char)
  | [] => found.reverse
  | segment :: rest =>
    if segment = ['.'] then withoutDots found rest
    else if segment = ['.', '.'] then
      withoutDots (if found = [[]] then found else found.drop 1) rest
    else withoutDots (segment :: found) rest

/-- A path without dot segments. -/
def normalPath (cs : List Char) : List Char :=
  let segments := cs.splitOnP (· = '/')
  if segments.contains ['.'] || segments.contains ['.', '.'] then
    ['/'].intercalate (withoutDots [] segments)
  else cs

/-- A path, if it may follow what stands before it. -/
def checkedPath (hasScheme hasHost : Bool) (cs : List Char) : Except UrlFault (List Char) :=
  if hasHost then
    if cs.isEmpty || cs.head? = some '/' then .ok (normalPath cs) else .error .rootless
  else if hasScheme then .ok (normalPath cs)
  else if ['/', '/'].isPrefixOf cs then .error .twoSlashes
  else if cs.head? = some ':' then .error .colon
  else .ok cs

/-- How many characters an address may have. -/
def lengthLimit : Nat := 65536

/-- The address that a text names. -/
def parse (text : String) : Except UrlFault Url := do
  let cs := Text.chars text.toList
  if lengthLimit < cs.length then throw .tooLong
  let isControl (c : Char) : Bool := c.toNat < 0x20 || c.toNat = 0x7f
  match cs.findIdx? isControl with
  | some position => throw (.control (cs.getD position ' ') position)
  | none => pure ()
  let (scheme, rest) := splitScheme cs
  let (authority, rest) := splitAuthority rest
  let (rest, fragment) := splitAt '#' rest
  let (path, query) := splitAt '?' rest
  let (user, rest) := splitUser authority
  let (host, port) := splitPort rest
  let userInfo := Percent.quote isUserInfoSafe user
  let host ← (Host.normal host).mapError UrlFault.host
  let port ← normalPort (String.ofList scheme) port
  let hasHost := !userInfo.isEmpty || !host.isEmpty || port.isSome
  let path ← checkedPath (!scheme.isEmpty) hasHost path
  return {
    scheme := String.ofList (scheme.map Char.toLower)
    userInfo, host, port
    path := Percent.quote isPathSafe path
    query := query.map (Percent.quote isQuerySafe)
    fragment := fragment.map (Percent.quote isFragmentSafe) }

/-! ## Use -/

/-- The host and the port, with the user before them. -/
def authority (url : Url) : List Char :=
  (if url.userInfo.isEmpty then [] else url.userInfo ++ ['@']) ++
    (if url.host.contains ':' then '[' :: url.host ++ [']'] else url.host) ++
    match url.port with
    | some port => ':' :: (toString port).toList
    | none => []

/-- The written form of an address. -/
def text (url : Url) : String :=
  let authority := url.authority
  (if url.scheme = "" then "" else url.scheme ++ ":") ++
    (if authority.isEmpty then "" else "//" ++ String.ofList authority) ++
    String.ofList url.path ++
    (match url.query with
      | some query => "?" ++ String.ofList query
      | none => "") ++
    match url.fragment with
    | some fragment => "#" ++ String.ofList fragment
    | none => ""

/-- Whether an address has a scheme and a host. -/
def isAbsolute (url : Url) : Bool := url.scheme ≠ "" && !url.host.isEmpty

/-- The address that a client with a base asks for. -/
def below (base url : Url) : Url :=
  if url.isAbsolute then url
  else
    let path := '/' :: url.path.dropWhile (· = '/')
    { base with
      path := if base.host.isEmpty then path else normalPath path
      query := url.query }

end Url

end CallPlan
