import CallPlan.Http.HostName
import CallPlan.Http.Percent
import CallPlan.Json.Literal
import CallPlan.Text.LowerCase

/-!
# CallPlan.Http.Host

The host of an address.

* A host that looks like four numbers must be an IPv4 address, one in brackets an IPv6 address.
* Any other host is a name in small letters. In a name in ASCII, what may not stand there is
  escaped; a name with other letters is spelled in ASCII.
-/

namespace CallPlan

namespace Host

/-- Why a text is no host. -/
inductive Fault where
  | ipv4 (host : String)
  | ipv6 (host : String)
  | name (host : String)
  deriving DecidableEq, Inhabited

/-- What is said about a text that is no host. -/
def Fault.message : Fault → String
  | .ipv4 host => "Invalid IPv4 address: " ++ String.ofList (Text.quoted host)
  | .ipv6 host => "Invalid IPv6 address: " ++ String.ofList (Text.quoted host)
  | .name host => "Invalid IDNA hostname: " ++ String.ofList (Text.quoted host)

/-- The ASCII decimal digits. -/
def isDigit (c : Char) : Bool := '0' ≤ c && c ≤ '9'

/-! ## IPv4 -/

/-- Whether a text looks like four numbers. -/
def looksLikeQuad (cs : List Char) : Bool :=
  let parts := cs.splitOnP (· = '.')
  parts.length = 4 && parts.all fun part => !part.isEmpty && part.all isDigit

/-- Whether a text is one of the four numbers of an IPv4 address. -/
def isOctet (cs : List Char) : Bool :=
  !cs.isEmpty && cs.length ≤ 3 && cs.all isDigit && (cs.length = 1 || cs.head? ≠ some '0') &&
    Nat.ofDigitChars 10 cs 0 ≤ 255

/-- Whether a text is an IPv4 address. -/
def isIpv4 (cs : List Char) : Bool :=
  let parts := cs.splitOnP (· = '.')
  parts.length = 4 && parts.all isOctet

/-! ## IPv6 -/

/-- Whether a text is one of the numbers of an IPv6 address. -/
def isHextet (cs : List Char) : Bool :=
  !cs.isEmpty && cs.length ≤ 4 && cs.all fun c => (Percent.hexValue? c).isSome

/-- Whether the parts between colons form an IPv6 address: eight numbers, or fewer with one gap,
which two colons mark. -/
def areHextets (parts : List (List Char)) : Bool :=
  let inner := parts.dropLast.drop 1
  match inner.findIdx? (·.isEmpty) with
  | none => parts.length = 8 && parts.all isHextet
  | some gap =>
    let high := parts.take (gap + 1)
    let low := parts.drop (gap + 2)
    let numbers (side : List (List Char)) (outer : Option (List Char)) : Option Nat :=
      if outer = some [] then (if side.length = 1 then some 0 else none)
      else if side.all isHextet then some side.length
      else none
    match numbers high high.head?, numbers low low.getLast? with
    | some h, some l => h + l < 8
    | _, _ => false

/-- Whether a text is an IPv6 address. Its end may be an IPv4 address, and a zone may follow. -/
def isIpv6 (cs : List Char) : Bool :=
  let address := cs.takeWhile (· ≠ '%')
  let zone := cs.drop address.length
  let parts := address.splitOnP (· = ':')
  let last := parts.getLast?.getD []
  let isQuad := last.contains '.'
  let parts := if isQuad then parts.dropLast ++ [['0'], ['0']] else parts
  !cs.contains '/' && (zone.isEmpty || (zone.length > 1 && !(zone.drop 1).contains '%')) &&
    (!isQuad || isIpv4 last) && (if isQuad then 4 else 3) ≤ parts.length && parts.length ≤ 9 &&
    areHextets parts

/-! ## Hosts -/

/-- The characters that may stand in a host name besides the unreserved ones. -/
def isSafe (c : Char) : Bool := "!$&'()*+,;=\"\x60\x7b\x7d%|\\".contains c

/-- The written form of a host; an IPv6 address is without its brackets. -/
def normal (cs : List Char) : Except Fault (List Char) :=
  if looksLikeQuad cs then
    if isIpv4 cs then .ok cs else .error (.ipv4 (String.ofList cs))
  else if cs.head? = some '[' && 2 ≤ cs.length && cs.getLast? = some ']' then
    let address := cs.drop 1 |>.dropLast
    if isIpv6 address then .ok address else .error (.ipv6 (String.ofList cs))
  else if cs.all fun c => c.toNat < 0x80 then
    .ok (Percent.quote isSafe (cs.map Char.toLower))
  else
    match writtenName? (Text.lower (String.ofList cs)).toList with
    | some name => .ok name
    | none => .error (.name (String.ofList cs))

end Host

end CallPlan
