import CallPlan.Text.Direction
import CallPlan.Text.Joining
import CallPlan.Text.Letter
import CallPlan.Text.Punycode
import CallPlan.Text.Script

/-!
# CallPlan.Http.HostName

Internationalised host names: labels between dots of any script. A label in ASCII stands for itself;
any other one is spelled in ASCII behind a mark.
-/

namespace CallPlan

namespace Host

/-- Whether a character separates two labels. -/
def isDot (c : Char) : Bool := c = '.' || c = '\u3002' || c = '\uff0e' || c = '\uff61'

/-- Whether a character is one of the Arabic digits. -/
def isArabicDigit (c : Char) : Bool := '\u0660' ≤ c && c ≤ '\u0669'

/-- Whether a character is one of the Arabic digits of the east. -/
def isEasternDigit (c : Char) : Bool := '\u06f0' ≤ c && c ≤ '\u06f9'

/-- Whether a character may stand between two parts of a label, the first of which is in reverse.
Some marks that are no letters may stand beside letters of their script; the digits of one kind may
not stand beside those of the other. -/
def isAllowed (before : List Char) (c : Char) (after : List Char) : Bool :=
  let others := before ++ after
  if c = '\u00b7' then before.head? = some 'l' && after.head? = some 'l'
  else if c = '\u0375' then after.head?.any Text.isGreek
  else if c = '\u05f3' || c = '\u05f4' then before.head?.any Text.isHebrew
  else if c = '\u30fb' then others.any fun d => d ≠ c && Text.isJapanese d
  else if isArabicDigit c then !others.any isEasternDigit
  else if isEasternDigit c then !others.any isArabicDigit
  else if c = '\u200c' then Text.mayPart before after
  else if c = '\u200d' then Text.mayJoin before
  else Text.isSmallLetter c

/-- Whether all characters of the rest of a label may stand there, after a part in reverse. -/
def areAllowed (before : List Char) : List Char → Bool
  | [] => true
  | c :: rest => isAllowed before c rest && areAllowed (c :: before) rest

/-- Whether a text is a label as it is read: of letters in their normal form that run together, the
first of which is no mark, and with hyphens only where they cannot be taken for a mark of
spelling. -/
def isLabel (cs : List Char) : Bool :=
  let ns := cs.map Char.toNat
  !cs.isEmpty && cs.head? ≠ some '-' && cs.getLast? ≠ some '-' &&
    (cs.drop 2).take 2 ≠ ['-', '-'] && !cs.head?.any Text.isMark && areAllowed [] cs &&
    Text.normalForm ns = ns && Text.runsTogether cs

/-- The mark of a label that is spelled in ASCII. -/
def asciiMark : List Char := ['x', 'n', '-', '-']

/-- Whether a text in ASCII is a label: as it is read, or the spelling of one. -/
def isWrittenLabel (cs : List Char) : Bool :=
  if asciiMark.isPrefixOf cs then
    let spelling := cs.drop asciiMark.length
    spelling.getLast?.any (· ≠ '-') &&
      (Text.Punycode.decode? spelling).any fun ns => isLabel (ns.map Char.ofNat)
  else isLabel cs

/-- The written form of a label. -/
def writtenLabel? (cs : List Char) : Option (List Char) :=
  if cs.all (·.toNat < 0x80) then
    if isWrittenLabel cs && cs.length ≤ 63 then some cs else none
  else
    let written := asciiMark ++ Text.Punycode.encode cs
    if isLabel cs && written.length ≤ 63 then some written else none

/-- The written form of a host name that is not all ASCII. A dot may end it. -/
def writtenName? (cs : List Char) : Option (List Char) := do
  let labels := cs.splitOnP isDot
  let rooted := labels.getLast? = some []
  let written ← (if rooted then labels.dropLast else labels).mapM writtenLabel?
  let name := ['.'].intercalate (if rooted then written ++ [[]] else written)
  guard (name.length ≤ if rooted then 254 else 253)
  return name

end Host

end CallPlan
