import TeacherRegistry.Text.Blank
import TeacherRegistry.Url.Basic
import TeacherRegistry.Url.DomainName

/-!
Reading addresses. A text is cleaned of blanks at its ends and of line breaks and tabs anywhere,
then cut at its delimiters: the scheme ends at the first colon, the fragment starts at the first
number sign after it and the query at the first question mark before that; what is left is authority
and path. In the path of a file a line break or tab still tells where a drive letter ends.
-/

namespace TeacherRegistry.Url

open TeacherRegistry.Text (trimBoth)

/-- A text without blanks and controls at its ends. -/
def trimmed (s : List Char) : List Char :=
  trimBoth (fun c => c.toNat ≤ 0x20) s

/-- Whether a character is a tab or breaks a line. -/
def isBreak (c : Char) : Bool :=
  ['\t', '\n', '\r'].contains c

/-- A text without tabs and line breaks. -/
def withoutBreaks (cs : List Char) : List Char :=
  cs.filter (!isBreak ·)

/-- The characters of a text that count: without blanks and controls at its ends, and without tabs
and line breaks. -/
def significant (s : List Char) : List Char :=
  withoutBreaks (trimmed s)

/-- What follows the first `n` characters of a text, tabs and line breaks among them apart. -/
def afterSignificant : Nat → List Char → List Char
  | 0, cs => cs
  | _, [] => []
  | n + 1, c :: rest => if isBreak c then afterSignificant (n + 1) rest else afterSignificant n rest

/-- Cuts a text before the first character that satisfies `p`. -/
def cutBefore (p : Char → Bool) (cs : List Char) : List Char × List Char :=
  (cs.takeWhile (!p ·), cs.dropWhile (!p ·))

/-- Cuts a text at the first `mark`, which belongs to neither side. -/
def cutAt (mark : Char) (cs : List Char) : List Char × Option (List Char) :=
  match cs.dropWhile (· ≠ mark) with
  | [] => (cs, none)
  | _ :: rest => (cs.takeWhile (· ≠ mark), some rest)

/-- Cuts a text at the last `mark`. -/
def cutAtLast (mark : Char) (cs : List Char) : Option (List Char) × List Char :=
  match cutAt mark cs.reverse with
  | (_, none) => (none, cs)
  | (after, some before) => (some before.reverse, after.reverse)

/-- Whether a character may follow the first letter of a scheme. -/
def isSchemeChar (c : Char) : Bool :=
  c.isAlphanum || c == '+' || c == '-' || c == '.'

/-- The scheme, in lower case, with what follows its colon. -/
def cutScheme? (cs : List Char) : Option (List Char × List Char) :=
  match cs, cutAt ':' cs with
  | first :: _, (scheme, some rest) =>
    if first.isAlpha && scheme.all isSchemeChar then some (scheme.map Char.toLower, rest) else none
  | _, _ => none

/-- Whether a character separates segments. -/
def isSlash (special : Bool) (c : Char) : Bool :=
  c == '/' || (special && c == '\\')

/-- Characters that the host of a scheme without special meaning may not hold. -/
def isForbiddenHostChar (c : Char) : Bool :=
  "\x00\t\n\r #/:<>?@[\\]^|".toList.contains c

/-- Reads the address between brackets. -/
def bracketedHost (text : List Char) : Except Error Host :=
  if text.getLast? = some ']' then
    match ipv6? (text.drop 1).dropLast with
    | some pieces => .ok (.ipv6 pieces)
    | none => .error .invalidIpv6
  else .error .invalidIpv6

/-- Reads the host of a special scheme. -/
def specialHost (text : List Char) : Except Error Host :=
  if text.head? = some '[' then bracketedHost text
  else
    match domainName? (percentDecode text) with
    | none => .error .invalidDomain
    | some [] => .error .emptyHost
    | some domain =>
      if endsInNumber domain then
        match ipv4? domain with
        | some address => .ok (.ipv4 address)
        | none => .error .invalidIpv4
      else .ok (.name domain)

/-- Reads the host of any other scheme. -/
def plainHost (text : List Char) : Except Error Host :=
  if text.head? = some '[' then bracketedHost text
  else if text.any isForbiddenHostChar then .error .invalidHostCharacter
  else .ok (.name (percentEncode isControl text))

/-- Cuts host and port at the first colon outside brackets. -/
def cutPort (inside : Bool) : List Char → List Char × Option (List Char)
  | [] => ([], none)
  | c :: rest =>
    if c = ':' ∧ !inside then ([], some rest)
    else
      let (host, port) := cutPort ((inside || c = '[') && c ≠ ']') rest
      (c :: host, port)

/-- Reads a port; none is given, or the one the scheme uses anyway, is `none`. -/
def readPort (scheme digits : List Char) : Except Error (Option Nat) :=
  if digits.all Char.isDigit then
    let port := digits.foldl (fun n c => n * 10 + (c.toNat - '0'.toNat)) 0
    if 65535 < port then .error .invalidPort
    else .ok (if digits = [] ∨ defaultPort? scheme = some port then none else some port)
  else .error .invalidPort

/-- Drops the last segment, except a drive letter that is the whole path of a file. -/
def dropSegment (scheme : List Char) (segments : List (List Char)) : List (List Char) :=
  match segments with
  | [[letter, ':']] => if scheme = fileScheme ∧ letter.isAlpha then segments else []
  | _ => segments.dropLast

/-- A dot, as itself or encoded. -/
def dotForms : List (List Char) := [['.'], ['%', '2', 'e'], ['%', '2', 'E']]

def isSingleDot (segment : List Char) : Bool :=
  dotForms.contains segment

def isDoubleDot (segment : List Char) : Bool :=
  dotForms.any fun a => dotForms.any fun b => a ++ b == segment

/-- Whether a segment is a letter with a colon or bar. -/
def isDriveLetter : List Char → Bool
  | [letter, mark] => letter.isAlpha && (mark == ':' || mark == '|')
  | _ => false

/-- The drive at the front of a segment as it is written, with what follows it, if a letter and a
colon are cut off from the rest by a tab or line break. -/
def brokenDrive? (written : List Char) : Option (List Char × List Char) :=
  match withoutBreaks written, (afterSignificant 2 written).head? with
  | letter :: ':' :: c :: rest, some next =>
    if letter.isAlpha && isBreak next then some ([letter, ':'], c :: rest) else none
  | _, _ => none

/-- Appends one segment as it is written, or follows the dots it consists of. After the last segment
no slash follows, so dots at the end leave an empty one. -/
def pushSegment (scheme : List Char) (segments : List (List Char)) (written : List Char)
    (last : Bool) : List (List Char) :=
  let segment := withoutBreaks written
  let ending := if last then [[]] else []
  match if scheme = fileScheme ∧ segments = [] then brokenDrive? written else none with
  | some (drive, rest) => [drive, percentEncode pathEscapes rest]
  | none =>
    if isDoubleDot segment then dropSegment scheme segments ++ ending
    else if isSingleDot segment then segments ++ ending
    else if scheme = fileScheme ∧ segments = [] ∧ isDriveLetter segment then
      [segment.take 1 ++ [':']]
    else segments ++ [percentEncode pathEscapes segment]

/-- Appends segments in their order. -/
def pushSegments (scheme : List Char) : List (List Char) → List (List Char) → List (List Char)
  | segments, [] => segments
  | segments, [segment] => pushSegment scheme segments segment true
  | segments, segment :: rest =>
    pushSegments scheme (pushSegment scheme segments segment false) rest

/-- Cuts a text at every slash. -/
def cutSegments (special : Bool) (cs : List Char) : List (List Char) :=
  cs.splitOnP (isSlash special)

/-- Reads a path whose first slash has been passed, below the segments that are already there. -/
def readSegments (scheme : List Char) (above : List (List Char)) (cs : List Char) : Path :=
  let segments := pushSegments scheme above (cutSegments (isSpecial scheme) cs)
  if scheme = fileScheme then
    match segments.dropWhile (· == []) with
    | [] => .rooted [[]]
    | segments => .rooted segments
  else .rooted segments

/-- Passes the slash that a path starts with. -/
def passSlash (special : Bool) (cs : List Char) : List Char :=
  match cs with
  | c :: rest => if isSlash special c then rest else cs
  | [] => []

/-- Reads user name and password. -/
def readUserInfo (text : List Char) : List Char × List Char :=
  let (name, password) := cutAt ':' text
  (percentEncode userInfoEscapes name, percentEncode userInfoEscapes (password.getD []))

/-- Query and fragment of an address that has no path to read. -/
structure Suffix where
  query : Option (List Char)
  fragment : Option (List Char)

/-- Cuts query and fragment off and encodes them. -/
def cutSuffix (scheme : List Char) (cs : List Char) : List Char × Suffix :=
  let (front, fragment) := cutAt '#' cs
  let (front, query) := cutAt '?' front
  let escapes := if isSpecial scheme then specialQueryEscapes else queryEscapes
  (front, ⟨query.map (percentEncode escapes), fragment.map (percentEncode fragmentEscapes)⟩)

/-- Reads what follows two slashes: authority, then path. -/
def readAuthority (scheme : List Char) (suffix : Suffix) (cs : List Char) : Except Error Url := do
  let special := isSpecial scheme
  let (authority, path) := cutBefore (isSlash special) cs
  let (userInfo, address) := cutAtLast '@' authority
  let (username, password) := readUserInfo (userInfo.getD [])
  let followed := path ≠ [] ∨ suffix.query.isSome ∨ suffix.fragment.isSome
  if userInfo = some [] ∧ address = [] ∧ followed then throw .emptyHost
  let (hostText, portText) := cutPort false address
  if special ∧ hostText = [] then throw .emptyHost
  let host ← if special then specialHost hostText else plainHost hostText
  if hostText = [] ∧ (portText.isSome ∨ username ≠ [] ∨ password ≠ []) then throw .emptyHost
  let (digits, beyond) := if special then (portText.getD [], [])
    else cutBefore (· == '\\') (portText.getD [])
  let port ← readPort scheme digits
  let below := beyond ++ path
  let path := if special ∨ below ≠ [] then readSegments scheme [] (passSlash special below)
    else .rooted []
  return { scheme, username, password, host := some host, port, path,
           query := suffix.query, fragment := suffix.fragment }

/-- The host of a file address, with the path below it, given what follows the colon. -/
def readFileHost (cs : List Char) : Except Error (Host × List Char) :=
  match cs with
  | a :: b :: rest =>
    if isSlash true a && isSlash true b then
      let (hostText, path) := cutBefore (isSlash true) rest
      if isDriveLetter hostText then .ok (.name [], rest)
      else if hostText = [] then .ok (.name [], passSlash true path)
      else (specialHost hostText).map fun host =>
        (if host = .name "localhost".toList then .name [] else host, passSlash true path)
    else .ok (.name [], passSlash true cs)
  | _ => .ok (.name [], passSlash true cs)

/-- Reads what follows the colon of a file address, tabs and line breaks included. A drive that is a
segment by itself leaves no host. -/
def readFile (suffix : Suffix) (written : List Char) : Except Error Url := do
  let cs := withoutBreaks written
  let (host, below) ← readFileHost cs
  let path := readSegments fileScheme [] (afterSignificant (cs.length - below.length) written)
  let driven := match path with
    | .rooted (first :: _) => isDriveLetter first && path == readSegments fileScheme [] below
    | _ => false
  return { scheme := fileScheme, username := [], password := [],
           host := some (if driven then .name [] else host), port := none, path,
           query := suffix.query, fragment := suffix.fragment }

/-- Reads what follows the colon of a scheme without special meaning. -/
def readPlain (scheme : List Char) (suffix : Suffix) (cs : List Char) : Except Error Url :=
  let url (path : Path) : Url :=
    { scheme, username := [], password := [], host := none, port := none, path,
      query := suffix.query, fragment := suffix.fragment }
  match cs with
  | '/' :: '/' :: rest => readAuthority scheme suffix rest
  | '/' :: rest => .ok (url (readSegments scheme [] rest))
  | cs => .ok (url (.rootless (percentEncode isControl cs)))

/-- Reads what follows the colon of a scheme, given the whole text as it is written. -/
def readAfterScheme (scheme rest written : List Char) : Except Error Url :=
  let (front, suffix) := cutSuffix scheme rest
  if scheme = fileScheme then
    readFile suffix (cutBefore (fun c => c == '?' || c == '#')
      (afterSignificant (scheme.length + 1) written)).1
  else if isSpecial scheme then readAuthority scheme suffix (front.dropWhile (isSlash true))
  else readPlain scheme suffix front

/-- Reads an address. -/
def parse (s : String) : Except Error Url :=
  match cutScheme? (significant s.toList) with
  | none => .error .relativeWithoutBase
  | some (scheme, rest) => readAfterScheme scheme rest (trimmed s.toList)

/-- Reads an address that may leave out parts of `base`, the network address it was found at. -/
def join (base : Url) (reference : String) : Except Error Url :=
  let cs := significant reference.toList
  match cutScheme? cs with
  | some (scheme, rest) =>
    if scheme = base.scheme ∧ (rest.takeWhile (isSlash true)).length < 2 then relative rest
    else readAfterScheme scheme rest (trimmed reference.toList)
  | none => relative cs
where
  relative (cs : List Char) : Except Error Url :=
    let (front, suffix) := cutSuffix base.scheme cs
    let above := match base.path with
      | .rooted segments => segments.dropLast
      | .rootless _ => []
    let url (path : Path) (query : Option (List Char)) : Url :=
      { base with path, query, fragment := suffix.fragment }
    match front with
    | [] => .ok (url base.path (suffix.query.or base.query))
    | '/' :: '/' :: rest => readAuthority base.scheme suffix rest
    | c :: rest =>
      if isSlash true c then
        if rest.head?.any (isSlash true) then
          readAuthority base.scheme suffix (rest.dropWhile (isSlash true))
        else .ok (url (readSegments base.scheme [] rest) suffix.query)
      else .ok (url (readSegments base.scheme above front) suffix.query)

end TeacherRegistry.Url
