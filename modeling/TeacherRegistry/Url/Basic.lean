import TeacherRegistry.Url.Ipv4
import TeacherRegistry.Url.Ipv6

/-!
Addresses of resources, and their texts. The parts of an address are held as they are written, with
percent signs in place; the text of an address puts them together with the delimiters between them.
-/

namespace TeacherRegistry

namespace Url

inductive Host where
  /-- A domain name, or the host text of a scheme that gives it no meaning. -/
  | name (text : List Char)
  | ipv4 (address : Nat)
  | ipv6 (pieces : List Nat)
deriving Repr, DecidableEq

inductive Path where
  /-- Segments, each after a slash. -/
  | rooted (segments : List (List Char))
  /-- A text without a leading slash, below which nothing can be addressed. -/
  | rootless (text : List Char)
deriving Repr, DecidableEq

end Url

/-- The address of a resource. -/
structure Url where
  scheme : List Char
  username : List Char
  password : List Char
  host : Option Url.Host
  port : Option Nat
  path : Url.Path
  query : Option (List Char)
  fragment : Option (List Char)
deriving Repr, DecidableEq

namespace Url

/-- Why a text is no address. -/
inductive Error where
  | relativeWithoutBase
  | emptyHost
  | invalidPort
  | invalidIpv4
  | invalidIpv6
  | invalidDomain
  | invalidHostCharacter
deriving Repr, DecidableEq

def Error.message : Error → String
  | .relativeWithoutBase => "relative URL without a base"
  | .emptyHost => "empty host"
  | .invalidPort => "invalid port number"
  | .invalidIpv4 => "invalid IPv4 address"
  | .invalidIpv6 => "invalid IPv6 address"
  | .invalidDomain => "invalid international domain name"
  | .invalidHostCharacter => "invalid domain character"

/-- The ports that the network schemes use when none is given. -/
def defaultPorts : List (List Char × Nat) :=
  [("http".toList, 80), ("https".toList, 443), ("ws".toList, 80), ("wss".toList, 443),
   ("ftp".toList, 21)]

def defaultPort? (scheme : List Char) : Option Nat :=
  defaultPorts.lookup scheme

/-- The scheme of files, the one scheme of the special ones that has no port. -/
def fileScheme : List Char := "file".toList

/-- Whether a scheme always has a host and a rooted path, and takes a backslash for a slash. -/
def isSpecial (scheme : List Char) : Bool :=
  (defaultPort? scheme).isSome || scheme == fileScheme

/-- Whether requests can be sent to the address. -/
def isHttp (url : Url) : Bool :=
  url.scheme == "http".toList || url.scheme == "https".toList

def Host.text : Host → List Char
  | .name text => text
  | .ipv4 address => ipv4Text address
  | .ipv6 pieces => '[' :: ipv6Text pieces ++ [']']

/-- The segments of a path, each after a slash. -/
def segmentsText (segments : List (List Char)) : List Char :=
  segments.flatMap ('/' :: ·)

/-- The text of a path. Without a host, two leading slashes would read as the start of one. -/
def Path.text (hasHost : Bool) : Path → List Char
  | .rootless text => text
  | .rooted segments =>
    match segments with
    | [] :: _ :: _ => (if hasHost then [] else ['/', '.']) ++ segmentsText segments
    | _ => segmentsText segments

/-- User name and password, before the host. -/
def userInfoText (url : Url) : List Char :=
  if url.username = [] ∧ url.password = [] then []
  else url.username ++ (if url.password = [] then [] else ':' :: url.password) ++ ['@']

/-- Host and port, after two slashes. -/
def authorityText (url : Url) : List Char :=
  match url.host with
  | none => []
  | some host =>
    '/' :: '/' :: url.userInfoText ++ host.text
      ++ (url.port.elim [] fun port => ':' :: Nat.toDigits 10 port)

/-- The text of an address. -/
def chars (url : Url) : List Char :=
  url.scheme ++ ':' :: url.authorityText ++ url.path.text url.host.isSome
    ++ url.query.elim [] ('?' :: ·) ++ url.fragment.elim [] ('#' :: ·)

/-- The text of an address. -/
def text (url : Url) : String :=
  String.ofList url.chars

/-- The port that requests to the address go to. -/
def effectivePort? (url : Url) : Option Nat :=
  url.port.or (defaultPort? url.scheme)

/-- Whether two addresses have the same host and port. -/
def sameOrigin (a b : Url) : Bool :=
  a.host == b.host && a.effectivePort? == b.effectivePort?

/-- The address without what is never sent: the fragment, and user name and password. -/
def sent (url : Url) : Url :=
  { url with username := [], password := [], fragment := none }

end Url

end TeacherRegistry
