import DeviceRegistry.Http.Host
import DeviceRegistry.Http.Path
import DeviceRegistry.Text.Raw

/-!
# Targets

Where a request goes. A target is a path which may have a scheme, a user, a host and a port in front
and a query and a fragment behind. Only the path tells the resource: the service answers under every
name, and the query of a request to it is given apart. A target that names both a scheme and a host
says its path itself; every other one is taken from the root.
-/

namespace DeviceRegistry.Http

/-- Who answers a request. -/
structure Authority where
  user : List Char := []
  host : List Char := []
  port : List Char := []
  deriving DecidableEq, Repr, Inhabited

namespace Authority

/-- The name of a host in front of a port: all up to a closing bracket if a bracket opens it, and
else all up to a colon. -/
def hostOf (cs : List Char) : List Char :=
  if cs.head? == some '[' && cs.contains ']' then (cs.reverse.dropWhile (· != ']')).reverse
  else cs.takeWhile (· != ':')

/-- The user before the last at sign, the host, and the port after a colon. -/
def ofChars (cs : List Char) : Authority :=
  let located := (cs.reverse.takeWhile (· != '@')).reverse
  let host := hostOf located
  let behind := located.drop host.length
  { user := cs.take (cs.length - located.length - 1)
    host := host
    port := if behind.head? == some ':' then behind.drop 1 else behind }

/-- Nobody is named. -/
def isEmpty (a : Authority) : Bool :=
  a.user.isEmpty && a.host.isEmpty && a.port.isEmpty

/-- A port is a number, and a host is one that can be named. -/
def isValid (a : Authority) : Bool :=
  isHost a.host && (a.port.isEmpty || (Text.integer? (String.ofList a.port)).isSome)

end Authority

/-- The parts of a target before its query. -/
structure Target where
  scheme : List Char := []
  authority : Authority := {}
  path : List Char
  deriving DecidableEq, Repr, Inhabited

namespace Target

/-- The characters before the query and the fragment. -/
def beforeQuery (cs : List Char) : List Char :=
  cs.takeWhile fun c => c != '?' && c != '#'

/-- The characters of a scheme after its first letter. -/
def isSchemeChar (c : Char) : Bool :=
  c.isAlphanum || c == '+' || c == '.' || c == '-'

/-- The scheme before a colon, and what follows the colon. A scheme may be empty; one that does not
start with a letter is none. -/
def cutScheme (cs : List Char) : List Char × List Char :=
  let scheme := cs.takeWhile isSchemeChar
  match cs.drop scheme.length with
  | ':' :: rest => if scheme.head?.all Char.isAlpha then (scheme, rest) else ([], cs)
  | _ => ([], cs)

/-- The parts of a target. -/
def ofString (s : String) : Target :=
  let (scheme, rest) := cutScheme (beforeQuery s.toList)
  match rest with
  | '/' :: '/' :: rest =>
    { scheme := scheme
      authority := .ofChars (rest.takeWhile (· != '/'))
      path := rest.dropWhile (· != '/') }
  | path => { scheme := scheme, path := path }

/-- A target that names more than a path. -/
def isQualified (t : Target) : Bool :=
  !t.scheme.isEmpty || !t.authority.isEmpty

/-- A target that says its path itself. -/
def isAbsolute (t : Target) : Bool :=
  !t.scheme.isEmpty && !t.authority.host.isEmpty

/-- The parts fit together: a path on its own starts neither with two slashes nor with a colon. -/
def isValid (t : Target) : Bool :=
  t.authority.isValid &&
    (t.isQualified || !(['/', '/'].isPrefixOf t.path || [':'].isPrefixOf t.path))

/-- The path that is asked for. -/
def resolved (t : Target) : String :=
  let said := if t.isQualified then withoutDots t.path else t.path
  let path := if t.isAbsolute then said else withoutDots (withOneSlash said)
  String.ofList (unescape (if path.isEmpty then ['/'] else path))

end Target

/-- The path that a request with a target asks for. -/
def resolvePath (target : String) : String :=
  (Target.ofString target).resolved

/-- The query of a target, without the fragment. -/
def queryOf (cs : List Char) : List Char :=
  ((cs.takeWhile (· != '#')).dropWhile (· != '?')).drop 1

/-- A name or a value of a query, in which a plus sign stands for a blank. -/
def queryText (cs : List Char) : String :=
  String.ofList (unescape (cs.map fun c => if c = '+' then ' ' else c))

/-- The names and values that a target has in its query. -/
def queryPairs (target : String) : List (String × String) :=
  let entries := (Text.pieces '&' (queryOf target.toList)).filter (!·.isEmpty)
  entries.map fun entry =>
    (queryText (entry.takeWhile (· != '=')), queryText ((entry.dropWhile (· != '=')).drop 1))

example : queryPairs "/x?a+b=1%2B&&c#d" = [("a b", "1+"), ("c", "")] := by decide +kernel

/-- The largest number of characters of a target, and of a query. -/
def maxLength : Nat := 65536

/-- The control characters of ASCII. -/
def isControl (c : Char) : Bool :=
  decide (c.toNat < 0x20) || c.toNat == 0x7F

/-- Why a request cannot be sent to a target: it is too long, holds control characters or its parts
are no such parts, or it is a text that is not whole. -/
inductive TargetFault where
  | invalid
  | notWhole
  deriving DecidableEq, Repr, Inhabited

/-- Why a request cannot be sent to a target, if it cannot. -/
def targetFault? (target : RawText) : Option TargetFault :=
  let s := target.shown
  if maxLength < s.length || s.toList.any isControl || !(Target.ofString s).isValid then
    some .invalid
  else if target.isWhole then none
  else some .notWhole

/-- The number of characters that a character takes in a query: those that need no escape, and the
blank, take one; of every other one each byte takes three. -/
def writtenSize (c : Char) : Nat :=
  if c.isAlphanum || c == '-' || c == '.' || c == '_' || c == '~' || c == ' ' then 1
  else 3 * c.utf8Size

/-- The number of characters that a text takes in a query. -/
def writtenLength (s : String) : Nat :=
  s.toList.foldl (fun n c => n + writtenSize c) 0

/-- Why a query cannot be sent, if it cannot: a value is not whole, or it is too long with the signs
between the names and the values. -/
def queryFault? (query : List (RawText × RawText)) : Option TargetFault :=
  if !query.all fun (name, value) => name.isWhole && value.isWhole then some .notWhole
  else
    let size := query.foldl
      (fun n (name, value) => n + writtenLength name.shown + writtenLength value.shown + 2) 0
    if maxLength + 1 < size then some .invalid else none

example : resolvePath "/api/x/../%68ealth/.?a=b" = "/api/health" := by decide +kernel

example : resolvePath "HTTP://host/api/%2" = "/api/%2" := by decide +kernel

example : resolvePath "mailto:api/%2568ealth" = "/api/%68ealth" := by decide +kernel

example : resolvePath "http://host//api" = "//api" ∧ resolvePath "//host//api" = "/api" := by
  decide +kernel

example : resolvePath "/.." = "/" ∧ resolvePath "a:.//b" = "/b" ∧ resolvePath ".//b" = "//b" := by
  decide +kernel

example : (Target.ofString "//user@host:8o/x").isValid = false := by decide +kernel

example : (Target.ofString "////x").isValid = false ∧ (Target.ofString ":/x").isValid = true := by
  decide +kernel

end DeviceRegistry.Http
