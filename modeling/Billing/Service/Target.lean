import Billing.Host.Basic

/-!
# Targets

The target of a request refers to a site. It may name a scheme and a host, or only a path; then it
is taken to be at the service's own host. `Reference.read` takes a target apart, and `Target.read`
finds the host and the path that are asked for, in which parts that stay in place or lead back are
resolved and characters written by their codes are read.

These are rules of the client, which reads a target before it sends a request. The results about the
service are about requests that have arrived, and rest on none of these rules.

* `Target.reach`: what keeps a request from being sent to a target.
* `Target.askAgain`: what keeps it from being sent again to another path at the same host.
* `resolveParts_of_plain`: a path without parts that stay or lead back stays as it is.
-/

namespace Billing.Service

open Host (Authority LabelFlaw Site)

/-- Why no response comes of a target. -/
inductive TargetError where
  /-- The target breaks the rules of references. -/
  | malformed
  /-- The scheme is none by which requests are made. -/
  | unknownScheme
  /-- The scheme opens a lasting connection. -/
  | lastingConnection
  /-- The host cannot be shown. -/
  | unshown (flaw : LabelFlaw)
  /-- The site where to ask again breaks the rules of references. -/
  | lostSite
  deriving DecidableEq, Repr

/-! ## Taking a target apart -/

/-- The parts of a target. A part that is missing is empty, except for the query. -/
structure Reference where
  scheme : List Char
  authority : List Char
  path : List Char
  query : Option (List Char)
  deriving DecidableEq, Repr

/-- Whether a character may stand in a scheme behind its first letter. -/
def isSchemeChar (c : Char) : Bool := c.isAlphanum || c == '+' || c == '.' || c == '-'

/-- The scheme in front of a colon, and the rest. -/
def readScheme (s : List Char) : List Char × List Char :=
  let scheme := s.takeWhile isSchemeChar
  match s.dropWhile isSchemeChar with
  | ':' :: rest => if scheme.head?.all Char.isAlpha then (scheme, rest) else ([], s)
  | _ => ([], s)

/-- Whether a character ends an authority. -/
def endsAuthority (c : Char) : Bool := c == '/' || c == '?' || c == '#'

/-- The authority behind two slashes, and the rest. -/
def readAuthority : List Char → List Char × List Char
  | '/' :: '/' :: s => (s.takeWhile (!endsAuthority ·), s.dropWhile (!endsAuthority ·))
  | s => ([], s)

/-- The parts that a target names. -/
def Reference.read (target : List Char) : Reference :=
  let (scheme, rest) := readScheme target
  let (authority, rest) := readAuthority rest
  let endsPath (c : Char) : Bool := c == '?' || c == '#'
  { scheme := scheme.map Char.toLower
    authority
    path := rest.takeWhile (!endsPath ·)
    query := match rest.dropWhile (!endsPath ·) with
      | '?' :: query => some (query.takeWhile (· != '#'))
      | _ => none }

/-! ## Paths -/

/-- The parts of a path with those that stay in place left out, and each that leads back together
with the one before it; `done` are the parts so far, in reverse. -/
def resolveParts (done : List (List Char)) : List (List Char) → List (List Char)
  | [] => done.reverse
  | part :: parts =>
    if part = ['.'] then resolveParts done parts
    else if part = ['.', '.'] then
      resolveParts (if done = [[]] then done else done.tail) parts
    else resolveParts (part :: done) parts

theorem resolveParts_of_plain (done : List (List Char)) {parts : List (List Char)}
    (h : ∀ part ∈ parts, part ≠ ['.'] ∧ part ≠ ['.', '.']) :
    resolveParts done parts = done.reverse ++ parts := by
  induction parts generalizing done with
  | nil => simp [resolveParts]
  | cons part parts ih =>
    have hp := h part (by simp)
    rw [resolveParts, if_neg hp.1, if_neg hp.2, ih _ fun q hq => h q (by simp [hq])]
    simp

/-- A path with its parts resolved. -/
def resolve (path : List Char) : List Char :=
  Text.joinWith '/' (resolveParts [] (Text.splitOn '/' path))

/-- Whether a character may stand in a query as it is. -/
def isPlainInQuery (c : Char) : Bool :=
  c.toNat < 0x80 && !c.isWhitespace && c != '"' && c != '<' && c != '>'

/-- Whether a character may stand in a path as it is. -/
def isPlainInPath (c : Char) : Bool :=
  isPlainInQuery c && c != '`' && c != '\x7b' && c != '\x7d'

/-! ## Targets -/

/-- What a target asks for. -/
structure Target where
  scheme : String
  site : Site
  path : String
  /-- The query as it is sent; it may be empty. -/
  query : List Char
  deriving DecidableEq, Repr

/-- How many characters a target and each of its parts may have. -/
def targetLimit : Nat := 65536

/-- Whether a target holds a control character. -/
def hasControls (target : List Char) : Bool :=
  target.any fun c => c.toNat < 0x20 || c.toNat = 0x7F

/-- The service's own site. -/
def ownSite : Site := { host := "testserver".toList, port := none }

namespace Target

/-- What a target asks for. Its path is read at either end of the connection. -/
def read (target : String) : Except TargetError Target := do
  let target := target.toList
  if targetLimit < target.length || hasControls target then throw .malformed
  let reference := Reference.read target
  let scheme := String.ofList reference.scheme
  let authority := Authority.read reference.authority
  let some site := authority.site? scheme | throw .malformed
  let isPlaced := !scheme.isEmpty || !authority.user.isEmpty || !site.host.isEmpty ||
    site.port.isSome
  let path := if isPlaced then resolve reference.path else reference.path
  if !isPlaced && (path.take 2 = ['/', '/'] || path.head? = some ':') then throw .malformed
  let query := Text.escape isPlainInQuery (reference.query.getD [])
  let named (path : List Char) : String := String.ofList (Text.unescape (Text.unescape path))
  if !scheme.isEmpty && !site.host.isEmpty then
    return { scheme, site, path := named path, query }
  let path := resolve ('/' :: path.dropWhile (· == '/'))
  if targetLimit < (Text.escape isPlainInPath path).length || targetLimit < query.length then
    throw .malformed
  return { scheme := "http", site := ownSite, path := named path, query }

/-- What keeps a request from being sent. -/
def reach (t : Target) : Except TargetError Unit := do
  unless ["http", "https", "ws", "wss"].contains t.scheme do throw .unknownScheme
  if let some flaw := Host.hostFlaw? t.site.host then throw (.unshown flaw)
  if ["ws", "wss"].contains t.scheme then throw .lastingConnection

/-- Whether a site as a request names it is a host, by a name of plain letters or an address, with
no more than a port behind it. -/
def isUsualSite (s : List Char) : Bool :=
  let authority := Authority.read s
  let isPort (digits : List Char) : Bool := !digits.isEmpty && digits.all Char.isDigit
  let hasPort := match s.drop authority.host.length with
    | [] => true
    | ':' :: digits => isPort digits
    | _ => false
  let isInName (c : Char) : Bool := c.isAlphanum || c == '-' || c == '.'
  let isInAddress (c : Char) : Bool := (Text.hexValue? c).isSome || c == ':' || c == '.'
  let isUsual := match authority.host with
    | '[' :: address => address.dropLast.contains ':' && address.dropLast.all isInAddress
    | name => !name.isEmpty && name.all isInName
  authority.user.isEmpty && hasPort && isUsual

/-- Whether a character may stand as it is in a text that says where to ask again. -/
def isPlainInReturn (c : Char) : Bool :=
  c.isAlphanum || "_.-~:/%#?=@[]!$&'()*+,".toList.contains c

/-- What keeps a request from being sent again, to another path at the host that the request names:
`host` is how it names it, if not as the target does. -/
def askAgain (t : Target) (host : Option String) (path : String) : Except TargetError Unit := do
  let own := t.site.text
  let named := (host.filter (isUsualSite ·.toList)).getD own
  let query := if t.query.isEmpty then [] else '?' :: t.query
  let location := (t.scheme ++ "://" ++ named ++ path).toList ++ query
  if targetLimit < (Text.escape isPlainInReturn location).length then throw .lostSite
  let some site := (Authority.read named.toList).site? t.scheme | throw .lostSite
  if let some flaw := Host.hostFlaw? site.host then throw (.unshown flaw)

end Target

end Billing.Service
