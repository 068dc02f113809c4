import Billing.Host.Address
import Billing.Host.Name
import Billing.Number.Numeral
import Billing.Text.Escaped
import Billing.Text.SmallLetter

/-!
# Hosts

A host is named by an address or by a name (`sentHost?`). What stands between the slashes of a URL
(`Authority`) may name a user before the host, and a port behind it. Only the client's reading of
targets asks for hosts.

* `Authority.site?`: the host and the port that are meant.
* `sentHost?_of_address`: an address of four numbers is sent as it stands.
-/

namespace Billing.Host

/-- Whether a character may stand in the ASCII name of a host as it is. -/
def isPlainInHost (c : Char) : Bool :=
  c.isAlphanum || "-._~!$&'()*+,;=\"`\x7b\x7d%|\\".toList.contains c

/-- The host as it is sent. Addresses must be right, and names beyond ASCII are made of labels. -/
def sentHost? (host : List Char) : Option (List Char) :=
  if looksLikeAddress host then if isFourAddress host then some host else none
  else if host.head? = some '[' && host.getLast? = some ']' && 2 ≤ host.length then
    let address := (host.drop 1).dropLast
    if isGroupAddress address then some address else none
  else if host.all (·.toNat < 0x80) then
    some (Text.escape isPlainInHost (host.map Char.toLower))
  else (encodeName (host.flatMap Text.smallLetters)).toOption

theorem sentHost?_of_address {host : List Char} (h : isFourAddress host = true) :
    sentHost? host = some host := by
  simp [sentHost?, isFourAddress_looks h, h]

/-- What is wrong with a host that was sent when it is shown. -/
def hostFlaw? (host : List Char) : Option LabelFlaw :=
  if labelMark.isPrefixOf host then
    match decodeName host with
    | .ok _ => none
    | .error flaw => some flaw
  else none

/-- What an authority names: who asks, at which host, at which port. -/
structure Authority where
  user : List Char
  host : List Char
  port : List Char
  deriving DecidableEq, Repr

/-- A host as it is sent, with a port. -/
structure Site where
  host : List Char
  port : Option Int
  deriving DecidableEq, Repr

namespace Authority

/-- The parts of an authority. A host in brackets may hold colons. -/
def read (s : List Char) : Authority :=
  let rest := (s.reverse.takeWhile (· != '@')).reverse
  let bracketed := Text.dropRightWhile (· != ']') rest
  let (host, port) :=
    if rest.head? = some '[' && !bracketed.isEmpty then (bracketed, rest.drop bracketed.length)
    else (rest.takeWhile (· != ':'), rest.dropWhile (· != ':'))
  { user := s.take (s.length - rest.length - 1)
    host
    port := if port.head? = some ':' then port.tail else port }

/-- The ports that are usual for schemes. -/
def usualPorts : List (String × Int) :=
  [("ftp", 21), ("http", 80), ("https", 443), ("ws", 80), ("wss", 443)]

/-- The site that an authority means. The port that is usual for the scheme is left out. -/
def site? (scheme : String) (a : Authority) : Option Site := do
  let host ← sentHost? a.host
  if a.port.isEmpty then return { host, port := none }
  let port ← Number.readInteger? a.port
  return { host, port := if usualPorts.lookup scheme = some port then none else some port }

end Authority

/-- A site as a request names it. -/
def Site.text (p : Site) : String :=
  let host := String.ofList p.host
  (if p.host.contains ':' then "[" ++ host ++ "]" else host) ++
    match p.port with
    | some port => ":" ++ toString port
    | none => ""

end Billing.Host
