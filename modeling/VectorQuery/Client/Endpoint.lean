import VectorQuery.Json.Record
import VectorQuery.Text.Utf8

/-!
# The address of the RPC interface

The RPC interface has a host of its own and may be reached over TLS. Before it is used its address
must be an absolute URI, and over TLS its host must be a name that a certificate can bear.
-/

namespace VectorQuery.Client

/-- Where the RPC interface is. -/
structure Endpoint where
  /-- The host, with or without a port. -/
  host : String
  /-- Whether it is reached over TLS. -/
  secure : Bool := false
  deriving DecidableEq

namespace Endpoint

open Json Json.Reader Json.FieldReader in
/-- Reads an endpoint. -/
def reader : Json.Reader Endpoint :=
  record ["host", "secure"] do
    let host ← required string
    let secure ← withDefault false bool
    return { host, secure }

/-- The port that is used when the host names none. -/
def defaultPort : String := "50051"

/-- The scheme of the address. -/
def scheme (e : Endpoint) : String := if e.secure then "https" else "http"

/-- The address without its scheme. -/
def location (e : Endpoint) : String :=
  if ':' ∈ e.host.toList then e.host else e.host ++ ":" ++ defaultPort

/-- The address. -/
def address (e : Endpoint) : String := e.scheme ++ "://" ++ e.location

/-- Whether a character may stand in the authority of an address. -/
def isAuthorityChar (c : Char) : Bool :=
  c.isAlphanum || c ∈ ("!$&'()*+,-.:;=@[]_~").toList

/-- The authority in front of a location, and the path, query and fragment after it. -/
def splitAuthority (location : List Char) : List Char × List Char :=
  location.span fun c => c ≠ '/' && c ≠ '?' && c ≠ '#'

/-- The part of an authority after what names a user. -/
def hostAndPort (authority : List Char) : List Char :=
  (authority.reverse.takeWhile (· ≠ '@')).reverse

/-- The part of an authority after an address in brackets. -/
def afterBrackets (authority : List Char) : List Char :=
  (authority.reverse.takeWhile (fun c => c ≠ '@' && c ≠ ']')).reverse

/-- Whether brackets stand at most once, and a closing one after an opening one. -/
def bracketsMatch (authority : List Char) : Bool :=
  match authority.filter (fun c => c = '[' || c = ']') with
  | [] => true
  | brackets => brackets = ['[', ']']

/-- Whether no part of an authority between two brackets or at signs has more than eight colons. -/
def colonsWithin : Nat → List Char → Bool
  | _, [] => true
  | count, ':' :: rest => decide (count < 8) && colonsWithin (count + 1) rest
  | count, c :: rest => colonsWithin (if c = ']' || c = '@' then 0 else count) rest

/-- Whether a percent sign stands only where a user is named or inside of brackets that follow no
percent sign of their own part. -/
def percentsAllowed : Bool → List Char → Bool
  | pending, [] => !pending
  | _, '%' :: rest => percentsAllowed true rest
  | pending, '[' :: rest => !pending && percentsAllowed pending rest
  | pending, c :: rest =>
    percentsAllowed (if c = ']' || c = '@' then false else pending) rest

/-- Whether characters are an authority: not empty, of allowed characters, with matching brackets,
at most one colon after a user and brackets, and something after the name of a user. -/
def isAuthority (authority : List Char) : Bool :=
  !authority.isEmpty && authority.all (fun c => isAuthorityChar c || c = '%') &&
    bracketsMatch authority && colonsWithin 0 authority &&
    decide ((afterBrackets authority).count ':' ≤ 1) &&
    decide (authority.getLast? ≠ some '@') && percentsAllowed false authority

/-- Whether a character may stand in a path. No blank and no ASCII control character may, and every
character beyond ASCII may. -/
def isPathChar (c : Char) : Bool :=
  let n := c.toNat
  n = 0x21 || n = 0x22 || 0x24 ≤ n && n ≤ 0x3B || n = 0x3D || 0x40 ≤ n && n ≤ 0x5F ||
    0x61 ≤ n && n ≤ 0x7E || 0x80 ≤ n

/-- Whether a character may stand in a query: one of a path, with the question mark and the
backquote, and without the quotation mark. -/
def isQueryChar (c : Char) : Bool :=
  let n := c.toNat
  n = 0x21 || 0x24 ≤ n && n ≤ 0x3B || n = 0x3D || 0x3F ≤ n && n ≤ 0x7E || 0x80 ≤ n

/-- The path and the query of an address, without its fragment. An empty path becomes a slash. -/
def pathAndQuery? (rest : List Char) : Option (List Char) :=
  let (path, rest) := rest.span fun c => c ≠ '?' && c ≠ '#'
  let query := match rest with
    | '?' :: query => some (query.takeWhile (· ≠ '#'))
    | _ => none
  if path.all isPathChar && query.all (List.all · isQueryChar) then
    some ((if path.isEmpty then ['/'] else path) ++ query.elim [] ('?' :: ·))
  else none

/-- The longest address, in bytes. -/
def longestUri : Nat := 65534

/-- The address as a URI with a path, unless it is none. -/
def uri? (e : Endpoint) : Option String := do
  if longestUri < (Text.Utf8.encode e.address).length then failure
  let (authority, rest) := splitAuthority e.location.toList
  if isAuthority authority then
    return e.scheme ++ "://" ++ String.ofList (authority ++ (← pathAndQuery? rest))
  else failure

/-- The host of an authority, without the port. -/
def hostOf (authority : List Char) : List Char :=
  match hostAndPort authority with
  | '[' :: rest => '[' :: rest.takeWhile (· ≠ ']') ++ [']']
  | rest => rest.takeWhile (· ≠ ':')

/-- Whether characters are one label of a domain name. -/
def isLabel (label : List Char) : Bool :=
  !label.isEmpty && decide (label.length ≤ 63) &&
    label.all (fun c => c.isAlphanum || c = '-' || c = '_') &&
    decide (label.head? ≠ some '-') && decide (label.getLast? ≠ some '-')

/-- Whether characters are a domain name. A point may stand at the end; the last label is not made
of digits alone. -/
def isDomainName (name : List Char) : Bool :=
  let labels := name.splitOn '.'
  let labels := if labels.getLast? = some [] then labels.dropLast else labels
  decide (name.length ≤ 253) && !labels.isEmpty && labels.all isLabel &&
    !(labels.getLast?.any (List.all · Char.isDigit))

/-- Whether characters are four numbers below 256 with points between them. -/
def isAddressOfFour (name : List Char) : Bool :=
  let parts := name.splitOn '.'
  decide (parts.length = 4) && parts.all fun part =>
    !part.isEmpty && decide (part.length ≤ 3) && part.all Char.isDigit &&
      decide (part.length = 1 ∨ part.head? ≠ some '0') &&
      decide (part.foldl (fun n c => n * 10 + (c.toNat - '0'.toNat)) 0 < 256)

/-- Whether the host of the address is a name that a certificate can bear. -/
def hasServerName (e : Endpoint) : Bool :=
  let host := hostOf (splitAuthority e.location.toList).1
  isDomainName host || isAddressOfFour host

end Endpoint

end VectorQuery.Client
