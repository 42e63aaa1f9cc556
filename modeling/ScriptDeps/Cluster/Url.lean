import ScriptDeps.Cluster.Host
import ScriptDeps.Text.Quoted
import ScriptDeps.Text.Utf8

namespace ScriptDeps.Cluster

open Text (lit EncodeError)

/-! # Addresses of requests

An address consists of a scheme, an authority, a path, a query and a fragment. When it is read, each
part is brought into one form: what cannot stand in a part is percent-encoded, the host is in lower
case, the usual port of a scheme is left out, and dots are removed from a path. An address below
another one is joined to its path.
-/

/-- An address, in parts. -/
structure Url where
  scheme : Text := []
  userInfo : Text := []
  host : Text := []
  port : Option Int := none
  path : Text := []
  query : Option Text := none
  fragment : Option Text := none
deriving DecidableEq, Repr

/-- Why a text is no address. -/
inductive UrlError where
  | tooLong
  | partTooLong (part : String)
  | control (c position : Nat)
  | badAddress4 (host : Text)
  | badAddress6 (host : Text)
  | badName (host : Text)
  | badPort (port : Text)
  | rootless
  | doubleSlash
  | leadingColon
  /-- A part holds a surrogate. -/
  | unencodable (e : EncodeError)
deriving DecidableEq, Repr

/-- An error in words. -/
def UrlError.message : UrlError → Text
  | tooLong => lit "URL too long"
  | partTooLong part => lit "URL component '" ++ lit part ++ lit "' too long"
  | control c position =>
    lit "Invalid non-printable ASCII character in URL, " ++ Text.quoted [c] ++ lit " at position " ++
      Text.ofNat position ++ lit "."
  | badAddress4 host => lit "Invalid IPv4 address: " ++ Text.quoted host
  | badAddress6 host => lit "Invalid IPv6 address: " ++ Text.quoted host
  | badName host => lit "Invalid IDNA hostname: " ++ Text.quoted host
  | badPort port => lit "Invalid port: " ++ Text.quoted port
  | rootless => lit "For absolute URLs, path must be empty or begin with '/'"
  | doubleSlash => lit "Relative URLs cannot have a path starting with '//'"
  | leadingColon => lit "Relative URLs cannot have a path starting with ':'"
  | unencodable e => e.message

/-! ## Percent-encoding -/

/-- The upper-case digit for a value below sixteen. -/
def upperDigit (d : Nat) : Nat := if d < 10 then 0x30 + d else 0x37 + d

/-- The percent-encoding of a byte. -/
def percentByte (b : Nat) : Text := [0x25, upperDigit (b / 16), upperDigit (b % 16)]

/-- The percent-encoding of a code point. -/
def percentEncoded (c : Nat) : Text := (Text.encodeOne c).flatMap percentByte

/-- Letters, digits and the four marks that are never encoded. -/
def isUnreserved (c : Nat) : Bool :=
  Text.isDigit c || (0x41 ≤ c && c ≤ 0x5A) || (0x61 ≤ c && c ≤ 0x7A) || (lit "-._~").contains c

/-- Encodes what is not kept. -/
def percentEncode (keeps : Nat → Bool) (t : Text) : Text :=
  t.flatMap fun c => if isUnreserved c || keeps c then [c] else percentEncoded c

/-- A printable ASCII character other than these. -/
def printableBut (others : String) (c : Nat) : Bool :=
  0x20 ≤ c && c < 0x7F && !(lit others).contains c

/-- What a fragment keeps. -/
def fragmentKeeps : Nat → Bool := printableBut " \"<>`"

/-- What a query keeps. -/
def queryKeeps : Nat → Bool := printableBut " \"#<>"

/-- What a path keeps. -/
def pathKeeps : Nat → Bool := printableBut " \"#<>?`\x7b\x7d"

/-- What the part before the host keeps. -/
def userInfoKeeps : Nat → Bool := printableBut " \"#<>?`\x7b\x7d/;=@[\\]^|"

/-- What a host keeps. -/
def hostKeeps (c : Nat) : Bool := (lit "!$&'()*+,;=\"`\x7b\x7d%|\\").contains c

/-- The text of a single segment: everything else is encoded. -/
def encodeSegment (t : Text) : Text := percentEncode (fun _ => false) t

/-- The bytes of a text in which percent signs may encode bytes. -/
def percentDecode : Text → List Nat
  | 0x25 :: a :: b :: rest =>
    match Text.hexValue? a, Text.hexValue? b with
    | some x, some y => (16 * x + y) :: percentDecode rest
    | _, _ => 0x25 :: percentDecode (a :: b :: rest)
  | c :: rest => Text.encodeOne c ++ percentDecode rest
  | [] => []

/-! ## The parts of a text -/

/-- The parts of an address as they are written. -/
structure Parts where
  scheme : Text := []
  authority : Text := []
  path : Text := []
  query : Option Text := none
  fragment : Option Text := none

/-- The character is a letter of ASCII. -/
def isAsciiLetter (c : Nat) : Bool := (0x41 ≤ c && c ≤ 0x5A) || (0x61 ≤ c && c ≤ 0x7A)

/-- The scheme that a text starts with, and what follows its colon. -/
def splitScheme (t : Text) : Text × Text :=
  let name := match t with
    | c :: _ =>
      if isAsciiLetter c then
        t.takeWhile fun c => isAsciiLetter c || Text.isDigit c || (lit "+.-").contains c
      else []
    | [] => []
  match t.drop name.length with
  | 0x3A :: rest => (name, rest)
  | _ => ([], t)

/-- The authority that a text starts with, and what follows it. -/
def splitAuthority : Text → Text × Text
  | 0x2F :: 0x2F :: rest =>
    let authority := rest.takeWhile fun c => c != 0x2F && c != 0x3F && c != 0x23
    (authority, rest.drop authority.length)
  | t => ([], t)

/-- What stands before the first separator and behind it. -/
def cut (separator : Nat) (t : Text) : Text × Option Text :=
  let before := t.takeWhile (· != separator)
  match t.drop before.length with
  | _ :: rest => (before, some rest)
  | [] => (before, none)

/-- Takes an address apart. -/
def Parts.ofText (t : Text) : Parts :=
  let (scheme, t) := splitScheme t
  let (authority, t) := splitAuthority t
  let (t, fragment) := cut 0x23 t
  let (path, query) := cut 0x3F t
  { scheme, authority, path, query, fragment }

/-- The three parts of an authority. -/
structure Authority where
  userInfo : Text
  host : Text
  port : Option Text

/-- Takes an authority apart. A host in brackets may hold colons. -/
def Authority.ofText (t : Text) : Authority :=
  let tail := (t.reverse.takeWhile (· != 0x40)).reverse
  let userInfo := t.take (t.length - tail.length - 1)
  let bracketed := match tail with
    | 0x5B :: _ => tail.take (tail.length - (tail.reverse.takeWhile (· != 0x5D)).length)
    | _ => []
  let host := if bracketed.isEmpty then tail.takeWhile (· != 0x3A) else bracketed
  let port := match tail.drop host.length with
    | 0x3A :: rest => rest
    | rest => rest
  ⟨userInfo, host, some port⟩

/-! ## One form for each part -/

/-- Removes the segments that are one or two dots, two of them with the segment before. -/
def removeDots (path : Text) : Text :=
  let dots : List Text := [lit ".", lit ".."]
  let segments := Text.splitOn 0x2F path
  if segments.any dots.contains then
    let kept := segments.foldl (fun (out : List Text) s =>
      if s = lit "." then out
      else if s = lit ".." then if out.isEmpty || out == [[]] then out else out.dropLast
      else out ++ [s]) []
    Text.join [0x2F] kept
  else path

/-- A host, of whichever sort it is. -/
def normalHost (host : Text) : Except UrlError Text :=
  if host.isEmpty then .ok []
  else if looksLikeAddress4 host then
    if isAddress4 host then .ok host else .error (.badAddress4 host)
  else if host.head? = some 0x5B ∧ host.getLast? = some 0x5D ∧ host.length > 1 then
    let address := (host.drop 1).dropLast
    if isAddress6 address then .ok address else .error (.badAddress6 host)
  else if Text.isAscii host then .ok (percentEncode hostKeeps (host.map lowered))
  else match asciiName? (host.map lowered) with
    | some name => .ok name
    | none => .error (.badName host)

/-- The usual ports of schemes. -/
def usualPorts : List (Text × Int) :=
  [(lit "ftp", 21), (lit "http", 80), (lit "https", 443), (lit "ws", 80), (lit "wss", 443)]

/-- A port, unless it is the usual one of the scheme. -/
def normalPort (scheme : Text) (port : Option Text) : Except UrlError (Option Int) :=
  match port with
  | none => .ok none
  | some [] => .ok none
  | some t =>
    match Text.toInt? t with
    | none => .error (.badPort t)
    | some n => .ok (if usualPorts.lookup scheme = some n then none else some n)

/-- A path may have to start with a slash, and must not look like something else. -/
def checkPath (path : Text) (hasScheme hasAuthority : Bool) : Except UrlError Unit :=
  if hasAuthority && !path.isEmpty && path.head? != some 0x2F then .error .rootless
  else if !hasScheme && !hasAuthority && path.take 2 = lit "//" then .error .doubleSlash
  else if !hasScheme && !hasAuthority && path.head? = some 0x3A then .error .leadingColon
  else .ok ()

/-- Encodes a part that holds no surrogates. -/
def encodePart (keeps : Nat → Bool) (t : Text) : Except UrlError Text :=
  match t.find? Text.isSurrogate with
  | some c => .error (.unencodable ⟨"utf-8", 0, 1, c, "surrogates not allowed"⟩)
  | none => .ok (percentEncode keeps t)

/-- Encodes a part that may be missing. -/
def encodePart? (keeps : Nat → Bool) : Option Text → Except UrlError (Option Text)
  | none => .ok none
  | some t => (encodePart keeps t).map some

/-- The address with these parts. -/
def Url.ofParts (p : Parts) : Except UrlError Url := do
  let authority := Authority.ofText p.authority
  let userInfo ← encodePart userInfoKeeps authority.userInfo
  let host ← normalHost authority.host
  let port ← normalPort p.scheme authority.port
  let hasScheme := !p.scheme.isEmpty
  let hasAuthority := !userInfo.isEmpty || !host.isEmpty || port.isSome
  checkPath p.path hasScheme hasAuthority
  let path := if hasScheme || hasAuthority then removeDots p.path else p.path
  return { scheme := p.scheme.map lowered, userInfo, host, port
           path := ← encodePart pathKeeps path
           query := ← encodePart? queryKeeps p.query
           fragment := ← encodePart? fragmentKeeps p.fragment }

/-! ## Texts -/

/-- No text or part may be longer. -/
def maxLength : Nat := 65536

/-- The code point is a control character of ASCII. -/
def isControl (c : Nat) : Bool := c < 0x20 || c == 0x7F

/-- Reads an address. -/
def Url.ofText (t : Text) : Except UrlError Url :=
  if t.length > maxLength then .error .tooLong
  else match t.find? isControl with
    | some c => .error (.control c (t.takeWhile (· != c)).length)
    | none => Url.ofParts (.ofText t)

/-- The host, an address of version six in brackets. -/
def Url.hostText (u : Url) : Text := if u.host.contains 0x3A then 0x5B :: u.host ++ [0x5D] else u.host

/-- The authority. -/
def Url.authority (u : Url) : Text :=
  (if u.userInfo.isEmpty then [] else u.userInfo ++ [0x40]) ++ u.hostText ++
    match u.port with
    | some n => 0x3A :: Text.ofInt n
    | none => []

/-- The path and the query; an empty path is a slash. -/
def Url.target (u : Url) : Text :=
  (if u.path.isEmpty then [0x2F] else u.path) ++
    match u.query with
    | some q => 0x3F :: q
    | none => []

/-- An address as a text. -/
def Url.text (u : Url) : Text :=
  (if u.scheme.isEmpty then [] else u.scheme ++ [0x3A]) ++
    (if u.authority.isEmpty then [] else lit "//" ++ u.authority) ++ u.path ++
    (match u.query with
    | some q => 0x3F :: q
    | none => []) ++
    match u.fragment with
    | some f => 0x23 :: f
    | none => []

/-! ## Joining -/

/-- No part is too long. -/
def Parts.checkLengths (p : Parts) : Except UrlError Parts :=
  let parts := [("scheme", p.scheme), ("authority", p.authority), ("path", p.path),
    ("query", p.query.getD []), ("fragment", p.fragment.getD [])]
  match parts.find? fun x => x.2.length > maxLength with
  | some (name, _) => .error (.partTooLong name)
  | none => .ok p

/-- The address with another path and query. -/
def Url.withTarget (u : Url) (target : Text) : Except UrlError Url := do
  let (path, query) := cut 0x3F target
  Url.ofParts (← Parts.checkLengths
    { scheme := u.scheme, authority := u.authority, path, query, fragment := u.fragment })

/-- The address ends with a slash, so that something can be joined to it. -/
def Url.asBase (u : Url) : Except UrlError Url :=
  if u.target.getLast? = some 0x2F then .ok u else u.withTarget (u.target ++ [0x2F])

/-- The address is complete. -/
def Url.isAbsolute (u : Url) : Bool := !u.scheme.isEmpty && !u.host.isEmpty

/-- Joins an address to a base; an address that is complete stays. -/
def Url.join (base u : Url) : Except UrlError Url :=
  if u.isAbsolute then .ok u else base.withTarget (base.target ++ u.target.dropWhile (· == 0x2F))

/-! ## Credentials -/

/-- The digits of base 64. -/
def base64Digits : Text := lit "ABCDEFGHIJKLMNOPQRSTUVWXYZabcdefghijklmnopqrstuvwxyz0123456789+/"

/-- The digit for a value below 64. -/
def base64Digit (n : Nat) : Nat := base64Digits.getD n 0

/-- Bytes in base 64. -/
def base64 : List Nat → Text
  | a :: b :: c :: rest =>
    base64Digit (a / 4) :: base64Digit (a % 4 * 16 + b / 16) :: base64Digit (b % 16 * 4 + c / 64) ::
      base64Digit (c % 64) :: base64 rest
  | [a, b] =>
    [base64Digit (a / 4), base64Digit (a % 4 * 16 + b / 16), base64Digit (b % 16 * 4), 0x3D]
  | [a] => [base64Digit (a / 4), base64Digit (a % 4 * 16), 0x3D, 0x3D]
  | [] => []

/-- The credentials that an address holds, if it holds any. -/
def Url.credentials? (u : Url) : Option Text :=
  let (user, password) := cut 0x3A u.userInfo
  let bytes (t : Text) : List Nat := Text.encode (Text.decodeLossy (percentDecode t))
  let user := bytes user
  let password := bytes (password.getD [])
  if user.isEmpty && password.isEmpty then none
  else some (lit "Basic " ++ base64 (user ++ 0x3A :: password))

example : base64 [0x61, 0x3A, 0x62] = lit "YTpi" := by decide +kernel
example : removeDots (lit "/api/run/..") = lit "/api" := by decide +kernel

end ScriptDeps.Cluster
