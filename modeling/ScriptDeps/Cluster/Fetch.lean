import ScriptDeps.Cluster.Config
import ScriptDeps.Cluster.Listing
import ScriptDeps.Cluster.Url
import ScriptDeps.Json.Reader
import ScriptDeps.Log
import ScriptDeps.Module.Catalog
import ScriptDeps.Text.Encoding

namespace ScriptDeps.Cluster

open ScriptDeps.Module (Catalog ShapeError)
open Text (lit DecodeError EncodeError)

/-! # Fetching the catalog

One request is sent that runs the listing script in the container. The catalog is what a reply of
status 200 holds; everything else is an error.
-/

/-! ## Requests and replies -/

/-- A request to a cluster. -/
structure Request where
  method : String
  url : Url
  authorization : Text
  body : Text
  timeout : Timeout

/-- Why a request got no reply. -/
inductive Failure where
  /-- The request failed on its way, in a way that is known by that name. -/
  | network (kind : String) (message : Text)
  /-- Something else went wrong. -/
  | other (kind : String) (message : Text)
deriving DecidableEq, Repr

/-- What a request leads to. -/
inductive Reply where
  | response (status : Int) (body : List Nat)
  | failure (f : Failure)
deriving DecidableEq, Repr

/-- The ways in which a request fails. -/
def networkKinds : List String :=
  ["HTTPError", "RequestError", "TransportError", "TimeoutException", "ConnectTimeout",
    "ReadTimeout", "WriteTimeout", "PoolTimeout", "NetworkError", "ConnectError", "ReadError",
    "WriteError", "CloseError", "ProtocolError", "LocalProtocolError", "RemoteProtocolError",
    "ProxyError", "UnsupportedProtocol", "DecodingError", "TooManyRedirects"]

/-- Other errors of a client. -/
def clientKinds : List String := ["InvalidURL", "CookieConflict", "StreamError"]

/-- The failure of that name. -/
def Failure.ofKind (kind message : Text) : Failure :=
  match networkKinds.find? fun k => lit k == kind with
  | some k => .network k message
  | none => .other ((clientKinds.find? fun k => lit k == kind).getD "RuntimeError") message

/-! ## Errors -/

/-- Why bytes are no JSON. -/
inductive BodyError where
  | undecodable (e : DecodeError)
  | unreadable (t : Text) (e : Json.Failure)

/-- An error in words. -/
def BodyError.message : BodyError → Text
  | undecodable e => e.message
  | unreadable t e => e.message t

/-- The name of the kind of an error. -/
def BodyError.kind : BodyError → String
  | undecodable _ => "UnicodeDecodeError"
  | unreadable _ (.malformed ..) => "JSONDecodeError"
  | unreadable _ (.tooManyDigits _) => "ValueError"

/-- Why there is no catalog. -/
inductive CatalogError where
  | requestFailed (kind : String) (message : Text)
  | badStatus (status : Int)
  | badBody (e : BodyError)
  | badShape (e : ShapeError)

/-- An error in words. -/
def CatalogError.message : CatalogError → Text
  | requestFailed _ m => lit "Module list request failed: " ++ m
  | badStatus status => lit "Unexpected status code: " ++ Text.ofInt status
  | badBody e => lit "Module list response is not valid JSON: " ++ e.message
  | badShape e => e.message

/-- The status of a reply that was refused for it. -/
def CatalogError.status? : CatalogError → Option Int
  | badStatus status => some status
  | _ => none

/-- The kind of the error behind an error. -/
def CatalogError.cause? : CatalogError → Option String
  | requestFailed kind _ => some kind
  | badBody e => some e.kind
  | _ => none

/-- Why loading failed: there is no catalog, or the request could not be made at all. -/
inductive LoadError where
  | catalog (e : CatalogError)
  | badUrl (e : UrlError)
  | unencodable (e : EncodeError)
  | other (kind : String) (message : Text)

/-- The name of the kind of an error. -/
def LoadError.kind : LoadError → String
  | catalog _ => "CatalogError"
  | badUrl (.unencodable _) => "UnicodeEncodeError"
  | badUrl _ => "InvalidURL"
  | unencodable _ => "UnicodeEncodeError"
  | other kind _ => kind

/-- An error in words. -/
def LoadError.message : LoadError → Text
  | catalog e => e.message
  | badUrl e => e.message
  | unencodable e => e.message
  | other _ m => m

/-- What loading leads to. -/
abbrev Outcome := Except LoadError Catalog

/-! ## The request -/

/-- The component that requests are logged by. -/
def catalogLogger : Text := lit "webtask_analyzer.catalog"

/-- The path below the cluster that runs a script in a container. -/
def runPath (container : Text) : Text := lit "/api/run/" ++ encodeSegment container

/-- What goes before the token. -/
def bearer (token : Text) : Text := lit "Bearer " ++ token

/-- The request of a configuration. The address of the cluster is looked at first, then the token.
Credentials in the address take the place of the token. -/
def Config.request (c : Config) : Except LoadError Request :=
  match (Url.ofText c.clusterUrl).bind Url.asBase with
  | .error e => .error (.badUrl e)
  | .ok base =>
    match Text.asciiError? (bearer c.token) with
    | some e => .error (.unencodable e)
    | none =>
      match (Url.ofText (runPath c.container)).bind base.join with
      | .error e => .error (.badUrl e)
      | .ok url =>
        .ok { method := "POST", url, authorization := url.credentials?.getD (bearer c.token)
              body := listingScript, timeout := c.timeout }

/-- Prepares the request of a configuration. -/
def Config.prepare (c : Config) : Logged (Except LoadError Request) :=
  match Text.utf8Error? c.container with
  | some e => return .error (.unencodable e)
  | none => do
    Logged.note .debug catalogLogger
      (lit "Loading module list from " ++ c.clusterUrl ++ runPath c.container)
    return c.request

/-! ## The reply -/

/-- The JSON value that bytes hold. -/
def readBody (bytes : List Nat) : Except BodyError Json :=
  match Text.decodeDetected bytes with
  | .error e => .error (.undecodable e)
  | .ok t =>
    match Json.readText t with
    | .error e => .error (.unreadable t e)
    | .ok j => .ok j

/-- The catalog that a body holds. -/
def catalogOfBody (bytes : List Nat) : Except CatalogError Catalog :=
  match readBody bytes with
  | .error e => .error (.badBody e)
  | .ok j =>
    match Catalog.ofJson j with
    | .error e => .error (.badShape e)
    | .ok c => .ok c

/-- What a reply leads to. -/
def outcome : Reply → Outcome
  | .failure (.network kind message) => .error (.catalog (.requestFailed kind message))
  | .failure (.other kind message) => .error (.other kind message)
  | .response status body =>
    if status ≠ 200 then .error (.catalog (.badStatus status))
    else match catalogOfBody body with
      | .error e => .error (.catalog e)
      | .ok c => .ok c

/-- Takes the reply to a request. -/
def Config.receive (c : Config) (r : Reply) : Logged Outcome := do
  match outcome r with
  | .error e =>
    match e with
    | .catalog (.requestFailed _ m) =>
      Logged.note .error catalogLogger
        (lit "Module list request to " ++ c.clusterUrl ++ lit " failed: " ++ m)
    | .catalog (.badStatus status) =>
      Logged.note .error catalogLogger
        (lit "Module list request returned status " ++ Text.ofInt status)
    | _ => pure ()
    return .error e
  | .ok catalog =>
    Logged.note .info catalogLogger
      (lit "Loaded " ++ Text.ofNat catalog.native.size ++ lit " native module(s) and " ++
        Text.ofNat catalog.packages.length ++ lit " verquire package(s)")
    return .ok catalog

end ScriptDeps.Cluster
