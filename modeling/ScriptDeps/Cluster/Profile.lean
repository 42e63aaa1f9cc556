import ScriptDeps.Cluster.Config
import ScriptDeps.Json.Reader
import ScriptDeps.Log

namespace ScriptDeps.Cluster

/-! # Environment and profiles

A configuration comes from variables of the environment or, if none of them is set, from a file that
holds several profiles.
-/

/-! ## The environment -/

/-- The variable for a setting. -/
def Setting.variable : Setting → String
  | clusterUrl => "WEBTASK_CLUSTER_URL"
  | container => "WEBTASK_CONTAINER"
  | token => "WEBTASK_TOKEN"

/-- The value of a variable, empty if it is not set. -/
def variableValue (environment : List (Text × Text)) (s : Setting) : Text :=
  (environment.lookup (Text.lit s.variable)).getD []

/-- The component that configurations are logged by. -/
def configLogger : Text := Text.lit "webtask_analyzer.config"

/-- The configuration that the environment gives, if any variable is set. -/
def Config.ofEnvironment (environment : List (Text × Text)) :
    Logged (Except ConfigError (Option Config)) :=
  let value := variableValue environment
  if [Setting.clusterUrl, .container, .token].all fun s => (value s).isEmpty then return .ok none
  else do
    Logged.note .debug configLogger
      (Text.lit "Using cluster configuration from " ++ Text.lit Setting.clusterUrl.variable)
    let c := ofValues (.string (value .clusterUrl)) (.string (value .container))
      (.string (value .token))
    return c.map some

/-! ## Profiles -/

/-- What stands under a path. -/
inductive FileContent where
  | missing
  | directory
  | bytes (content : List Nat)
deriving DecidableEq, Repr

/-- Why there is no configuration for a profile. -/
inductive ProfileError where
  /-- The file cannot be read, for that reason. -/
  | unreadable (path reason : Text)
  /-- The file is no text. -/
  | undecodable (e : Text.DecodeError)
  /-- An integer in the file has too many digits. -/
  | tooManyDigits (message : Text)
  | missing (profile path : Text)
  | config (e : ConfigError)

/-- An error in words. -/
def ProfileError.message : ProfileError → Text
  | unreadable path reason =>
    Text.lit "Cannot read webtask profiles from " ++ path ++ Text.lit ": " ++ reason
  | undecodable e => e.message
  | tooManyDigits message => message
  | missing profile path =>
    Text.lit "Missing a webtask profile " ++ Text.quoted profile ++ Text.lit " in " ++ path
  | config e => e.message

/-- Every line of a text file ends with a line feed, whatever it ended with before. -/
def unifyLineEnds : Text → Text
  | 0x0D :: 0x0A :: rest => 0x0A :: unifyLineEnds rest
  | 0x0D :: rest => 0x0A :: unifyLineEnds rest
  | c :: rest => c :: unifyLineEnds rest
  | [] => []

/-- The JSON value in a file. -/
def readProfiles (path : Text) : FileContent → Except ProfileError Json
  | .missing =>
    .error (.unreadable path (Text.lit "[Errno 2] No such file or directory: " ++ Text.quoted path))
  | .directory =>
    .error (.unreadable path (Text.lit "[Errno 21] Is a directory: " ++ Text.quoted path))
  | .bytes content =>
    match Text.decode content with
    | .error e => .error (.undecodable e)
    | .ok t =>
      let t := unifyLineEnds t
      match Json.read t with
      | .ok j => .ok j
      | .error e@(.malformed ..) => .error (.unreadable path (e.message t))
      | .error e@(.tooManyDigits _) => .error (.tooManyDigits (e.message t))

/-- The name of a profile's settings in the file. -/
def Setting.profileMember : Setting → String
  | clusterUrl => "url"
  | container => "container"
  | token => "token"

/-- The configuration of a profile in a file. -/
def Config.ofProfile (profile path : Text) (file : FileContent) :
    Logged (Except ProfileError Config) :=
  match readProfiles path file with
  | .error e => return .error e
  | .ok profiles =>
    let entry := match profiles with
      | .object members => Json.lookup profile members
      | _ => none
    match entry with
    | some (.object settings) => do
      Logged.note .debug configLogger
        (Text.lit "Using webtask profile " ++ Text.quoted profile ++ Text.lit " from " ++ path)
      let value (s : Setting) : Json :=
        (Json.lookup (Text.lit s.profileMember) settings).getD (.string [])
      match ofValues (value .clusterUrl) (value .container) (value .token) with
      | .ok c => return .ok c
      | .error e => return .error (.config e)
    | _ => return .error (.missing profile path)

end ScriptDeps.Cluster
