import ScriptDeps.Json.Basic
import ScriptDeps.Text.Quoted

namespace ScriptDeps.Cluster

/-! # Configurations

A configuration says where the cluster is, in which container the modules are listed, with which
token, and how long to wait. The three texts are never empty.
-/

/-- How many seconds to wait for the cluster. -/
inductive Timeout where
  /-- There is no limit. -/
  | unlimited
  | seconds (n : Int)
  | fraction (x : Binary64)
  /-- A truth value counts as one second or none. -/
  | truth (b : Bool)
deriving DecidableEq, Repr

/-- Where and how to reach the cluster. -/
structure Config where
  clusterUrl : Text
  container : Text
  token : Text
  timeout : Timeout := .unlimited
  clusterUrl_ne : clusterUrl ≠ []
  container_ne : container ≠ []
  token_ne : token ≠ []

/-- The settings that are texts. -/
inductive Setting where
  | clusterUrl
  | container
  | token
deriving DecidableEq, Repr

/-- The name of a setting. -/
def Setting.name : Setting → String
  | clusterUrl => "cluster_url"
  | container => "container_name"
  | token => "token"

/-- The setting of that name. -/
def Setting.ofName? (name : Text) : Option Setting :=
  [clusterUrl, container, token].find? fun s => Text.lit s.name == name

/-- Why settings are no configuration. -/
inductive ConfigError where
  /-- A setting is empty. -/
  | empty (s : Setting)
  /-- A setting is no text but a value of that kind. -/
  | notText (setting : String) (kind : String)
  /-- The time to wait is no number but a value of that kind. -/
  | notNumber (kind : String)
  /-- The time to wait is negative or no number at all. -/
  | tooSmall (t : Timeout)
  /-- There is no such setting. -/
  | unknown (setting : Text)
deriving DecidableEq, Repr

/-! ## Texts -/

/-- The time to wait, as it is shown. -/
def Timeout.text : Timeout → Text
  | unlimited => Text.lit "None"
  | seconds n => Text.ofInt n
  | fraction x => x.text
  | truth b => Text.lit (if b then "True" else "False")

/-- The JSON form of the time to wait. -/
def Timeout.toJson : Timeout → Json
  | unlimited => .null
  | seconds n => .int n
  | fraction x => .real x
  | truth b => .bool b

/-- The name of a setting as messages have it. -/
def qualified (setting : String) : Text := Text.lit "'AnalyzerConfig." ++ Text.lit setting ++ Text.lit "'"

/-- The name of a kind of values as messages have it. -/
def classText (kind : String) : Text := Text.lit "<class '" ++ Text.lit kind ++ Text.lit "'>"

/-- An error in words. -/
def ConfigError.message : ConfigError → Text
  | empty s => Text.lit s.name ++ Text.lit " must be a non-empty string"
  | notText setting kind =>
    Text.lit "String parameter " ++ qualified setting ++
      Text.lit " only takes a string value, not value of " ++ classText kind ++ Text.lit "."
  | notNumber kind =>
    Text.lit "Number parameter " ++ qualified "timeout" ++ Text.lit " only takes numeric values, not " ++
      classText kind ++ Text.lit "."
  | tooSmall t =>
    Text.lit "Number parameter " ++ qualified "timeout" ++ Text.lit " must be at least 0, not " ++
      t.text ++ Text.lit "."
  | unknown setting =>
    Text.lit "AnalyzerConfig.__init__() got an unexpected keyword argument " ++ Text.quoted setting

/-- A configuration as it is shown, without the token. -/
def Config.text (c : Config) : Text :=
  Text.lit "AnalyzerConfig(cluster_url=" ++ Text.quoted c.clusterUrl ++
    Text.lit ", container_name=" ++ Text.quoted c.container ++
    Text.lit ", timeout=" ++ c.timeout.text ++ Text.lit ")"

/-! ## Settings -/

/-- The settings so far; those that are not made are empty. -/
structure Settings where
  clusterUrl : Text := []
  container : Text := []
  token : Text := []
  timeout : Timeout := .unlimited

/-- Makes a setting that is a text. -/
def Settings.setText (s : Settings) (t : Text) : Setting → Settings
  | .clusterUrl => { s with clusterUrl := t }
  | .container => { s with container := t }
  | .token => { s with token := t }

/-- The time to wait that a value gives. -/
def Timeout.ofJson (j : Json) : Except ConfigError Timeout :=
  match j with
  | .null => .ok .unlimited
  | .bool b => .ok (.truth b)
  | .int n => if n < 0 then .error (.tooSmall (.seconds n)) else .ok (.seconds n)
  | .real x =>
    if x.isNegative || x == .nan then .error (.tooSmall (.fraction x)) else .ok (.fraction x)
  | _ => .error (.notNumber j.kindName)

/-- Makes one setting. A configuration may have a name, which nothing shows. -/
def Settings.set (s : Settings) (name : Text) (value : Json) : Except ConfigError Settings :=
  match Setting.ofName? name with
  | some setting =>
    match value with
    | .string t => .ok (s.setText t setting)
    | _ => .error (.notText setting.name value.kindName)
  | none =>
    if name = Text.lit "timeout" then
      (Timeout.ofJson value).map fun timeout => { s with timeout }
    else if name = Text.lit "name" then
      match value with
      | .string _ | .null => .ok s
      | _ => .error (.notText "name" value.kindName)
    else .error (.unknown name)

/-- Makes settings one after the other. -/
def Settings.setAll (s : Settings) : List (Text × Json) → Except ConfigError Settings
  | [] => .ok s
  | (name, value) :: rest => do (← s.set name value).setAll rest

/-- The configuration with these settings, none of which may be empty. -/
def Settings.toConfig (s : Settings) : Except ConfigError Config :=
  if hu : s.clusterUrl = [] then .error (.empty .clusterUrl)
  else if hc : s.container = [] then .error (.empty .container)
  else if ht : s.token = [] then .error (.empty .token)
  else .ok ⟨s.clusterUrl, s.container, s.token, s.timeout, hu, hc, ht⟩

/-- The configuration that settings make. -/
def Config.ofSettings (settings : List (Text × Json)) : Except ConfigError Config := do
  (← ({} : Settings).setAll settings).toConfig

/-- The configuration made of three values. -/
def Config.ofValues (clusterUrl container token : Json) : Except ConfigError Config :=
  ofSettings [(Text.lit Setting.clusterUrl.name, clusterUrl),
    (Text.lit Setting.container.name, container), (Text.lit Setting.token.name, token)]

/-! ## Settings of a caller -/

/-- The value counts as nothing. -/
def isNothing : Json → Bool
  | .null => true
  | .bool b => !b
  | .int n => n == 0
  | .real (.finite _ m _) => m == 0
  | .real _ => false
  | .string t => t.isEmpty
  | .array xs => xs.isEmpty
  | .object ms => ms.isEmpty

/-- What a caller passes as a configuration. -/
inductive Given where
  | nothing
  | config (c : Config)
  /-- Something of another kind. -/
  | other (kind : String)

/-- Why a caller's values are no configuration. -/
inductive CallerError where
  | notConfig (kind : String)
  /-- Both a configuration and single settings are given. -/
  | both
  | config (e : ConfigError)

/-- An error in words. -/
def CallerError.message : CallerError → Text
  | notConfig kind => Text.lit "config must be an AnalyzerConfig, got " ++ Text.lit kind
  | both => Text.lit "Pass either config or cluster_url/container_name/token, not both"
  | config e => e.message

/-- The configuration of a caller who gives one, or the three settings instead. -/
def Config.ofCaller (given : Given) (clusterUrl container token : Json) :
    Except CallerError Config :=
  let orEmpty (j : Json) : Json := if isNothing j then .string [] else j
  match given with
  | .nothing =>
    match ofValues (orEmpty clusterUrl) (orEmpty container) (orEmpty token) with
    | .ok c => .ok c
    | .error e => .error (.config e)
  | .other kind => .error (.notConfig kind)
  | .config c =>
    match clusterUrl, container, token with
    | .null, .null, .null => .ok c
    | _, _, _ => .error .both

end ScriptDeps.Cluster
