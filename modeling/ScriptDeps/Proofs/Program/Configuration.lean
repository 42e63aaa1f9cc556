import ScriptDeps.Program
import ScriptDeps.Proofs.Cluster.Profile

namespace ScriptDeps.Program

open Cluster (Config ConfigError FileContent ProfileError Refused variableValue)
open CommandLine (Settings Task UsageError)
open Text (encode lit toBytes)

/-! # Runs that take their configuration from a profile

If no variable of the environment is set, a run takes its configuration from a profile. It ends
before it asks for anything if there is none. Main statements:

* `run_refused`: how a run ends without a configuration;
* `profile_or_refused`: which configuration a profile gives, and what follows if it gives none.
-/

variable {w : Surroundings} {s : Settings} {t : Task} {words : List Text} {e : ProfileError}

theorem ofEnvironment_unset {environment : List (Text × Text)}
    (h : ∀ x, variableValue environment x = []) :
    Config.ofEnvironment environment = ⟨.ok none, []⟩ := by
  rw [Config.ofEnvironment]
  simp only [h]
  rfl

theorem config_unset (h : ∀ x, variableValue w.environment x = []) :
    (config w s).value =
      (Config.ofProfile s.profile w.profilePath w.profiles).value.mapError
        ProfileError.message := by
  rw [config, ofEnvironment_unset h, Logged.bind_value]
  dsimp only
  rw [Logged.bind_value]
  cases (Config.ofProfile s.profile w.profilePath w.profiles).value <;> rfl

/-- Without a configuration, a run ends before it makes a request. -/
theorem run_refused (hunset : ∀ x, variableValue w.environment x = [])
    (hwords : CommandLine.read words = .ok (.task s t))
    (he : (Config.ofProfile s.profile w.profilePath w.profiles).value = .error e) :
    (run w words).ending = .ofUsage ⟨.program, .configuration e.message⟩ ∧
      (run w words).requests = [] := by
  have hconfig : (config w s).value = .error e.message := by
    rw [config_unset hunset, he]
    rfl
  have hperform : (perform w s t).value =
      (.ofUsage ⟨.program, .configuration e.message⟩, []) := by
    rw [perform, Logged.bind_value, hconfig]
    rfl
  rw [run, hwords]
  dsimp only
  rw [hperform]
  exact ⟨rfl, rfl⟩

/-- A profile that has no configuration of its own is refused. -/
theorem exists_refused {profile : Text} {file : FileContent} (path : Text)
    (h : ∀ c : Config, ¬ c.IsOf profile file) :
    ∃ e, (Config.ofProfile profile path file).value = .error e ∧ Refused profile path file e := by
  cases hvalue : (Config.ofProfile profile path file).value with
  | ok c => exact absurd (Cluster.ofProfile_eq_ok_iff.1 hvalue) (h c)
  | error e => exact ⟨e, rfl, Cluster.refused_of_ofProfile hvalue⟩

/-- Every profile gives the configuration that is its own or is refused for what the file holds; a
file that holds no JSON is refused for that. Without a configuration of its profile, a run ends with
code 2, prints nothing and makes no request. -/
theorem profile_or_refused (w : Surroundings) (profile : Text) :
    (∀ c, (Config.ofProfile profile w.profilePath w.profiles).value = .ok c ↔
      c.IsOf profile w.profiles) ∧
    (∀ e, (Config.ofProfile profile w.profilePath w.profiles).value = .error e →
      Refused profile w.profilePath w.profiles e) ∧
    ((∀ j, ¬ w.profiles.Holds j) →
      ∃ e, (Config.ofProfile profile w.profilePath w.profiles).value = .error e ∧
        w.profiles.Unread w.profilePath e) ∧
    ∀ (words : List Text) (s : Settings) (t : Task),
      (∀ x, variableValue w.environment x = []) → CommandLine.read words = .ok (.task s t) →
      s.profile = profile → (∀ c : Config, ¬ c.IsOf profile w.profiles) →
      ∃ e, Refused profile w.profilePath w.profiles e ∧
        (run w words).ending = .refused 2 (UsageError.text ⟨.program, .configuration e.message⟩) ∧
        (run w words).requests = [] := by
  refine ⟨fun c => Cluster.ofProfile_eq_ok_iff, fun e => Cluster.refused_of_ofProfile, ?_, ?_⟩
  · intro hnone
    have hconfig : ∀ c : Config, ¬ c.IsOf profile w.profiles := by
      rintro c ⟨members, settings, hholds, -⟩
      exact hnone _ hholds
    obtain ⟨e, he, hrefused⟩ := exists_refused w.profilePath hconfig
    refine ⟨e, he, ?_⟩
    -- the other reasons need something that the file holds
    cases hrefused with
    | unread h => exact h
    | missing hj h => exact absurd hj (hnone _)
    | config hj hprofile hx => exact absurd hj (hnone _)
  · rintro words s t hunset hwords rfl hnone
    obtain ⟨e, he, hrefused⟩ := exists_refused w.profilePath hnone
    obtain ⟨hending, hrequests⟩ := run_refused hunset hwords he
    exact ⟨e, hrefused, hending, hrequests⟩

/-- What a run finds around it if nothing is set and the file of the profiles has this content. -/
def profileHolder (content : List Nat) : Surroundings where
  environment := []
  profilePath := lit ".webtask"
  profiles := .bytes content
  find := (Entry.directory []).find
  reply := .response 200 []

/-- A profile in a file whose lines end as in another system. -/
def boxProfile : List Nat :=
  encode (lit "\x7b\"default\": \x7b\r\n\"url\": \"u\", " ++
    lit "\"container\": \"box\",\r\"token\": \"key\"\x7d\x7d")

/-- A byte that starts no code point. -/
def brokenProfile : List Nat := [0xFF]

theorem not_holds_brokenProfile (j : Json) : ¬ FileContent.Holds (.bytes brokenProfile) j := by
  intro h
  have hread : Cluster.readProfiles [] (.bytes brokenProfile) = .ok j :=
    Cluster.readProfiles_eq_ok_iff.2 h
  cases hread

/-- The profile gives its configuration, and the other file ends the run. -/
theorem refused_brokenProfile :
    (∃ c : Config, c.IsOf (lit "default") (.bytes boxProfile) ∧
      (c.clusterUrl, c.container, c.token) = (lit "u", lit "box", lit "key")) ∧
    (∃ e, FileContent.Unread (lit ".webtask") (.bytes brokenProfile) e) ∧
    (run (profileHolder brokenProfile) [lit "modules"]).ending.code? = some 2 ∧
    (run (profileHolder brokenProfile) [lit "modules"]).requests = [] := by
  obtain ⟨hconfig, -, -, -⟩ := profile_or_refused (profileHolder boxProfile) (lit "default")
  obtain ⟨-, -, hunread, hruns⟩ :=
    profile_or_refused (profileHolder brokenProfile) (lit "default")
  refine ⟨?_, ?_, ?_⟩
  · have hvalue : ((Config.ofProfile (lit "default") (lit ".webtask")
        (.bytes boxProfile)).value.toOption.map fun c => (c.clusterUrl, c.container, c.token)) =
          some (lit "u", lit "box", lit "key") := by
      decide +kernel
    cases hmade : (Config.ofProfile (lit "default") (lit ".webtask") (.bytes boxProfile)).value with
    | error e =>
      rw [hmade] at hvalue
      cases hvalue
    | ok c =>
      rw [hmade] at hvalue
      exact ⟨c, (hconfig c).1 hmade, Option.some.inj hvalue⟩
  · obtain ⟨e, -, he⟩ := hunread not_holds_brokenProfile
    exact ⟨e, he⟩
  · have hwords : CommandLine.read [lit "modules"] = .ok (.task {} .modules) := by decide +kernel
    have hnone : ∀ c : Config, ¬ c.IsOf (lit "default") (.bytes brokenProfile) := by
      rintro c ⟨members, settings, hholds, -⟩
      exact not_holds_brokenProfile _ hholds
    obtain ⟨e, -, hending, hrequests⟩ :=
      hruns [lit "modules"] {} .modules (fun _ => rfl) hwords rfl hnone
    rw [hending]
    exact ⟨rfl, hrequests⟩

/-- It is not so that the error names the file whenever it holds no JSON in UTF-8: bytes that are no
UTF-8 lead to an error that does not. -/
theorem not_all_unread_named :
    ¬ ∀ (profile path : Text) (content : List Nat), (∀ j, ¬ FileContent.Holds (.bytes content) j) →
      ∃ reason, (Config.ofProfile profile path (.bytes content)).value =
        .error (.unreadable path reason) := by
  intro h
  obtain ⟨reason, hvalue⟩ :=
    h (lit "default") (lit ".webtask") brokenProfile not_holds_brokenProfile
  cases hvalue

end ScriptDeps.Program
