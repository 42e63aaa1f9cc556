import ScriptDeps.Proofs.Cluster.LineEnds
import ScriptDeps.Proofs.Json.Failures
import ScriptDeps.Proofs.Text.Utf8

namespace ScriptDeps.Cluster

open Json (IsDigits LongDigits Written)
open Text (IsEncodable encode lit)

/-! # Profiles

The configuration of a profile consists of three texts that are not empty, which stand under their
names in the object of the profile. Anything else is refused, for a reason that depends on what the
file holds. Main statements:

* `readProfiles_eq_ok_iff`: the file is read if it holds JSON in UTF-8;
* `ofProfile_eq_ok_iff`: which configuration a profile gives;
* `refused_of_ofProfile`: why a profile gives none.
-/

/-! ## Files -/

/-- The bytes of the file are a JSON text in UTF-8, which stands for the value. -/
def FileContent.Holds (file : FileContent) (j : Json) : Prop :=
  ∃ t, IsEncodable t ∧ file = .bytes (encode t) ∧ Written t j

/-- Digits that stand together afterwards did so before. -/
theorem longDigits_of_unifyLineEnds {t : Text} (h : LongDigits (unifyLineEnds t)) :
    LongDigits t := by
  obtain ⟨before, ds, behind, heq, hds, hlong⟩ := h
  obtain ⟨u, v, rfl, hu, -⟩ := exists_split_of_unifyLineEnds heq
  obtain ⟨u, d, rfl, -, hd⟩ := exists_split_of_unifyLineEnds hu
  exact ⟨u, ds, v, by rw [eq_of_unifyLineEnds hd (unbroken_of_isDigits hds)], hds, hlong⟩

/-- The file is read if it holds JSON. -/
theorem readProfiles_eq_ok_iff {path : Text} {file : FileContent} {j : Json} :
    readProfiles path file = .ok j ↔ file.Holds j := by
  cases file with
  | missing => exact iff_of_false (fun h => nomatch h) fun ⟨_, _, h, _⟩ => nomatch h
  | directory => exact iff_of_false (fun h => nomatch h) fun ⟨_, _, h, _⟩ => nomatch h
  | bytes content =>
    rw [readProfiles]
    constructor
    · intro h
      cases hdecode : Text.decode content with
      | error e =>
        rw [hdecode] at h
        cases h
      | ok t =>
        rw [hdecode] at h
        dsimp only at h
        refine ⟨t, Text.isEncodable_of_decode hdecode, by rw [Text.encode_of_decode hdecode], ?_⟩
        split at h
        · next hread =>
          cases h
          exact written_unifyLineEnds_iff.1 (Json.read_eq_ok_iff.1 hread)
        · cases h
        · cases h
    · rintro ⟨t, ht, hcontent, hwritten⟩
      cases hcontent
      rw [Text.decode_encode ht]
      dsimp only
      rw [Json.read_eq_ok_iff.2 (written_unifyLineEnds_iff.2 hwritten)]

/-- Why a file holds no JSON, as far as its error tells. -/
inductive FileContent.Unread (path : Text) : FileContent → ProfileError → Prop where
  | missing (reason : Text) : Unread path .missing (.unreadable path reason)
  | directory (reason : Text) : Unread path .directory (.unreadable path reason)
  /-- The bytes are no UTF-8. -/
  | undecodable {content : List Nat} (h : ∀ t, IsEncodable t → encode t ≠ content)
      (e : Text.DecodeError) : Unread path (.bytes content) (.undecodable e)
  | malformed {t : Text} (ht : IsEncodable t) (h : ∀ j, ¬ Written t j) (reason : Text) :
      Unread path (.bytes (encode t)) (.unreadable path reason)
  | tooManyDigits {t : Text} (ht : IsEncodable t) (h : ∀ j, ¬ Written t j) (hlong : LongDigits t)
      (message : Text) : Unread path (.bytes (encode t)) (.tooManyDigits message)

theorem unread_of_readProfiles {path : Text} {file : FileContent} {e : ProfileError}
    (h : readProfiles path file = .error e) : file.Unread path e := by
  cases file with
  | missing =>
    cases h
    exact .missing _
  | directory =>
    cases h
    exact .directory _
  | bytes content =>
    rw [readProfiles] at h
    cases hdecode : Text.decode content with
    | error d =>
      rw [hdecode] at h
      cases h
      refine .undecodable (fun t ht heq => ?_) d
      rw [← heq, Text.decode_encode ht] at hdecode
      cases hdecode
    | ok t =>
      rw [hdecode] at h
      dsimp only at h
      have ht := Text.isEncodable_of_decode hdecode
      -- unifying line ends makes no text JSON that is none
      have hnone : ∀ e, Json.read (unifyLineEnds t) = .error e → ∀ j, ¬ Written t j := by
        intro e hread j hwritten
        rw [Json.read_eq_ok_iff.2 (written_unifyLineEnds_iff.2 hwritten)] at hread
        cases hread
      rw [← Text.encode_of_decode hdecode]
      split at h
      · cases h
      · next hread =>
        cases h
        exact .malformed ht (hnone _ hread) _
      · next hread =>
        cases h
        exact .tooManyDigits ht (hnone _ hread)
          (longDigits_of_unifyLineEnds (Json.excused_read _ _ hread)) _

/-! ## Settings -/

/-- The text of a setting. -/
def Config.setting (c : Config) : Setting → Text
  | .clusterUrl => c.clusterUrl
  | .container => c.container
  | .token => c.token

theorem ofValues_texts (clusterUrl container token : Text) :
    Config.ofValues (.string clusterUrl) (.string container) (.string token) =
      Settings.toConfig { clusterUrl, container, token } := rfl

theorem toConfig_of_ne {s : Settings} (hu : s.clusterUrl ≠ []) (hc : s.container ≠ [])
    (ht : s.token ≠ []) :
    s.toConfig = .ok ⟨s.clusterUrl, s.container, s.token, s.timeout, hu, hc, ht⟩ := by
  rw [Settings.toConfig, dif_neg hu, dif_neg hc, dif_neg ht]

/-- Only texts make a configuration. -/
theorem texts_of_ofValues {u k t : Json} {c : Config} (h : Config.ofValues u k t = .ok c) :
    ∃ clusterUrl container token, u = .string clusterUrl ∧ k = .string container ∧
      t = .string token := by
  cases u with
  | string clusterUrl =>
    cases k with
    | string container =>
      cases t with
      | string token => exact ⟨clusterUrl, container, token, rfl, rfl, rfl⟩
      | _ => cases h
    | _ => cases h
  | _ => cases h

/-- The values make the configuration if they are its texts. -/
theorem ofValues_eq_ok_iff {value : Setting → Json} {c : Config} :
    Config.ofValues (value .clusterUrl) (value .container) (value .token) = .ok c ↔
      (∀ x, value x = .string (c.setting x)) ∧ c.timeout = .unlimited := by
  constructor
  · intro h
    obtain ⟨clusterUrl, container, token, hu, hk, ht⟩ := texts_of_ofValues h
    rw [hu, hk, ht, ofValues_texts, Settings.toConfig] at h
    split at h
    · cases h
    split at h
    · cases h
    split at h
    · cases h
    cases h
    refine ⟨fun x => ?_, rfl⟩
    cases x with
    | clusterUrl => exact hu
    | container => exact hk
    | token => exact ht
  · rintro ⟨hvalue, htimeout⟩
    obtain ⟨clusterUrl, container, token, timeout, hu, hk, ht⟩ := c
    cases htimeout
    rw [hvalue, hvalue, hvalue, ofValues_texts]
    exact toConfig_of_ne hu hk ht

/-! ## Profiles -/

/-- The value that the settings of a profile have for one. -/
def valueOf (settings : List (Text × Json)) (x : Setting) : Json :=
  (Json.lookup (lit x.profileMember) settings).getD (.string [])

/-- The configuration is that of the profile in the file: its texts, which are not empty, are those
in the object of the profile. -/
def Config.IsOf (c : Config) (profile : Text) (file : FileContent) : Prop :=
  ∃ members settings, file.Holds (.object members) ∧
    Json.lookup profile members = some (.object settings) ∧
    (∀ x : Setting, Json.lookup (lit x.profileMember) settings = some (.string (c.setting x)) ∧
      c.setting x ≠ []) ∧ c.timeout = .unlimited

/-- Why a profile gives no configuration. -/
inductive Refused (profile path : Text) (file : FileContent) : ProfileError → Prop where
  /-- The file holds no JSON. -/
  | unread {e : ProfileError} (h : file.Unread path e) : Refused profile path file e
  /-- There is no object for the profile. -/
  | missing {j : Json} (hj : file.Holds j) (h : ∀ members settings, j = .object members →
      Json.lookup profile members ≠ some (.object settings)) :
      Refused profile path file (.missing profile path)
  /-- One of the settings is missing, no text or empty. -/
  | config {members settings : List (Text × Json)} {x : Setting} {e : ConfigError}
      (hj : file.Holds (.object members))
      (hprofile : Json.lookup profile members = some (.object settings))
      (hx : ∀ t, Json.lookup (lit x.profileMember) settings = some (.string t) → t = []) :
      Refused profile path file (.config e)

theorem setting_ne (c : Config) (x : Setting) : c.setting x ≠ [] := by
  cases x with
  | clusterUrl => exact c.clusterUrl_ne
  | container => exact c.container_ne
  | token => exact c.token_ne

/-- A text that is not empty was not made up for a setting that is not there. -/
theorem valueOf_eq_string_iff {settings : List (Text × Json)} {x : Setting} {t : Text}
    (ht : t ≠ []) :
    valueOf settings x = .string t ↔
      Json.lookup (lit x.profileMember) settings = some (.string t) := by
  rw [valueOf]
  cases Json.lookup (lit x.profileMember) settings with
  | none =>
    refine iff_of_false (fun h => ht ?_) fun h => nomatch h
    exact (Json.string.inj h).symm
  | some j => rw [Option.getD_some, Option.some.injEq]

/-- The object of a profile in a value. -/
def entry (profile : Text) : Json → Option Json
  | .object members => Json.lookup profile members
  | _ => none

theorem entry_eq_some_iff {profile : Text} {j v : Json} :
    entry profile j = some v ↔
      ∃ members, j = .object members ∧ Json.lookup profile members = some v := by
  cases j with
  | object members =>
    constructor
    · exact fun h => ⟨members, rfl, h⟩
    · rintro ⟨members, hj, h⟩
      cases hj
      exact h
  | _ => exact iff_of_false (fun h => nomatch h) fun ⟨_, h, _⟩ => nomatch h

/-- The value of a profile: first the file is read, then the profile is looked up, and then its
settings are checked. -/
theorem ofProfile_value (profile path : Text) (file : FileContent) :
    (Config.ofProfile profile path file).value =
      match readProfiles path file with
      | .error e => .error e
      | .ok j =>
        match entry profile j with
        | some (.object settings) =>
          match Config.ofValues (valueOf settings .clusterUrl) (valueOf settings .container)
              (valueOf settings .token) with
          | .ok c => .ok c
          | .error e => .error (.config e)
        | _ => .error (.missing profile path) := by
  unfold Config.ofProfile
  cases readProfiles path file with
  | error e => rfl
  | ok j =>
    cases j with
    | object members =>
      dsimp only [entry]
      cases Json.lookup profile members with
      | none => rfl
      | some v =>
        cases v with
        | object settings =>
          simp only [valueOf, Logged.bind_value]
          generalize Config.ofValues _ _ _ = made
          cases made <;> rfl
        | _ => rfl
    | _ => rfl

/-- Which configuration a profile gives. -/
theorem ofProfile_eq_ok_iff {profile path : Text} {file : FileContent} {c : Config} :
    (Config.ofProfile profile path file).value = .ok c ↔ c.IsOf profile file := by
  rw [ofProfile_value]
  constructor
  · intro h
    split at h
    · cases h
    next j hread =>
    split at h
    · next settings hentry =>
      obtain ⟨members, rfl, hprofile⟩ := entry_eq_some_iff.1 hentry
      split at h
      · next c' hvalues =>
        cases h
        obtain ⟨htexts, htimeout⟩ := ofValues_eq_ok_iff.1 hvalues
        refine ⟨members, settings, readProfiles_eq_ok_iff.1 hread, hprofile, fun x => ?_, htimeout⟩
        exact ⟨(valueOf_eq_string_iff (setting_ne c x)).1 (htexts x), setting_ne c x⟩
      · cases h
    · cases h
  · rintro ⟨members, settings, hholds, hprofile, htexts, htimeout⟩
    have hvalues : Config.ofValues (valueOf settings .clusterUrl) (valueOf settings .container)
        (valueOf settings .token) = .ok c :=
      ofValues_eq_ok_iff.2 ⟨fun x => (valueOf_eq_string_iff (htexts x).2).2 (htexts x).1, htimeout⟩
    rw [readProfiles_eq_ok_iff.2 hholds]
    dsimp only
    rw [entry_eq_some_iff.2 ⟨members, rfl, hprofile⟩]
    dsimp only
    rw [hvalues]

/-- Three texts that are not empty would make a configuration. -/
theorem exists_setting_of_ofValues {settings : List (Text × Json)} {e : ConfigError}
    (h : Config.ofValues (valueOf settings .clusterUrl) (valueOf settings .container)
      (valueOf settings .token) = .error e) :
    ∃ x : Setting, ∀ t, Json.lookup (lit x.profileMember) settings = some (.string t) → t = [] := by
  by_contra hall
  simp only [not_exists, not_forall] at hall
  -- otherwise each setting has a text, and these three would do
  choose text htext hne using hall
  have hvalue : ∀ x, valueOf settings x = .string (text x) := fun x =>
    (valueOf_eq_string_iff (hne x)).2 (htext x)
  rw [hvalue, hvalue, hvalue, ofValues_texts, toConfig_of_ne (hne _) (hne _) (hne _)] at h
  cases h

/-- Why a profile gives no configuration. -/
theorem refused_of_ofProfile {profile path : Text} {file : FileContent} {e : ProfileError}
    (h : (Config.ofProfile profile path file).value = .error e) : Refused profile path file e := by
  rw [ofProfile_value] at h
  split at h
  · next hread =>
    cases h
    exact .unread (unread_of_readProfiles hread)
  next j hread =>
  have hholds : file.Holds j := readProfiles_eq_ok_iff.1 hread
  split at h
  · next settings hentry =>
    obtain ⟨members, rfl, hprofile⟩ := entry_eq_some_iff.1 hentry
    split at h
    · cases h
    · next hvalues =>
      cases h
      obtain ⟨x, hx⟩ := exists_setting_of_ofValues hvalues
      exact .config hholds hprofile hx
  · next hentry =>
    cases h
    exact .missing hholds fun members settings hj hprofile =>
      hentry settings (entry_eq_some_iff.2 ⟨members, hj, hprofile⟩)

end ScriptDeps.Cluster
