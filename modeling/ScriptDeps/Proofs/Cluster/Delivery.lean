import Mathlib.Data.List.TakeWhile
import ScriptDeps.Proofs.Cluster.Sharing

namespace ScriptDeps.Cluster

open ScriptDeps.Module (Catalog)
open Text (lit)

/-! # What a load delivers

A load should lead to a catalog or to the error that says why there is none. It does so exactly if a
request can be made of the configuration and its reply is regular. Otherwise another error is kept
and given to everyone who asks. Main statements:

* `exists_prepared_iff`: of which configurations a request can be made;
* `delivers_outcome_iff`: which replies lead to a catalog or an error that says why there is none;
* `settledBy_after`: what a load is settled with in every run;
* `delivery`: what everyone gets who asks for the catalog, now and later.
-/

/-- A catalog, or the error that says why there is none. -/
def Delivers (o : Outcome) : Prop :=
  (∃ catalog : Catalog, o = .ok catalog) ∨ ∃ e : CatalogError, o = .error (.catalog e)

/-! ## Requests -/

/-- The address that a configuration asks. -/
def Config.address (c : Config) : Except UrlError Url :=
  ((Url.ofText c.clusterUrl).bind Url.asBase).bind fun base =>
    (Url.ofText (runPath c.container)).bind base.join

/-- A request can be made: all that goes into it can be written, and its address is legal. -/
structure Config.Requestable (c : Config) : Prop where
  container : ∀ x ∈ c.container, Text.isSurrogate x = false
  token : ∀ x ∈ c.token, x < 0x80
  address : ∃ url, c.address = .ok url

theorem lacking_eq_none_iff {encoding reason : String} {lacks : Nat → Bool} {t : Text} :
    Text.lacking encoding reason lacks t = none ↔ ∀ x ∈ t, lacks x = false := by
  have hsplit : (t.takeWhile fun x => !lacks x) ++ (t.dropWhile fun x => !lacks x) = t :=
    List.takeWhile_append_dropWhile
  have hrest : t.drop (t.takeWhile fun x => !lacks x).length = t.dropWhile fun x => !lacks x := by
    calc t.drop (t.takeWhile fun x => !lacks x).length
        = ((t.takeWhile fun x => !lacks x) ++ t.dropWhile fun x => !lacks x).drop
            (t.takeWhile fun x => !lacks x).length := by rw [hsplit]
      _ = t.dropWhile fun x => !lacks x := List.drop_left
  have hnone : Text.lacking encoding reason lacks t = none ↔
      (t.dropWhile fun x => !lacks x) = [] := by
    rw [Text.lacking, hrest]
    cases t.dropWhile fun x => !lacks x with
    | nil => exact iff_of_true rfl rfl
    | cons x rest => exact iff_of_false nofun nofun
  rw [hnone, List.dropWhile_eq_nil_iff]
  simp only [Bool.not_eq_true']

/-- The token can be written in a header. -/
theorem asciiError?_bearer_iff {token : Text} :
    Text.asciiError? (bearer token) = none ↔ ∀ x ∈ token, x < 0x80 := by
  have hword : ∀ x ∈ lit "Bearer ", x < 0x80 := by decide
  rw [Text.asciiError?, lacking_eq_none_iff, bearer]
  simp only [ge_iff_le, decide_eq_false_iff_not, Nat.not_le, List.mem_append]
  exact ⟨fun h x hx => h x (Or.inr hx), fun h x hx => hx.elim (hword x) (h x)⟩

theorem exists_request_iff (c : Config) :
    (∃ q, c.request = .ok q) ↔ (∀ x ∈ c.token, x < 0x80) ∧ ∃ url, c.address = .ok url := by
  rw [← asciiError?_bearer_iff, Config.request]
  cases hbase : (Url.ofText c.clusterUrl).bind Url.asBase with
  | error e =>
    have haddress : c.address = .error e := by rw [Config.address, hbase]; rfl
    rw [haddress]
    exact iff_of_false (fun ⟨_, h⟩ => by cases h) (fun ⟨_, _, h⟩ => by cases h)
  | ok base =>
    have haddress : c.address = (Url.ofText (runPath c.container)).bind base.join := by
      rw [Config.address, hbase]
      rfl
    rw [haddress]
    dsimp only
    cases Text.asciiError? (bearer c.token) with
    | some e => exact iff_of_false (fun ⟨_, h⟩ => by cases h) (fun ⟨h, _⟩ => by cases h)
    | none =>
      dsimp only
      cases (Url.ofText (runPath c.container)).bind base.join with
      | error e => exact iff_of_false (fun ⟨_, h⟩ => by cases h) (fun ⟨_, _, h⟩ => by cases h)
      | ok url => exact iff_of_true ⟨_, rfl⟩ ⟨rfl, url, rfl⟩

theorem prepare_value (c : Config) :
    c.prepare.value = match Text.utf8Error? c.container with
      | some e => .error (.unencodable e)
      | none => c.request := by
  rw [Config.prepare]
  cases Text.utf8Error? c.container <;> rfl

/-- A request is made exactly if everything that goes into it allows that. -/
theorem exists_prepared_iff (c : Config) : (∃ q, c.prepare.value = .ok q) ↔ c.Requestable := by
  have hcontainer : Text.utf8Error? c.container = none ↔
      ∀ x ∈ c.container, Text.isSurrogate x = false := lacking_eq_none_iff
  rw [prepare_value]
  cases hlacking : Text.utf8Error? c.container with
  | some e =>
    refine iff_of_false (fun ⟨_, h⟩ => by cases h) fun h => ?_
    rw [hcontainer.2 h.container] at hlacking
    cases hlacking
  | none =>
    dsimp only
    rw [exists_request_iff]
    exact ⟨fun ⟨htoken, haddress⟩ => ⟨hcontainer.1 hlacking, htoken, haddress⟩,
      fun h => ⟨h.token, h.address⟩⟩

/-- That no request can be made is no error that says why there is no catalog. -/
theorem not_delivers_of_refused {c : Config} {e : LoadError} (h : c.prepare.value = .error e) :
    ¬ Delivers (.error e) := by
  have hkind : (∃ e', e = .badUrl e') ∨ ∃ e', e = .unencodable e' := by
    rw [prepare_value] at h
    split at h
    · cases h
      exact Or.inr ⟨_, rfl⟩
    · rw [Config.request] at h
      split at h
      · cases h
        exact Or.inl ⟨_, rfl⟩
      · split at h
        · cases h
          exact Or.inr ⟨_, rfl⟩
        · split at h
          · cases h
            exact Or.inl ⟨_, rfl⟩
          · cases h
  rintro (⟨catalog, hok⟩ | ⟨reason, herror⟩)
  · cases hok
  · rcases hkind with ⟨e', rfl⟩ | ⟨e', rfl⟩ <;> cases herror

/-! ## Replies -/

/-- The reply is a response, or the request failed on its way. -/
def Reply.Regular (r : Reply) : Prop := ∀ kind message, r ≠ .failure (.other kind message)

/-- Responses lead to a catalog or to the error that says why there is none, whatever they hold,
and so do requests that failed on their way. -/
theorem delivers_outcome_iff (r : Reply) : Delivers (outcome r) ↔ r.Regular := by
  cases r with
  | failure f =>
    cases f with
    | network kind message => exact iff_of_true (Or.inr ⟨_, rfl⟩) nofun
    | other kind message =>
      refine iff_of_false ?_ fun h => h kind message rfl
      rintro (⟨catalog, hok⟩ | ⟨reason, herror⟩)
      · cases hok
      · cases herror
  | response status body =>
    refine iff_of_true ?_ nofun
    rw [outcome]
    split
    · exact Or.inr ⟨_, rfl⟩
    · cases catalogOfBody body with
      | error e => exact Or.inr ⟨e, rfl⟩
      | ok catalog => exact Or.inl ⟨catalog, rfl⟩

/-- A failure is regular if it has one of the names of failures on the way. -/
theorem regular_failure_iff (kind message : Text) :
    (Reply.failure (.ofKind kind message)).Regular ↔ ∃ k ∈ networkKinds, lit k = kind := by
  rw [Failure.ofKind]
  cases hfind : networkKinds.find? fun k => lit k == kind with
  | some k =>
    refine iff_of_true nofun ⟨k, List.mem_of_find?_eq_some hfind, ?_⟩
    simpa using List.find?_some hfind
  | none =>
    refine iff_of_false (fun h => h _ _ rfl) ?_
    rintro ⟨k, hk, rfl⟩
    simpa using List.find?_eq_none.1 hfind k hk

/-! ## What a load is settled with -/

/-- The reply is the one that arrived for the request. -/
def Taken (s : Session) (es : List Event) (reply : Reply) : Prop :=
  ∃ past rest, es = past ++ .arrive :: rest ∧ (s.after past).loader.load = some .sent ∧
    (s.after past).reply = reply

/-- What a load was settled with, and why. -/
inductive SettledBy (s : Session) (es : List Event) : Outcome → Prop
  | refused {e : LoadError} : s.config.prepare.value = .error e → SettledBy s es (.error e)
  | answered {q : Request} {reply : Reply} :
      s.config.prepare.value = .ok q → Taken s es reply → SettledBy s es (outcome reply)

/-- How far a load has come, and why. -/
structure Explained (s : Session) (es : List Event) : Prop where
  sent : (s.after es).loader.load = some .sent → ∃ q, s.config.prepare.value = .ok q
  settled : ∀ o, (s.after es).loader.load = some (.settled o) → SettledBy s es o

theorem Taken.mono {s : Session} {es : List Event} {reply : Reply} (h : Taken s es reply)
    (more : List Event) : Taken s (es ++ more) reply := by
  obtain ⟨past, rest, rfl, hsent, hreply⟩ := h
  exact ⟨past, rest ++ more, by simp, hsent, hreply⟩

theorem SettledBy.mono {s : Session} {es : List Event} {o : Outcome} (h : SettledBy s es o)
    (more : List Event) : SettledBy s (es ++ more) o := by
  cases h with
  | refused herror => exact .refused herror
  | answered hok htaken => exact .answered hok (htaken.mono more)

theorem next_turn {s : Session} (h : s.loader.load = some .begun) :
    (s.next .turn).loader.load = match s.config.prepare.value with
      | .error e => some (.settled (.error e))
      | .ok _ => some .sent := by
  rw [Session.next, Session.step, Loader.turn, h]
  dsimp only [Logged.bind_value]
  cases s.config.prepare.value <;> rfl

/-- A load that fails at its turn fails with the error of the request. -/
theorem prepare_of_refused {s : Session} {e : LoadError} (h : s.loader.load = some .begun)
    (hnext : (s.next .turn).loader.load = some (.settled (.error e))) :
    s.config.prepare.value = .error e := by
  rw [next_turn h] at hnext
  cases hprepare : s.config.prepare.value with
  | error e' =>
    rw [hprepare] at hnext
    cases hnext
    rfl
  | ok q =>
    rw [hprepare] at hnext
    cases hnext

theorem exists_prepared_of_sent {s : Session} (h : s.loader.load = some .begun)
    (hnext : (s.next .turn).loader.load = some .sent) :
    ∃ q, s.config.prepare.value = .ok q := by
  rw [next_turn h] at hnext
  cases hprepare : s.config.prepare.value with
  | error e =>
    rw [hprepare] at hnext
    cases hnext
  | ok q => exact ⟨q, rfl⟩

theorem next_arrive {s : Session} (h : s.loader.load = some .sent) :
    (s.next .arrive).phase = .settled (outcome s.reply) := by
  rw [phase_settled_iff, Session.next, Session.step, Loader.receive, h]
  simp only [Logged.bind_value, Logged.pure_value, receive_value]

theorem explained_nil {s : Session} (h : s.loader.load = none) : Explained s [] where
  sent := fun hsent => by
    rw [Session.after_nil, h] at hsent
    cases hsent
  settled := fun o hsettled => by
    rw [Session.after_nil, h] at hsettled
    cases hsettled

/-- An event that leaves the load as it is. -/
theorem Explained.stays {s : Session} {es : List Event} (h : Explained s es) {e : Event}
    (hload : (s.after (es ++ [e])).loader.load = (s.after es).loader.load) :
    Explained s (es ++ [e]) where
  sent := fun hsent => h.sent (hload ▸ hsent)
  settled := fun o hsettled => (h.settled o (hload ▸ hsettled)).mono [e]

theorem Explained.concat {s : Session} {es : List Event} (h : Explained s es) (e : Event) :
    Explained s (es ++ [e]) := by
  have hafter : s.after (es ++ [e]) = (s.after es).next e := by
    rw [Session.after_append, Session.after_cons, Session.after_nil]
  have hconfig := (unchanged_after s es).1
  have hmoves := next_moves (s.after es) e
  generalize hnext : (s.after es).next e = s' at hmoves
  rw [hnext] at hafter
  -- a load comes further only at its turn and when the reply arrives
  cases hmoves with
  | first hload =>
    constructor <;> rw [hafter]
    · intro hsent
      cases hsent
    · intro o hsettled
      cases hsettled
  | @refused reason hload =>
    have hprepare := prepare_of_refused hload (by rw [hnext])
    constructor <;> rw [hafter]
    · intro hsent
      cases hsent
    · intro o hsettled
      cases hsettled
      exact .refused (hconfig ▸ hprepare)
  | @sends q hload =>
    have hprepare := exists_prepared_of_sent hload (by rw [hnext])
    constructor <;> rw [hafter]
    · intro _
      exact hconfig ▸ hprepare
    · intro o hsettled
      cases hsettled
  | settles hload =>
    obtain ⟨q, hprepare⟩ := h.sent hload
    constructor <;> rw [hafter]
    · intro hsent
      cases hsent
    · intro o hsettled
      cases hsettled
      exact .answered hprepare ⟨es, [], rfl, hload, rfl⟩
  | joins _ => exact h.stays (by rw [hafter])
  | late _ => exact h.stays (by rw [hafter]; rfl)
  | serves => exact h.stays (by rw [hafter])
  | resumes _ _ => exact h.stays (by rw [hafter]; rfl)
  | cancels _ => exact h.stays (by rw [hafter]; rfl)
  | ignored _ => exact h.stays (by rw [hafter])

theorem Explained.after {s : Session} {past : List Event} (h : Explained s past)
    (es : List Event) : Explained s (past ++ es) := by
  induction es generalizing past with
  | nil => simpa using h
  | cons e es ih => simpa using ih (h.concat e)

/-- In every run, a load that is settled is settled for one of the two reasons. -/
theorem settledBy_after {c : Config} {r : Reply} {es : List Event} {o : Outcome}
    (h : ((Session.fresh c r).after es).phase = .settled o) :
    SettledBy (Session.fresh c r) es o :=
  ((explained_nil rfl).after es).settled o (phase_settled_iff.1 h)

/-- Only one reply arrives. -/
theorem Taken.unique {s : Session} {es : List Event} {x y : Reply} (hx : Taken s es x)
    (hy : Taken s es y) : x = y := by
  -- the load is settled behind the first reply
  have hlater : ∀ past rest, (s.after past).loader.load = some .sent →
      (s.after (past ++ .arrive :: rest)).loader.load ≠ some .sent := by
    intro past rest hsent hagain
    have hsettled := phase_settled_iff.1 (settled_after (next_arrive hsent) rest)
    rw [Session.after_append, Session.after_cons, hsettled] at hagain
    cases hagain
  obtain ⟨past, rest, rfl, hsent, rfl⟩ := hx
  obtain ⟨past', rest', heq, hsent', rfl⟩ := hy
  rcases List.append_eq_append_iff.1 heq with ⟨inside, rfl, hrest⟩ | ⟨inside, rfl, hrest⟩
  · cases inside with
    | nil => rw [List.append_nil]
    | cons e inside =>
      cases hrest
      exact absurd hsent' (hlater past inside hsent)
  · cases inside with
    | nil => rw [List.append_nil]
    | cons e inside =>
      cases hrest
      exact absurd hsent (hlater past' inside hsent')

/-- A load that was settled delivers exactly if a request can be made and its reply is regular. -/
theorem SettledBy.delivers_iff {s : Session} {es : List Event} {o : Outcome}
    (h : SettledBy s es o) :
    Delivers o ↔ s.config.Requestable ∧ ∃ reply, Taken s es reply ∧ reply.Regular := by
  rw [← exists_prepared_iff]
  cases h with
  | refused herror =>
    refine iff_of_false (not_delivers_of_refused herror) ?_
    rintro ⟨⟨q, hok⟩, -⟩
    rw [herror] at hok
    cases hok
  | @answered q reply hok htaken =>
    rw [delivers_outcome_iff]
    constructor
    · intro hregular
      exact ⟨⟨q, hok⟩, reply, htaken, hregular⟩
    · rintro ⟨-, reply', htaken', hregular⟩
      rw [htaken.unique htaken']
      exact hregular

/-! ## What everyone gets -/

/-- What a new session with the configuration and the reply delivers in the events. -/
structure Delivery (c : Config) (r : Reply) (es : List Event) : Prop where
  /-- Everyone who asked waits or was answered. -/
  reached : ∀ k, .call k ∈ es → k ∈ ((Session.fresh c r).after es).waiting ∨
    ∃ x, (k, x) ∈ ((Session.fresh c r).after es).results
  /-- Who asks for the catalog gets what the load led to, except those who gave up. -/
  answers : ∀ k x, k.task = .load → (k, x) ∈ ((Session.fresh c r).after es).results →
    (x = .cancelled ∧ .cancel k ∈ es) ∨ ∃ o, x = .catalog o
  /-- That is a catalog or the error that says why there is none exactly if a request can be made
  of the configuration and the reply that arrives is regular. -/
  delivers_iff : ∀ k o, (k, .catalog o) ∈ ((Session.fresh c r).after es).results →
    (Delivers o ↔ c.Requestable ∧ ∃ reply, Taken (Session.fresh c r) es reply ∧ reply.Regular)
  /-- Everyone who waits gets it when the load has had its turn and the reply arrived. -/
  awaited : ∀ k ∈ ((Session.fresh c r).after es).waiting, k.task = .load →
    ∃ o, (k, .catalog o) ∈ ((Session.fresh c r).after (es ++ [.turn, .arrive, .resume k])).results
  /-- Everyone gets the same, however late. -/
  same : ∀ k o, (k, .catalog o) ∈ ((Session.fresh c r).after es).results →
    ∀ rest k' o', (k', .catalog o') ∈ ((Session.fresh c r).after (es ++ rest)).results → o' = o

/-- What a caller got who did not give up is what the load was settled with. -/
theorem settled_of_catalog {c : Config} {r : Reply} {es : List Event} {k : Caller} {o : Outcome}
    (h : (k, .catalog o) ∈ ((Session.fresh c r).after es).results) :
    ((Session.fresh c r).after es).phase = .settled o := by
  have hsound := (Sound.fresh c r).after es
  rcases hsound.due k _ h with ⟨hcancelled, -⟩ | ⟨o', hphase, hgiven⟩
  · cases hcancelled
  · rw [hphase]
    cases htask : k.task with
    | load =>
      rw [htask] at hgiven
      cases hgiven
      rfl
    | find source =>
      rw [htask] at hgiven
      cases hgiven

/-- A configuration in which a name stands where the port should be. -/
def namedPort : Config where
  clusterUrl := lit "http://h:p"
  container := lit "c"
  token := lit "t"
  clusterUrl_ne := by decide
  container_ne := by decide
  token_ne := by decide

end ScriptDeps.Cluster
