import Mathlib.Data.List.Forall2
import ScriptDeps.Proofs.Cluster.Delivery

namespace ScriptDeps

/-! # The token stays secret

Two configurations that differ only in the token are shown in the same way, and whatever is done
with sessions of them leads to the same results and the same log. Only the cluster learns about the
token, by the header of the requests that it authorizes. Main statements:

* `Logged.Rel.bind`: computations that are alike step by step are alike;
* `prepare_alike`: the requests of the two configurations;
* `Session.Alike.step`: what an event preserves, and `Session.Alike.run`: what all events preserve;
* `Session.Alike.act`: what anything preserves that a caller alone does, and `Session.Alike.actAll`:
  what all of it preserves;
* `Config.Alike.conceals`: all of this for new sessions.
-/

/-! ## Two computations -/

section

variable {α β γ δ ε : Type}

/-- Two computations come to related values and note the same. -/
structure Logged.Rel (R : α → β → Prop) (x : Logged α) (y : Logged β) : Prop where
  value : R x.value y.value
  records : x.records = y.records

namespace Logged.Rel

variable {R : α → β → Prop} {S : γ → δ → Prop}

protected theorem pure {a : α} {b : β} (h : R a b) :
    Rel R (Pure.pure a : Logged α) (Pure.pure b : Logged β) := ⟨h, rfl⟩

protected theorem refl (x : Logged α) : Rel Eq x x := ⟨rfl, rfl⟩

protected theorem bind {x : Logged α} {y : Logged β} {f : α → Logged γ} {g : β → Logged δ}
    (h : Rel R x y) (hnext : ∀ a b, R a b → Rel S (f a) (g b)) : Rel S (x >>= f) (y >>= g) := by
  have hlast := hnext x.value y.value h.value
  constructor
  · exact hlast.value
  · show x.records ++ (f x.value).records = y.records ++ (g y.value).records
    rw [h.records, hlast.records]

end Logged.Rel

/-- Both computations fail with the same error, or none of them fails and the results are
related. -/
inductive Both (R : α → β → Prop) : Except ε α → Except ε β → Prop
  | error (e : ε) : Both R (.error e) (.error e)
  | ok {a : α} {b : β} : R a b → Both R (.ok a) (.ok b)

/-- Two pairs have the same first part and related second parts. -/
def Beside (R : β → γ → Prop) (x : α × β) (y : α × γ) : Prop := x.1 = y.1 ∧ R x.2 y.2

end

namespace Cluster

open Text (lit)

/-! ## What is alike -/

/-- Two configurations differ only in the token, and both tokens are ASCII. -/
structure Config.Alike (c d : Config) : Prop where
  clusterUrl : c.clusterUrl = d.clusterUrl
  container : c.container = d.container
  timeout : c.timeout = d.timeout
  left : ∀ x ∈ c.token, x < 0x80
  right : ∀ x ∈ d.token, x < 0x80

/-- Two requests differ only in the header that authorizes them. -/
structure Request.Alike (q r : Request) : Prop where
  method : q.method = r.method
  url : q.url = r.url
  body : q.body = r.body
  timeout : q.timeout = r.timeout

/-- The loads are the same, and the requests for them are alike. -/
structure Loader.Alike (l m : Loader) : Prop where
  load : l.load = m.load
  requests : List.Forall₂ Request.Alike l.requests m.requests

/-- Two sessions differ only in the tokens of their configurations and requests. -/
structure Session.Alike (s t : Session) : Prop where
  config : s.config.Alike t.config
  loader : s.loader.Alike t.loader
  generation : s.generation = t.generation
  reply : s.reply = t.reply
  earlier : List.Forall₂ Request.Alike s.earlier t.earlier
  waiting : s.waiting = t.waiting
  results : s.results = t.results

/-! ## Requests -/

section

variable {c d : Config}

theorem text_alike (h : c.Alike d) : c.text = d.text := by
  rw [Config.text, Config.text, h.clusterUrl, h.container, h.timeout]

theorem request_alike (h : c.Alike d) : Both Request.Alike c.request d.request := by
  rw [Config.request, Config.request, asciiError?_bearer_iff.2 h.left,
    asciiError?_bearer_iff.2 h.right, h.clusterUrl, h.container]
  cases (Url.ofText d.clusterUrl).bind Url.asBase with
  | error e => exact .error _
  | ok base =>
    dsimp only
    cases (Url.ofText (runPath d.container)).bind base.join with
    | error e => exact .error _
    | ok url => exact .ok ⟨rfl, rfl, rfl, h.timeout⟩

theorem prepare_alike (h : c.Alike d) :
    Logged.Rel (Both Request.Alike) c.prepare d.prepare := by
  rw [Config.prepare, Config.prepare, h.clusterUrl, h.container]
  cases Text.utf8Error? d.container with
  | some e => exact .pure (.error _)
  | none => exact (Logged.Rel.refl _).bind fun _ _ _ => .pure (request_alike h)

/-- What a reply leads to has nothing to do with the token. -/
theorem receive_alike (h : c.Alike d) (r : Reply) : c.receive r = d.receive r := by
  rw [Config.receive, Config.receive, h.clusterUrl]

end

/-! ## Loads -/

section

variable {c d : Config} {l m : Loader}

theorem Loader.Alike.withLoad (h : l.Alike m) (load : Option Load) :
    Loader.Alike { l with load } { m with load } := ⟨rfl, h.requests⟩

theorem Loader.Alike.send (h : l.Alike m) {q r : Request} (hqr : q.Alike r) :
    Loader.Alike { l with requests := l.requests ++ [q] }
      { m with requests := m.requests ++ [r] } :=
  ⟨h.load, List.rel_append h.requests (.cons hqr .nil)⟩

theorem Loader.Alike.outcome? (h : l.Alike m) : l.outcome? = m.outcome? := by
  rw [Loader.outcome?, Loader.outcome?, h.load]

theorem Loader.Alike.start (h : l.Alike m) (hc : c.Alike d) :
    Logged.Rel Loader.Alike (l.start c) (m.start d) := by
  rw [Loader.start, Loader.start, h.load, hc.container]
  cases m.load with
  | some load => exact .pure h
  | none => exact (Logged.Rel.refl _).bind fun _ _ _ => .pure (h.withLoad _)

theorem Loader.Alike.turn (h : l.Alike m) (hc : c.Alike d) :
    Logged.Rel Loader.Alike (l.turn c) (m.turn d) := by
  rw [Loader.turn, Loader.turn, h.load]
  rcases m.load with _ | _ | _ | o
  · exact .pure h
  · apply (prepare_alike hc).bind
    rintro _ _ (e | hqr)
    · exact .pure (h.withLoad _)
    · exact .pure ((h.send hqr).withLoad _)
  · exact .pure h
  · exact .pure h

theorem Loader.Alike.receive (h : l.Alike m) (hc : c.Alike d) (r : Reply) :
    Logged.Rel Loader.Alike (l.receive c r) (m.receive d r) := by
  rw [Loader.receive, Loader.receive, h.load, receive_alike hc r]
  rcases m.load with _ | _ | _ | o
  · exact .pure h
  · exact .pure h
  · apply (Logged.Rel.refl _).bind
    rintro o _ rfl
    exact .pure (h.withLoad _)
  · exact .pure h

theorem Loader.Alike.settle (h : l.Alike m) (hc : c.Alike d) (r : Reply) :
    Logged.Rel (Beside Loader.Alike) (do return l.settle (← c.receive r))
      (do return m.settle (← d.receive r)) := by
  rw [receive_alike hc r]
  apply (Logged.Rel.refl _).bind
  rintro o _ rfl
  exact .pure ⟨rfl, h.withLoad _⟩

/-- A load that has its turn and gets the reply at once. -/
theorem Loader.Alike.demand (h : l.Alike m) (hc : c.Alike d) (r : Reply) :
    Logged.Rel (Beside Loader.Alike) (l.demand c r) (m.demand d r) := by
  have hfirst : m.load = none ∨ m.load = some .begun →
      Logged.Rel (Beside Loader.Alike) (l.demand c r) (m.demand d r) := by
    intro hm
    rw [Loader.demand, Loader.demand, h.load]
    rcases hm with hm | hm
    all_goals
      rw [hm]
      apply (h.start hc).bind
      intro l' m' hstarted
      apply (prepare_alike hc).bind
      rintro _ _ (e | hqr)
      · exact .pure ⟨rfl, hstarted.withLoad _⟩
      · exact (hstarted.send hqr).settle hc r
  rcases hm : m.load with _ | _ | _ | o
  · exact hfirst (Or.inl hm)
  · exact hfirst (Or.inr hm)
  · rw [Loader.demand, Loader.demand, h.load, hm]
    exact h.settle hc r
  · rw [Loader.demand, Loader.demand, h.load, hm]
    exact .pure ⟨rfl, h⟩

end

/-! ## Sessions -/

section

variable {s t : Session}

theorem Session.Alike.requests (h : s.Alike t) :
    List.Forall₂ Request.Alike s.requests t.requests :=
  List.rel_append h.earlier h.loader.requests

theorem Session.Alike.withLoader (h : s.Alike t) {l m : Loader} (hlm : l.Alike m) :
    Session.Alike { s with loader := l } { t with loader := m } :=
  { h with loader := hlm }

theorem Session.Alike.grant (h : s.Alike t) (k : Caller) (r : Result) :
    (s.grant k r).Alike (t.grant k r) := by
  have hresults : s.results ++ [(k, r)] = t.results ++ [(k, r)] := by rw [h.results]
  exact { h with results := hresults }

theorem Session.Alike.wait (h : s.Alike t) (k : Caller) :
    Session.Alike { s with waiting := s.waiting ++ [k] }
      { t with waiting := t.waiting ++ [k] } := by
  have hwaiting : s.waiting ++ [k] = t.waiting ++ [k] := by rw [h.waiting]
  exact { h with waiting := hwaiting }

theorem Session.Alike.release (h : s.Alike t) (k : Caller) (r : Result) :
    (s.release k r).Alike (t.release k r) := by
  have hwaiting : s.waiting.erase k = t.waiting.erase k := by rw [h.waiting]
  have hrest : Session.Alike { s with waiting := s.waiting.erase k }
      { t with waiting := t.waiting.erase k } := { h with waiting := hwaiting }
  exact hrest.grant k r

/-- An event leads to sessions that are alike again, and to the same notes. -/
theorem Session.Alike.step (h : s.Alike t) (e : Event) :
    Logged.Rel Session.Alike (s.step e) (t.step e) := by
  -- what decides on the next step is the same in both sessions
  cases e with
  | call k =>
    rw [Session.step, Session.step]
    apply (h.loader.start h.config).bind
    intro l m hlm
    rw [hlm.outcome?]
    cases m.outcome? with
    | none => exact .pure ((h.withLoader hlm).wait k)
    | some o =>
      apply (Logged.Rel.refl _).bind
      rintro r _ rfl
      exact .pure ((h.withLoader hlm).grant k r)
  | turn =>
    rw [Session.step, Session.step]
    apply (h.loader.turn h.config).bind
    intro l m hlm
    exact .pure (h.withLoader hlm)
  | serve r => exact .pure { h with reply := rfl }
  | arrive =>
    have hreceived : Logged.Rel Loader.Alike (s.loader.receive s.config s.reply)
        (t.loader.receive t.config t.reply) := by
      rw [h.reply]
      exact h.loader.receive h.config t.reply
    rw [Session.step, Session.step]
    apply hreceived.bind
    intro l m hlm
    exact .pure (h.withLoader hlm)
  | resume k =>
    rw [Session.step, Session.step, h.loader.outcome?, h.waiting]
    cases t.loader.outcome? with
    | none => exact .pure h
    | some o =>
      dsimp only
      by_cases hk : k ∈ t.waiting
      · rw [if_pos hk, if_pos hk]
        apply (Logged.Rel.refl _).bind
        rintro r _ rfl
        exact .pure (h.release k r)
      · rw [if_neg hk, if_neg hk]
        exact .pure h
  | cancel k =>
    rw [Session.step, Session.step, h.waiting]
    apply Logged.Rel.pure
    by_cases hk : k ∈ t.waiting
    · rw [if_pos hk, if_pos hk]
      exact h.release k .cancelled
    · rw [if_neg hk, if_neg hk]
      exact h

/-- So do all events of a run. -/
theorem Session.Alike.run (h : s.Alike t) (es : List Event) :
    Logged.Rel Session.Alike (s.run es) (t.run es) := by
  induction es generalizing s t with
  | nil => exact .pure h
  | cons e es ih =>
    rw [Session.run, Session.run]
    apply (h.step e).bind
    intro s' t' h'
    exact ih h'

/-! ## One caller at a time -/

theorem Session.Alike.load (h : s.Alike t) :
    Logged.Rel (Beside Session.Alike) s.load t.load := by
  have hdemanded : Logged.Rel (Beside Loader.Alike) (s.loader.demand s.config s.reply)
      (t.loader.demand t.config t.reply) := by
    rw [h.reply]
    exact h.loader.demand h.config t.reply
  rw [Session.load, Session.load]
  apply hdemanded.bind
  rintro ⟨o, l⟩ ⟨_, m⟩ ⟨rfl, hlm⟩
  exact .pure ⟨rfl, h.withLoader hlm⟩

theorem Session.Alike.find (h : s.Alike t) (source : ByteArray) :
    Logged.Rel (Beside Session.Alike) (s.find source) (t.find source) := by
  rw [Session.find, Session.find]
  apply h.load.bind
  rintro ⟨o, s'⟩ ⟨_, t'⟩ ⟨rfl, h'⟩
  apply (Logged.Rel.refl _).bind
  rintro r _ rfl
  exact .pure ⟨rfl, h'⟩

theorem Session.Alike.loadTogether (h : s.Alike t) (count : Nat) (cancelled : List Nat) :
    Logged.Rel (Beside Session.Alike) (s.loadTogether count cancelled)
      (t.loadTogether count cancelled) := by
  rw [Session.loadTogether, Session.loadTogether]
  apply (h.run _).bind
  intro s' t' h'
  have hanswers : s'.answerTo = t'.answerTo := by
    funext k
    rw [Session.answerTo, Session.answerTo, h'.results]
  rw [hanswers]
  exact .pure ⟨rfl, { h' with results := rfl }⟩

end

/-- Something that is done with a session. -/
inductive Action where
  /-- The catalog is asked for. -/
  | load
  | find (source : ByteArray)
  | loadTogether (count : Nat) (cancelled : List Nat)
  | serve (r : Reply)
  | renew

/-- What comes of it. -/
inductive Shown where
  | nothing
  | outcome (o : Outcome)
  | dependencies (r : Except FindError (List Dependency))
  | answers (xs : List Answer)

/-- What comes of something that is done with a session, and the session afterwards. -/
def Session.act (s : Session) : Action → Logged (Shown × Session)
  | .load => do
    let (o, s) ← s.load
    return (.outcome o, s)
  | .find source => do
    let (r, s) ← s.find source
    return (.dependencies r, s)
  | .loadTogether count cancelled => do
    let (xs, s) ← s.loadTogether count cancelled
    return (.answers xs, s)
  | .serve r => return (.nothing, s.serve r)
  | .renew => return (.nothing, s.renew)

/-- What comes of all that is done with a session, one after the other. -/
def Session.actAll (s : Session) : List Action → Logged (List Shown × Session)
  | [] => return ([], s)
  | a :: rest => do
    let (x, s) ← s.act a
    let (xs, s) ← s.actAll rest
    return (x :: xs, s)

section

variable {s t : Session}

theorem Session.Alike.act (h : s.Alike t) (a : Action) :
    Logged.Rel (Beside Session.Alike) (s.act a) (t.act a) := by
  cases a with
  | load =>
    apply h.load.bind
    rintro ⟨o, s'⟩ ⟨_, t'⟩ ⟨rfl, h'⟩
    exact .pure ⟨rfl, h'⟩
  | find source =>
    apply (h.find source).bind
    rintro ⟨r, s'⟩ ⟨_, t'⟩ ⟨rfl, h'⟩
    exact .pure ⟨rfl, h'⟩
  | loadTogether count cancelled =>
    apply (h.loadTogether count cancelled).bind
    rintro ⟨xs, s'⟩ ⟨_, t'⟩ ⟨rfl, h'⟩
    exact .pure ⟨rfl, h'⟩
  | serve r => exact .pure ⟨rfl, { h with reply := rfl }⟩
  | renew =>
    have hgeneration : s.generation + 1 = t.generation + 1 := by rw [h.generation]
    exact .pure ⟨rfl, { h with
      loader := ⟨rfl, .nil⟩, generation := hgeneration, earlier := h.requests }⟩

theorem Session.Alike.actAll (h : s.Alike t) (actions : List Action) :
    Logged.Rel (Beside Session.Alike) (s.actAll actions) (t.actAll actions) := by
  induction actions generalizing s t with
  | nil => exact .pure ⟨rfl, h⟩
  | cons a rest ih =>
    rw [Session.actAll, Session.actAll]
    apply (h.act a).bind
    rintro ⟨x, s'⟩ ⟨_, t'⟩ ⟨rfl, h'⟩
    apply (ih h').bind
    rintro ⟨xs, s''⟩ ⟨_, t''⟩ ⟨rfl, h''⟩
    exact .pure ⟨rfl, h''⟩

end

/-! ## New sessions -/

/-- Nothing tells the configurations apart but the header of requests. -/
structure Conceals (c d : Config) : Prop where
  /-- They are shown in the same way. -/
  text : c.text = d.text
  /-- The same comes of all that is done with new sessions. -/
  shown : ∀ r actions, ((Session.fresh c r).actAll actions).value.1 =
    ((Session.fresh d r).actAll actions).value.1
  /-- The same is noted. -/
  noted : ∀ r actions, ((Session.fresh c r).actAll actions).records =
    ((Session.fresh d r).actAll actions).records
  /-- The requests differ only in the header that authorizes them. -/
  sent : ∀ r actions, List.Forall₂ Request.Alike
    ((Session.fresh c r).actAll actions).value.2.requests
    ((Session.fresh d r).actAll actions).value.2.requests
  /-- All callers get the same, in whatever order they ask, go on and give up. -/
  granted : ∀ r es, ((Session.fresh c r).after es).results = ((Session.fresh d r).after es).results
  /-- The same is noted in all of these orders. -/
  notedTogether : ∀ r es, ((Session.fresh c r).run es).records =
    ((Session.fresh d r).run es).records
  /-- The requests differ only in the header in all of these orders. -/
  sentTogether : ∀ r es, List.Forall₂ Request.Alike ((Session.fresh c r).after es).requests
    ((Session.fresh d r).after es).requests

theorem Session.Alike.fresh {c d : Config} (h : c.Alike d) (r : Reply) :
    (Session.fresh c r).Alike (.fresh d r) where
  config := h
  loader := ⟨rfl, .nil⟩
  generation := rfl
  reply := rfl
  earlier := .nil
  waiting := rfl
  results := rfl

theorem Config.Alike.conceals {c d : Config} (h : c.Alike d) : Conceals c d where
  text := text_alike h
  shown := fun r actions => ((Session.Alike.fresh h r).actAll actions).value.1
  noted := fun r actions => ((Session.Alike.fresh h r).actAll actions).records
  sent := fun r actions => ((Session.Alike.fresh h r).actAll actions).value.2.requests
  granted := fun r es => ((Session.Alike.fresh h r).run es).value.results
  notedTogether := fun r es => ((Session.Alike.fresh h r).run es).records
  sentTogether := fun r es => ((Session.Alike.fresh h r).run es).value.requests

end Cluster

end ScriptDeps
