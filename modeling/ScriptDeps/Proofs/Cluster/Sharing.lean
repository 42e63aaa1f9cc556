import ScriptDeps.Cluster.Session

namespace ScriptDeps.Cluster

/-! # Callers share one load

Callers ask, go on and give up in any order, while the load has its turn and the cluster changes its
reply. Whatever the order is, there is at most one request, the load is settled once, and everyone
who does not give up gets what it was settled with. Main statements:

* `next_moves`: what an event can do to a session;
* `Sound.next`: what every event preserves;
* `Agree.after`: runs that differ by who gives up give the others the same;
* `after_alone`: asking alone is the same with nobody else in between;
* `loadsOnce`: all of this for every run of a new session.
-/

/-! ## Runs -/

/-- A load as callers see it. -/
inductive Phase where
  | unloaded
  | pending
  | settled (o : Outcome)

/-- The phase of a load. -/
def Loader.phase (l : Loader) : Phase :=
  match l.load with
  | none => .unloaded
  | some .begun => .pending
  | some .sent => .pending
  | some (.settled o) => .settled o

/-- A load goes from one phase to the next one or stays where it is. -/
inductive Advances : Phase → Phase → Prop
  | stays (p : Phase) : Advances p p
  | begins : Advances .unloaded .pending
  | settles (o : Outcome) : Advances .pending (.settled o)

/-- What a caller with the task gets after a load, whatever is noted. -/
def Task.given (t : Task) (o : Outcome) : Result := (t.result o).value

/-- The caller who asks by an event. -/
def Event.caller? : Event → Option Caller
  | .call k => some k
  | _ => none

/-- The event does not let one of these callers give up. -/
def Event.spares (gone : Caller → Bool) : Event → Bool
  | .cancel k => !gone k
  | _ => true

/-- The events in which none of these callers gives up. -/
def sparing (gone : Caller → Bool) (es : List Event) : List Event := es.filter (·.spares gone)

namespace Session

/-- A session that has loaded nothing. -/
def fresh (c : Config) (r : Reply) : Session := { config := c, reply := r }

/-- The session after an event. -/
def next (s : Session) (e : Event) : Session := (s.step e).value

/-- The session after events. -/
def after (s : Session) (es : List Event) : Session := (s.run es).value

/-- The phase of the load. -/
def phase (s : Session) : Phase := s.loader.phase

theorem release_waiting (s : Session) (k : Caller) (r : Result) :
    (s.release k r).waiting = s.waiting.erase k := rfl

theorem release_results (s : Session) (k : Caller) (r : Result) :
    (s.release k r).results = s.results ++ [(k, r)] := rfl

@[simp] theorem after_nil (s : Session) : s.after [] = s := rfl

@[simp] theorem after_cons (s : Session) (e : Event) (es : List Event) :
    s.after (e :: es) = (s.next e).after es := rfl

theorem after_append (s : Session) (es fs : List Event) :
    s.after (es ++ fs) = (s.after es).after fs := by
  induction es generalizing s with
  | nil => rfl
  | cons e es ih => rw [List.cons_append, after_cons, after_cons, ih]

end Session

/-! ## What an event can do -/

theorem receive_value (c : Config) (r : Reply) : (c.receive r).value = outcome r := by
  unfold Config.receive
  cases outcome r with
  | ok catalog => rfl
  | error e =>
    cases e with
    | catalog e => cases e <;> rfl
    | badUrl e => rfl
    | unencodable e => rfl
    | other kind m => rfl

theorem outcome?_eq_some {l : Loader} {o : Outcome} :
    l.outcome? = some o ↔ l.load = some (.settled o) := by
  rw [Loader.outcome?]
  constructor
  · intro h
    split at h
    · next hload =>
      cases h
      exact hload
    · cases h
  · intro h
    rw [h]

/-- What an event can do to a session. -/
inductive Moves (s : Session) : Event → Session → Prop
  | first {k : Caller} :
      s.loader.load = none →
      Moves s (.call k)
        { s with loader := { s.loader with load := some .begun }, waiting := s.waiting ++ [k] }
  | joins {k : Caller} :
      s.loader.load = some .begun ∨ s.loader.load = some .sent →
      Moves s (.call k) { s with waiting := s.waiting ++ [k] }
  | late {k : Caller} {o : Outcome} :
      s.loader.load = some (.settled o) →
      Moves s (.call k) (s.grant k (k.task.given o))
  | refused {e : LoadError} :
      s.loader.load = some .begun →
      Moves s .turn { s with loader := { s.loader with load := some (.settled (.error e)) } }
  | sends {q : Request} :
      s.loader.load = some .begun →
      Moves s .turn { s with loader := ⟨some .sent, s.loader.requests ++ [q]⟩ }
  | serves {r : Reply} : Moves s (.serve r) { s with reply := r }
  | settles :
      s.loader.load = some .sent →
      Moves s .arrive { s with loader := { s.loader with load := some (.settled (outcome s.reply)) } }
  | resumes {k : Caller} {o : Outcome} :
      s.loader.load = some (.settled o) → k ∈ s.waiting →
      Moves s (.resume k) (s.release k (k.task.given o))
  | cancels {k : Caller} :
      k ∈ s.waiting →
      Moves s (.cancel k) (s.release k .cancelled)
  | ignored {e : Event} : e.caller? = none → Moves s e s

theorem next_call {s : Session} {o : Outcome} (h : s.loader.load = some (.settled o))
    (k : Caller) : s.next (.call k) = s.grant k (k.task.given o) := by
  have hstart : s.loader.start s.config = pure s.loader := by rw [Loader.start, h]
  rw [Session.next, Session.step, hstart, Logged.bind_value, Logged.pure_value,
    outcome?_eq_some.2 h]
  rfl

theorem next_resume {s : Session} {o : Outcome} (h : s.loader.load = some (.settled o))
    (k : Caller) :
    s.next (.resume k) = if k ∈ s.waiting then s.release k (k.task.given o) else s := by
  rw [Session.next, Session.step, outcome?_eq_some.2 h]
  by_cases hk : k ∈ s.waiting
  · simp only [if_pos hk]
    rfl
  · simp only [if_neg hk]
    rfl

theorem next_cancel (s : Session) (k : Caller) :
    s.next (.cancel k) = if k ∈ s.waiting then s.release k .cancelled else s := rfl

/-- Every event does one of these things. -/
theorem next_moves (s : Session) (e : Event) : Moves s e (s.next e) := by
  -- what an event does depends on how far the load has come
  cases e with
  | call k =>
    obtain ⟨config, ⟨load, requests⟩, generation, reply, earlier, waiting, results⟩ := s
    rcases load with _ | _ | _ | o
    · exact .first rfl
    · exact .joins (Or.inl rfl)
    · exact .joins (Or.inr rfl)
    · exact .late rfl
  | turn =>
    obtain ⟨config, ⟨load, requests⟩, generation, reply, earlier, waiting, results⟩ := s
    rcases load with _ | _ | _ | o
    · exact .ignored rfl
    · rcases hprepare : config.prepare with ⟨e | q, records⟩
      · simp only [Session.next, Session.step, Loader.turn, hprepare, Logged.bind_value]
        exact .refused rfl
      · simp only [Session.next, Session.step, Loader.turn, hprepare, Logged.bind_value]
        exact .sends rfl
    · exact .ignored rfl
    · exact .ignored rfl
  | serve r => exact .serves
  | arrive =>
    obtain ⟨config, ⟨load, requests⟩, generation, reply, earlier, waiting, results⟩ := s
    rcases load with _ | _ | _ | o
    · exact .ignored rfl
    · exact .ignored rfl
    · simp only [Session.next, Session.step, Loader.receive, Logged.bind_value, receive_value]
      exact .settles rfl
    · exact .ignored rfl
  | resume k =>
    cases houtcome : s.loader.outcome? with
    | none =>
      rw [Session.next, Session.step, houtcome]
      exact .ignored rfl
    | some o =>
      have hload := outcome?_eq_some.1 houtcome
      rw [next_resume hload]
      split
      · next hk => exact .resumes hload hk
      · exact .ignored rfl
  | cancel k =>
    rw [next_cancel]
    split
    · next hk => exact .cancels hk
    · exact .ignored rfl

/-! ## The phases of a load -/

/-- An event moves the load by at most one phase. -/
theorem advances_next (s : Session) (e : Event) : Advances s.phase (s.next e).phase := by
  have hmoves := next_moves s e
  generalize s.next e = s' at hmoves
  cases hmoves with
  | first hload =>
    have hphase : s.phase = .unloaded := by rw [Session.phase, Loader.phase, hload]
    rw [hphase]
    exact .begins
  | refused hload =>
    have hphase : s.phase = .pending := by rw [Session.phase, Loader.phase, hload]
    rw [hphase]
    exact .settles _
  | sends hload =>
    have hphase : s.phase = .pending := by rw [Session.phase, Loader.phase, hload]
    rw [hphase]
    exact .stays _
  | settles hload =>
    have hphase : s.phase = .pending := by rw [Session.phase, Loader.phase, hload]
    rw [hphase]
    exact .settles _
  | joins _ => exact .stays _
  | late _ => exact .stays _
  | serves => exact .stays _
  | resumes _ _ => exact .stays _
  | cancels _ => exact .stays _
  | ignored _ => exact .stays _

theorem phase_settled_iff {s : Session} {o : Outcome} :
    s.phase = .settled o ↔ s.loader.load = some (.settled o) := by
  rw [Session.phase, Loader.phase]
  constructor
  · intro h
    split at h
    · cases h
    · cases h
    · cases h
    · next hload =>
      cases h
      exact hload
  · intro h
    rw [h]

/-- A settled load stays settled with the same outcome. -/
theorem settled_after {s : Session} {o : Outcome} (h : s.phase = .settled o) (es : List Event) :
    (s.after es).phase = .settled o := by
  induction es generalizing s with
  | nil => exact h
  | cons e es ih =>
    have hnext : (s.next e).phase = .settled o := by
      have hadvances := advances_next s e
      rw [h] at hadvances
      generalize (s.next e).phase = p at hadvances ⊢
      cases hadvances with
      | stays => rfl
    exact ih hnext

/-- Once somebody asked, the load is settled when it has had its turn and the reply arrived. -/
theorem settles_after {s : Session} (h : s.loader.load ≠ none) :
    ∃ o, (s.after [.turn, .arrive]).phase = .settled o := by
  obtain ⟨config, ⟨load, requests⟩, generation, reply, earlier, waiting, results⟩ := s
  rcases load with _ | _ | _ | o
  · exact absurd rfl h
  · rcases hprepare : config.prepare with ⟨e | q, records⟩
    · refine ⟨.error e, ?_⟩
      simp [Session.next, Session.step, Loader.turn, Loader.receive, hprepare, Session.phase,
        Loader.phase]
    · refine ⟨outcome reply, ?_⟩
      simp [Session.next, Session.step, Loader.turn, Loader.receive, hprepare, Session.phase,
        Loader.phase, receive_value]
  · refine ⟨outcome reply, ?_⟩
    simp [Session.next, Session.step, Loader.turn, Loader.receive, Session.phase, Loader.phase,
      receive_value]
  · exact ⟨o, settled_after rfl _⟩

/-! ## What every event preserves -/

/-- What a caller gets who gave up, or after the load was settled. -/
def Due (past : List Event) (p : Phase) (k : Caller) (r : Result) : Prop :=
  r = .cancelled ∧ .cancel k ∈ past ∨ ∃ o, p = .settled o ∧ r = k.task.given o

/-- The callers who asked. -/
def callers (past : List Event) : List Caller := past.filterMap Event.caller?

/-- A session after events that were given to a new one. -/
structure Sound (past : List Event) (s : Session) : Prop where
  single : s.loader.requests.length ≤ 1
  unsent : s.loader.load = none ∨ s.loader.load = some .begun → s.loader.requests = []
  idle : s.loader.load = none → s.waiting = []
  /-- Every caller waits or has got one result. -/
  once : (callers past).Perm (s.waiting ++ s.results.map (·.1))
  /-- Only who gave up gets something else than what the load was settled with. -/
  due : ∀ k r, (k, r) ∈ s.results → Due past s.phase k r

theorem Sound.fresh (c : Config) (r : Reply) : Sound [] (.fresh c r) where
  single := Nat.zero_le 1
  unsent := fun _ => rfl
  idle := fun _ => rfl
  once := List.Perm.refl _
  due := fun _ _ h => absurd h List.not_mem_nil

section

variable {callers waiting answered : List Caller} {k : Caller}

/-- Who asks waits or is answered. -/
theorem perm_ask (h : callers.Perm (waiting ++ answered)) :
    (callers ++ [k]).Perm (waiting ++ [k] ++ answered) ∧
      (callers ++ [k]).Perm (waiting ++ (answered ++ [k])) := by
  constructor
  · have hswap : (answered ++ [k]).Perm ([k] ++ answered) := List.perm_append_comm
    have hall := h.append_right [k]
    rw [List.append_assoc] at hall
    rw [List.append_assoc]
    exact hall.trans (hswap.append_left waiting)
  · rw [← List.append_assoc]
    exact h.append_right [k]

/-- Who waits can be answered. -/
theorem perm_answer (h : callers.Perm (waiting ++ answered)) (hk : k ∈ waiting) :
    callers.Perm (waiting.erase k ++ (answered ++ [k])) := by
  have hsplit : waiting.Perm (waiting.erase k ++ [k]) :=
    (List.perm_cons_erase hk).trans (List.perm_append_singleton k (waiting.erase k)).symm
  have hswap : ([k] ++ answered).Perm (answered ++ [k]) := List.perm_append_comm
  have hall := h.trans (hsplit.append_right answered)
  rw [List.append_assoc] at hall
  exact hall.trans (hswap.append_left (waiting.erase k))

end

theorem callers_append (past : List Event) (e : Event) :
    callers (past ++ [e]) = callers past ++ e.caller?.toList := by
  rw [callers, List.filterMap_append, List.filterMap_cons, List.filterMap_nil]
  cases e.caller? <;> rfl

/-- What was due stays due. -/
theorem Due.later {past : List Event} {p q : Phase} {k : Caller} {r : Result}
    (h : Due past p k r) (hpq : Advances p q) (e : Event) : Due (past ++ [e]) q k r := by
  rcases h with ⟨hcancelled, hmem⟩ | ⟨o, rfl, hgiven⟩
  · exact Or.inl ⟨hcancelled, List.mem_append_left _ hmem⟩
  · cases hpq with
    | stays => exact Or.inr ⟨o, rfl, hgiven⟩

section

variable {past : List Event} {s : Session} {e : Event}

theorem Sound.due_later (h : Sound past s) {p : Phase} (hp : Advances s.phase p) :
    ∀ k r, (k, r) ∈ s.results → Due (past ++ [e]) p k r :=
  fun k r hr => (h.due k r hr).later hp e

/-- One more result that is due. -/
theorem Sound.due_grant (h : Sound past s) {k : Caller} {r : Result}
    (hr : Due (past ++ [e]) s.phase k r) :
    ∀ k' r', (k', r') ∈ s.results ++ [(k, r)] → Due (past ++ [e]) s.phase k' r' := by
  intro k' r' hmem
  rcases List.mem_append.1 hmem with hmem | hmem
  · exact h.due_later (.stays _) k' r' hmem
  · cases List.mem_singleton.1 hmem
    exact hr

/-- No caller asks by the event. -/
theorem Sound.once_later (h : Sound past s) (he : e.caller? = none) :
    (callers (past ++ [e])).Perm (s.waiting ++ s.results.map (·.1)) := by
  rw [callers_append, he, Option.toList_none, List.append_nil]
  exact h.once

/-- A caller who waits gets what is due. -/
theorem Sound.release (h : Sound past s) (he : e.caller? = none) {k : Caller} {r : Result}
    (hk : k ∈ s.waiting) (hr : Due (past ++ [e]) s.phase k r) :
    Sound (past ++ [e]) (s.release k r) where
  single := h.single
  unsent := h.unsent
  idle := fun hnone => by
    have hidle : s.waiting = [] := h.idle hnone
    rw [hidle] at hk
    exact absurd hk List.not_mem_nil
  once := by
    rw [Session.release_waiting, Session.release_results, List.map_append]
    exact (h.once_later he).trans (perm_answer (List.Perm.refl _) hk)
  due := h.due_grant hr

/-- Events preserve all this. -/
theorem Sound.next (h : Sound past s) (e : Event) : Sound (past ++ [e]) (s.next e) := by
  have hlater := h.due_later (e := e) (advances_next s e)
  have hmoves := next_moves s e
  generalize s.next e = s' at hmoves hlater
  -- requests are made by one move only, and callers are answered by three
  cases hmoves with
  | first hload =>
    refine ⟨h.single, fun _ => h.unsent (Or.inl hload), nofun, ?_, hlater⟩
    rw [callers_append]
    exact (perm_ask h.once).1
  | joins hload =>
    refine ⟨h.single, h.unsent, fun hnone => ?_, ?_, hlater⟩
    · have hnone : s.loader.load = none := hnone
      rw [hnone] at hload
      rcases hload with hload | hload <;> cases hload
    · rw [callers_append]
      exact (perm_ask h.once).1
  | @late k o hload =>
    refine ⟨h.single, h.unsent, h.idle, ?_, ?_⟩
    · rw [callers_append, Session.grant, List.map_append]
      exact (perm_ask h.once).2
    · exact h.due_grant (Or.inr ⟨o, phase_settled_iff.2 hload, rfl⟩)
  | refused hload =>
    exact ⟨h.single, fun _ => h.unsent (Or.inr hload), nofun, h.once_later rfl, hlater⟩
  | @sends q hload =>
    refine ⟨?_, ?_, nofun, h.once_later rfl, hlater⟩
    · rw [h.unsent (Or.inr hload)]
      exact Nat.le_refl 1
    · rintro (hnone | hbegun)
      · cases hnone
      · cases hbegun
  | serves => exact ⟨h.single, h.unsent, h.idle, h.once_later rfl, hlater⟩
  | settles hload =>
    refine ⟨h.single, ?_, nofun, h.once_later rfl, hlater⟩
    rintro (hnone | hbegun)
    · cases hnone
    · cases hbegun
  | @resumes k o hload hk =>
    exact h.release rfl hk (Or.inr ⟨o, phase_settled_iff.2 hload, rfl⟩)
  | @cancels k hk =>
    exact h.release rfl hk (Or.inl ⟨rfl, List.mem_append_right _ List.mem_cons_self⟩)
  | ignored hnone => exact ⟨h.single, h.unsent, h.idle, h.once_later hnone, hlater⟩

end

theorem Sound.after {past : List Event} {s : Session} (h : Sound past s) (es : List Event) :
    Sound (past ++ es) (s.after es) := by
  induction es generalizing past s with
  | nil => simpa using h
  | cons e es ih => simpa using ih (h.next e)

/-! ## Who gives up -/

/-- Two sessions agree about everything that concerns callers other than those who are gone. -/
structure Agree (gone : Caller → Bool) (s t : Session) : Prop where
  config : s.config = t.config
  loader : s.loader = t.loader
  reply : s.reply = t.reply
  waiting : s.waiting.filter (fun k => !gone k) = t.waiting.filter fun k => !gone k
  results : s.results.filter (fun x => !gone x.1) = t.results.filter fun x => !gone x.1

theorem Agree.refl (gone : Caller → Bool) (s : Session) : Agree gone s s :=
  ⟨rfl, rfl, rfl, rfl, rfl⟩

theorem Agree.symm {gone : Caller → Bool} {s t : Session} (h : Agree gone s t) : Agree gone t s :=
  ⟨h.config.symm, h.loader.symm, h.reply.symm, h.waiting.symm, h.results.symm⟩

section

variable {gone : Caller → Bool} {s t : Session} {k : Caller}

/-- A caller who is not gone waits in both sessions or in none. -/
theorem Agree.mem_waiting (h : Agree gone s t) (hk : gone k = false) :
    k ∈ s.waiting ↔ k ∈ t.waiting := by
  have hmem : ∀ u : Session, k ∈ u.waiting ↔ k ∈ u.waiting.filter fun k => !gone k := by
    intro u
    rw [List.mem_filter, hk]
    simp
  rw [hmem s, hmem t, h.waiting]

theorem Agree.release (h : Agree gone s t) (k : Caller) (r : Result) :
    Agree gone (s.release k r) (t.release k r) := by
  refine ⟨h.config, h.loader, h.reply, ?_, ?_⟩
  · rw [Session.release_waiting, Session.release_waiting, ← List.erase_filter,
      ← List.erase_filter, h.waiting]
  · rw [Session.release_results, Session.release_results, List.filter_append,
      List.filter_append, h.results]

/-- What a caller gets who is gone does not matter. -/
theorem Agree.release_left (h : Agree gone s t) (hk : gone k = true) (r : Result) :
    Agree gone (s.release k r) t := by
  refine ⟨h.config, h.loader, h.reply, ?_, ?_⟩
  · have hnone : k ∉ s.waiting.filter fun k => !gone k := by
      rw [List.mem_filter, hk]
      simp
    rw [Session.release_waiting, ← List.erase_filter, List.erase_of_not_mem hnone, h.waiting]
  · rw [Session.release_results, List.filter_append, h.results]
    simp [hk]

/-- Both sessions give a caller the result, if the caller waits there. -/
theorem Agree.released (h : Agree gone s t) (k : Caller) (r : Result) :
    Agree gone (if k ∈ s.waiting then s.release k r else s)
      (if k ∈ t.waiting then t.release k r else t) := by
  cases hk : gone k with
  | false =>
    by_cases hwaits : k ∈ s.waiting
    · rw [if_pos hwaits, if_pos ((h.mem_waiting hk).1 hwaits)]
      exact h.release k r
    · rw [if_neg hwaits, if_neg (mt (h.mem_waiting hk).2 hwaits)]
      exact h
  | true =>
    have hleft : Agree gone (if k ∈ s.waiting then s.release k r else s) t := by
      split
      · exact h.release_left hk r
      · exact h
    by_cases hwaits : k ∈ t.waiting
    · rw [if_pos hwaits]
      exact (hleft.symm.release_left hk r).symm
    · rw [if_neg hwaits]
      exact hleft

/-- The sessions go on to agree. -/
theorem Agree.next (h : Agree gone s t) (e : Event) : Agree gone (s.next e) (t.next e) := by
  -- who gives up changes only who waits and who was given what
  cases e with
  | resume k =>
    cases houtcome : s.loader.outcome? with
    | none =>
      have hother := houtcome
      rw [h.loader] at hother
      rw [Session.next, Session.step, houtcome, Session.next, Session.step, hother]
      exact h
    | some o =>
      have hload := outcome?_eq_some.1 houtcome
      have hother := hload
      rw [h.loader] at hother
      rw [next_resume hload, next_resume hother]
      exact h.released k _
  | cancel k =>
    rw [next_cancel, next_cancel]
    exact h.released k _
  | call k =>
    obtain ⟨config, ⟨load, requests⟩, _, reply, _, waiting, results⟩ := s
    obtain ⟨_, _, _, _, _, waiting', results'⟩ := t
    obtain ⟨rfl, rfl, rfl, hwaiting, hresults⟩ := h
    have hjoined : (waiting ++ [k]).filter (fun k => !gone k) =
        (waiting' ++ [k]).filter fun k => !gone k := by
      rw [List.filter_append, List.filter_append, hwaiting]
    rcases load with _ | _ | _ | o
    · exact ⟨rfl, rfl, rfl, hjoined, hresults⟩
    · exact ⟨rfl, rfl, rfl, hjoined, hresults⟩
    · exact ⟨rfl, rfl, rfl, hjoined, hresults⟩
    · refine ⟨rfl, rfl, rfl, hwaiting, ?_⟩
      have hgranted : (results ++ [(k, k.task.given o)]).filter (fun x => !gone x.1) =
          (results' ++ [(k, k.task.given o)]).filter fun x => !gone x.1 := by
        rw [List.filter_append, List.filter_append, hresults]
      exact hgranted
  | turn =>
    refine ⟨h.config, ?_, h.reply, h.waiting, h.results⟩
    rw [Session.next, Session.next, Session.step, Session.step, h.loader, h.config]
    rfl
  | serve r => exact ⟨h.config, h.loader, rfl, h.waiting, h.results⟩
  | arrive =>
    refine ⟨h.config, ?_, h.reply, h.waiting, h.results⟩
    rw [Session.next, Session.next, Session.step, Session.step, h.loader, h.config, h.reply]
    rfl

/-- If callers who are gone give up in one session only, the others do not notice. -/
theorem Agree.after (h : Agree gone s t) (es : List Event) :
    Agree gone (s.after es) (t.after (sparing gone es)) := by
  induction es generalizing s t with
  | nil => exact h
  | cons e es ih =>
    cases hspares : e.spares gone with
    | true =>
      rw [sparing, List.filter_cons_of_pos hspares]
      exact ih (h.next e)
    | false =>
      rw [sparing, List.filter_cons_of_neg (by rw [hspares]; exact Bool.false_ne_true)]
      refine ih ?_
      cases e with
      | cancel k =>
        have hk : gone k = true := by simpa [Event.spares] using hspares
        have hnext : Agree gone (s.next (.cancel k)) t := by
          rw [next_cancel]
          split
          · exact h.release_left hk .cancelled
          · exact h
        exact hnext
      | _ => cases hspares

end

/-! ## Who waits -/

/-- Who waits gets what the load is settled with when it has had its turn and the reply arrived. -/
theorem Sound.awaited {past : List Event} {s : Session} (h : Sound past s) {k : Caller}
    (hk : k ∈ s.waiting) :
    ∃ o, (s.after [.turn, .arrive]).phase = .settled o ∧
      (k, k.task.given o) ∈ (s.after [.turn, .arrive, .resume k]).results := by
  -- nobody waits before the load has begun
  have hstarted : s.loader.load ≠ none := by
    intro hnone
    rw [h.idle hnone] at hk
    exact absurd hk List.not_mem_nil
  obtain ⟨o, ho⟩ := settles_after hstarted
  have hwaits : k ∈ (s.after [.turn, .arrive]).waiting := hk
  have hresume : s.after [.turn, .arrive, .resume k] =
      (s.after [.turn, .arrive]).release k (k.task.given o) := by
    have hnext := next_resume (phase_settled_iff.1 ho) k
    rw [if_pos hwaits] at hnext
    exact hnext
  refine ⟨o, ho, ?_⟩
  rw [hresume, Session.release_results]
  exact List.mem_append_right _ List.mem_cons_self

/-! ## One caller at a time -/

/-- Who asks alone gets what the load is settled with at once: the load has its turn, the reply
arrives, and the caller goes on. -/
theorem after_alone {s : Session} {k : Caller} (hk : k ∉ s.waiting) :
    s.after [.call k, .turn, .arrive, .resume k] =
      s.load.value.2.grant k (k.task.given s.load.value.1) := by
  obtain ⟨config, ⟨load, requests⟩, generation, reply, earlier, waiting, results⟩ := s
  have hk : k ∉ waiting := hk
  have herase : (waiting ++ [k]).erase k = waiting := by
    rw [List.erase_append_right _ hk, List.erase_cons_head, List.append_nil]
  have hmem : k ∈ waiting ++ [k] := List.mem_append_right _ List.mem_cons_self
  -- how far the load has come, and whether a request can be made
  rcases load with _ | _ | _ | o <;> rcases hprepare : config.prepare with ⟨e | q, records⟩ <;>
    simp [Session.next, Session.step, Session.load, Session.release, Session.grant, Loader.start,
      Loader.turn, Loader.receive, Loader.outcome?, Loader.demand, Loader.settle, Task.given,
      receive_value, hprepare, herase, hmem, hk]

/-- After the load was settled, the dependencies of a source depend on nothing else. -/
theorem find_settled {s : Session} {o : Outcome} (h : s.phase = .settled o) (source : ByteArray) :
    (s.find source).value.1 = (findAfter source o).value := by
  have hload := phase_settled_iff.1 h
  have hdemand : s.loader.demand s.config s.reply = pure (o, s.loader) := by
    rw [Loader.demand, hload]
  rw [Session.find, Session.load, hdemand]
  rfl

/-! ## Every run -/

/-- No event changes the configuration, or what was sent by earlier sessions. -/
theorem unchanged_after (s : Session) (es : List Event) :
    (s.after es).config = s.config ∧ (s.after es).earlier = s.earlier := by
  induction es generalizing s with
  | nil => exact ⟨rfl, rfl⟩
  | cons e es ih =>
    have hnext : (s.next e).config = s.config ∧ (s.next e).earlier = s.earlier := by
      have hmoves := next_moves s e
      generalize s.next e = s' at hmoves ⊢
      cases hmoves <;> exact ⟨rfl, rfl⟩
    obtain ⟨hconfig, hearlier⟩ := ih (s.next e)
    exact ⟨hconfig.trans hnext.1, hearlier.trans hnext.2⟩

/-- What holds of a new session after the events. -/
structure LoadsOnce (s : Session) (es : List Event) : Prop where
  /-- At most one request is sent. -/
  single : (s.after es).requests.length ≤ 1
  /-- An event moves the load by at most one phase. -/
  advances : ∀ past e rest, es = past ++ e :: rest →
    Advances (s.after past).phase (s.after (past ++ [e])).phase
  /-- The load keeps what it was settled with. -/
  kept : ∀ past rest o, es = past ++ rest → (s.after past).phase = .settled o →
    (s.after es).phase = .settled o
  /-- Every caller waits or has got one result. -/
  once : (callers es).Perm ((s.after es).waiting ++ (s.after es).results.map (·.1))
  /-- Everyone has got what the load was settled with, except those who gave up. -/
  due : ∀ k r, (k, r) ∈ (s.after es).results → Due es (s.after es).phase k r
  /-- Everyone who waits gets it, too, when the load has had its turn and the reply arrived. -/
  awaited : ∀ k ∈ (s.after es).waiting, ∃ o,
    (s.after (es ++ [.turn, .arrive])).phase = .settled o ∧
      (k, k.task.given o) ∈ (s.after (es ++ [.turn, .arrive, .resume k])).results
  /-- Everyone who asks later gets it at once. -/
  later : ∀ o, (s.after es).phase = .settled o → ∀ k,
    (k, k.task.given o) ∈ (s.after (es ++ [.call k])).results
  /-- If any callers do not give up, the others get the same. -/
  others : ∀ gone : Caller → Bool,
    (s.after (sparing gone es)).requests = (s.after es).requests ∧
    (s.after (sparing gone es)).phase = (s.after es).phase ∧
    (s.after (sparing gone es)).results.filter (fun x => !gone x.1) =
      (s.after es).results.filter fun x => !gone x.1
  /-- At all later points, the dependencies of a source are the same. -/
  found : ∀ o, (s.after es).phase = .settled o → ∀ rest source,
    ((s.after (es ++ rest)).find source).value.1 = (findAfter source o).value

/-- Every run of a new session loads once. -/
theorem loadsOnce (c : Config) (r : Reply) (es : List Event) :
    LoadsOnce (Session.fresh c r) es := by
  have hsound := (Sound.fresh c r).after es
  rw [List.nil_append] at hsound
  have hrequests : ∀ fs, ((Session.fresh c r).after fs).requests =
      ((Session.fresh c r).after fs).loader.requests := by
    intro fs
    rw [Session.requests, (unchanged_after (Session.fresh c r) fs).2]
    rfl
  constructor
  case single =>
    rw [hrequests]
    exact hsound.single
  case advances =>
    intro past e rest _
    rw [Session.after_append]
    exact advances_next _ e
  case kept =>
    rintro past rest o rfl ho
    rw [Session.after_append]
    exact settled_after ho rest
  case once => exact hsound.once
  case due => exact hsound.due
  case awaited =>
    intro k hk
    simp only [Session.after_append]
    exact hsound.awaited hk
  case later =>
    intro o ho k
    rw [Session.after_append]
    rw [Session.after_cons, Session.after_nil, next_call (phase_settled_iff.1 ho)]
    exact List.mem_append_right _ List.mem_cons_self
  case others =>
    intro gone
    have hagree := (Agree.refl gone (Session.fresh c r)).after es
    rw [hrequests, hrequests, Session.phase, Session.phase, hagree.loader, hagree.results]
    exact ⟨rfl, rfl, rfl⟩
  case found =>
    intro o ho rest source
    rw [Session.after_append]
    exact find_settled (settled_after ho rest) source

end ScriptDeps.Cluster
