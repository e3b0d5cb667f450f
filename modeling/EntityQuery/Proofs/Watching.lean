import EntityQuery.Session.Run
import Mathlib.Tactic.Common
import Mathlib.Data.List.Forall2

/-!
# Watching a session

`Session.watched` is a session that does what another one does and writes down each call that is made to it or to one of
its rows: the call with its arguments, the reply, and the worlds before and after. What a statement asks of a session is
then what its run adds to that log.

* `Mirrors`: a program run on the watched session has the results, and leaves the world, that it has and leaves on the
  session itself.
* `Logs`: what a program adds to the log, its result and the worlds before and after fit together.
-/

namespace EntityQuery

variable {ω ρ ε ε' α β γ δ : Type}

/-! ## Outcomes of actions -/

namespace Action

def outcome (a : Action ω ε α) (w : ω) : Except ε α × ω := a.run.run w

variable {a : Action ω ε α} {f : α → Action ω ε β} {w w' : ω} {x : α} {e : ε}

theorem outcome_bind_ok (h : a.outcome w = (.ok x, w')) : (a >>= f).outcome w = (f x).outcome w' := by
  have hrun : (ExceptT.run a).run w = (.ok x, w') := h
  rw [outcome, ExceptT.run_bind, StateT.run_bind, hrun]
  rfl

theorem outcome_bind_error (h : a.outcome w = (.error e, w')) : (a >>= f).outcome w = (.error e, w') := by
  have hrun : (ExceptT.run a).run w = (.error e, w') := h
  rw [outcome, ExceptT.run_bind, StateT.run_bind, hrun]
  rfl

theorem outcome_tryCatch_ok {handler : ε → Action ω ε α} (h : a.outcome w = (.ok x, w')) :
    (tryCatch a handler).outcome w = (.ok x, w') := by
  have hrun : (ExceptT.run a).run w = (.ok x, w') := h
  rw [outcome, ExceptT.run_tryCatch, StateT.run_bind, hrun]
  rfl

theorem outcome_tryCatch_error {handler : ε → Action ω ε α} (h : a.outcome w = (.error e, w')) :
    (tryCatch a handler).outcome w = (handler e).outcome w' := by
  have hrun : (ExceptT.run a).run w = (.error e, w') := h
  rw [outcome, ExceptT.run_tryCatch, StateT.run_bind, hrun]
  rfl

theorem outcome_adapt (g : ε → ε') (a : Action ω ε α) (w : ω) :
    Action.outcome (ExceptT.adapt g a) w = ((a.outcome w).1.mapError g, (a.outcome w).2) := rfl

theorem outcome_withoutAutoPopulate (b : Backend ω ρ) (a : Action ω ε α) {previous : Bool} {v : ω}
    (hoff : (b.setAutoPopulate false).run w = (previous, v)) :
    (b.withoutAutoPopulate a).outcome w =
      ((a.outcome v).1, ((b.setAutoPopulate previous).run (a.outcome v).2).2) := by
  obtain ⟨rfl, rfl⟩ := Prod.mk.inj hoff
  rfl

def Returns (a : Action ω ε α) (x : α) : Prop := ∃ w w', a.outcome w = (.ok x, w')

theorem Returns.of_bind {y : β} (h : (a >>= f).Returns y) : ∃ x, a.Returns x ∧ (f x).Returns y := by
  obtain ⟨w, w', h⟩ := h
  rcases ha : a.outcome w with ⟨result, v⟩
  cases result with
  | ok x =>
    rw [outcome_bind_ok ha] at h
    exact ⟨x, ⟨w, v, ha⟩, v, w', h⟩
  | error e =>
    rw [outcome_bind_error ha] at h
    cases h

theorem Returns.of_adapt {g : ε → ε'} (h : Action.Returns (ExceptT.adapt g a : Action ω ε' α) x) : a.Returns x := by
  obtain ⟨w, w', h⟩ := h
  rcases ha : a.outcome w with ⟨result, v⟩
  rw [outcome_adapt, ha] at h
  cases result with
  | ok y =>
    cases h
    exact ⟨w, v, ha⟩
  | error e => cases h

end Action

/-! ## Calls and what came of them -/

inductive Call (ρ : Type) where
  | query (text : String) (pageSize : Option UInt32)
  /-- The row at this place in the answer to a query is fetched. -/
  | fetch (place : Nat)
  | create (entityType : String) (values : List (String × Value))
  | deleteEntity (row : ρ)
  | removeComponents (row : ρ)
  | assign (row : ρ) (field : String) (v : Value)
  | setAutoPopulate (enabled : Bool)
  | get (entityType : String) (id : Identifier)
  | ensure (entityType : String) (values : List (String × Value))
  deriving DecidableEq

inductive Reply (ρ : Type) where
  | done
  /-- A query was answered with so many rows, none of them fetched yet. -/
  | answer (rows : Nat)
  | row (row : ρ)
  /-- The setting before it was changed. -/
  | setting (previous : Bool)
  | failed (f : Failure)

structure Event (ω ρ : Type) where
  call : Call ρ
  before : ω
  reply : Reply ρ
  after : ω

namespace Event

def failure? (e : Event ω ρ) : Option Failure :=
  match e.reply with
  | .failed f => some f
  | _ => none

theorem reply_of_failure? {e : Event ω ρ} {f : Failure} (h : e.failure? = some f) : e.reply = .failed f := by
  rw [failure?] at h
  split at h
  · next hreply =>
    cases h
    exact hreply
  · cases h

def row? (e : Event ω ρ) : Option ρ :=
  match e.reply with
  | .row row => some row
  | _ => none

end Event

structure Watched (ω ρ : Type) where
  world : ω
  log : List (Event ω ρ) := []

def Reply.ofResult (reply : α → Reply ρ) : Except Failure α → Reply ρ
  | .ok x => reply x
  | .error f => .failed f

def noted (call : Call ρ) (reply : α → Reply ρ) (a : Action ω Failure α) : Action (Watched ω ρ) Failure α :=
  ExceptT.mk do
    let s ← get
    let (result, after) := a.outcome s.world
    set (σ := Watched ω ρ) ⟨after, s.log ++ [⟨call, s.world, .ofResult reply result, after⟩]⟩
    pure result

/-- The rows of an answer from this place on, each noted when it is fetched. -/
def watchedRows (place : Nat) : List (Action ω Failure ρ) → List (Action (Watched ω ρ) Failure ρ)
  | [] => []
  | fetch :: rest => noted (.fetch place) .row fetch :: watchedRows (place + 1) rest

def QueryResult.watched (result : QueryResult ω ρ) : QueryResult (Watched ω ρ) ρ :=
  ⟨result.query, watchedRows 0 result.rows⟩

/-- The backend with every call noted. Reading a field of a row changes nothing and is not noted. -/
def Backend.watched (b : Backend ω ρ) : Backend (Watched ω ρ) ρ where
  query text pageSize :=
    QueryResult.watched <$>
      noted (.query text pageSize) (fun result => .answer result.rows.length) (b.query text pageSize)
  create entityType values := noted (.create entityType values) .row (b.create entityType values)
  deleteEntity row := noted (.deleteEntity row) (fun _ => .done) (b.deleteEntity row)
  setAutoPopulate enabled := do
    let s ← get
    let (previous, after) := (b.setAutoPopulate enabled).run s.world
    set (σ := Watched ω ρ) ⟨after, s.log ++ [⟨.setAutoPopulate enabled, s.world, .setting previous, after⟩]⟩
    pure previous
  removeComponents row := noted (.removeComponents row) (fun _ => .done) (b.removeComponents row)
  pageSize := b.pageSize
  assign row field v := noted (.assign row field v) (fun _ => .done) (b.assign row field v)
  identifier := b.identifier
  entityType := b.entityType
  read row field := do
    let s ← get
    let (v, after) := (b.read row field).run s.world
    set (σ := Watched ω ρ) { s with world := after }
    pure v

def Session.watched (session : Session ω ρ) : Session (Watched ω ρ) ρ where
  toBackend := session.toBackend.watched
  get entityType id :=
    noted (.get entityType id) (fun found => found.elim .done .row) (session.get entityType id)
  ensure entityType values := noted (.ensure entityType values) .row (session.ensure entityType values)

def Backend.settingEvent (b : Backend ω ρ) (enabled : Bool) (w : ω) : Event ω ρ :=
  ⟨.setAutoPopulate enabled, w, .setting ((b.setAutoPopulate enabled).run w).1, ((b.setAutoPopulate enabled).run w).2⟩

theorem Backend.watched_setAutoPopulate (b : Backend ω ρ) (enabled : Bool) (s : Watched ω ρ) :
    (b.watched.setAutoPopulate enabled).run s = (((b.setAutoPopulate enabled).run s.world).1,
      ⟨((b.setAutoPopulate enabled).run s.world).2, s.log ++ [b.settingEvent enabled s.world]⟩) := rfl

/-! ## The watched run is the run -/

/-- Both are the same error, or both are results that are related. -/
inductive SameResult (R : α → β → Prop) : Except ε α → Except ε β → Prop
  | ok {x : α} {y : β} : R x y → SameResult R (.ok x) (.ok y)
  | error (e : ε) : SameResult R (.error e) (.error e)

/-- On the watched session the first program does what the second does on the session. -/
def Mirrors (R : α → β → Prop) (a : Action (Watched ω ρ) ε α) (b : Action ω ε β) : Prop :=
  ∀ s, SameResult R (a.outcome s).1 (b.outcome s.world).1 ∧ (a.outcome s).2.world = (b.outcome s.world).2

namespace Mirrors

variable {R : α → β → Prop} {S : γ → δ → Prop} {a : Action (Watched ω ρ) ε α} {b : Action ω ε β}

theorem pure {x : α} {y : β} (h : R x y) :
    Mirrors R (Pure.pure x : Action (Watched ω ρ) ε α) (Pure.pure y : Action ω ε β) :=
  fun _ => ⟨.ok h, rfl⟩

theorem throw (e : ε) :
    Mirrors R (MonadExcept.throw e : Action (Watched ω ρ) ε α) (MonadExcept.throw e : Action ω ε β) :=
  fun _ => ⟨.error e, rfl⟩

theorem bind {f : α → Action (Watched ω ρ) ε γ} {g : β → Action ω ε δ} (h : Mirrors R a b)
    (hnext : ∀ x y, R x y → Mirrors S (f x) (g y)) : Mirrors S (a >>= f) (b >>= g) := by
  intro s
  obtain ⟨hresult, hworld⟩ := h s
  rcases ha : a.outcome s with ⟨result, s'⟩
  rcases hb : b.outcome s.world with ⟨result', w'⟩
  rw [ha, hb] at hresult hworld
  cases hresult with
  | ok hxy =>
    obtain rfl : s'.world = w' := hworld
    rw [Action.outcome_bind_ok ha, Action.outcome_bind_ok hb]
    exact hnext _ _ hxy s'
  | error e =>
    rw [Action.outcome_bind_error ha, Action.outcome_bind_error hb]
    exact ⟨.error e, hworld⟩

theorem map {f : α → γ} {g : β → δ} (h : Mirrors R a b) (hfg : ∀ x y, R x y → S (f x) (g y)) :
    Mirrors S (f <$> a) (g <$> b) := by
  rw [map_eq_pure_bind, map_eq_pure_bind]
  exact h.bind fun x y hxy => .pure (hfg x y hxy)

theorem adapt (g : ε → ε') (h : Mirrors R a b) :
    Mirrors R (ExceptT.adapt g a : Action (Watched ω ρ) ε' α) (ExceptT.adapt g b : Action ω ε' β) := by
  intro s
  obtain ⟨hresult, hworld⟩ := h s
  rw [Action.outcome_adapt, Action.outcome_adapt]
  refine ⟨?_, hworld⟩
  generalize (a.outcome s).1 = result, (b.outcome s.world).1 = result' at hresult ⊢
  cases hresult with
  | ok hxy => exact .ok hxy
  | error e => exact .error (g e)

theorem noted (call : Call ρ) (reply : α → Reply ρ) (a : Action ω Failure α) :
    Mirrors Eq (noted call reply a) a := by
  intro s
  refine ⟨?_, rfl⟩
  change SameResult Eq (a.outcome s.world).1 (a.outcome s.world).1
  cases (a.outcome s.world).1 with
  | ok x => exact .ok rfl
  | error f => exact .error f

theorem withoutAutoPopulate (b' : Backend ω ρ) (h : Mirrors R a b) :
    Mirrors R (b'.watched.withoutAutoPopulate a) (b'.withoutAutoPopulate b) := by
  intro s
  rcases hoff : (b'.setAutoPopulate false).run s.world with ⟨previous, v⟩
  have hwatched : (b'.watched.setAutoPopulate false).run s =
      (previous, ⟨v, s.log ++ [b'.settingEvent false s.world]⟩) := by
    rw [Backend.watched_setAutoPopulate, hoff]
  obtain ⟨hresult, hworld⟩ := h ⟨v, s.log ++ [b'.settingEvent false s.world]⟩
  rw [Action.outcome_withoutAutoPopulate b'.watched a hwatched, Action.outcome_withoutAutoPopulate b' b hoff]
  refine ⟨hresult, ?_⟩
  rw [Backend.watched_setAutoPopulate, hworld]

theorem outcome_eq {b : Action ω ε α} (h : Mirrors Eq a b) (s : Watched ω ρ) :
    b.outcome s.world = ((a.outcome s).1, (a.outcome s).2.world) := by
  obtain ⟨hresult, hworld⟩ := h s
  refine Prod.ext ?_ hworld.symm
  change (b.outcome s.world).1 = (a.outcome s).1
  generalize (a.outcome s).1 = result, (b.outcome s.world).1 = result' at hresult ⊢
  cases hresult with
  | ok hxy => rw [hxy]
  | error e => rfl

end Mirrors

theorem mirrors_watchedRows (rows : List (Action ω Failure ρ)) (place : Nat) :
    List.Forall₂ (Mirrors Eq) (watchedRows place rows) rows := by
  induction rows generalizing place with
  | nil => exact .nil
  | cons fetch rest ih => exact .cons (.noted _ _ _) (ih (place + 1))

theorem mirrors_query (b : Backend ω ρ) (text : String) (pageSize : Option UInt32) :
    Mirrors (fun x y => x = y.watched) (b.watched.query text pageSize) (b.query text pageSize) := by
  have hnoted : Mirrors Eq (noted (.query text pageSize : Call ρ) (fun result => .answer result.rows.length)
      (b.query text pageSize)) (b.query text pageSize) := .noted _ _ _
  have hmap := hnoted.map (g := id) (S := fun x y => x = y.watched) fun x y hxy => congrArg QueryResult.watched hxy
  rwa [id_map] at hmap

theorem Backend.watched_query_returns (b : Backend ω ρ) {text : String} {pageSize : Option UInt32}
    {watched : QueryResult (Watched ω ρ) ρ} (h : (b.watched.query text pageSize).Returns watched) :
    ∃ result, (b.query text pageSize).Returns result ∧ watched = result.watched := by
  obtain ⟨s, s', hrun⟩ := h
  obtain ⟨hsame, -⟩ := mirrors_query b text pageSize s
  rw [hrun] at hsame
  rcases hquery : (b.query text pageSize).outcome s.world with ⟨answer, w'⟩
  rw [hquery] at hsame
  cases hsame with
  | ok hwatched => exact ⟨_, ⟨s.world, w', hquery⟩, hwatched⟩

/-! ## What is added to the log -/

/-- What the program adds to the log fits its result and the worlds before and after. -/
def Logs (a : Action (Watched ω ρ) ε α) (Q : ω → List (Event ω ρ) → Except ε α → ω → Prop) : Prop :=
  ∀ s, ∃ events, (a.outcome s).2.log = s.log ++ events ∧ Q s.world events (a.outcome s).1 (a.outcome s).2.world

namespace Logs

variable {a : Action (Watched ω ρ) ε α} {f : α → Action (Watched ω ρ) ε β}
  {Q Q' : ω → List (Event ω ρ) → Except ε α → ω → Prop} {T : ω → List (Event ω ρ) → Except ε β → ω → Prop}

theorem mono (h : Logs a Q) (hQ : ∀ w es r w', Q w es r w' → Q' w es r w') : Logs a Q' := by
  intro s
  obtain ⟨events, hlog, hfit⟩ := h s
  exact ⟨events, hlog, hQ _ _ _ _ hfit⟩

theorem returning (h : Logs a Q) : Logs a fun w es r w' => Q w es r w' ∧ ∀ x, r = .ok x → a.Returns x := by
  intro s
  obtain ⟨events, hlog, hfit⟩ := h s
  exact ⟨events, hlog, hfit, fun x hx => ⟨s, (a.outcome s).2, Prod.ext hx rfl⟩⟩

theorem pure {x : α} (h : ∀ w, Q w [] (.ok x) w) : Logs (Pure.pure x) Q :=
  fun s => ⟨[], (List.append_nil _).symm, h s.world⟩

theorem throw {e : ε} (h : ∀ w, Q w [] (.error e) w) : Logs (MonadExcept.throw e) Q :=
  fun s => ⟨[], (List.append_nil _).symm, h s.world⟩

/-- What is added by one program and then by the next, which is only run after a result of the first. -/
theorem bind {R : α → ω → List (Event ω ρ) → Except ε β → ω → Prop} (h : Logs a Q)
    (hnext : ∀ w es x w', Q w es (.ok x) w' → Logs (f x) (R x))
    (hok : ∀ w es x v es' r w', Q w es (.ok x) v → R x v es' r w' → T w (es ++ es') r w')
    (herror : ∀ w es e w', Q w es (.error e) w' → T w es (.error e) w') : Logs (a >>= f) T := by
  intro s
  obtain ⟨events, hlog, hfit⟩ := h s
  rcases ha : a.outcome s with ⟨result, s'⟩
  rw [ha] at hlog hfit
  cases result with
  | ok x =>
    obtain ⟨events', hlog', hfit'⟩ := hnext _ _ _ _ hfit s'
    rw [Action.outcome_bind_ok ha]
    refine ⟨events ++ events', ?_, hok _ _ _ _ _ _ _ hfit hfit'⟩
    rw [hlog', hlog, List.append_assoc]
  | error e =>
    rw [Action.outcome_bind_error ha]
    exact ⟨events, hlog, herror _ _ _ _ hfit⟩

theorem map {g : α → β} (h : Logs a Q) (hok : ∀ w es x w', Q w es (.ok x) w' → T w es (.ok (g x)) w')
    (herror : ∀ w es e w', Q w es (.error e) w' → T w es (.error e) w') : Logs (g <$> a) T := by
  rw [map_eq_pure_bind]
  have hpure (x : α) : Logs (Pure.pure (g x) : Action (Watched ω ρ) ε β)
      fun v es r w' => es = [] ∧ r = .ok (g x) ∧ w' = v := .pure fun w => ⟨rfl, rfl, rfl⟩
  refine h.bind (fun _ _ x _ _ => hpure x) ?_ herror
  rintro w es x v es' r w' hfit ⟨rfl, rfl, rfl⟩
  rw [List.append_nil]
  exact hok w es x w' hfit

theorem adapt {g : ε → ε'} {T : ω → List (Event ω ρ) → Except ε' α → ω → Prop} (h : Logs a Q)
    (hT : ∀ w es r w', Q w es r w' → T w es (r.mapError g) w') :
    Logs (ExceptT.adapt g a : Action (Watched ω ρ) ε' α) T := by
  intro s
  obtain ⟨events, hlog, hfit⟩ := h s
  exact ⟨events, hlog, hT _ _ _ _ hfit⟩

theorem noted (call : Call ρ) (reply : α → Reply ρ) (a : Action ω Failure α) :
    Logs (noted call reply a) fun w es r w' =>
      es = [⟨call, w, .ofResult reply r, w'⟩] ∧ a.outcome w = (r, w') :=
  fun _ => ⟨_, rfl, rfl, rfl⟩

theorem withoutAutoPopulate (b : Backend ω ρ) (h : Logs a Q) :
    Logs (b.watched.withoutAutoPopulate a) fun w es r w' =>
      ∃ previous v es' v', (b.setAutoPopulate false).run w = (previous, v) ∧ Q v es' r v' ∧
        ((b.setAutoPopulate previous).run v').2 = w' ∧
        es = b.settingEvent false w :: (es' ++ [b.settingEvent previous v']) := by
  intro s
  rcases hoff : (b.setAutoPopulate false).run s.world with ⟨previous, v⟩
  obtain ⟨events, hlog, hfit⟩ := h ⟨v, s.log ++ [b.settingEvent false s.world]⟩
  have hwatched : (b.watched.setAutoPopulate false).run s =
      (previous, ⟨v, s.log ++ [b.settingEvent false s.world]⟩) := by
    rw [Backend.watched_setAutoPopulate, hoff]
  rw [Action.outcome_withoutAutoPopulate b.watched a hwatched, Backend.watched_setAutoPopulate]
  refine ⟨_, ?_, previous, v, events, _, hoff, hfit, rfl, rfl⟩
  rw [hlog, List.append_assoc, List.append_assoc]
  rfl

end Logs

/-- A run from an empty log, watched and unwatched. -/
theorem Mirrors.exists_run {a : Action (Watched ω ρ) ε α} {b : Action ω ε α}
    {Q : ω → List (Event ω ρ) → Except ε α → ω → Prop} (h : Mirrors Eq a b) (hlogs : Logs a Q) (w : ω) :
    ∃ result w' log, b.outcome w = (result, w') ∧ a.outcome ⟨w, []⟩ = (result, ⟨w', log⟩) ∧ Q w log result w' := by
  have hsame := h.outcome_eq ⟨w, []⟩
  obtain ⟨log, hlog, hfit⟩ := hlogs ⟨w, []⟩
  rcases hrun : a.outcome ⟨w, []⟩ with ⟨result, w', log'⟩
  rw [hrun] at hsame hlog hfit
  obtain rfl : log' = log := hlog
  exact ⟨result, w', log', hsame, rfl, hfit⟩

theorem length_watchedRows (rows : List (Action ω Failure ρ)) (place : Nat) :
    (watchedRows place rows).length = rows.length := by
  induction rows generalizing place with
  | nil => rfl
  | cons fetch rest ih => exact congrArg (· + 1) (ih (place + 1))

theorem logs_query (b : Backend ω ρ) (text : String) (pageSize : Option UInt32) :
    Logs (b.watched.query text pageSize) fun _ es r _ => ∃ e, es = [e] ∧ e.call = .query text pageSize ∧
      match r with
      | .ok result => ∃ rows, result.rows = watchedRows 0 rows ∧ e.reply = .answer rows.length
      | .error f => e.reply = .failed f := by
  have hnoted := Logs.noted (.query text pageSize : Call ρ) (fun result => .answer result.rows.length)
    (b.query text pageSize)
  refine hnoted.map ?_ ?_
  · rintro w es result w' ⟨rfl, -⟩
    exact ⟨_, rfl, rfl, result.rows, rfl, rfl⟩
  · rintro w es f w' ⟨rfl, -⟩
    exact ⟨_, rfl, rfl, rfl⟩

end EntityQuery
