import EntityQuery.Proofs.Operations
import EntityQuery.Session.Scripted

/-!
# What an operation returns when the session fails

A failure of the session ends every operation that contacts it, and the operation returns it as a session error. It is
wrapped in that error once, except where the default lookups fetch a row: there the error of the fetch is itself
reported as a failure of the session, and the operation wraps that failure again (`failure_is_returned`,
`Operation.returned`).
-/

namespace EntityQuery

variable {ω ρ σ ε ε' α β γ : Type}

/-! ## What is returned -/

namespace Operation

def isLookup : Operation σ → Bool
  | get _ _ | ensure _ _ => true
  | _ => false

end Operation

def Call.isFetch : Call ρ → Bool
  | fetch _ => true
  | _ => false

/-- The error with which the operation ends if this call fails. -/
def Operation.returned (op : Operation σ) (call : Call ρ) (f : Failure) : Error :=
  if op.isLookup && call.isFetch then .session (.internal (.session f)) else .session f

/-! ## Failures end programs -/

/-- A call that fails ends the program, with an error that `W` relates to the call and its failure. -/
def FailsWith (W : Call ρ → Failure → ε → Prop) (a : Action (Watched ω ρ) ε α) : Prop :=
  Logs a fun _ es r _ => ∀ e ∈ es, ∀ f, e.reply = .failed f → ∃ x, r = .error x ∧ W e.call f x

namespace FailsWith

variable {W : Call ρ → Failure → ε → Prop} {a : Action (Watched ω ρ) ε α} {f : α → Action (Watched ω ρ) ε β}

theorem mono {V : Call ρ → Failure → ε → Prop} (h : FailsWith W a) (hVW : ∀ call f x, W call f x → V call f x) :
    FailsWith V a := by
  refine Logs.mono h ?_
  intro w es r w' hfails e he f hf
  obtain ⟨x, hr, hx⟩ := hfails e he f hf
  exact ⟨x, hr, hVW _ _ _ hx⟩

theorem pure (x : α) : FailsWith W (Pure.pure x : Action (Watched ω ρ) ε α) := Logs.pure fun _ => List.forall_mem_nil _

theorem throw (e : ε) : FailsWith W (MonadExcept.throw e : Action (Watched ω ρ) ε α) :=
  Logs.throw fun _ => List.forall_mem_nil _

theorem bind (h : FailsWith W a) (hnext : ∀ x, a.Returns x → FailsWith W (f x)) : FailsWith W (a >>= f) := by
  refine (Logs.returning h).bind (fun _ _ x _ hfirst => hnext x (hfirst.2 x rfl)) ?_ ?_
  · rintro w es x v es' r w' ⟨hfirst, -⟩ hrest e he f hf
    obtain he | he := List.mem_append.1 he
    · obtain ⟨_, hr, -⟩ := hfirst e he f hf
      cases hr
    · exact hrest e he f hf
  · rintro w es x w' ⟨hfirst, -⟩ e he f hf
    obtain ⟨_, hr, hx⟩ := hfirst e he f hf
    cases hr
    exact ⟨x, rfl, hx⟩

theorem map (g : α → β) (h : FailsWith W a) : FailsWith W (g <$> a) := by
  rw [map_eq_pure_bind]
  exact h.bind fun x _ => .pure (g x)

theorem adapt {V : Call ρ → Failure → ε' → Prop} (g : ε → ε') (h : FailsWith W a)
    (hV : ∀ call f x, W call f x → V call f (g x)) :
    FailsWith V (ExceptT.adapt g a : Action (Watched ω ρ) ε' α) := by
  refine Logs.adapt h ?_
  intro w es r w' hfails e he f hf
  obtain ⟨x, rfl, hx⟩ := hfails e he f hf
  exact ⟨g x, rfl, hV _ _ _ hx⟩

theorem noted {W : Call ρ → Failure → Failure → Prop} (call : Call ρ) (reply : α → Reply ρ)
    (hreply : ∀ x f, reply x ≠ .failed f) (a : Action ω Failure α) (hW : ∀ f, W call f f) :
    FailsWith W (noted call reply a) := by
  refine (Logs.noted call reply a).mono ?_
  rintro w es r w' ⟨rfl, -⟩ e he f hf
  rw [List.mem_singleton.1 he] at hf ⊢
  cases r with
  | ok x => exact absurd hf (hreply x f)
  | error _ =>
    cases hf
    exact ⟨f, rfl, hW f⟩

theorem withoutAutoPopulate (b : Backend ω ρ) (h : FailsWith W a) : FailsWith W (b.watched.withoutAutoPopulate a) := by
  refine (Logs.withoutAutoPopulate b h).mono ?_
  rintro w log r w' ⟨previous, v, es, v', -, hinside, -, rfl⟩ e he f hf
  -- neither of the two settings at the ends is a failure
  obtain rfl | he := List.mem_cons.1 he
  · cases hf
  · obtain he | he := List.mem_append.1 he
    · exact hinside e he f hf
    · rw [List.mem_singleton.1 he] at hf
      cases hf

end FailsWith

/-! ## Rows and queries -/

def Fetching (W : Call ρ → Failure → ε → Prop) (call : Call ρ) (f : Failure) (x : ε) : Prop :=
  call.isFetch = true ∧ W call f x

def Unwrapped (_ : Call ρ) (f x : Failure) : Prop := x = f

def WrappedOnce (_ : Call ρ) (f : Failure) (x : Error) : Prop := x = .session f

theorem FailsWith.carried {a : Action (Watched ω ρ) Failure α} (h : FailsWith Unwrapped a) :
    FailsWith WrappedOnce a.carried :=
  h.adapt Error.session fun _ _ _ hx => congrArg Error.session hx

theorem FailsWith.carried_fetching {a : Action (Watched ω ρ) Failure α} (h : FailsWith (Fetching Unwrapped) a) :
    FailsWith (Fetching WrappedOnce) a.carried :=
  h.adapt Error.session fun _ _ _ ⟨hcall, hx⟩ => ⟨hcall, congrArg Error.session hx⟩

theorem failsWith_watchedRows (rows : List (Action ω Failure ρ)) (place : Nat) :
    ∀ fetch ∈ watchedRows place rows, FailsWith (Fetching Unwrapped) fetch := by
  induction rows generalizing place with
  | nil => exact List.forall_mem_nil _
  | cons fetch rest ih =>
    have hfetch : FailsWith (Fetching Unwrapped) (noted (.fetch place) Reply.row fetch) :=
      .noted _ _ nofun _ fun f => ⟨rfl, rfl⟩
    exact List.forall_mem_cons.2 ⟨hfetch, ih (place + 1)⟩

theorem failsWith_query (b : Backend ω ρ) (text : String) (pageSize : Option UInt32)
    {W : Call ρ → Failure → Failure → Prop} (hW : ∀ f, W (.query text pageSize) f f) :
    FailsWith W (b.watched.query text pageSize) :=
  (FailsWith.noted _ _ nofun _ hW).map QueryResult.watched

section results

variable (result : QueryResult ω ρ)

theorem failsWith_first : FailsWith (Fetching WrappedOnce) result.watched.first := by
  obtain ⟨text, rows⟩ := result
  cases rows with
  | nil => exact .pure none
  | cons fetch rest =>
    obtain ⟨hfetch, -⟩ := List.forall_mem_cons.1 (failsWith_watchedRows (fetch :: rest) 0)
    exact hfetch.carried_fetching.map some

theorem failsWith_all : FailsWith (Fetching WrappedOnce) result.watched.all := by
  have hrows := failsWith_watchedRows result.rows 0
  change FailsWith _ ((watchedRows 0 result.rows).mapM Action.carried)
  generalize watchedRows 0 result.rows = fetches at hrows ⊢
  induction fetches with
  | nil => exact .pure []
  | cons fetch rest ih =>
    obtain ⟨hfetch, hrest⟩ := List.forall_mem_cons.1 hrows
    rw [List.mapM_cons]
    exact hfetch.carried_fetching.bind fun row _ => (ih hrest).bind fun others _ => .pure (row :: others)

theorem failsWith_one : FailsWith (Fetching WrappedOnce) result.watched.one := by
  obtain ⟨text, rows⟩ := result
  have hrows := failsWith_watchedRows rows 0
  match rows with
  | [] => exact .throw _
  | [only] => exact (hrows _ List.mem_cons_self).carried_fetching
  | first :: second :: _ =>
    obtain ⟨hfirst, hrest⟩ := List.forall_mem_cons.1 hrows
    obtain ⟨hsecond, -⟩ := List.forall_mem_cons.1 hrest
    exact hfirst.carried_fetching.bind fun _ _ => hsecond.carried_fetching.bind fun _ _ => .throw _

end results

/-! ## Statements -/

theorem BulkStatement.failsWith_work (s : BulkStatement σ) (b : Backend ω ρ) (row : ρ) :
    FailsWith Unwrapped (s.work b.watched row) := by
  have hcall (call : Call ρ) (a : Action ω Failure Unit) : FailsWith Unwrapped (noted call (fun _ => .done) a) :=
    .noted _ _ nofun a fun _ => rfl
  refine work_of_calls (.pure ()) (fun a next ha hnext => ha.bind fun _ _ => hnext) ?_ ?_ ?_ s row
  · exact fun _ _ _ => hcall _ _
  · exact fun _ => hcall _ _
  · exact fun _ => hcall _ _

theorem failsWith_forEachRow {work : ρ → Action (Watched ω ρ) Failure Unit}
    (hwork : ∀ row, FailsWith Unwrapped (work row)) {rows : List (Action (Watched ω ρ) Failure ρ)}
    (h : ∀ fetch ∈ rows, FailsWith (Fetching Unwrapped) fetch) : FailsWith Unwrapped (forEachRow work rows) := by
  induction rows with
  | nil => exact .pure 0
  | cons fetch rest ih =>
    obtain ⟨hfetch, hrest⟩ := List.forall_mem_cons.1 h
    refine (hfetch.mono fun _ _ _ hx => hx.2).bind fun row _ => ?_
    exact (hwork row).bind fun _ _ => (ih hrest).bind fun n _ => .pure (n + 1)

theorem BulkStatement.failsWith_executeIn (s : BulkStatement σ) (b : Backend ω ρ) :
    FailsWith WrappedOnce (s.executeIn b.watched.withLookups) := by
  rw [executeIn_eq]
  refine .withoutAutoPopulate b (.carried ?_)
  refine (failsWith_query b _ _ fun _ => rfl).bind fun watched hwatched => ?_
  obtain ⟨result, -, rfl⟩ := b.watched_query_returns hwatched
  exact failsWith_forEachRow (s.failsWith_work b) (failsWith_watchedRows result.rows 0)

theorem Statement.failsWith_executeIn (s : Statement σ) (b : Backend ω ρ) :
    FailsWith WrappedOnce (s.executeIn b.watched.withLookups) := by
  cases s with
  | select s => exact (FailsWith.carried (failsWith_query b _ _ fun _ => rfl)).map Outcome.rows
  | insert s =>
    have hcreate : FailsWith Unwrapped (b.watched.create s.entityType s.values.fields) :=
      .noted _ _ nofun _ fun _ => rfl
    exact hcreate.carried.map Outcome.created
  | update s => exact ((BulkStatement.update s).failsWith_executeIn b).map Outcome.count
  | delete s => exact ((BulkStatement.delete s).failsWith_executeIn b).map Outcome.count

/-! ## Lookups -/

/-- The default lookups fetch a row through an operation of their own and report its error. -/
def Reported (call : Call ρ) (f x : Failure) : Prop := x = if call.isFetch then .internal (.session f) else f

theorem failsWith_reported_first (result : QueryResult ω ρ) : FailsWith Reported result.watched.first.reported := by
  refine (failsWith_first result).adapt Failure.internal ?_
  rintro call f x ⟨hcall, rfl⟩
  rw [Reported, if_pos hcall]

theorem failsWith_lookUp (b : Backend ω ρ) (entityType : String) (id : Identifier) :
    FailsWith Reported (b.watched.lookUp entityType id) := by
  refine (failsWith_query b _ _ fun _ => rfl).bind fun watched hwatched => ?_
  obtain ⟨result, -, rfl⟩ := b.watched_query_returns hwatched
  exact failsWith_reported_first result

theorem failsWith_findOrCreate (b : Backend ω ρ) (entityType : String) (values : List (String × Value)) :
    FailsWith Reported (b.watched.findOrCreate entityType values) := by
  have htext : FailsWith (ω := ω) (Reported (ρ := ρ))
      (Action.reported (.ofExcept (Backend.matchText entityType values))) := by
    cases Backend.matchText entityType values with
    | ok text => exact .pure text
    | error e => exact .throw _
  refine htext.bind fun text _ => (failsWith_query b _ _ fun _ => rfl).bind fun watched hwatched => ?_
  obtain ⟨result, -, rfl⟩ := b.watched_query_returns hwatched
  refine (failsWith_reported_first result).bind fun found _ => ?_
  cases found with
  | some row => exact .pure row
  | none => exact .noted _ _ nofun _ fun _ => rfl

/-! ## Operations -/

theorem FailsWith.orNone {a : Action (Watched ω ρ) Error ρ} (h : FailsWith WrappedOnce a) :
    FailsWith WrappedOnce (Select.orNone a) := by
  intro s
  obtain ⟨es, hlog, hfails⟩ := h s
  rw [Select.outcome_orNone]
  refine ⟨es, hlog, fun e he f hf => ?_⟩
  obtain ⟨x, hr, hx⟩ := hfails e he f hf
  refine ⟨x, ?_, hx⟩
  rw [hr, hx]
  rfl

section selects

variable (s : Select σ) (b : Backend ω ρ)

theorem failsWith_execute_bind {take : QueryResult (Watched ω ρ) ρ → Action (Watched ω ρ) Error α}
    (htake : ∀ result : QueryResult ω ρ, FailsWith (Fetching WrappedOnce) (take result.watched)) :
    FailsWith WrappedOnce (do take (← Select.execute (s.bind b.watched.withLookups))) := by
  have hexecute : FailsWith WrappedOnce (Select.execute (s.bind b.watched.withLookups)) :=
    .carried (failsWith_query b _ _ fun _ => rfl)
  refine hexecute.bind fun watched hwatched => ?_
  have hquery : (b.watched.query s.text (s.effectivePageSize b)).carried.Returns watched := hwatched
  obtain ⟨result, -, rfl⟩ := b.watched_query_returns hquery.of_adapt
  exact (htake result).mono fun _ _ _ hx => hx.2

theorem failsWith_selectOne : FailsWith WrappedOnce (Select.one (s.bind b.watched.withLookups)) :=
  failsWith_execute_bind s b failsWith_one

theorem failsWith_selectAll : FailsWith WrappedOnce (Select.all (s.bind b.watched.withLookups)) :=
  failsWith_execute_bind s b failsWith_all

end selects

/-- A lookup wraps once more what its session reports. -/
theorem FailsWith.carried_reported {a : Action (Watched ω ρ) Failure α} (h : FailsWith Reported a) (op : Operation σ)
    (hop : op.isLookup = true) : FailsWith (fun call f x => x = op.returned call f) a.carried := by
  refine h.adapt Error.session ?_
  rintro call f x rfl
  rw [Operation.returned, hop, Bool.true_and, apply_ite Error.session]

theorem Operation.failsWith_run (op : Operation σ) (b : Backend ω ρ) :
    FailsWith (fun call f x => x = op.returned call f) (op.run b.watched.withLookups) := by
  cases op with
  | execute s =>
    rw [run, Statement.execute_bind]
    exact (s.failsWith_executeIn b).map _
  | executeIn s => exact (s.failsWith_executeIn b).map _
  | one s => exact (failsWith_selectOne s b).map _
  | first s => exact (failsWith_execute_bind s b failsWith_first).map _
  | all s => exact (failsWith_selectAll s b).map _
  | count s => exact ((failsWith_selectAll s b).map _).map _
  | get s id => exact ((failsWith_lookUp b _ _).carried_reported (.get s id) rfl).map _
  | ensure s pairs => exact ((failsWith_findOrCreate b _ _).carried_reported (.ensure s pairs) rfl).map _
  | byPrimaryKey s v =>
    have hlookUp : FailsWith WrappedOnce (Select.byPrimaryKey (s.bind b.watched.withLookups) v) := by
      rw [Select.byPrimaryKey]
      split
      · exact .throw _
      · rw [RowStatement.filter_bind]
        exact .orNone (failsWith_selectOne _ b)
    exact hlookUp.map _

namespace Operation

theorem message_returned (op : Operation σ) (call : Call ρ) (f : Failure) : (op.returned call f).message =
    "session error: " ++ ((if op.isLookup && call.isFetch then "session error: " else "") ++ f.message) := by
  have honce (f : Failure) : (Error.session f).message = "session error: " ++ f.message := rfl
  have hinner (e : Error) : (Failure.internal e).message = e.message := rfl
  rw [returned]
  cases op.isLookup && call.isFetch with
  | true => rw [if_pos rfl, if_pos rfl, honce, hinner, honce]
  | false => rw [if_neg Bool.false_ne_true, if_neg Bool.false_ne_true, honce, String.empty_append]

/-- **A session failure ends the operation and is what it returns**, on every session with the default lookups: wrapped
once, except that the default lookups wrap the failure of a row that they fetch twice. -/
theorem failure_is_returned (op : Operation σ) (b : Backend ω ρ) (w : ω) :
    ∃ (result : Except Error Unit) (w' : ω) (log : List (Event ω ρ)),
      (op.run b.withLookups).outcome w = (result, w') ∧
      (op.run b.watched.withLookups).outcome ⟨w, []⟩ = (result, ⟨w', log⟩) ∧
      ∀ e ∈ log, ∀ f, e.failure? = some f → result = .error (op.returned e.call f) ∧
        (op.returned e.call f).message =
          "session error: " ++ ((if op.isLookup && e.call.isFetch then "session error: " else "") ++ f.message) := by
  have hsame := (op.mirrors_run b).outcome_eq ⟨w, []⟩
  obtain ⟨log, hlog, hfails⟩ := op.failsWith_run b ⟨w, []⟩
  rcases hrun : (op.run b.watched.withLookups).outcome ⟨w, []⟩ with ⟨result, w', log'⟩
  rw [hrun] at hsame hlog hfails
  obtain rfl : log' = log := hlog
  refine ⟨result, w', log', hsame, rfl, fun e he f hf => ⟨?_, op.message_returned e.call f⟩⟩
  obtain ⟨x, hresult, rfl⟩ := hfails e he f (Event.reply_of_failure? hf)
  exact hresult

end Operation

/-- The default lookup by identifier fetches a row that fails, and that failure comes back wrapped twice. -/
theorem Scripted.failing_row_of_get_wrapped_twice :
    let lookUp : Operation Empty := .get (Select.ofType "Task") (.text "t0")
    let start : Scripted.World := { answers := [.rows [.failing "bad row"]] }
    let backend := Scripted.backend {}
    let result := ((lookUp.run backend.withLookups).outcome start).1
    (∃ e ∈ ((lookUp.run backend.watched.withLookups).outcome ⟨start, []⟩).2.log,
      e.failure? = some (.reported "bad row")) ∧
    result = .error (.session (.internal (.session (.reported "bad row")))) ∧
    result ≠ .error (.session (.reported "bad row")) := by
  intro lookUp start backend result
  have hlog : ((lookUp.run backend.watched.withLookups).outcome ⟨start, []⟩).2.log.filterMap Event.failure? =
      [.reported "bad row"] := rfl
  have hresult : result = .error (.session (.internal (.session (.reported "bad row")))) := rfl
  refine ⟨?_, hresult, ?_⟩
  · obtain ⟨e, he, hf⟩ := List.mem_filterMap.1 (hlog ▸ List.mem_singleton_self (Failure.reported "bad row"))
    exact ⟨e, he, hf⟩
  · rw [hresult]
    nofun

end EntityQuery
