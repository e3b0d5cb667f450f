import EntityQuery.Proofs.BulkRuns
import EntityQuery.Session.Scripted

/-!
# Automatic fetching is off during bulk runs

A backend *stores* its setting of automatic fetching if `setAutoPopulate` reads and writes it and the calls of a bulk
run leave it alone (`Backend.StoresSetting`). On such a backend every update and delete finds the setting off at each of
its calls, and leaves it as it was found, whatever the outcome and however many such runs come one after another
(`setting_off_throughout`).

A step that keeps the setting stays off when it begins off (`StaysOff`); the run is assembled from such steps, as it is
in `EntityQuery.Proofs.BulkRuns`.
-/

namespace EntityQuery

variable {ω ρ σ ε ε' α β : Type} {setting : ω → Bool}

/-! ## Actions that leave the setting alone -/

namespace Action

def Keeps (setting : ω → Bool) (a : Action ω ε α) : Prop := ∀ w, setting (a.outcome w).2 = setting w

namespace Keeps

variable {a : Action ω ε α} {f : α → Action ω ε β}

theorem pure (x : α) : (Pure.pure x : Action ω ε α).Keeps setting := fun _ => rfl

theorem throw (e : ε) : (MonadExcept.throw e : Action ω ε α).Keeps setting := fun _ => rfl

theorem lift {a : StateM ω α} (h : ∀ w, setting (a.run w).2 = setting w) :
    (liftM a : Action ω ε α).Keeps setting := h

theorem bind (h : a.Keeps setting) (hnext : ∀ x, (f x).Keeps setting) : (a >>= f).Keeps setting := by
  intro w
  have hfirst := h w
  rcases ha : a.outcome w with ⟨result, w'⟩
  rw [ha] at hfirst
  cases result with
  | ok x =>
    rw [outcome_bind_ok ha]
    exact (hnext x w').trans hfirst
  | error e =>
    rw [outcome_bind_error ha]
    exact hfirst

end Keeps

end Action

/-- The backend keeps the setting in its world: setting it returns the previous one, and no call of a bulk run and no
fetching of a row changes it. -/
structure Backend.StoresSetting (b : Backend ω ρ) (setting : ω → Bool) : Prop where
  previous : ∀ enabled w, ((b.setAutoPopulate enabled).run w).1 = setting w
  stored : ∀ enabled w, setting ((b.setAutoPopulate enabled).run w).2 = enabled
  query : ∀ text pageSize, (b.query text pageSize).Keeps setting
  fetch : ∀ text pageSize result, (b.query text pageSize).Returns result →
    ∀ fetch ∈ result.rows, fetch.Keeps setting
  assign : ∀ row field v, (b.assign row field v).Keeps setting
  removeComponents : ∀ row, (b.removeComponents row).Keeps setting
  deleteEntity : ∀ row, (b.deleteEntity row).Keeps setting

/-! ## Programs that stay off -/

def Event.Off (setting : ω → Bool) (e : Event ω ρ) : Prop := setting e.before = false ∧ setting e.after = false

/-- Begun with the setting off, the program makes each of its calls with the setting off and ends with it off. -/
def StaysOff (setting : ω → Bool) (a : Action (Watched ω ρ) ε α) : Prop :=
  Logs a fun w es _ w' => setting w = false → setting w' = false ∧ ∀ e ∈ es, e.Off setting

namespace StaysOff

variable {a : Action (Watched ω ρ) ε α} {f : α → Action (Watched ω ρ) ε β}

theorem pure (x : α) : StaysOff setting (Pure.pure x : Action (Watched ω ρ) ε α) :=
  Logs.pure fun _ hoff => ⟨hoff, List.forall_mem_nil _⟩

theorem bind (h : StaysOff setting a) (hnext : ∀ x, a.Returns x → StaysOff setting (f x)) :
    StaysOff setting (a >>= f) := by
  refine h.returning.bind (fun _ _ x _ hfirst => hnext x (hfirst.2 x rfl)) ?_ ?_
  · rintro w es x v es' r w' ⟨hfirst, -⟩ hrest hoff
    obtain ⟨hv, hes⟩ := hfirst hoff
    obtain ⟨hw', hes'⟩ := hrest hv
    exact ⟨hw', fun e he => (List.mem_append.1 he).elim (hes e) (hes' e)⟩
  · rintro w es e w' ⟨hfirst, -⟩
    exact hfirst

theorem adapt (g : ε → ε') (h : StaysOff setting a) :
    StaysOff setting (ExceptT.adapt g a : Action (Watched ω ρ) ε' α) :=
  Logs.adapt h fun _ _ _ _ hoff => hoff

theorem noted (call : Call ρ) (reply : α → Reply ρ) {a : Action ω Failure α} (h : a.Keeps setting) :
    StaysOff setting (noted call reply a) := by
  refine (Logs.noted call reply a).mono ?_
  rintro w es r w' ⟨rfl, hrun⟩ hoff
  have hw' : setting w' = false := by
    have hkept := h w
    rw [hrun] at hkept
    exact hkept.trans hoff
  refine ⟨hw', fun e he => ?_⟩
  rw [List.mem_singleton.1 he]
  exact ⟨hoff, hw'⟩

end StaysOff

theorem staysOff_watchedRows {rows : List (Action ω Failure ρ)} (h : ∀ fetch ∈ rows, fetch.Keeps setting)
    (place : Nat) : ∀ fetch ∈ watchedRows place rows, StaysOff setting fetch := by
  induction rows generalizing place with
  | nil => exact List.forall_mem_nil _
  | cons fetch rest ih =>
    obtain ⟨hfetch, hrest⟩ := List.forall_mem_cons.1 h
    exact List.forall_mem_cons.2 ⟨.noted _ _ hfetch, ih hrest (place + 1)⟩

theorem staysOff_forEachRow {work : ρ → Action (Watched ω ρ) Failure Unit}
    (hwork : ∀ row, StaysOff setting (work row)) {rows : List (Action (Watched ω ρ) Failure ρ)}
    (h : ∀ fetch ∈ rows, StaysOff setting fetch) : StaysOff setting (forEachRow work rows) := by
  induction rows with
  | nil => exact .pure 0
  | cons fetch rest ih =>
    obtain ⟨hfetch, hrest⟩ := List.forall_mem_cons.1 h
    exact hfetch.bind fun row _ => (hwork row).bind fun _ _ => (ih hrest).bind fun n _ => .pure (n + 1)

/-! ## Bulk runs -/

namespace Backend.StoresSetting

variable {b : Backend ω ρ}

theorem staysOff_query (h : b.StoresSetting setting) (text : String) (pageSize : Option UInt32) :
    StaysOff setting (b.watched.query text pageSize) :=
  Logs.map (StaysOff.noted (.query text pageSize : Call ρ) _ (h.query text pageSize)) (fun _ _ _ _ hoff => hoff)
    fun _ _ _ _ hoff => hoff

theorem staysOff_fetch (h : b.StoresSetting setting) {text : String} {pageSize : Option UInt32}
    {result : QueryResult (Watched ω ρ) ρ} (hresult : (b.watched.query text pageSize).Returns result) :
    ∀ fetch ∈ result.rows, StaysOff setting fetch := by
  obtain ⟨result, hquery, rfl⟩ := b.watched_query_returns hresult
  exact staysOff_watchedRows (h.fetch text pageSize result hquery) 0

theorem staysOff_work (h : b.StoresSetting setting) (s : BulkStatement σ) (row : ρ) :
    StaysOff setting (s.work b.watched row) := by
  refine s.work_of_calls (.pure ()) (fun a next ha hnext => ha.bind fun _ _ => hnext) ?_ ?_ ?_ row
  · exact fun row field v => .noted _ _ (h.assign row field v)
  · exact fun row => .noted _ _ (h.removeComponents row)
  · exact fun row => .noted _ _ (h.deleteEntity row)

end Backend.StoresSetting

/-- The setting is in the end what it was, and it was off at every call but those that change it. -/
def OffThroughout (setting : ω → Bool) (w : ω) (log : List (Event ω ρ)) (w' : ω) : Prop :=
  setting w' = setting w ∧ ∀ e ∈ log, (∃ enabled, e.call = .setAutoPopulate enabled) ∨ e.Off setting

theorem Backend.StoresSetting.offThroughout_withoutAutoPopulate {b : Backend ω ρ} (h : b.StoresSetting setting)
    {a : Action (Watched ω ρ) ε α} (ha : StaysOff setting a) :
    Logs (b.watched.withoutAutoPopulate a) fun w log _ w' => OffThroughout setting w log w' := by
  refine (Logs.withoutAutoPopulate b ha).mono ?_
  rintro w log r w' ⟨previous, v, es, v', hdisable, hinside, rfl, rfl⟩
  have hprevious : previous = setting w := by
    rw [← h.previous false w, hdisable]
  have hv : setting v = false := by
    have hstored := h.stored false w
    rwa [hdisable] at hstored
  refine ⟨(h.stored previous v').trans hprevious, fun e he => ?_⟩
  obtain rfl | he := List.mem_cons.1 he
  · exact .inl ⟨false, rfl⟩
  · obtain he | he := List.mem_append.1 he
    · exact .inr ((hinside hv).2 e he)
    · exact .inl ⟨previous, congrArg Event.call (List.mem_singleton.1 he)⟩

namespace BulkStatement

theorem offThroughout_executeIn {session : Session ω ρ} (h : session.StoresSetting setting) (s : BulkStatement σ) :
    Logs (s.executeIn session.watched) fun w log _ w' => OffThroughout setting w log w' := by
  rw [executeIn_eq]
  refine h.offThroughout_withoutAutoPopulate (.adapt Error.session ?_)
  exact (h.staysOff_query s.queryText _).bind fun result hresult =>
    staysOff_forEachRow (h.staysOff_work s) (h.staysOff_fetch hresult)

/-- Runs statement after statement, whatever comes of each, and keeps what comes of them and the worlds they leave. -/
def runAll (session : Session ω ρ) : List (BulkStatement σ) → ω → List (Except Error Nat × ω)
  | [], _ => []
  | s :: rest, w =>
    let outcome := (s.executeIn session).outcome w
    outcome :: runAll session rest outcome.2

theorem runAll_watched (session : Session ω ρ) (statements : List (BulkStatement σ)) (s : Watched ω ρ) :
    (runAll session.watched statements s).map (fun (result, s') => (result, s'.world)) =
      runAll session statements s.world := by
  induction statements generalizing s with
  | nil => rfl
  | cons first rest ih =>
    have hfirst := (first.mirrors_executeIn session).outcome_eq s
    rw [runAll, List.map_cons, ih, runAll, hfirst]

theorem offThroughout_runAll {session : Session ω ρ} (h : session.StoresSetting setting)
    (statements : List (BulkStatement σ)) {w : ω} {s : Watched ω ρ} (hs : OffThroughout setting w s.log s.world) :
    ∀ outcome ∈ runAll session.watched statements s,
      OffThroughout setting w outcome.2.log outcome.2.world := by
  induction statements generalizing s with
  | nil => exact List.forall_mem_nil _
  | cons first rest ih =>
    obtain ⟨es, hlog, hkept, hes⟩ := first.offThroughout_executeIn h s
    have hfirst : OffThroughout setting w ((first.executeIn session.watched).outcome s).2.log
        ((first.executeIn session.watched).outcome s).2.world := by
      refine ⟨hkept.trans hs.1, fun e he => ?_⟩
      rw [hlog] at he
      exact (List.mem_append.1 he).elim (hs.2 e) (hes e)
    exact List.forall_mem_cons.2 ⟨hfirst, ih hfirst⟩

/-- **Automatic fetching is off for the whole of a bulk run and is always put back**, by one run and by any number of
them one after another, on every session that stores its setting. -/
theorem setting_off_throughout {session : Session ω ρ} (h : session.StoresSetting setting) :
    (∀ (s : BulkStatement σ) (w : ω), ∃ (result : Except Error Nat) (w' : ω) (log : List (Event ω ρ)),
      (s.executeIn session).outcome w = (result, w') ∧
      (s.executeIn session.watched).outcome ⟨w, []⟩ = (result, ⟨w', log⟩) ∧ OffThroughout setting w log w') ∧
    ∀ (statements : List (BulkStatement σ)) (w : ω),
      (runAll session.watched statements ⟨w, []⟩).map (fun (result, s) => (result, s.world)) =
        runAll session statements w ∧
      ∀ outcome ∈ runAll session.watched statements ⟨w, []⟩, OffThroughout setting w outcome.2.log outcome.2.world := by
  constructor
  · intro s w
    have hsame := (s.mirrors_executeIn session).outcome_eq ⟨w, []⟩
    obtain ⟨log, hlog, hoff⟩ := s.offThroughout_executeIn h ⟨w, []⟩
    rcases hrun : (s.executeIn session.watched).outcome ⟨w, []⟩ with ⟨result, w', log'⟩
    rw [hrun] at hsame hlog hoff
    obtain rfl : log' = log := hlog
    exact ⟨result, w', log', hsame, rfl, hoff⟩
  · intro statements w
    have hstart : OffThroughout setting w ([] : List (Event ω ρ)) w := ⟨rfl, List.forall_mem_nil _⟩
    exact ⟨runAll_watched session statements ⟨w, []⟩, offThroughout_runAll h statements hstart⟩

end BulkStatement

/-! ## Scripted sessions store their setting -/

namespace Scripted

theorem keeps_logged (e : Event) : (liftM (logged e) : Call Unit).Keeps World.autoPopulate := .lift fun _ => rfl

theorem keeps_failIf (message : Option String) : (failIf message).Keeps World.autoPopulate := by
  cases message with
  | none => exact .pure ()
  | some message => exact .throw _

theorem keeps_nextAnswer : (liftM nextAnswer : Call Answer).Keeps World.autoPopulate := by
  refine .lift fun w => ?_
  obtain ⟨entities, answers, created, autoPopulate, log⟩ := w
  match answers with
  | [] | [_] | _ :: _ :: _ => rfl

theorem keeps_get : (MonadState.get : Call World).Keeps World.autoPopulate := fun _ => rfl

variable (s : Script)

theorem keeps_fetch (row : Row) : (fetch s row).Keeps World.autoPopulate := by
  cases row with
  | failing message => exact (keeps_logged _).bind fun _ => .throw _
  | entity place =>
    refine keeps_get.bind fun w => ?_
    split
    · exact (keeps_logged _).bind fun _ => .pure _
    · exact .throw _

theorem keeps_assign (row : Handle) (field : String) (v : Value) :
    (assign row field v).Keeps World.autoPopulate := by
  refine keeps_get.bind fun w => ?_
  split
  · refine (keeps_failIf _).bind fun _ => (keeps_logged _).bind fun _ => ?_
    exact fun _ => rfl
  · exact .throw _

theorem keeps_removeComponents (row : Handle) : (removeComponents s row).Keeps World.autoPopulate :=
  (keeps_logged _).bind fun _ => keeps_failIf _

theorem keeps_deleteEntity (row : Handle) : (deleteEntity s row).Keeps World.autoPopulate :=
  (keeps_logged _).bind fun _ => keeps_failIf _

theorem keeps_query (text : String) (pageSize : Option UInt32) : (query s text pageSize).Keeps World.autoPopulate := by
  refine keeps_get.bind fun w => (keeps_logged _).bind fun _ => keeps_nextAnswer.bind fun answer => ?_
  cases answer with
  | failing message => exact .throw _
  | rows rows => exact .pure _

theorem rows_of_query {text : String} {pageSize : Option UInt32} {result : QueryResult World Handle}
    (h : (query s text pageSize).Returns result) : ∃ rows : List Row, result = ⟨text, rows.map (fetch s)⟩ := by
  obtain ⟨_, -, h⟩ := h.of_bind
  obtain ⟨_, -, h⟩ := h.of_bind
  obtain ⟨answer, -, w, w', h⟩ := h.of_bind
  cases answer with
  | failing message => cases h
  | rows rows =>
    cases h
    exact ⟨rows, rfl⟩

theorem keeps_fetched {text : String} {pageSize : Option UInt32} {result : QueryResult World Handle}
    (h : (query s text pageSize).Returns result) : ∀ fetch ∈ result.rows, fetch.Keeps World.autoPopulate := by
  obtain ⟨rows, rfl⟩ := rows_of_query s h
  intro fetch hfetch
  obtain ⟨row, -, rfl⟩ := List.mem_map.1 hfetch
  exact keeps_fetch s row

theorem minimalBackend_storesSetting : (minimalBackend s).StoresSetting World.autoPopulate where
  previous _ _ := rfl
  stored _ _ := rfl
  query := keeps_query s
  fetch _ _ _ h := keeps_fetched s h
  assign := keeps_assign
  removeComponents _ := .pure ()
  deleteEntity := keeps_deleteEntity s

theorem session_storesSetting : (session s).StoresSetting World.autoPopulate := by
  have hminimal := minimalBackend_storesSetting s
  change (backend s).StoresSetting World.autoPopulate
  rw [backend]
  split
  · exact hminimal
  · exact { hminimal with removeComponents := keeps_removeComponents s }

/-- Of two tasks the second cannot be fetched: the run ends there, and automatic fetching is on again as it was. -/
theorem setting_off_in_failing_update :
    let update : BulkStatement Empty := .update ((Update.ofType "Task").values [("name", .text "New Task")])
    let start : World := { entities := [⟨"Task", .text "t0", [], []⟩], answers := [.rows [.entity 0, .failing "gone"]] }
    (session {}).StoresSetting World.autoPopulate ∧
      ∃ (w' : World) (log : List (EntityQuery.Event World Handle)),
        (update.executeIn (session {}).watched).outcome ⟨start, []⟩ =
          (.error (.session (.reported "gone")), ⟨w', log⟩) ∧
        OffThroughout World.autoPopulate start log w' ∧ log.length = 6 ∧ w'.autoPopulate = true := by
  intro update start
  have hstores := session_storesSetting {}
  obtain ⟨result, w', log, -, hwatched, hoff⟩ := (BulkStatement.setting_off_throughout hstores).1 update start
  have hresult : result = .error (.session (.reported "gone")) := (congrArg Prod.fst hwatched).symm
  have hlength : log.length = 6 := (congrArg (·.2.log.length) hwatched).symm
  rw [hresult] at hwatched
  exact ⟨hstores, w', log, hwatched, hoff, hlength, hoff.1⟩

end Scripted

end EntityQuery
