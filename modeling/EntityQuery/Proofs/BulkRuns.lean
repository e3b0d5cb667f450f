import EntityQuery.Proofs.Watching

/-!
# Updates and deletes work through their rows

A bulk run has a plan: the query, and then for each row in turn its fetching followed by the calls on it. On any session
and any rows, the run makes the calls of the plan in their order and counts the rows, or stops at the first call that
fails and returns that failure; before and after, the setting of automatic fetching is changed and put back
(`run_follows_plan`).

A call on a row, a list of them and the loop over the rows are followed by one relation, `Follows`, which composes.
-/

namespace EntityQuery

variable {ω ρ σ α β : Type}

/-! ## Statements that work through rows -/

inductive BulkStatement (σ : Type) where
  | update (s : Update σ)
  | delete (s : Delete σ)

namespace BulkStatement

def queryText : BulkStatement σ → String
  | update s => s.queryText
  | delete s => s.queryText

def effectivePageSize (s : BulkStatement σ) (b : Backend ω ρ) : Option UInt32 :=
  match s with
  | update s => s.effectivePageSize b
  | delete s => s.effectivePageSize b

def executeIn (s : BulkStatement σ) (session : Session ω ρ) : Action ω Error Nat :=
  match s with
  | update s => s.executeIn session
  | delete s => s.executeIn session

def work (s : BulkStatement σ) (b : Backend ω ρ) (row : ρ) : Action ω Failure Unit :=
  match s with
  | update s => Update.assignRow b s.effect row
  | delete s => Delete.deleteRow b s.effect row

theorem executeIn_eq (s : BulkStatement σ) (session : Session ω ρ) :
    s.executeIn session = session.forEachMatch s.queryText (s.effectivePageSize session.toBackend)
      (s.work session.toBackend) := by
  cases s with
  | update s => rfl
  | delete s => rfl

theorem work_of_calls {b : Backend ω ρ} {P : Action ω Failure Unit → Prop} (hdone : P (pure ()))
    (hthen : ∀ a next, P a → P next → P (a >>= fun _ => next)) (hassign : ∀ row field v, P (b.assign row field v))
    (hremove : ∀ row, P (b.removeComponents row)) (hdelete : ∀ row, P (b.deleteEntity row)) (s : BulkStatement σ)
    (row : ρ) : P (s.work b row) := by
  cases s with
  | update s =>
    change P (s.effect.fields.forM fun field => b.assign row field.1 field.2)
    induction s.effect.fields with
    | nil => exact hdone
    | cons field fields ih => exact hthen _ _ (hassign row field.1 field.2) ih
  | delete s =>
    change P (Delete.deleteRow b s.effect row)
    rw [Delete.deleteRow]
    split
    · exact hthen _ _ (hremove row) (hdelete row)
    · exact hdelete row

/-- The calls on one row: each stored field is assigned in order, or the row's components are removed if that is asked
for and the row is deleted. -/
def rowCalls (s : BulkStatement σ) (row : ρ) : List (Call ρ) :=
  match s with
  | update s => s.effect.fields.map fun (key, v) => .assign row key v
  | delete s => (if s.effect.componentsFirst then [.removeComponents row] else []) ++ [.deleteEntity row]

end BulkStatement

/-- The calls for rows from this place on: a row is fetched and worked on before the next is fetched. -/
def plannedFrom (rowCalls : ρ → List (Call ρ)) (place : Nat) : List ρ → List (Call ρ)
  | [] => []
  | row :: rows => .fetch place :: (rowCalls row ++ plannedFrom rowCalls (place + 1) rows)

def BulkStatement.planned (s : BulkStatement σ) (pageSize : Option UInt32) (rows : List ρ) : List (Call ρ) :=
  .query s.queryText pageSize :: plannedFrom s.rowCalls 0 rows

def delivered (es : List (Event ω ρ)) : List ρ := es.filterMap Event.row?

theorem delivered_append (es es' : List (Event ω ρ)) : delivered (es ++ es') = delivered es ++ delivered es' :=
  List.filterMap_append

theorem delivered_of_failure {e : Event ω ρ} {f : Failure} (h : e.reply = .failed f) : delivered [e] = [] := by
  rw [delivered, List.filterMap_cons_none, List.filterMap_nil]
  rw [Event.row?, h]

/-- What a run did between changing the setting and putting it back. -/
inductive BulkStatement.FollowsPlan (s : BulkStatement σ) (pageSize : Option UInt32) :
    List (Event ω ρ) → Except Error Nat → Prop
  /-- The answer had as many rows as were worked on, and nothing failed. -/
  | completed {es : List (Event ω ρ)} {rows : List ρ} : delivered es = rows →
      es.head?.map Event.reply = some (.answer rows.length) → es.map Event.call = s.planned pageSize rows →
      (∀ e ∈ es, e.failure? = none) → FollowsPlan s pageSize es (.ok rows.length)
  /-- The last call is the first that failed, and those before it are what was planned. -/
  | stopped {done : List (Event ω ρ)} {last : Event ω ρ} {rows : List ρ} {f : Failure} : delivered done = rows →
      (∀ e ∈ done, e.failure? = none) → last.reply = .failed f →
      (done ++ [last]).map Event.call <+: s.planned pageSize rows ++ [.fetch rows.length] →
      FollowsPlan s pageSize (done ++ [last]) (.error (.session f))

/-! ## Following a list of calls -/

/-- The calls were made and none failed, or they were made up to and including the first that failed. -/
def Follows (calls : List (Call ρ)) (es : List (Event ω ρ)) : Except Failure α → Prop
  | .ok _ => es.map Event.call = calls ∧ ∀ e ∈ es, e.failure? = none
  | .error f => ∃ done last, es = done ++ [last] ∧ (∀ e ∈ done, e.failure? = none) ∧ last.reply = .failed f ∧
      es.map Event.call <+: calls

namespace Follows

variable {calls calls' : List (Call ρ)} {es es' : List (Event ω ρ)} {x : α} {f : Failure} {r : Except Failure β}

theorem append (h : Follows calls es (.ok x : Except Failure α)) (h' : Follows calls' es' r) :
    Follows (calls ++ calls') (es ++ es') r := by
  obtain ⟨hcalls, hnone⟩ := h
  cases r with
  | ok y =>
    obtain ⟨hcalls', hnone'⟩ := h'
    refine ⟨by rw [List.map_append, hcalls, hcalls'], fun e he => ?_⟩
    exact (List.mem_append.1 he).elim (hnone e) (hnone' e)
  | error f =>
    obtain ⟨done, last, rfl, hdone, hlast, hprefix⟩ := h'
    refine ⟨es ++ done, last, (List.append_assoc es done [last]).symm, fun e he => ?_, hlast, ?_⟩
    · exact (List.mem_append.1 he).elim (hnone e) (hdone e)
    · rw [List.map_append, hcalls]
      exact (List.prefix_append_right_inj calls).2 hprefix

theorem stop (h : Follows calls es (.error f : Except Failure α)) (calls' : List (Call ρ)) :
    Follows (calls ++ calls') es (.error f : Except Failure β) := by
  obtain ⟨done, last, hes, hdone, hlast, hprefix⟩ := h
  exact ⟨done, last, hes, hdone, hlast, hprefix.trans (List.prefix_append calls calls')⟩

end Follows

theorem logs_noted_follows (call : Call ρ) (a : Action ω Failure Unit) :
    Logs (noted call (fun _ => .done) a) fun _ es r _ => Follows [call] es r ∧ delivered es = [] := by
  refine (Logs.noted call _ a).mono ?_
  rintro w es r w' ⟨rfl, -⟩
  cases r with
  | ok x => exact ⟨⟨rfl, by simp [Event.failure?, Reply.ofResult]⟩, rfl⟩
  | error f => exact ⟨⟨[], _, rfl, by simp, rfl, List.prefix_rfl⟩, rfl⟩

theorem logs_bind_follows {a : Action (Watched ω ρ) Failure α} {next : α → Action (Watched ω ρ) Failure β}
    {calls calls' : List (Call ρ)} (h : Logs a fun _ es r _ => Follows calls es r ∧ delivered es = [])
    (hnext : ∀ x, Logs (next x) fun _ es r _ => Follows calls' es r ∧ delivered es = []) :
    Logs (a >>= next) fun _ es r _ => Follows (calls ++ calls') es r ∧ delivered es = [] := by
  refine h.bind (fun _ _ x _ _ => hnext x) ?_ ?_
  · rintro w es x v es' r w' ⟨hfirst, hnone⟩ ⟨hrest, hnone'⟩
    refine ⟨hfirst.append hrest, ?_⟩
    rw [delivered_append, hnone, hnone', List.nil_append]
  · rintro w es f w' ⟨hfirst, hnone⟩
    exact ⟨hfirst.stop calls', hnone⟩

/-! ## One row -/

theorem logs_assignRow (b : Backend ω ρ) (fields : List (String × Value)) (row : ρ) :
    Logs (Update.assignRow b.watched ⟨fields⟩ row) fun _ es r _ =>
      Follows (fields.map fun (key, v) => .assign row key v) es r ∧ delivered es = [] := by
  induction fields with
  | nil => exact .pure fun _ => ⟨⟨rfl, List.forall_mem_nil _⟩, rfl⟩
  | cons field fields ih =>
    obtain ⟨key, v⟩ := field
    exact logs_bind_follows (logs_noted_follows (.assign row key v) (b.assign row key v)) fun _ => ih

theorem logs_deleteRow (b : Backend ω ρ) (removal : Removal) (row : ρ) :
    Logs (Delete.deleteRow b.watched removal row) fun _ es r _ =>
      Follows ((if removal.componentsFirst then [.removeComponents row] else []) ++ [.deleteEntity row]) es r ∧
        delivered es = [] := by
  have hdelete := logs_noted_follows (.deleteEntity row) (b.deleteEntity row)
  rw [Delete.deleteRow]
  split
  · exact logs_bind_follows (logs_noted_follows (.removeComponents row) (b.removeComponents row)) fun _ => hdelete
  · exact hdelete

theorem BulkStatement.logs_work (s : BulkStatement σ) (b : Backend ω ρ) (row : ρ) :
    Logs (s.work b.watched row) fun _ es r _ => Follows (s.rowCalls row) es r ∧ delivered es = [] := by
  cases s with
  | update s => exact logs_assignRow b s.effect.fields row
  | delete s => exact logs_deleteRow b s.effect row

/-! ## Row after row -/

/-- The calls were made, and after them those for the rows from this place on that were delivered; a run that failed may
have failed in fetching one more. -/
def RowsFollow (rowCalls : ρ → List (Call ρ)) (calls : List (Call ρ)) (place : Nat) (es : List (Event ω ρ)) :
    Except Failure Nat → Prop
  | .ok n => Follows (calls ++ plannedFrom rowCalls place (delivered es)) es (.ok n : Except Failure Nat)
  | .error f =>
    Follows (calls ++ (plannedFrom rowCalls place (delivered es) ++ [.fetch (place + (delivered es).length)])) es
      (.error f : Except Failure Nat)

namespace RowsFollow

variable {rowCalls : ρ → List (Call ρ)} {calls : List (Call ρ)} {place : Nat} {es es' : List (Event ω ρ)}
  {e : Event ω ρ} {row : ρ} {x : α} {f : Failure} {r : Except Failure Nat}

theorem stopped (h : Follows calls es (.error f : Except Failure α)) :
    RowsFollow rowCalls calls place es (.error f) := Follows.stop (β := Nat) h _

theorem after (h : Follows calls es (.ok x : Except Failure α)) (hnone : delivered es = [])
    (h' : RowsFollow rowCalls [] place es' r) : RowsFollow rowCalls calls place (es ++ es') r := by
  have hdelivered : delivered (es ++ es') = delivered es' := by
    rw [delivered_append, hnone, List.nil_append]
  cases r with
  | ok n =>
    rw [RowsFollow, hdelivered]
    exact h.append h'
  | error f =>
    rw [RowsFollow, hdelivered]
    exact h.append h'

theorem not_fetched (hcall : e.call = .fetch place) (hreply : e.reply = .failed f) :
    RowsFollow rowCalls [] place [e] (.error f) := by
  rw [RowsFollow, delivered_of_failure hreply]
  refine ⟨[], e, rfl, List.forall_mem_nil _, hreply, ?_⟩
  rw [List.map_singleton, hcall]
  exact List.prefix_rfl

theorem fetched (hcall : e.call = .fetch place) (hreply : e.reply = .row row)
    (h : RowsFollow rowCalls (rowCalls row) (place + 1) es r) : RowsFollow rowCalls [] place (e :: es) r := by
  have hdelivered : delivered (e :: es) = row :: delivered es := by
    rw [delivered, List.filterMap_cons_some]
    · rfl
    · rw [Event.row?, hreply]
  have hfirst : Follows [.fetch place] [e] (.ok () : Except Failure Unit) := by
    refine ⟨by rw [List.map_singleton, hcall], fun e' he' => ?_⟩
    rw [List.mem_singleton.1 he', Event.failure?, hreply]
  cases r with
  | ok n =>
    rw [RowsFollow, hdelivered]
    exact hfirst.append h
  | error f =>
    rw [RowsFollow, ← List.append_assoc] at h
    rw [RowsFollow, hdelivered, List.length_cons, Nat.add_comm _ 1, ← Nat.add_assoc]
    exact hfirst.append h

end RowsFollow

theorem logs_forEachRow {work : ρ → Action (Watched ω ρ) Failure Unit} {rowCalls : ρ → List (Call ρ)}
    (hwork : ∀ row, Logs (work row) fun _ es r _ => Follows (rowCalls row) es r ∧ delivered es = [])
    (rows : List (Action ω Failure ρ)) (place : Nat) :
    Logs (forEachRow work (watchedRows place rows)) fun _ es r _ =>
      RowsFollow rowCalls [] place es r ∧ ∀ n, r = .ok n → n = rows.length ∧ (delivered es).length = rows.length := by
  induction rows generalizing place with
  | nil =>
    refine .pure fun _ => ⟨⟨rfl, List.forall_mem_nil _⟩, ?_⟩
    rintro n ⟨⟩
    exact ⟨rfl, rfl⟩
  | cons fetch rest ih =>
    -- what comes after a row has been fetched: the work on it, and the rows after it
    have hrest (row : ρ) : Logs (do work row; return (← forEachRow work (watchedRows (place + 1) rest)) + 1)
        fun _ es r _ => RowsFollow rowCalls (rowCalls row) (place + 1) es r ∧
          ∀ n, r = .ok n → n = rest.length + 1 ∧ (delivered es).length = rest.length := by
      have hcount : Logs (do return (← forEachRow work (watchedRows (place + 1) rest)) + 1) fun _ es r _ =>
          RowsFollow rowCalls [] (place + 1) es r ∧
            ∀ n, r = .ok n → n = rest.length + 1 ∧ (delivered es).length = rest.length := by
        refine (ih (place + 1)).map ?_ ?_
        · rintro w es n w' ⟨hfollow, hlength⟩
          refine ⟨hfollow, ?_⟩
          rintro m ⟨⟩
          exact ⟨congrArg (· + 1) (hlength n rfl).1, (hlength n rfl).2⟩
        · rintro w es f w' ⟨hfollow, -⟩
          exact ⟨hfollow, nofun⟩
      refine (hwork row).bind (fun _ _ _ _ _ => hcount) ?_ ?_
      · rintro w es x v es' r w' ⟨hfollow, hnone⟩ ⟨hfollow', hlength⟩
        refine ⟨.after hfollow hnone hfollow', fun n hn => ?_⟩
        rw [delivered_append, hnone, List.nil_append]
        exact hlength n hn
      · rintro w es f w' ⟨hfollow, -⟩
        exact ⟨.stopped hfollow, nofun⟩
    refine (Logs.noted (.fetch place) .row fetch).bind (fun _ _ row _ _ => hrest row) ?_ ?_
    · rintro w _ row v es r w' ⟨rfl, -⟩ ⟨hfollow, hlength⟩
      refine ⟨.fetched rfl rfl hfollow, fun n hn => ?_⟩
      obtain ⟨hn', hdelivered⟩ := hlength n hn
      exact ⟨hn', congrArg (· + 1) hdelivered⟩
    · rintro w _ f w' ⟨rfl, -⟩
      exact ⟨.not_fetched rfl rfl, nofun⟩

/-! ## The whole run -/

namespace BulkStatement

theorem logs_queryAndWork (s : BulkStatement σ) (b : Backend ω ρ) (pageSize : Option UInt32) :
    Logs (do forEachRow (s.work b.watched) (← b.watched.query s.queryText pageSize).rows)
      fun _ es r _ => s.FollowsPlan pageSize es (r.mapError .session) := by
  have hrows (w : ω) (es : List (Event ω ρ)) (result : QueryResult (Watched ω ρ) ρ) (w' : ω) :
      (∃ e, es = [e] ∧ e.call = .query s.queryText pageSize ∧
        ∃ rows, result.rows = watchedRows 0 rows ∧ e.reply = .answer rows.length) →
      Logs (forEachRow (s.work b.watched) result.rows) fun _ es r _ => RowsFollow s.rowCalls [] 0 es r ∧
        ∀ n, r = .ok n → n = result.rows.length ∧ (delivered es).length = result.rows.length := by
    rintro ⟨e, -, -, rows, hresult, -⟩
    rw [hresult, length_watchedRows]
    exact logs_forEachRow (s.logs_work b) rows 0
  refine (logs_query b s.queryText pageSize).bind hrows ?_ ?_
  · rintro w es result v es' r w' ⟨e, rfl, hcall, rows, hresult, hreply⟩ ⟨hfollow, hlength⟩
    have hnone : e.failure? = none := by
      rw [Event.failure?, hreply]
    have hquery : delivered [e] = [] := by
      rw [delivered, List.filterMap_cons_none, List.filterMap_nil]
      rw [Event.row?, hreply]
    -- a run that ends well has come to the end of the answer, any other to its first failure
    cases r with
    | ok n =>
      obtain ⟨hcalls, hnone'⟩ := hfollow
      obtain ⟨hn, hdelivered⟩ := hlength n rfl
      rw [hresult, length_watchedRows] at hn hdelivered
      obtain rfl : n = (delivered es').length := hn.trans hdelivered.symm
      refine .completed ?_ ?_ ?_ ?_
      · rw [delivered_append, hquery, List.nil_append]
      · rw [List.singleton_append, List.head?_cons, Option.map_some, hreply, hdelivered]
      · rw [List.singleton_append, List.map_cons, hcall, hcalls]
        rfl
      · exact List.forall_mem_cons.2 ⟨hnone, hnone'⟩
    | error f =>
      obtain ⟨done, last, rfl, hdone, hlast, hprefix⟩ := hfollow
      rw [delivered_append, delivered_of_failure hlast, List.append_nil, Nat.zero_add] at hprefix
      rw [← List.append_assoc]
      have hdelivered : delivered ([e] ++ done) = delivered done := by
        rw [delivered_append, hquery, List.nil_append]
      refine .stopped hdelivered (List.forall_mem_cons.2 ⟨hnone, hdone⟩) hlast ?_
      rw [List.append_assoc, List.singleton_append, List.map_cons, hcall]
      exact (List.prefix_cons_inj _).2 hprefix
  · rintro w es f w' ⟨e, rfl, hcall, hreply⟩
    have hnothing : delivered ([] : List (Event ω ρ)) = [] := rfl
    refine .stopped hnothing (List.forall_mem_nil _) hreply ?_
    rw [List.nil_append, List.map_singleton, hcall]
    exact List.prefix_append _ _

/-! ## The watched run is the run -/

theorem mirrors_work (s : BulkStatement σ) (b : Backend ω ρ) (row : ρ) :
    Mirrors Eq (s.work b.watched row) (s.work b row) := by
  cases s with
  | update s =>
    change Mirrors Eq (s.effect.fields.forM fun (key, v) => b.watched.assign row key v)
      (s.effect.fields.forM fun (key, v) => b.assign row key v)
    induction s.effect.fields with
    | nil => exact .pure rfl
    | cons field fields ih => exact (Mirrors.noted _ _ _).bind fun _ _ _ => ih
  | delete s =>
    have hdelete : Mirrors Eq (b.watched.deleteEntity row) (b.deleteEntity row) := .noted _ _ _
    change Mirrors Eq (Delete.deleteRow b.watched s.effect row) (Delete.deleteRow b s.effect row)
    rw [Delete.deleteRow, Delete.deleteRow]
    split
    · exact (Mirrors.noted _ _ _).bind fun _ _ _ => hdelete
    · exact hdelete

end BulkStatement

theorem mirrors_forEachRow {work : ρ → Action (Watched ω ρ) Failure Unit} {work' : ρ → Action ω Failure Unit}
    (hwork : ∀ row, Mirrors Eq (work row) (work' row)) {rows : List (Action (Watched ω ρ) Failure ρ)}
    {rows' : List (Action ω Failure ρ)} (h : List.Forall₂ (Mirrors Eq) rows rows') :
    Mirrors Eq (forEachRow work rows) (forEachRow work' rows') := by
  induction h with
  | nil => exact .pure rfl
  | cons hfetch _ ih =>
    refine hfetch.bind fun row row' hrow => ?_
    obtain rfl : row = row' := hrow
    exact (hwork row).bind fun _ _ _ => ih.bind fun n m hnm => .pure (congrArg (· + 1) hnm)

namespace BulkStatement

theorem mirrors_executeIn (s : BulkStatement σ) (session : Session ω ρ) :
    Mirrors Eq (s.executeIn session.watched) (s.executeIn session) := by
  rw [executeIn_eq, executeIn_eq]
  refine .withoutAutoPopulate session.toBackend (.adapt Error.session ?_)
  refine (mirrors_query session.toBackend s.queryText _).bind ?_
  rintro - result rfl
  exact mirrors_forEachRow (s.mirrors_work session.toBackend) (mirrors_watchedRows result.rows 0)

theorem logs_executeIn (s : BulkStatement σ) (session : Session ω ρ) :
    Logs (s.executeIn session.watched) fun w log r w' =>
      ∃ previous v es v', (session.setAutoPopulate false).run w = (previous, v) ∧
        s.FollowsPlan (s.effectivePageSize session.toBackend) es r ∧
        ((session.setAutoPopulate previous).run v').2 = w' ∧
        log = session.settingEvent false w :: (es ++ [session.settingEvent previous v']) := by
  have hpageSize : s.effectivePageSize session.watched.toBackend = s.effectivePageSize session.toBackend := by
    cases s with
    | update s => rfl
    | delete s => rfl
  rw [executeIn_eq, hpageSize]
  exact (Logs.adapt (s.logs_queryAndWork session.toBackend _) fun _ _ _ _ hfollow => hfollow).withoutAutoPopulate
    session.toBackend

/-- **A bulk run follows its plan**, on every session and from every world: the setting is changed, the calls that were
planned are made up to the first failure, and the setting that was found is put back. -/
theorem run_follows_plan (s : BulkStatement σ) (session : Session ω ρ) (w : ω) :
    ∃ (result : Except Error Nat) (w' : ω) (off restore : Event ω ρ) (es : List (Event ω ρ)) (previous : Bool),
      (s.executeIn session).outcome w = (result, w') ∧
      (s.executeIn session.watched).outcome ⟨w, []⟩ = (result, ⟨w', off :: (es ++ [restore])⟩) ∧
      (off.call = .setAutoPopulate false ∧ off.reply = .setting previous) ∧
      s.FollowsPlan (s.effectivePageSize session.toBackend) es result ∧
      restore.call = .setAutoPopulate previous := by
  have hwatched := s.logs_executeIn session ⟨w, []⟩
  have hsame := (s.mirrors_executeIn session).outcome_eq ⟨w, []⟩
  rcases hrun : (s.executeIn session.watched).outcome ⟨w, []⟩ with ⟨result, w', log⟩
  rw [hrun] at hwatched hsame
  obtain ⟨_, rfl, previous, v, es, v', hoff, hfollow, -, rfl⟩ := hwatched
  have hreply : (session.settingEvent false w).reply = .setting previous := by
    rw [Backend.settingEvent, hoff]
  exact ⟨result, w', _, _, es, previous, hsame, rfl, ⟨rfl, hreply⟩, hfollow, rfl⟩

end BulkStatement

end EntityQuery
