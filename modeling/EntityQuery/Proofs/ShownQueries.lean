import EntityQuery.Proofs.EqualRuns
import EntityQuery.Proofs.Operations

/-!
# The rows that are shown are the rows that are changed

An update and a delete show the query for the rows that they change as a part of their text, and a run sends that query
and no other (`shown_query_is_sent`). A delete that removes components has them fetched with the rows, so its query begins
with a list of attributes; what follows the list is what it shows, as it is for all clauses (`Clauses.text_true_of_names`).
-/

namespace EntityQuery

variable {ω ρ σ : Type}

/-! ## Clauses with attributes to fetch -/

theorem joinParts_of_shown {parts : List String} (h : ∀ part ∈ parts, part ≠ "") :
    joinParts parts = " ".intercalate parts := by
  rw [joinParts, List.filter_eq_self.2]
  intro part hpart
  simpa using h part hpart

theorem Clauses.text_true_of_names {c : Clauses} (htype : c.entityType ≠ "")
    (hnames : ∀ name ∈ c.projection, name ≠ "") :
    c.text true =
      (if c.projection = [] then "" else "select " ++ ", ".intercalate c.projection ++ " from ") ++ c.text false := by
  have hrest : c.text false ≠ "" := by
    rw [ne_eq, ← String.toList_eq_nil_iff, text_eq_parts]
    refine joinParts_ne_nil ?_ htype
    simp [front]
  rw [text_true]
  by_cases hnone : c.projection = []
  · simp [hnone, joinParts_of_shown (List.forall_mem_singleton.2 hrest)]
  · have hlisting : ", ".intercalate c.projection ≠ "" := by
      rw [ne_eq, ← String.toList_eq_nil_iff]
      refine listing_ne_nil hnone fun name hname => ?_
      rw [ne_eq, String.toList_eq_nil_iff]
      exact hnames name hname
    have hshown : ∀ part ∈ ["select", ", ".intercalate c.projection, "from", c.text false], part ≠ "" := by
      simp [hlisting, hrest]
    rw [if_neg hnone, List.isEmpty_eq_false_iff.2 hnone, if_neg Bool.false_ne_true]
    calc joinParts (["select", ", ".intercalate c.projection, "from"] ++ [c.text false])
        = " ".intercalate ["select", ", ".intercalate c.projection, "from", c.text false] := joinParts_of_shown hshown
      _ = "select " ++ ", ".intercalate c.projection ++ " from " ++ c.text false := by
        simp [← String.toList_inj]

/-! ## The query of a run -/

def Call.query? : Call ρ → Option String
  | query text _ => some text
  | _ => none

def queriesSent (es : List (Event ω ρ)) : List String := es.filterMap fun e => e.call.query?

theorem queriesSent_append (es es' : List (Event ω ρ)) : queriesSent (es ++ es') = queriesSent es ++ queriesSent es' :=
  List.filterMap_append

theorem queriesSent_eq (es : List (Event ω ρ)) : queriesSent es = (es.map Event.call).filterMap Call.query? := by
  rw [queriesSent, List.filterMap_map]
  rfl

namespace BulkStatement

theorem query?_of_mem_rowCalls {s : BulkStatement σ} {row : ρ} {call : Call ρ} (h : call ∈ s.rowCalls row) :
    call.query? = none := by
  cases s with
  | update s =>
    obtain ⟨field, -, rfl⟩ := List.mem_map.1 h
    rfl
  | delete s =>
    rw [rowCalls] at h
    split at h
    all_goals simp only [List.mem_append, List.mem_singleton, List.not_mem_nil, false_or] at h
    · rcases h with rfl | rfl <;> rfl
    · rw [h]
      rfl

theorem query?_of_mem_plannedFrom {s : BulkStatement σ} {rows : List ρ} {place : Nat} {call : Call ρ}
    (h : call ∈ plannedFrom s.rowCalls place rows) : call.query? = none := by
  induction rows generalizing place with
  | nil => exact absurd h List.not_mem_nil
  | cons row rows ih =>
    rcases List.mem_cons.1 h with rfl | h
    · rfl
    · exact (List.mem_append.1 h).elim query?_of_mem_rowCalls ih

theorem queries_of_prefix {s : BulkStatement σ} {pageSize : Option UInt32} {calls rest : List (Call ρ)} {rows : List ρ}
    (hne : calls ≠ []) (hrest : ∀ call ∈ rest, call.query? = none)
    (hbegins : calls <+: s.planned pageSize rows ++ rest) : calls.filterMap Call.query? = [s.queryText] := by
  obtain ⟨call, calls, rfl⟩ := List.exists_cons_of_ne_nil hne
  rw [planned, List.cons_append] at hbegins
  obtain ⟨rfl, hrows⟩ := List.cons_prefix_cons.1 hbegins
  have hnone : calls.filterMap Call.query? = [] := by
    refine List.filterMap_eq_nil_iff.2 fun call hcall => ?_
    exact (List.mem_append.1 (hrows.subset hcall)).elim query?_of_mem_plannedFrom (hrest call)
  exact congrArg (s.queryText :: ·) hnone

theorem FollowsPlan.queriesSent {s : BulkStatement σ} {pageSize : Option UInt32} {es : List (Event ω ρ)}
    {result : Except Error Nat} (h : s.FollowsPlan pageSize es result) : queriesSent es = [s.queryText] := by
  rw [queriesSent_eq]
  cases h with
  | completed _ _ hcalls _ =>
    rw [hcalls]
    exact queries_of_prefix (List.cons_ne_nil _ _) (List.forall_mem_nil _) (List.prefix_append _ _)
  | stopped _ _ _ hbegins =>
    -- the call that failed may be the fetching of a row after the last one of the plan
    exact queries_of_prefix (by simp) (List.forall_mem_singleton.2 rfl) hbegins

/-- On every session and from every world, the run sends this query and no other. -/
def Sends (s : BulkStatement σ) (query : String) : Prop :=
  ∀ {ω ρ : Type} (session : Session ω ρ) (w : ω), ∃ result w' log,
    (s.executeIn session).outcome w = (result, w') ∧
    (s.executeIn session.watched).outcome ⟨w, []⟩ = (result, ⟨w', log⟩) ∧
    queriesSent log = [query]

theorem sends_queryText (s : BulkStatement σ) : s.Sends s.queryText := by
  intro ω ρ session w
  obtain ⟨result, w', log, hrun, hwatched, previous, v, es, v', -, hplan, -, hlog⟩ :=
    (s.mirrors_executeIn session).exists_run (s.logs_executeIn session) w
  refine ⟨result, w', log, hrun, hwatched, ?_⟩
  rw [hlog, ← List.singleton_append, queriesSent_append, queriesSent_append, hplan.queriesSent]
  rfl

end BulkStatement

/-! ## The main statement -/

theorem Delete.queryText_of_type {d : Delete σ} (htype : d.entityType ≠ "") : d.queryText =
    if d.effect.componentsFirst then "select component_locations.location from " ++ d.clauses.text false
    else d.clauses.text false := by
  rw [queryText]
  split
  · have hnames : ∀ name ∈ [componentLocations], name ≠ "" := by
      decide
    have htext := Clauses.text_true_of_names (c := { d.clauses with projection := [componentLocations] }) htype hnames
    rw [htext, Clauses.text_false_projected]
    rfl
  · rfl

/-- **What an update or a delete shows is what it runs on**: the text is the keyword, the query that every run sends and,
for an update, the assignments. The query of a delete that removes components has them listed in front. Likewise any
clauses with attributes to fetch are written as the list of these and the clauses without them. -/
theorem shown_query_is_sent :
    (∀ u : Update σ, ∃ query, u.text = "update " ++ query ++ " set (" ++ u.effect.text ++ ")" ∧
      (BulkStatement.update u).Sends query) ∧
    (∀ d : Delete σ, d.entityType ≠ "" → ∃ query, d.text = "delete " ++ query ∧
      (BulkStatement.delete d).Sends
        (if d.effect.componentsFirst then "select component_locations.location from " ++ query else query)) ∧
    ∀ c : Clauses, c.entityType ≠ "" → (∀ name ∈ c.projection, name ≠ "") →
      c.text true =
        (if c.projection = [] then "" else "select " ++ ", ".intercalate c.projection ++ " from ") ++ c.text false := by
  refine ⟨fun u => ⟨u.queryText, rfl, (BulkStatement.update u).sends_queryText⟩, fun d htype => ?_, ?_⟩
  · refine ⟨d.clauses.text false, rfl, ?_⟩
    rw [← Delete.queryText_of_type htype]
    exact (BulkStatement.delete d).sends_queryText
  · exact fun c htype hnames => c.text_true_of_names htype hnames

/-- A delete with a condition, a sort key and a limit that removes components first, and its clauses with attributes to
fetch. -/
theorem delete_removing_components_shows_its_query :
    let d : Delete Empty :=
      { clauses := { entityType := "Task", filters := [.raw "a is 1 or b is 2"], sort := [⟨⟨["bid"]⟩, .descending⟩],
                     limit := some 5 },
        effect := ⟨true⟩ }
    let c : Clauses := { d.clauses with projection := ["name", "bid"] }
    (d.entityType ≠ "" ∧ c.entityType ≠ "" ∧ ∀ name ∈ c.projection, name ≠ "") ∧
    d.text = "delete Task where a is 1 or b is 2 order by bid descending limit 5" ∧
    (BulkStatement.delete d).Sends
      "select component_locations.location from Task where a is 1 or b is 2 order by bid descending limit 5" ∧
    c.text true = "select name, bid from Task where a is 1 or b is 2 order by bid descending limit 5" := by
  intro d c
  have htype : d.entityType ≠ "" := by
    decide
  have hnames : ∀ name ∈ c.projection, name ≠ "" := by
    decide
  have hshown : d.clauses.text false = "Task where a is 1 or b is 2 order by bid descending limit 5" := by
    decide +kernel
  obtain ⟨-, hdelete, hclauses⟩ := shown_query_is_sent (σ := Empty)
  obtain ⟨query, htext, hsends⟩ := hdelete d htype
  obtain rfl : query = d.clauses.text false := by
    rw [Delete.text, ← String.toList_inj, String.toList_append, String.toList_append] at htext
    exact String.toList_inj.1 (List.append_cancel_left htext).symm
  refine ⟨⟨htype, htype, hnames⟩, ?_, ?_, ?_⟩
  · rw [htext, hshown]
    rfl
  · rw [hshown] at hsends
    exact hsends
  · rw [hclauses c htype hnames, Clauses.text_false_projected, hshown]
    rfl

end EntityQuery
