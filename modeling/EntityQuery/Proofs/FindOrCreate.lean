import EntityQuery.Proofs.Grouping
import EntityQuery.Proofs.LastValues
import EntityQuery.Proofs.Operations
import EntityQuery.Proofs.TypePaths
import EntityQuery.Session.Scripted
import Mathlib.Data.List.TakeWhile

/-!
# Finding an entity or making it

A select that ensures an entity asks the session for the entities that have all the given values, and makes one with the
same values only if the answer has no rows. Two things make this safe. The query and the creation are given one list of
fields, each once with its last value (`KeepsLast`), and the query names all of them and nothing else (`matchText_eq`).
And every failure ends the run before a creation (`EnsureRun`, `logs_findOrCreate`).
-/

namespace EntityQuery

open EntityQuery.Expr

variable {ω ρ σ : Type}

/-! ## The query -/

def equalityText : String × Value → String
  | (key, .entity e) => (Path.ofText key).identifier.toText ++ " is " ++ Literal.encode (.ofIdentifier e.id)
  | (key, v) => (Path.ofText key).toText ++ " is " ++ Literal.encode v

/-- The entity type, and after `where` the equalities of all fields. -/
def matchQuery (entityType : String) (fields : List (String × Value)) : String :=
  if fields.isEmpty then entityType
  else
    (if entityType.isEmpty then "" else entityType ++ " ") ++ "where " ++ " and ".intercalate (fields.map equalityText)

def fieldEquality (p : String × Value) : Expr := (Path.ofText p.1).is p.2

theorem isAtomic_fieldEquality (p : String × Value) : (fieldEquality p).isAtomic = true := by
  obtain ⟨key, v⟩ := p
  cases v <;> rfl

theorem text_fieldEquality (p : String × Value) : (fieldEquality p).text = equalityText p := by
  have htext (path : Path) (v : Value) :
      (compare path .equal v).text = path.toText ++ " is " ++ Literal.encode v := by
    rw [← String.toList_inj, toList_compare]
    simp [operand, Comparison.takesPattern, Comparison.keyword]
  obtain ⟨key, v⟩ := p
  cases v with
  | entity e => exact htext _ _
  | _ => exact htext _ _

theorem exprs_fields (fields : List (String × Value)) :
    Criterion.exprs (fields.map fun (key, v) => .field key (.value v)) = .ok (fields.map fieldEquality) :=
  Criterion.exprs_map (fun _ => rfl) fields

theorem ofPath_of_no_dot {path : String} (h : '.' ∉ path.toList) :
    (Select.ofPath path : Select σ) = Select.ofType path := by
  rw [Select.ofPath, (IsTypePath.alone h).split_eq]
  rfl

theorem joinParts_where {condition : String} (hsome : condition.isEmpty = false) (entityType : String) :
    joinParts [entityType, "where", condition] =
      (if entityType.isEmpty then "" else entityType ++ " ") ++ "where " ++ condition := by
  rw [← String.toList_inj, joinParts, String.toList_intercalate]
  cases hname : entityType.isEmpty with
  | true => simp [hname, hsome]
  | false => simp [hname, hsome]

theorem text_ofType (entityType : String) : Select.text (Select.ofType entityType : Select σ) = entityType := by
  have hparts : Select.text (Select.ofType entityType : Select σ) = joinParts [entityType] := by
    rw [Select.text, Clauses.text_eq]
    rfl
  rw [hparts, ← String.toList_inj, joinParts, String.toList_intercalate]
  cases hname : entityType.isEmpty with
  | true =>
    obtain rfl := String.isEmpty_iff.1 hname
    rfl
  | false => simp [hname]

theorem text_filter_ofType (entityType : String) {e : Expr} (hlive : e.isEmpty = false) :
    Select.text ((Select.ofType entityType : Select σ).filter e) =
      (if entityType.isEmpty then "" else entityType ++ " ") ++ "where " ++ e.text := by
  have hpredicate : Clauses.predicate { entityType, filters := [e] } = e :=
    group_of_live_one .and (live_eq_self (List.forall_mem_singleton.2 hlive))
  have hsome : e.text.isEmpty = false := by
    rw [Bool.eq_false_iff, ne_eq, String.isEmpty_iff, ← String.toList_eq_nil_iff]
    exact text_ne_nil hlive
  have hfilter : ((Select.ofType entityType : Select σ).filter e).clauses = { entityType, filters := [e] } := by
    rw [RowStatement.filter, hlive]
    rfl
  rw [Select.text, hfilter, Clauses.text_eq, hpredicate, ← joinParts_where hsome]
  simp [clauseParts, hsome]

/-- **The query for all the values** is the entity type and the equalities of all fields. -/
theorem matchText_eq {entityType : String} (hname : '.' ∉ entityType.toList) (fields : List (String × Value)) :
    Backend.matchText entityType fields = .ok (matchQuery entityType fields) := by
  have hatomic : ∀ e ∈ fields.map fieldEquality, e.isAtomic = true := by
    rw [List.forall_mem_map]
    exact fun p _ => isAtomic_fieldEquality p
  have hstatement : Backend.matchText entityType fields =
      .ok (Select.text ((Select.ofType entityType : Select Empty).filter (all (fields.map fieldEquality)))) := by
    rw [Backend.matchText, RowStatement.filterBy, Expr.allOf, exprs_fields, ofPath_of_no_dot hname]
    rfl
  rw [hstatement, matchQuery]
  cases fields with
  | nil => exact congrArg Except.ok (text_ofType entityType)
  | cons p fields =>
    have hne : (p :: fields).map fieldEquality ≠ [] := List.cons_ne_nil _ _
    have htexts : ((p :: fields).map fieldEquality).map text = (p :: fields).map equalityText := by
      rw [List.map_map]
      exact List.map_congr_left fun q _ => text_fieldEquality q
    rw [text_filter_ofType entityType (isEmpty_all_of_atomic hatomic hne), text_all_of_atomic hatomic hne, htexts]
    rfl

/-! ## The run -/

inductive RowCall (call : Call ρ) : List (Event ω ρ) → Except Failure ρ → Prop
  | row {e : Event ω ρ} {row : ρ} : e.call = call → e.reply = .row row → RowCall call [e] (.ok row)
  | failed {e : Event ω ρ} {f : Failure} : e.call = call → e.reply = .failed f → RowCall call [e] (.error f)

/-- The calls of a run that ensures an entity, and what it returns. -/
inductive EnsureRun (text entityType : String) (fields : List (String × Value)) :
    List (Event ω ρ) → Except Error ρ → Prop
  | failed {query : Event ω ρ} {f : Failure} : query.call = .query text none → query.reply = .failed f →
      EnsureRun text entityType fields [query] (.error (.session f))
  /-- There are rows. The first is fetched, and no other. -/
  | found {query : Event ω ρ} {more : Nat} {es : List (Event ω ρ)} {r : Except Failure ρ} :
      query.call = .query text none → query.reply = .answer (more + 1) → RowCall (.fetch 0) es r →
      EnsureRun text entityType fields (query :: es) (r.mapError fun f => .session (.internal (.session f)))
  /-- There are no rows. -/
  | missing {query : Event ω ρ} {es : List (Event ω ρ)} {r : Except Failure ρ} :
      query.call = .query text none → query.reply = .answer 0 → RowCall (.create entityType fields) es r →
      EnsureRun text entityType fields (query :: es) (r.mapError .session)

theorem logs_noted_row (call : Call ρ) (a : Action ω Failure ρ) :
    Logs (noted call .row a) fun _ es r _ => RowCall call es r := by
  refine (Logs.noted call .row a).mono ?_
  rintro w es r w' ⟨rfl, -⟩
  cases r with
  | ok row => exact .row rfl rfl
  | error f => exact .failed rfl rfl

theorem logs_fetch (place : Nat) (fetch : Action ω Failure ρ) : Logs (noted (.fetch place) Reply.row fetch).carried
    fun _ es r _ => ∃ fetched, RowCall (.fetch place) es fetched ∧ r = fetched.mapError Error.session :=
  (logs_noted_row (.fetch place) fetch).adapt fun _ _ r _ hrow => ⟨r, hrow, rfl⟩

theorem logs_first {result : QueryResult (Watched ω ρ) ρ} {rows : List (Action ω Failure ρ)}
    (h : result.rows = watchedRows 0 rows) :
    Logs result.first fun _ es r _ =>
      (rows.length = 0 ∧ es = [] ∧ r = .ok none) ∨
      ∃ more fetched, rows.length = more + 1 ∧ RowCall (.fetch 0) es fetched ∧
        r = (fetched.mapError Error.session).map some := by
  cases rows with
  | nil =>
    rw [QueryResult.first, h]
    exact .pure fun _ => .inl ⟨rfl, rfl, rfl⟩
  | cons fetch rows =>
    rw [QueryResult.first, h]
    refine (logs_fetch 0 fetch).map ?_ ?_
    · rintro w es row w' ⟨fetched, hrow, hr⟩
      exact .inr ⟨rows.length, fetched, rfl, hrow, by rw [← hr]; rfl⟩
    · rintro w es e w' ⟨fetched, hrow, hr⟩
      exact .inr ⟨rows.length, fetched, rfl, hrow, by rw [← hr]; rfl⟩

theorem logs_firstOrCreate (b : Backend ω ρ) {result : QueryResult (Watched ω ρ) ρ} {rows : List (Action ω Failure ρ)}
    (h : result.rows = watchedRows 0 rows) (entityType : String) (fields : List (String × Value)) :
    Logs (result.first.reported >>= fun found => match found with
        | some row => pure row
        | none => b.watched.create entityType fields)
      fun _ es r _ => ∀ (text : String) (query : Event ω ρ), query.call = .query text none →
        query.reply = .answer rows.length → EnsureRun text entityType fields (query :: es) (r.mapError .session) := by
  have hfirst : Logs result.first.reported fun _ es r _ =>
      (rows.length = 0 ∧ es = [] ∧ r = .ok none) ∨
      ∃ more fetched, rows.length = more + 1 ∧ RowCall (.fetch 0) es fetched ∧
        r = (fetched.mapError fun f => Failure.internal (.session f)).map some := by
    refine (logs_first h).adapt ?_
    rintro w es r w' (⟨hnone, rfl, rfl⟩ | ⟨more, fetched, hsome, hrow, rfl⟩)
    · exact .inl ⟨hnone, rfl, rfl⟩
    · exact .inr ⟨more, fetched, hsome, hrow, by cases fetched <;> rfl⟩
  -- `R` says what the second part does once it is known whether there is a row
  refine hfirst.bind (R := fun found _ es r _ => match found with
      | some row => es = [] ∧ r = .ok row
      | none => RowCall (.create entityType fields) es r) ?_ ?_ ?_
  · intro _ _ found _ _
    cases found with
    | some row => exact .pure fun _ => ⟨rfl, rfl⟩
    | none => exact logs_noted_row _ _
  · rintro w es found v es' r w' (⟨hnone, rfl, hfound⟩ | ⟨more, fetched, hsome, hrow, hfound⟩) hrest text query hcall
      hreply
    · cases hfound
      rw [hnone] at hreply
      exact .missing hcall hreply hrest
    · cases fetched with
      | ok row =>
        cases hfound
        obtain ⟨rfl, rfl⟩ := hrest
        rw [hsome] at hreply
        rw [List.append_nil]
        exact .found hcall hreply hrow
      | error f => cases hfound
  · rintro w es e w' (⟨-, -, hfound⟩ | ⟨more, fetched, hsome, hrow, hfound⟩) text query hcall hreply
    · cases hfound
    · cases fetched with
      | ok row => cases hfound
      | error f =>
        cases hfound
        rw [hsome] at hreply
        exact .found hcall hreply hrow

theorem logs_findOrCreate (b : Backend ω ρ) {entityType text : String} {fields : List (String × Value)}
    (htext : Backend.matchText entityType fields = .ok text) :
    Logs (b.watched.findOrCreate entityType fields) fun _ es r _ =>
      EnsureRun text entityType fields es (r.mapError .session) := by
  have hrun : b.watched.findOrCreate entityType fields = b.watched.query text none >>= fun result =>
      result.first.reported >>= fun found => match found with
        | some row => pure row
        | none => b.watched.create entityType fields := by
    rw [Backend.findOrCreate, htext]
    rfl
  rw [hrun]
  refine (logs_query b text none).bind (R := fun result _ es r _ => ∀ query : Event ω ρ, query.call = .query text none →
    query.reply = .answer result.rows.length → EnsureRun text entityType fields (query :: es) (r.mapError .session))
    ?_ ?_ ?_
  · rintro w es result w' ⟨query, -, -, rows, hrows, -⟩
    refine (logs_firstOrCreate b hrows entityType fields).mono ?_
    intro _ es' r _ hrest query hcall hreply
    rw [hrows, length_watchedRows] at hreply
    exact hrest text query hcall hreply
  · rintro w es result v es' r w' ⟨query, rfl, hcall, rows, hrows, hreply⟩ hrest
    refine hrest query hcall ?_
    rw [hrows, length_watchedRows]
    exact hreply
  · rintro w es f w' ⟨query, rfl, hcall, hreply⟩
    exact .failed hcall hreply

/-- **An entity is made only if none was found, with the values that it was looked for with.** A query for the entity
type and all the fields comes first. If it fails, so does the run; if it has rows, the first is fetched and is what the
run returns; and if it has none, an entity is made with the same fields. -/
theorem ensure_creates_only_what_is_missing (session : Session ω ρ)
    (hdefault : session.ensure = session.toBackend.findOrCreate) (s : Select σ) (hname : '.' ∉ s.entityType.toList)
    (pairs : List (String × Value)) (w : ω) :
    KeepsLast pairs (FieldValues.ofList pairs).fields ∧
    ∃ result w' log,
      (Select.ensure (s.bind session) pairs).outcome w = (result, w') ∧
      (Select.ensure (s.bind session.toBackend.watched.withLookups) pairs).outcome ⟨w, []⟩ = (result, ⟨w', log⟩) ∧
      EnsureRun (matchQuery s.entityType (FieldValues.ofList pairs).fields) s.entityType
        (FieldValues.ofList pairs).fields log result := by
  refine ⟨keepsLast_ofList pairs, ?_⟩
  set fields := (FieldValues.ofList pairs).fields
  have hsession : Select.ensure (s.bind session) pairs =
      (session.toBackend.findOrCreate s.entityType fields).carried := by
    rw [← hdefault]
    rfl
  have hwatched : Select.ensure (s.bind session.toBackend.watched.withLookups) pairs =
      (session.toBackend.watched.findOrCreate s.entityType fields).carried := rfl
  have hmirrors := (mirrors_findOrCreate session.toBackend s.entityType fields).adapt Error.session
  have hlogs : Logs (session.toBackend.watched.findOrCreate s.entityType fields).carried fun _ es r _ =>
      EnsureRun (matchQuery s.entityType fields) s.entityType fields es r :=
    (logs_findOrCreate session.toBackend (matchText_eq hname fields)).adapt fun _ _ _ _ hrun => hrun
  obtain ⟨log, hlog, hrun⟩ := hlogs ⟨w, []⟩
  have houtcome := hmirrors.outcome_eq ⟨w, []⟩
  change Action.outcome (Action.carried _) w = _ at houtcome
  rcases hout : (session.toBackend.watched.findOrCreate s.entityType fields).carried.outcome ⟨w, []⟩ with
    ⟨result, ⟨w', log'⟩⟩
  rw [hout] at hlog hrun
  obtain rfl : log' = log := hlog
  refine ⟨result, w', log', ?_, hwatched ▸ hout, hrun⟩
  rw [hsession, houtcome]
  exact congrArg (fun out => (out.1, out.2.world)) hout

/-- One field is given twice and another is an entity. Nothing matches, and the entity is made. -/
theorem ensure_creates_missing_task :
    let session := Scripted.session {}
    let s : Select Empty := Select.ofType "Task"
    let pairs := [("name", Value.text "a"), ("status", .entity ⟨none, .integer 7⟩), ("name", .text "b")]
    let fields := [("name", Value.text "b"), ("status", .entity ⟨none, .integer 7⟩)]
    (session.ensure = session.toBackend.findOrCreate ∧ '.' ∉ s.entityType.toList) ∧ KeepsLast pairs fields ∧
    ∃ result w' log,
      (Select.ensure (s.bind session) pairs).outcome {} = (result, w') ∧
      (Select.ensure (s.bind session.toBackend.watched.withLookups) pairs).outcome ⟨{}, []⟩ = (result, ⟨w', log⟩) ∧
      EnsureRun "Task where name is \"b\" and status.id is 7" "Task" fields log result ∧
      w'.entities.map Scripted.Entity.fields = [fields] := by
  intro session s pairs fields
  have hname : '.' ∉ s.entityType.toList := by
    decide
  obtain ⟨hkeeps, result, w', log, hrun, hwatched, hcalls⟩ :=
    ensure_creates_only_what_is_missing session rfl s hname pairs {}
  refine ⟨⟨rfl, hname⟩, hkeeps, result, w', log, hrun, hwatched, hcalls, ?_⟩
  obtain rfl : w' = _ := congrArg Prod.snd hrun.symm
  rfl

end EntityQuery
