import EntityQuery.Proofs.FindOrCreate
import EntityQuery.Proofs.Reading
import EntityQuery.Session.Scripted

/-!
# Finding the only entity

A select that looks up an entity by the unique field of its type asks for one row and takes the error that there is none
for an answer. No other error is taken for it: what the result says about the replies of the session is `FindsOnly`, which
holds of every run, whatever the rows and whichever calls fail (`logs_one`, `RowsSought.findsOnly`).

The query is that of the select with one more condition (`Select.text_filter`). Conditions that the select has are
bracketed beside it where it takes that to keep them whole, and so the condition of the query has one reading, which says
that the conditions of the select hold and the field has the value (`condition_of_lookup`).
-/

namespace EntityQuery

open EntityQuery.Expr

variable {ω ρ σ α : Type}

/-! ## The table of unique fields -/

namespace Fields

variable {key : String} {x : α} {fields : List (String × α)}

theorem lookup?_cons (p : String × α) :
    lookup? key (p :: fields) = if p.1 = key then some p.2 else lookup? key fields := by
  rw [lookup?, List.find?_cons]
  by_cases hkey : p.1 = key
  · simp [hkey]
  · rw [beq_eq_false_iff_ne.2 hkey, if_neg hkey]
    rfl

theorem lookup?_eq_none_iff : lookup? key fields = none ↔ key ∉ fields.map Prod.fst := by
  induction fields with
  | nil => simp [lookup?]
  | cons p fields ih =>
    rw [lookup?_cons, List.map_cons, List.mem_cons, not_or]
    split
    next hkey => simp [hkey]
    next hkey => simp [ih, Ne.symm hkey]

theorem lookup?_eq_some_iff (hnodup : (fields.map Prod.fst).Nodup) :
    lookup? key fields = some x ↔ (key, x) ∈ fields := by
  induction fields with
  | nil => simp [lookup?]
  | cons p fields ih =>
    obtain ⟨k, y⟩ := p
    obtain ⟨hnew, hrest⟩ := List.nodup_cons.1 hnodup
    rw [lookup?_cons, List.mem_cons, Prod.mk.injEq]
    split
    next hkey =>
      obtain rfl : k = key := hkey
      have hother : (k, x) ∉ fields := fun hmem => hnew (List.mem_map.2 ⟨_, hmem, rfl⟩)
      simp [hother, eq_comm]
    next hkey => simp [ih hrest, Ne.symm hkey]

end Fields

theorem primaryKey?_eq_some_iff {entityType key : String} :
    primaryKey? entityType = some key ↔ (entityType, key) ∈ primaryKeys := by
  have hnodup : (primaryKeys.map Prod.fst).Nodup := by
    decide
  exact Fields.lookup?_eq_some_iff hnodup

theorem primaryKey?_eq_none_iff {entityType : String} :
    primaryKey? entityType = none ↔ entityType ∉ primaryKeys.map Prod.fst := Fields.lookup?_eq_none_iff

theorem isSubject_of_mem_primaryKeys {p : String × String} (h : p ∈ primaryKeys) :
    (Path.ofText p.2).IsSubject ∧ (Path.ofText p.2).identifier.IsSubject := by
  have hkeys : ∀ p ∈ primaryKeys, ∀ path ∈ [Path.ofText p.2, (Path.ofText p.2).identifier],
      path.IsNamed ∧ path.segments ≠ [] ∧ path.toText.toList ∉ reservedWords := by
    decide
  have hsubject (path : Path) (hpath : path ∈ [Path.ofText p.2, (Path.ofText p.2).identifier]) : path.IsSubject := by
    obtain ⟨hnamed, hnonempty, hfree⟩ := hkeys p h path hpath
    exact ⟨hnamed, hnonempty, hfree⟩
  exact ⟨hsubject _ (by simp), hsubject _ (by simp)⟩

/-! ## The query -/

section query

variable {e : Expr} {es : List Expr}

theorem live_append_of_live (hlive : e.isEmpty = false) : live (es ++ [e]) = live es ++ [e] := by
  simp [live_append, live_cons, hlive]

theorem isEmpty_all_append (hlive : e.isEmpty = false) : (all (es ++ [e])).isEmpty = false := by
  rw [all, isEmpty_group_eq_false_iff, live_append_of_live hlive]
  simp

theorem Select.text_filter (s : Select σ) (hlive : e.isEmpty = false) : Select.text (s.filter e) =
    joinParts (s.clauses.front true ++ (["where", (Expr.all (s.clauses.filters ++ [e])).text] ++ s.clauses.back)) := by
  have hfilter : (s.filter e).clauses = { s.clauses with filters := s.clauses.filters ++ [e] } := by
    rw [RowStatement.filter, hlive]
    rfl
  have hsome : (Expr.all (s.clauses.filters ++ [e])).isEmpty = false := isEmpty_all_append hlive
  have hcondition := Clauses.conditionParts_of_shown (text_ne_nil hsome)
  rw [Select.text, Clauses.text_eq_parts, hfilter, ← hcondition]
  rfl

theorem isEmpty_fieldEquality (p : String × Value) : (fieldEquality p).isEmpty = false :=
  (plain_of_isAtomic (isAtomic_fieldEquality p)).1

theorem toList_text_all_fieldEquality (es : List Expr) (p : String × Value) :
    (all (es ++ [fieldEquality p])).text.toList = parts .and (live es ++ [fieldEquality p]) := by
  have hlive : live (es ++ [fieldEquality p]) = live es ++ [fieldEquality p] :=
    live_append_of_live (isEmpty_fieldEquality p)
  rw [← hlive]
  refine toList_text_all (by simp [hlive]) fun t ht => ?_
  rw [hlive, List.append_eq_singleton_iff] at ht
  rcases ht with ⟨-, ht⟩ | ⟨-, ht⟩
  · obtain rfl := (List.cons.inj ht).1
    exact (plain_of_isAtomic (isAtomic_fieldEquality p)).2.2 .and
  · cases ht

theorem holds_fieldEquality {truth : List Char → Prop} (p : String × Value) :
    (fieldEquality p).Holds (leafHolds IsPredicate truth) ↔ truth (equalityText p).toList := by
  rw [holds_of_isLeaf (isLeaf_of_isAtomic (isAtomic_fieldEquality p)), ← text_fieldEquality]
  obtain ⟨key, v⟩ := p
  cases v <;> rfl

theorem readable_fieldEquality {entityType key : String} (hkey : (entityType, key) ∈ primaryKeys) (v : Value) :
    Readable (fieldEquality (key, v)) := by
  obtain ⟨hsubject, hidentifier⟩ := isSubject_of_mem_primaryKeys hkey
  have hequal {path : Path} (hpath : path.IsSubject) (value : Value) : Readable (compare path .equal value) :=
    .compare hpath (.compare hpath.named nofun)
  cases v with
  | entity e => exact hequal hidentifier _
  | _ => exact hequal hsubject _

/-- The condition of a lookup has one reading: the conditions of the select hold, and the field has the value. -/
theorem condition_of_lookup {entityType key : String} (hkey : (entityType, key) ∈ primaryKeys) (v : Value)
    (hes : ∀ e ∈ es, Built Readable e) :
    ∃ r, (∀ s, Reads IsPredicate .sentence (all (es ++ [fieldEquality (key, v)])).text.toList s ↔ s = r) ∧
      ∀ truth, r.Holds truth ↔
        (all es).Holds (leafHolds IsPredicate truth) ∧ truth (equalityText (key, v)).toList := by
  have hequality : Built Readable (fieldEquality (key, v)) :=
    .leaf (isLeaf_of_isAtomic (isAtomic_fieldEquality _)) (readable_fieldEquality hkey v)
  have hbuilt : Built Readable (all (es ++ [fieldEquality (key, v)])) := by
    refine .all fun e he => ?_
    rcases List.mem_append.1 he with he | he
    · exact hes e he
    · rw [List.mem_singleton.1 he]
      exact hequality
  have hlive : (all (es ++ [fieldEquality (key, v)])).isEmpty = false := isEmpty_all_append (isEmpty_fieldEquality _)
  obtain ⟨r, hr, hmeaning⟩ := (hbuilt.canonical.spoken (fun _ => spoken_leaf) hlive).alone
  refine ⟨r, fun s => ⟨fun hs => hs.unique (fun _ => IsPredicate.isTriple) hr, ?_⟩, fun truth => ?_⟩
  · rintro rfl
    exact hr
  · rw [hmeaning, meaning, holds_all, holds_all, live_append_of_live (isEmpty_fieldEquality _), List.forall_mem_append,
      List.forall_mem_singleton, holds_fieldEquality]

end query

/-! ## The only row -/

/-- The rows that are fetched of an answer with so many to see whether it has one row only, and what comes of it. -/
inductive OnlyRow : Nat → List (Event ω ρ) → Except Error ρ → Prop
  | none (text : String) : OnlyRow 0 [] (.error (.noResultFound text))
  | single {first : Event ω ρ} {row : ρ} : first.call = .fetch 0 → first.reply = .row row → OnlyRow 1 [first] (.ok row)
  | failed {more : Nat} {first : Event ω ρ} {f : Failure} : first.call = .fetch 0 → first.reply = .failed f →
      OnlyRow (more + 1) [first] (.error (.session f))
  | secondFailed {more : Nat} {first second : Event ω ρ} {row : ρ} {f : Failure} : first.call = .fetch 0 →
      first.reply = .row row → second.call = .fetch 1 → second.reply = .failed f →
      OnlyRow (more + 2) [first, second] (.error (.session f))
  | several {more : Nat} {first second : Event ω ρ} {row row' : ρ} (text : String) : first.call = .fetch 0 →
      first.reply = .row row → second.call = .fetch 1 → second.reply = .row row' →
      OnlyRow (more + 2) [first, second] (.error (.multipleResultsFound text))

/-- After a first row, a second one is fetched only to see whether it is there. -/
theorem logs_second (fetch : Action ω Failure ρ) (text : String) (more : Nat) :
    Logs ((noted (.fetch 1) Reply.row fetch).carried >>= fun _ =>
        (throw (.multipleResultsFound text) : Action (Watched ω ρ) Error ρ))
      fun _ es r _ => ∀ (first : Event ω ρ) (row : ρ), first.call = .fetch 0 → first.reply = .row row →
        OnlyRow (more + 2) (first :: es) r := by
  refine (logs_fetch 1 fetch).bind (R := fun _ _ es r _ => es = [] ∧ r = .error (.multipleResultsFound text))
    (fun _ _ _ _ _ => .throw fun _ => ⟨rfl, rfl⟩) ?_ ?_
  · rintro w es row' v _ _ w' ⟨fetched, hrow, hr⟩ ⟨rfl, rfl⟩ first row hcall hreply
    cases hrow with
    | row hcall' hreply' => exact .several text hcall hreply hcall' hreply'
    | failed => cases hr
  · rintro w es x w' ⟨fetched, hrow, hr⟩ first row hcall hreply
    cases hrow with
    | row => cases hr
    | failed hcall' hreply' =>
      cases hr
      exact .secondFailed hcall hreply hcall' hreply'

theorem logs_one {result : QueryResult (Watched ω ρ) ρ} {rows : List (Action ω Failure ρ)}
    (h : result.rows = watchedRows 0 rows) : Logs result.one fun _ es r _ => OnlyRow rows.length es r := by
  match rows with
  | [] =>
    rw [QueryResult.one, h]
    exact .throw fun _ => .none _
  | [only] =>
    rw [QueryResult.one, h]
    refine (logs_fetch 0 only).mono ?_
    rintro w es r w' ⟨fetched, hrow, rfl⟩
    cases hrow with
    | row hcall hreply => exact .single hcall hreply
    | failed hcall hreply => exact .failed hcall hreply
  | first :: second :: rest =>
    rw [QueryResult.one, h]
    -- a second row is fetched only to see whether it is there
    refine (logs_fetch 0 first).bind (fun _ _ _ _ _ => logs_second second result.query rest.length) ?_ ?_
    · rintro w es row v es' r w' ⟨fetched, hrow, hr⟩ hrest
      cases hrow with
      | row hcall hreply => exact hrest _ _ hcall hreply
      | failed => cases hr
    · rintro w es x w' ⟨fetched, hrow, hr⟩
      cases hrow with
      | row => cases hr
      | failed hcall hreply =>
        cases hr
        exact .failed hcall hreply

/-! ## The run -/

/-- The calls of a run that asks for the only row, and what it returns. -/
inductive RowsSought (text : String) (pageSize : Option UInt32) : List (Event ω ρ) → Except Error ρ → Prop
  | failed {query : Event ω ρ} {f : Failure} : query.call = .query text pageSize → query.reply = .failed f →
      RowsSought text pageSize [query] (.error (.session f))
  | answered {query : Event ω ρ} {rows : Nat} {es : List (Event ω ρ)} {r : Except Error ρ} :
      query.call = .query text pageSize → query.reply = .answer rows → OnlyRow rows es r →
      RowsSought text pageSize (query :: es) r

/-- What the result of looking for the only row says about the replies, and the calls that it takes. -/
structure FindsOnly (text : String) (pageSize : Option UInt32) (log : List (Event ω ρ))
    (result : Except Error (Option ρ)) : Prop where
  /-- One query, and then at most two rows. -/
  calls : log ≠ [] ∧ log.map Event.call <+: [.query text pageSize, .fetch 0, .fetch 1]
  none_iff : result = .ok none ↔ log.map Event.reply = [.answer 0]
  some_iff (row : ρ) : result = .ok (some row) ↔ log.map Event.reply = [.answer 1, .row row]
  several_iff : (∃ query, result = .error (.multipleResultsFound query)) ↔
    ∃ more row row', log.map Event.reply = [.answer (more + 2), .row row, .row row']
  failed_iff (f : Failure) : result = .error (.session f) ↔ log.findSome? Event.failure? = some f
  complete : (∃ found, result = .ok found) ∨ (∃ query, result = .error (.multipleResultsFound query)) ∨
    ∃ f, result = .error (.session f)

theorem RowsSought.findsOnly {text : String} {pageSize : Option UInt32} {log : List (Event ω ρ)} {r : Except Error ρ}
    (h : RowsSought text pageSize log r) : FindsOnly text pageSize log (Select.orNoneResult r) := by
  cases h with
  | failed hcall hreply => constructor <;> simp [Select.orNoneResult, Event.failure?, hcall, hreply]
  | answered hquery hanswer honly =>
    cases honly with
    | none => constructor <;> simp [Select.orNoneResult, Event.failure?, hquery, hanswer]
    | single hcall hreply => constructor <;> simp [Select.orNoneResult, Event.failure?, hquery, hanswer, hcall, hreply]
    | failed hcall hreply => constructor <;> simp [Select.orNoneResult, Event.failure?, hquery, hanswer, hcall, hreply]
    | secondFailed hcall hreply hcall' hreply' =>
      constructor <;> simp [Select.orNoneResult, Event.failure?, hquery, hanswer, hcall, hreply, hcall', hreply']
    | several _ hcall hreply hcall' hreply' =>
      constructor <;> simp [Select.orNoneResult, Event.failure?, hquery, hanswer, hcall, hreply, hcall', hreply']

namespace Select

theorem logs_one_bind (s : Select σ) (session : Session ω ρ) : Logs (Select.one (s.bind session.watched))
    fun _ es r _ => RowsSought s.text (s.effectivePageSize session.toBackend) es r := by
  have hrun : Select.one (s.bind session.watched) =
      (session.toBackend.watched.query s.text (s.effectivePageSize session.toBackend)).carried >>= QueryResult.one := rfl
  have hquery : Logs (session.toBackend.watched.query s.text (s.effectivePageSize session.toBackend)).carried
      fun _ es r _ => ∃ e, es = [e] ∧ e.call = .query s.text (s.effectivePageSize session.toBackend) ∧
        match r with
        | .ok result => ∃ rows, result.rows = watchedRows 0 rows ∧ e.reply = .answer rows.length
        | .error x => ∃ f, x = .session f ∧ e.reply = .failed f := by
    refine (logs_query session.toBackend s.text _).adapt ?_
    rintro w es (f | result) w' ⟨e, hes, hcall, hreply⟩
    · exact ⟨e, hes, hcall, f, rfl, hreply⟩
    · exact ⟨e, hes, hcall, hreply⟩
  rw [hrun]
  refine hquery.bind (R := fun result _ es r _ => OnlyRow result.rows.length es r) ?_ ?_ ?_
  · rintro w es result w' ⟨e, -, -, rows, hrows, -⟩
    rw [hrows, length_watchedRows]
    exact logs_one hrows
  · rintro w es result v es' r w' ⟨e, rfl, hcall, rows, hrows, hreply⟩ honly
    rw [hrows, length_watchedRows] at honly
    exact .answered hcall hreply honly
  · rintro w es x w' ⟨e, rfl, hcall, f, rfl, hreply⟩
    exact .failed hcall hreply

theorem session_filter (s : Select σ) (e : Expr) : (s.filter e).session = s.session := by
  rw [RowStatement.filter]
  split
  · rfl
  · rfl

theorem byPrimaryKey_of_none {s : Select (Session ω ρ)} (hkey : primaryKey? s.entityType = none) (v : Value) :
    byPrimaryKey s v = throw (.noPrimaryKey s.entityType) := by
  rw [byPrimaryKey, hkey]

theorem byPrimaryKey_of_mem {s : Select (Session ω ρ)} {key : String} (hkey : (s.entityType, key) ∈ primaryKeys)
    (v : Value) : byPrimaryKey s v = orNone (one (s.filter (fieldEquality (key, v)))) := by
  rw [byPrimaryKey, primaryKey?_eq_some_iff.2 hkey]
  rfl

theorem outcome_byPrimaryKey_of_unbound {s : Select (Session ω ρ)} {key : String}
    (hkey : (s.entityType, key) ∈ primaryKeys) (hunbound : s.session = none) (v : Value) (w : ω) :
    (byPrimaryKey s v).outcome w = (.error .unboundSession, w) := by
  have hone : (one (s.filter (fieldEquality (key, v)))).outcome w = (.error .unboundSession, w) := by
    rw [one, execute, session_filter, hunbound]
    rfl
  rw [byPrimaryKey_of_mem hkey, outcome_orNone, hone]
  rfl

def lookupText (s : Select σ) (p : String × Value) : String :=
  joinParts (s.clauses.front true ++ (["where", (Expr.all (s.clauses.filters ++ [fieldEquality p])).text] ++
    s.clauses.back))

theorem logs_byPrimaryKey {s : Select σ} {key : String} (hkey : (s.entityType, key) ∈ primaryKeys)
    (session : Session ω ρ) (v : Value) : Logs (byPrimaryKey (s.bind session.watched) v) fun _ es r _ =>
      FindsOnly (lookupText s (key, v)) (s.effectivePageSize session.toBackend) es r := by
  have hpageSize : (s.filter (fieldEquality (key, v))).effectivePageSize session.toBackend =
      s.effectivePageSize session.toBackend := by
    rw [RowStatement.filter, isEmpty_fieldEquality]
    rfl
  have hone := logs_one_bind (s.filter (fieldEquality (key, v))) session
  rw [text_filter s (isEmpty_fieldEquality _), hpageSize] at hone
  rw [byPrimaryKey_of_mem (s := s.bind session.watched) hkey, RowStatement.filter_bind]
  intro start
  obtain ⟨es, hlog, hsought⟩ := hone start
  rw [outcome_orNone]
  exact ⟨es, hlog, hsought.findsOnly⟩

/-- **A lookup by a unique field neither hides a failure nor invents a match.** Without such a field, or without a session,
it fails and asks nothing. Otherwise it sends one query, for the conditions of the select and the equality, and its result
says of the replies what `FindsOnly` lists. The conditions are parts of the query, bracketed where they have a connective of
their own; where they have readings, the condition of the query has one, which says that they hold and the field has the
value. -/
theorem lookup_by_unique_field (s : Select (Session ω ρ)) (v : Value) :
    (s.entityType ∉ primaryKeys.map Prod.fst →
      (∀ w, (byPrimaryKey s v).outcome w = (.error (.noPrimaryKey s.entityType), w)) ∧
      ∀ (session : Session ω ρ) (w : ω), (byPrimaryKey (s.bind session.watched) v).outcome ⟨w, []⟩ =
        (.error (.noPrimaryKey s.entityType), ⟨w, []⟩)) ∧
    ∀ key, (s.entityType, key) ∈ primaryKeys →
      (s.session = none → ∀ w, (byPrimaryKey s v).outcome w = (.error .unboundSession, w)) ∧
      (∀ session, s.session = some session → ∀ w, ∃ result w' log,
        (byPrimaryKey s v).outcome w = (result, w') ∧
        (byPrimaryKey (s.bind session.watched) v).outcome ⟨w, []⟩ = (result, ⟨w', log⟩) ∧
        FindsOnly (lookupText s (key, v)) (s.effectivePageSize session.toBackend) log result) ∧
      (Expr.all (s.clauses.filters ++ [fieldEquality (key, v)])).text.toList =
        parts .and (live s.clauses.filters ++ [fieldEquality (key, v)]) ∧
      ((∀ e ∈ s.clauses.filters, Built Readable e) → ∃ r,
        (∀ reading, Reads IsPredicate .sentence
          (Expr.all (s.clauses.filters ++ [fieldEquality (key, v)])).text.toList reading ↔ reading = r) ∧
        ∀ truth, r.Holds truth ↔
          s.clauses.predicate.Holds (leafHolds IsPredicate truth) ∧ truth (equalityText (key, v)).toList) := by
  refine ⟨fun hnone => ?_, fun key hkey => ⟨fun hunbound w => ?_, fun session hbound w => ?_, ?_, fun hfilters => ?_⟩⟩
  · have hnone := primaryKey?_eq_none_iff.2 hnone
    refine ⟨fun w => ?_, fun session w => ?_⟩
    · rw [byPrimaryKey_of_none hnone]
      rfl
    · rw [byPrimaryKey_of_none (s := s.bind session.watched) hnone]
      rfl
  · exact outcome_byPrimaryKey_of_unbound hkey hunbound v w
  · have hsame : s.bind session = s := by
      rw [RowStatement.bind, ← hbound]
    have hmirrors : Mirrors Eq (byPrimaryKey (s.bind session.watched) v) (byPrimaryKey s v) :=
      hsame ▸ mirrors_byPrimaryKey s v rfl
    exact hmirrors.exists_run (logs_byPrimaryKey hkey session v) w
  · exact toList_text_all_fieldEquality s.clauses.filters (key, v)
  · exact condition_of_lookup hkey v hfilters

/-- A type without a unique field, a select without a session, and a lookup beside query text with a connective. -/
theorem lookup_beside_a_disjunction :
    let session := Scripted.session {}
    let start : Scripted.World := { entities := [⟨"User", .text "u1", [], []⟩], answers := [.rows [.entity 0]] }
    let task : Select (Session Scripted.World Scripted.Handle) := Select.ofType "Task"
    let user : Select (Session Scripted.World Scripted.Handle) :=
      { clauses := { entityType := "User", filters := [.raw "a is 1 or b is 2"], limit := some 5 }, effect := (),
        session := some session }
    (task.entityType ∉ primaryKeys.map Prod.fst ∧
      (byPrimaryKey task .null).outcome start = (.error (.noPrimaryKey "Task"), start)) ∧
    (user.entityType, "username") ∈ primaryKeys ∧
    (user.unbind.session = none ∧ (byPrimaryKey user.unbind .null).outcome start = (.error .unboundSession, start)) ∧
    (user.session = some session ∧ ∃ result w' log,
      (byPrimaryKey user (.text "jdoe")).outcome start = (result, w') ∧
      (byPrimaryKey (user.bind session.watched) (.text "jdoe")).outcome ⟨start, []⟩ = (result, ⟨w', log⟩) ∧
      FindsOnly "User where (a is 1 or b is 2) and username is \"jdoe\" limit 5" none log result ∧
      log.map Event.call = [.query "User where (a is 1 or b is 2) and username is \"jdoe\" limit 5" none, .fetch 0]) ∧
    (∀ e ∈ user.clauses.filters, Built Readable e) ∧
    ∃ r, (∀ reading, Reads IsPredicate .sentence "(a is 1 or b is 2) and username is \"jdoe\"".toList reading ↔
        reading = r) ∧
      ∀ truth, r.Holds truth ↔
        user.clauses.predicate.Holds (leafHolds IsPredicate truth) ∧ truth "username is \"jdoe\"".toList := by
  intro session start task user
  have hother : task.entityType ∉ primaryKeys.map Prod.fst := by
    decide
  have hkey : (user.entityType, "username") ∈ primaryKeys := by
    decide
  have ha := isPredicate_number "a" 1 (by decide)
  have hb := isPredicate_number "b" 2 (by decide)
  have hraw : Reads IsPredicate .sentence "a is 1 or b is 2".toList _ :=
    .join .or (.term (.predicate ha)) (.predicate hb)
  have hfilters : ∀ e ∈ user.clauses.filters, Built Readable e :=
    List.forall_mem_singleton.2 (.leaf rfl (.raw (.inr ⟨_, hraw⟩)))
  have htext : lookupText user ("username", .text "jdoe") =
      "User where (a is 1 or b is 2) and username is \"jdoe\" limit 5" := by
    decide +kernel
  obtain ⟨hnone, -⟩ := lookup_by_unique_field task .null
  obtain ⟨-, hunbound⟩ := lookup_by_unique_field user.unbind .null
  obtain ⟨-, hlookUp⟩ := lookup_by_unique_field user (.text "jdoe")
  obtain ⟨-, hbound, -, hreading⟩ := hlookUp "username" hkey
  obtain ⟨result, w', log, hrun, hwatched, hfinds⟩ := hbound session rfl start
  rw [htext] at hfinds
  refine ⟨⟨hother, (hnone hother).1 start⟩, hkey, ⟨rfl, (hunbound "username" hkey).1 rfl start⟩,
    ⟨rfl, result, w', log, hrun, hwatched, hfinds, ?_⟩, hfilters, hreading hfilters⟩
  obtain rfl : log = _ := congrArg (fun out => out.2.log) hwatched.symm
  rfl

end Select

end EntityQuery
