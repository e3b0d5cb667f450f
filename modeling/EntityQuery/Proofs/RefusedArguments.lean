import EntityQuery.CommandLine.Request
import EntityQuery.Proofs.FilterGrammar
import EntityQuery.Proofs.SortTexts

/-!
# The first argument that is refused

A request reads filters, sort keys, an object of field values and assignments, in this order and as far as its command
uses them (`Request.arguments`). Each has a form that is asked of it (`Argument.Accepted`), and one that has not this
form is refused with an error of its own (`Argument.Refused`). Nothing else in a request can fail: with its arguments
read one after the other by themselves, the first error is that of the request (`Request.error?_statement`).
-/

namespace EntityQuery.CommandLine

open Text

/-! ## The error of a computation -/

section errors

variable {ε ε' α β : Type}

def error? : Except ε α → Option ε
  | .error err => some err
  | .ok _ => none

theorem error?_eq_none_iff {x : Except ε α} : error? x = none ↔ ∃ a, x = .ok a := by
  cases x <;> simp [error?]

theorem error?_eq_some_iff {x : Except ε α} {err : ε} : error? x = some err ↔ x = .error err := by
  cases x <;> simp [error?]

@[simp] theorem error?_map (x : Except ε α) (f : α → β) : error? (x.map f) = error? x := by
  cases x <;> rfl

@[simp] theorem error?_mapError (x : Except ε α) (f : ε → ε') : error? (x.mapError f) = (error? x).map f := by
  cases x <;> rfl

/-- What comes next counts if what comes first succeeds, provided that it fails alike whatever the first result is. -/
theorem error?_bind {x : Except ε α} {f : α → Except ε β} {next : Option ε} (h : ∀ a, error? (f a) = next) :
    error? (x >>= f) = (error? x).or next := by
  cases x with
  | error err => rfl
  | ok a => exact h a

theorem error?_mapM (f : α → Except ε β) (xs : List α) : error? (xs.mapM f) = xs.findSome? fun x => error? (f x) := by
  induction xs with
  | nil => rfl
  | cons x xs ih =>
    have hrest (y : β) : error? (do let ys ← xs.mapM f; return y :: ys) = error? (xs.mapM f) := by
      cases xs.mapM f <;> rfl
    rw [List.mapM_cons, error?_bind hrest, ih]
    cases hx : error? (f x) <;> simp [hx]

theorem error?_foldlM {f : β → α → Except ε β} {check : α → Option ε} (h : ∀ b x, error? (f b x) = check x)
    (xs : List α) (b : β) : error? (xs.foldlM f b) = xs.findSome? check := by
  induction xs generalizing b with
  | nil => rfl
  | cons x xs ih =>
    rw [List.foldlM_cons, error?_bind ih, h]
    cases hx : check x <;> simp [hx]

end errors

/-! ## Arguments -/

inductive Argument where
  | filter (text : String)
  | sortKey (text : String)
  /-- Field values as a JSON object. -/
  | object (text : String)
  | assignment (text : String)

namespace Argument

/-- The error of an argument that is read by itself. -/
def refusal? : Argument → Option RequestError
  | filter s => (error? (readFilter s)).map .query
  | sortKey s => (error? (SortKey.read s)).map .query
  | object s => error? (readObject s)
  | assignment s => error? (readAssignment s)

inductive Accepted : Argument → Prop
  | filter {s : String} (t : FilterText) : s.toList = t.chars → Accepted (filter s)
  | sortKey {s : String} {k : SortKey} : SortKey.Spells (trimChars s.toList) k → Accepted (sortKey s)
  | object {s : String} {members : List (String × Json)} : Json.read s = .ok (.object members) → Accepted (object s)
  /-- The key, which is not blank, ends at the first equals sign. -/
  | assignment {s : String} {key value : List Char} : s.toList = key ++ '=' :: value → '=' ∉ key → trimChars key ≠ [] →
    Accepted (assignment s)

inductive Refused : Argument → RequestError → Prop
  | filter {s : String} : (∀ t : FilterText, s.toList ≠ t.chars) → Refused (filter s) (.query (.invalidFilter s))
  | noSortKey {s : String} : trimChars s.toList = [] → Refused (sortKey s) (.query (.unknownSortDirection s))
  | manyLines {s : String} {word after : List Char} : SortKey.FirstWord (trimChars s.toList) word after →
    '\n' ∈ trimChars after → Refused (sortKey s) (.query (.unknownSortDirection s))
  | noDirection {s : String} {word after : List Char} : SortKey.FirstWord (trimChars s.toList) word after →
    '\n' ∉ trimChars after → (∀ d, ¬ SortKey.SaysDirection (trimChars after) d) →
    Refused (sortKey s) (.query (.unknownSortDirection (String.ofList (trimChars after))))
  | notJson {s : String} {cause : Json.SyntaxError} : Json.read s = .error cause → Refused (object s) (.json cause)
  | notAnObject {s : String} {json : Json} : Json.read s = .ok json → (∀ members, json ≠ .object members) →
    Refused (object s) .notAnObject
  | noEqualsSign {s : String} : '=' ∉ s.toList → Refused (assignment s) (.invalidAssignment s)
  | noKey {s : String} {key value : List Char} : s.toList = key ++ '=' :: value → '=' ∉ key → trimChars key = [] →
    Refused (assignment s) (.invalidAssignment s)

variable {a : Argument} {s : String} {err : RequestError}

theorem readAssignment_of_key {key value : List Char} (hs : s.toList = key ++ '=' :: value) (hkey : '=' ∉ key) :
    readAssignment s = if trimChars key = [] then .error (.invalidAssignment s)
      else .ok (String.ofList (trimChars key), readValue (String.ofList value)) := by
  rw [readAssignment, hs, takeWhile_ne_append_cons hkey, dropWhile_ne_append_cons hkey]
  simp only [List.isEmpty_iff]

theorem Accepted.refusal?_eq (h : a.Accepted) : a.refusal? = none := by
  cases h with
  | filter t ht => rw [refusal?, readFilter_of_split (ht ▸ t.splitFilter?_chars)]; rfl
  | sortKey hk => rw [refusal?, SortKey.read_eq_ok_iff.2 hk]; rfl
  | object hs => rw [refusal?, readObject, hs]; rfl
  | assignment hs hkey hne => rw [refusal?, readAssignment_of_key hs hkey, if_neg hne]; rfl

theorem Refused.refusal?_eq (h : a.Refused err) : a.refusal? = some err := by
  cases h with
  | @filter s hnone =>
    have hsplit : splitFilter? s.toList = none := by
      by_contra hsome
      obtain ⟨⟨key, op, value⟩, hread⟩ := Option.ne_none_iff_exists'.1 hsome
      obtain ⟨t, ht, -⟩ := exists_of_splitFilter? hread
      exact hnone t ht
    rw [refusal?, readFilter, hsplit]
    rfl
  | noSortKey hblank => rw [refusal?, SortKey.read_of_blank hblank]; rfl
  | manyLines hfirst hline =>
    have hdirected (d : SortDirection) := SortKey.not_saysDirection_of_newline (d := d) hline
    rw [refusal?, (SortKey.read_eq_error_iff hfirst).2 ⟨hdirected, rfl⟩, if_pos hline]
    rfl
  | noDirection hfirst hline hdirected =>
    rw [refusal?, (SortKey.read_eq_error_iff hfirst).2 ⟨hdirected, rfl⟩, if_neg hline]
    rfl
  | notJson hs => rw [refusal?, readObject, hs]; rfl
  | @notAnObject s json hs hother =>
    rw [refusal?, readObject, hs]
    cases json with
    | object members => exact absurd rfl (hother members)
    | _ => rfl
  | @noEqualsSign s hnone =>
    have hall : s.toList.dropWhile (· != '=') = [] :=
      List.dropWhile_eq_nil_iff.2 fun c hc => bne_iff_ne.2 (ne_of_mem_of_not_mem hc hnone)
    rw [refusal?, readAssignment, hall]
    rfl
  | noKey hs hkey hblank => rw [refusal?, readAssignment_of_key hs hkey, if_pos hblank]; rfl

theorem accepted_or_refused (a : Argument) : a.Accepted ∨ ∃ err, a.Refused err := by
  cases a with
  | filter s =>
    by_cases hform : ∃ t : FilterText, s.toList = t.chars
    · obtain ⟨t, ht⟩ := hform
      exact .inl (.filter t ht)
    · exact .inr ⟨_, .filter (not_exists.1 hform)⟩
  | sortKey s =>
    by_cases hblank : trimChars s.toList = []
    · exact .inr ⟨_, .noSortKey hblank⟩
    · obtain ⟨word, after, hfirst⟩ := SortKey.firstWord_trimChars hblank
      by_cases hdirected : ∃ d, SortKey.SaysDirection (trimChars after) d
      · obtain ⟨d, hd⟩ := hdirected
        exact .inl (.sortKey (hfirst.spells (trimBack_trimBack _) hd))
      · by_cases hline : '\n' ∈ trimChars after
        · exact .inr ⟨_, .manyLines hfirst hline⟩
        · exact .inr ⟨_, .noDirection hfirst hline (not_exists.1 hdirected)⟩
  | object s =>
    match hread : Json.read s with
    | .error cause => exact .inr ⟨_, .notJson hread⟩
    | .ok json =>
      by_cases hobject : ∃ members, json = .object members
      · obtain ⟨members, rfl⟩ := hobject
        exact .inl (.object hread)
      · exact .inr ⟨_, .notAnObject hread (not_exists.1 hobject)⟩
  | assignment s =>
    by_cases hsign : '=' ∈ s.toList
    · obtain ⟨key, value, hs, hkey⟩ := List.eq_append_cons_of_mem hsign
      by_cases hblank : trimChars key = []
      · exact .inr ⟨_, .noKey hs hkey hblank⟩
      · exact .inl (.assignment hs hkey hblank)
    · exact .inr ⟨_, .noEqualsSign hsign⟩

/-- **The form of an argument decides whether it is read.** -/
theorem refusal?_eq_none_iff : a.refusal? = none ↔ a.Accepted := by
  refine ⟨fun h => ?_, Accepted.refusal?_eq⟩
  obtain haccepted | ⟨err, hrefused⟩ := a.accepted_or_refused
  · exact haccepted
  · rw [hrefused.refusal?_eq] at h
    cases h

theorem refusal?_eq_some_iff : a.refusal? = some err ↔ a.Refused err := by
  refine ⟨fun h => ?_, Refused.refusal?_eq⟩
  obtain haccepted | ⟨err', hrefused⟩ := a.accepted_or_refused
  · rw [haccepted.refusal?_eq] at h
    cases h
  · rw [hrefused.refusal?_eq] at h
    cases h
    exact hrefused

end Argument

/-! ## Requests -/

namespace Request

variable {ε σ : Type} (r : Request)

def rowArguments : List Argument := r.filters.map .filter ++ r.sort.map .sortKey

def fieldArguments : List Argument := r.object.toList.map .object ++ r.assignments.map .assignment

/-- What the command reads, in order; the rest is ignored. -/
def arguments : List Argument :=
  match r.command with
  | .select => r.rowArguments
  | .create => r.fieldArguments
  | .update => r.rowArguments ++ r.fieldArguments
  | .delete => r.rowArguments

/-- Only the texts of filters and sort keys can stop the narrowing, not the statement or the expressions. -/
theorem error?_narrow (s : RowStatement ε σ) :
    (error? (r.narrow s)).map .query = r.rowArguments.findSome? Argument.refusal? := by
  have hstep (s : RowStatement ε σ) (key : String) : error? (s.sort key) = error? (SortKey.read key) :=
    error?_map _ s.sortBy
  have hsort (s : RowStatement ε σ) : error? (r.sort.foldlM RowStatement.sort s) =
      r.sort.findSome? fun key => error? (SortKey.read key) := error?_foldlM hstep r.sort s
  have hfilter (es : List Expr) :
      error? (do r.sort.foldlM RowStatement.sort (← s.filterBy (es.map .expr))) =
        r.sort.findSome? fun key => error? (SortKey.read key) := by
    rw [RowStatement.filterBy, Expr.allOf, Criterion.exprs_map_expr]
    exact hsort _
  rw [narrow, error?_bind hfilter, conditions, error?_mapM, Option.map_or, List.map_findSome?, List.map_findSome?,
    rowArguments, List.findSome?_append, List.findSome?_map, List.findSome?_map]
  rfl

theorem error?_fieldValues : error? r.fieldValues = r.fieldArguments.findSome? Argument.refusal? := by
  have hassigned (members : List (String × Value)) :
      error? (do return members ++ (← r.assignments.mapM readAssignment)) =
        r.assignments.findSome? fun s => error? (readAssignment s) := by
    rw [← error?_mapM]
    cases r.assignments.mapM readAssignment <;> rfl
  rw [fieldArguments, List.findSome?_append, List.findSome?_map, List.findSome?_map, fieldValues]
  cases r.object with
  | none => exact hassigned []
  | some json =>
    have hobject : [json].findSome? (Argument.refusal? ∘ .object) = error? (readObject json) :=
      List.findSome?_singleton
    rw [error?_bind hassigned, Option.toList_some, hobject]
    rfl

theorem error?_narrow_bind {α : Type} (s : RowStatement ε σ) {rest : RowStatement ε σ → Except RequestError α}
    {next : Option RequestError} (h : ∀ t, error? (rest t) = next) :
    error? ((r.narrow s).mapError .query >>= rest) = (r.rowArguments.findSome? Argument.refusal?).or next := by
  rw [error?_bind h, error?_mapError, error?_narrow]

/-- **A request fails like the first of its arguments that does.** -/
theorem error?_statement : error? (r.statement : Except RequestError (Statement σ)) =
    r.arguments.findSome? Argument.refusal? := by
  have hvalues (rest : List (String × Value) → Statement σ) :
      error? (do return rest (← r.fieldValues)) = r.fieldArguments.findSome? Argument.refusal? := by
    rw [← error?_fieldValues]
    cases r.fieldValues <;> rfl
  rw [statement, arguments]
  cases r.command with
  | select =>
    refine (r.error?_narrow_bind _ (show ∀ t, error? _ = none from fun t => rfl)).trans ?_
    rw [Option.or_none]
  | create => exact hvalues _
  | update =>
    refine (r.error?_narrow_bind (Update.ofType r.entity) fun t => hvalues _).trans ?_
    rw [List.findSome?_append]
  | delete =>
    refine (r.error?_narrow_bind (Delete.ofType r.entity) (show ∀ t, error? _ = none from fun t => rfl)).trans ?_
    rw [Option.or_none]

theorem arguments_accepted_iff : (∀ a ∈ r.arguments, a.Accepted) ↔
    (r.command ≠ .create → (∀ s ∈ r.filters, (Argument.filter s).Accepted) ∧
      ∀ s ∈ r.sort, (Argument.sortKey s).Accepted) ∧
    (r.command = .create ∨ r.command = .update → (∀ s ∈ r.object, (Argument.object s).Accepted) ∧
      ∀ s ∈ r.assignments, (Argument.assignment s).Accepted) := by
  have hrows : (∀ a ∈ r.rowArguments, a.Accepted) ↔
      (∀ s ∈ r.filters, (Argument.filter s).Accepted) ∧ ∀ s ∈ r.sort, (Argument.sortKey s).Accepted := by
    rw [rowArguments, List.forall_mem_append, List.forall_mem_map, List.forall_mem_map]
  have hfields : (∀ a ∈ r.fieldArguments, a.Accepted) ↔
      (∀ s ∈ r.object, (Argument.object s).Accepted) ∧ ∀ s ∈ r.assignments, (Argument.assignment s).Accepted := by
    rw [fieldArguments, List.forall_mem_append, List.forall_mem_map, List.forall_mem_map]
    simp only [Option.mem_toList, Option.mem_def]
  rw [← hrows, ← hfields, arguments]
  cases r.command <;> simp [or_imp, forall_and]

end Request

/-! ## The main statement -/

def FirstRefused (arguments : List Argument) (err : RequestError) : Prop :=
  ∃ before a after, arguments = before ++ a :: after ∧ (∀ b ∈ before, b.Accepted) ∧ a.Refused err

/-- **A request fails exactly at the first argument that is refused**, with the error of that argument: of the filters,
the sort keys, the object and the assignments, in this order, where only an update reads all of them. A filter, a sort
key, an object or an assignment has the form that is asked of it just if it is read by itself. -/
theorem fails_at_first_refused_argument (r : Request) :
    ((∃ text, r.text = .ok text) ↔ ∀ a ∈ r.arguments, a.Accepted) ∧
    (∀ err, r.text = .error err ↔ FirstRefused r.arguments err) ∧
    ((∀ a ∈ r.arguments, a.Accepted) ↔
      (r.command ≠ .create → (∀ s ∈ r.filters, (Argument.filter s).Accepted) ∧
        ∀ s ∈ r.sort, (Argument.sortKey s).Accepted) ∧
      (r.command = .create ∨ r.command = .update → (∀ s ∈ r.object, (Argument.object s).Accepted) ∧
        ∀ s ∈ r.assignments, (Argument.assignment s).Accepted)) ∧
    ∀ s, ((Argument.filter s).Accepted ↔ ∃ e, readFilter s = .ok e) ∧
      ((Argument.sortKey s).Accepted ↔ ∃ k, SortKey.read s = .ok k) ∧
      ((Argument.object s).Accepted ↔ ∃ members, readObject s = .ok members) ∧
      ((Argument.assignment s).Accepted ↔ ∃ field, readAssignment s = .ok field) := by
  have htext : error? r.text = r.arguments.findSome? Argument.refusal? := by
    rw [Request.text, error?_map, r.error?_statement]
  refine ⟨?_, fun err => ?_, r.arguments_accepted_iff, fun s => ?_⟩
  · rw [← error?_eq_none_iff, htext, List.findSome?_eq_none_iff]
    simp only [Argument.refusal?_eq_none_iff]
  · rw [← error?_eq_some_iff, htext, List.findSome?_eq_some_iff, FirstRefused]
    simp only [Argument.refusal?_eq_none_iff, Argument.refusal?_eq_some_iff, and_comm]
  · simp only [← Argument.refusal?_eq_none_iff, ← error?_eq_none_iff, Argument.refusal?, Option.map_eq_none_iff,
      and_self]

/-- An update with three faults reports the sort key. -/
example : Request.text
    { command := .update, entity := "Task", filters := ["name=a"], sort := ["name", "due up"], assignments := ["=1"],
      object := some "[" } = .error (.query (.unknownSortDirection "up")) := rfl

/-- A create does not look at sort keys, and reports where the object breaks off. -/
example : Request.text
    { command := .create, entity := "Task", sort := ["due up"], assignments := ["=1"], object := some "\x7b\"bid\": 1" } =
      .error (.json ⟨.endInObject, ⟨1, 9⟩⟩) := by cbv

end EntityQuery.CommandLine
