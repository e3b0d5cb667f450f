import EntityQuery.Proofs.Assignments
import EntityQuery.Proofs.Watching
import EntityQuery.Session.Scripted

/-!
# Equal statements run alike

Selects, updates and deletes are compared by their texts and page sizes, inserts by their entity types and values. What
a run asks of a session follows from what is compared, up to what the comparison does not see
(`Statement.AgreeUnseen`): statements that are equal and agree in that ask the same of every session
(`equal_statements_run_alike`). Each part of the condition is needed (`equal_statements_that_run_apart`).
-/

namespace EntityQuery

variable {ω ρ σ ε : Type}

def Statement.callsMade (s : Statement σ) (session : Session ω ρ) (w : ω) : List (Call ρ) :=
  ((s.executeIn session.watched).outcome ⟨w, []⟩).2.log.map Event.call

/-! ## What the comparison does not see -/

/-- Values of one key that are taken for the same are the same. -/
def FieldValues.ToldApart (same : Value → Value → Prop) (a b : FieldValues) : Prop :=
  ∀ p ∈ a.fields, ∀ q ∈ b.fields, p.1 = q.1 → same p.2 q.2 → p.2 = q.2

/-- The statements agree in what a run depends on and their comparison does not see: which numbers of equal value an
insert has; which values of one literal an update has, and where its assignments begin if a key is not plain; whether a
delete removes components. -/
def Statement.AgreeUnseen : Statement σ → Statement σ → Prop
  | insert s, insert t => s.values.ToldApart (fun v w => (v == w) = true) t.values
  | update s, update t =>
    (∀ p ∈ s.effect.fields, IsPlainKey p.1) ∧ (∀ p ∈ t.effect.fields, IsPlainKey p.1) ∧
      s.effect.ToldApart (fun v w => Literal.encode v = Literal.encode w) t.effect
  | delete s, delete t => s.effect = t.effect
  | _, _ => True

theorem FieldValues.eq_of_assignments {a b : FieldValues} (h : a.assignments = b.assignments)
    (hvalues : a.ToldApart (fun v w => Literal.encode v = Literal.encode w) b) : a = b := by
  obtain ⟨fs⟩ := a
  obtain ⟨gs⟩ := b
  have hsame := map_eq_of_map_eq (g := id) (fun p hp q hq hpq => ?_) h
  · rw [List.map_id, List.map_id] at hsame
    exact congrArg FieldValues.mk hsame
  · obtain ⟨hkey, hvalue⟩ := Prod.mk.inj hpq
    exact Prod.ext hkey (hvalues p hp q hq hkey hvalue)

theorem FieldValues.eq_of_beq {a b : FieldValues} (h : (a == b) = true)
    (hvalues : a.ToldApart (fun v w => (v == w) = true) b) : a = b := by
  have hpairs := forall₂_of_beq h
  obtain ⟨fs⟩ := a
  obtain ⟨gs⟩ := b
  have hsame : List.Forall₂ (· = ·) fs gs := by
    refine List.forall₂_iff_zip.2 ⟨hpairs.length_eq, fun {p q} hpq => ?_⟩
    obtain ⟨hkey, hvalue⟩ := (List.forall₂_iff_zip.1 hpairs).2 hpq
    obtain ⟨hp, hq⟩ := List.of_mem_zip hpq
    exact Prod.ext hkey (hvalues p hp q hq hkey hvalue)
  rw [List.forall₂_eq_eq_eq] at hsame
  rw [hsame]

/-! ## Queries with attributes to fetch -/

theorem Clauses.text_true (c : Clauses) : c.text true =
    joinParts ((if c.projection.isEmpty then [] else ["select", ", ".intercalate c.projection, "from"]) ++
      [c.text false]) := by
  have hrest : c.text false = joinParts ([c.entityType] ++ (conditionParts c.predicate.text ++ c.back)) :=
    text_eq_parts c false
  rw [hrest, ← joinParts_append, text_eq_parts, front, List.append_assoc]
  cases c.projection with
  | nil => rfl
  | cons field rest => rfl

theorem Clauses.text_false_projected (c : Clauses) (projection : List String) :
    Clauses.text false { c with projection } = c.text false := by
  rw [text_eq_parts, text_eq_parts]
  rfl

theorem Clauses.text_projected {c d : Clauses} (projection : List String) (h : c.text false = d.text false) :
    Clauses.text true { c with projection } = Clauses.text true { d with projection } := by
  rw [text_true, text_true, text_false_projected, text_false_projected, h]

/-! ## Runs of equal statements -/

theorem RowStatement.equalBy_iff {text : RowStatement ε σ → String} {s t : RowStatement ε σ} :
    s.equalBy text t = true ↔ text s = text t ∧ s.pageSize = t.pageSize := by
  rw [equalBy, Bool.and_eq_true, beq_iff_eq, beq_iff_eq]

theorem RowStatement.effectivePageSize_eq {s t : RowStatement ε σ} (h : s.pageSize = t.pageSize) (b : Backend ω ρ) :
    s.effectivePageSize b = t.effectivePageSize b := congrArg (·.or b.pageSize) h

variable (session : Session ω ρ)

theorem Select.executeIn_eq {s t : Select σ} (h : s.equal t = true) : s.executeIn session = t.executeIn session := by
  obtain ⟨htext, hpageSize⟩ := RowStatement.equalBy_iff.1 h
  rw [executeIn, executeIn, htext, RowStatement.effectivePageSize_eq hpageSize]

theorem Insert.executeIn_eq {s t : Insert σ} (h : s.equal t = true)
    (hunseen : s.values.ToldApart (fun v w => (v == w) = true) t.values) :
    s.executeIn session = t.executeIn session := by
  obtain ⟨htype, hvalues⟩ := Bool.and_eq_true_iff.1 h
  rw [executeIn, executeIn, LawfulBEq.eq_of_beq htype, FieldValues.eq_of_beq hvalues hunseen]

theorem Update.executeIn_eq {s t : Update σ} (h : s.equal t = true) (hs : ∀ p ∈ s.effect.fields, IsPlainKey p.1)
    (ht : ∀ p ∈ t.effect.fields, IsPlainKey p.1)
    (hunseen : s.effect.ToldApart (fun v w => Literal.encode v = Literal.encode w) t.effect) :
    s.executeIn session = t.executeIn session := by
  obtain ⟨htext, hpageSize⟩ := RowStatement.equalBy_iff.1 h
  obtain ⟨hquery, hassignments⟩ := eq_of_text hs ht htext
  rw [executeIn, executeIn, hquery, RowStatement.effectivePageSize_eq hpageSize,
    FieldValues.eq_of_assignments hassignments hunseen]

theorem Delete.queryText_eq {s t : Delete σ} (htext : Delete.text s = Delete.text t) (heffect : s.effect = t.effect) :
    s.queryText = t.queryText := by
  have hclauses : s.clauses.text false = t.clauses.text false := by
    have hchars := congrArg String.toList htext
    rw [Delete.toList_text, Delete.toList_text] at hchars
    exact String.toList_inj.1 (List.append_cancel_left hchars)
  rw [queryText, queryText, heffect]
  split
  · exact Clauses.text_projected [componentLocations] hclauses
  · exact hclauses

theorem Delete.executeIn_eq {s t : Delete σ} (h : s.equal t = true) (heffect : s.effect = t.effect) :
    s.executeIn session = t.executeIn session := by
  obtain ⟨htext, hpageSize⟩ := RowStatement.equalBy_iff.1 h
  rw [executeIn, executeIn, queryText_eq htext heffect, RowStatement.effectivePageSize_eq hpageSize, heffect]

deriving instance DecidableEq for Scripted.Handle

namespace Statement

theorem executeIn_eq {s t : Statement σ} (hequal : (s == t) = true) (hunseen : s.AgreeUnseen t) :
    s.executeIn session = t.executeIn session := by
  match s, t with
  | select s, select t => exact congrArg (Outcome.rows <$> ·) (Select.executeIn_eq session hequal)
  | insert s, insert t => exact congrArg (Outcome.created <$> ·) (Insert.executeIn_eq session hequal hunseen)
  | update s, update t =>
    obtain ⟨hs, ht, hvalues⟩ := hunseen
    exact congrArg (Outcome.count <$> ·) (Update.executeIn_eq session hequal hs ht hvalues)
  | delete s, delete t => exact congrArg (Outcome.count <$> ·) (Delete.executeIn_eq session hequal hunseen)

/-- **Equal statements run alike**: if they agree in what the comparison does not see, they are the same program on
every session and ask the same of it in the same order. -/
theorem equal_statements_run_alike {s t : Statement σ} (hequal : (s == t) = true) (hunseen : s.AgreeUnseen t)
    (session : Session ω ρ) :
    s.executeIn session = t.executeIn session ∧ ∀ w, s.callsMade session w = t.callsMade session w := by
  have hwatched := executeIn_eq session.watched hequal hunseen
  refine ⟨executeIn_eq session hequal hunseen, fun w => ?_⟩
  rw [callsMade, callsMade, hwatched]

/-- Two updates with one condition after the other and with their conjunction; one row is assigned to. -/
theorem updates_with_one_text_run_alike :
    let conditions : List Expr := [.compare ⟨["bid"]⟩ .equal (.integer 1), .compare ⟨["name"]⟩ .equal (.text "(a")]
    let update (filters : List Expr) : Statement Empty :=
      .update { clauses := { entityType := "Task set (", filters }, effect := ⟨[("name", .text "b) set (")]⟩ }
    let session := Scripted.session {}
    let start : Scripted.World := { entities := [⟨"Task", .text "t0", [], []⟩], answers := [.rows [.entity 0]] }
    let single := update conditions
    let grouped := update [.all conditions]
    (single == grouped) = true ∧ single.AgreeUnseen grouped ∧
      single.callsMade session start = grouped.callsMade session start ∧ (single.callsMade session start).length = 5 := by
  intro conditions update session start single grouped
  have hequal : (single == grouped) = true := rfl
  have hplain : ∀ p ∈ [("name", Value.text "b) set (")], IsPlainKey p.1 := by
    intro p hp
    rw [List.mem_singleton.1 hp]
    decide
  have hunseen : single.AgreeUnseen grouped := by
    refine ⟨hplain, hplain, fun p hp q hq _ _ => ?_⟩
    rw [List.mem_singleton.1 hp, List.mem_singleton.1 hq]
  exact ⟨hequal, hunseen, (equal_statements_run_alike hequal hunseen session).2 start, rfl⟩

/-- Each part of the condition is needed: of each two statements that are equal, a session is asked different things. -/
theorem equal_statements_that_run_apart :
    let session := Scripted.session {}
    let start : Scripted.World := { entities := [⟨"Task", .text "t0", [], []⟩], answers := [.rows [.entity 0]] }
    let update (entityType : String) (fields : List (String × Value)) : Statement Empty :=
      .update { clauses := { entityType }, effect := ⟨fields⟩ }
    let delete (removal : Removal) : Statement Empty :=
      .delete { clauses := { entityType := "Task" }, effect := removal }
    let insert (v : Value) : Statement Empty := .insert { entityType := "Task", values := ⟨[("bid", v)]⟩ }
    let runApart (s t : Statement Empty) : Prop :=
      (s == t) = true ∧ s.callsMade session start ≠ t.callsMade session start
    runApart (delete ⟨true⟩) (delete ⟨false⟩) ∧
    runApart (update "Task" [("bid", .integer 1)])
      (update "Task" [("bid", .decimal { coefficient := 1, scale := 0 })]) ∧
    runApart (update "Task set (x" [("bid", .null)]) (update "Task" [("x set (bid", .null)]) ∧
    runApart (update "Task set (x=\"y" [("z\", bid", .null)])
      (update "Task" [("x", .text "y set (z"), ("bid", .null)]) ∧
    runApart (update "Task" [("x=none, bid", .null)]) (update "Task" [("x", .null), ("bid", .null)]) ∧
    runApart (insert (.decimal { coefficient := 10, scale := 1 }))
      (insert (.decimal { coefficient := 1, scale := 0 })) := by
  intro session start update delete insert runApart
  refine ⟨⟨rfl, ?_⟩, ⟨rfl, ?_⟩, ⟨rfl, ?_⟩, ⟨rfl, ?_⟩, ⟨rfl, ?_⟩, ⟨rfl, ?_⟩⟩
  all_goals decide +kernel

end Statement

end EntityQuery
