import EntityQuery.CommandLine.Input
import EntityQuery.Proofs.UniqueReading
import EntityQuery.Proofs.Reading
import EntityQuery.Proofs.Grouping
import Mathlib.Data.List.Forall2
import Mathlib.Data.List.TakeWhile

/-!
# Typed filters

A filter that is typed on a command line becomes a comparison (`TypedFilter`, `readFilter_spells`), and its text is a path,
the keyword of the operator and what stands for the value. This is one predicate, whatever the words of the path are,
if the key has a name in it and what stands for the value is one literal; the latter fails only for a pattern with a
backslash left over before a quote or at its end (`TypedFilter.SpelledBy.isAnyPredicate_iff`).

Filters that are one predicate each, and no others, can be joined: then the text has no other reading than the
conjunction of them (`readsAsConjunction_iff`).
-/

namespace EntityQuery.CommandLine

open EntityQuery.Expr RawText

/-! ## Filter texts -/

def typedOperators : List (List Char × Comparison) :=
  [(['!', '='], .notEqual), (['>', '='], .greaterOrEqual), (['<', '='], .lessOrEqual), (['='], .equal), (['>'], .greater),
    (['<'], .less), (['~'], .like)]

/-- The text starts with the operator, which is typed as long as it can be read. -/
def StartsWith (op : Comparison) (cs rest : List Char) : Prop :=
  ∃ sign, (sign, op) ∈ typedOperators ∧ cs = sign ++ rest ∧
    ∀ other ∈ typedOperators, other.1 <+: cs → other.1.length ≤ sign.length

structure TypedFilter where
  key : List Char
  op : Comparison
  value : List Char

namespace TypedFilter

/-- The text spells the filter, with white space around its parts. -/
structure SpelledBy (f : TypedFilter) (cs : List Char) : Prop where
  key_ne_nil : f.key ≠ []
  isKeyChar : ∀ c ∈ f.key, isKeyChar c = true
  spelled : ∃ front gap signed rest, cs = front ++ (f.key ++ (gap ++ signed)) ∧
    (∀ c ∈ front ++ gap, Text.isBlankChar c = true) ∧ StartsWith f.op signed rest ∧ f.value = Text.trimChars rest
  one_line : '\n' ∉ f.value

def path (f : TypedFilter) : Path := .ofText (String.ofList f.key)

def operand (f : TypedFilter) : Value := readValue (String.ofList f.value)

def expr (f : TypedFilter) : Expr := .compare f.path f.op f.operand

/-- There is a name in the key, which may otherwise consist of dots. -/
def HasName (f : TypedFilter) : Prop := ∃ c ∈ f.key, c ≠ '.'

/-- No backslash of a pattern reaches out of its literal. -/
def KeepsQuotes (f : TypedFilter) : Prop :=
  f.op = .like → ∀ pattern, f.operand = .text pattern → Literal.EvenRuns pattern.toList

end TypedFilter

theorem readOperator?_startsWith {cs rest : List Char} {op : Comparison} (h : readOperator? cs = some (op, rest)) :
    StartsWith op cs rest := by
  unfold readOperator? at h
  split at h
  case h_1 | h_2 | h_3 =>
    cases h
    exact ⟨[_, '='], by simp [typedOperators], rfl, by simp [typedOperators]⟩
  case h_4 | h_7 =>
    cases h
    exact ⟨[_], by simp [typedOperators], rfl, by simp [typedOperators]⟩
  case h_5 hother | h_6 hother =>
    cases h
    refine ⟨[_], by simp [typedOperators], rfl, ?_⟩
    have hshort : ¬ ['='] <+: rest := by
      rintro ⟨more, rfl⟩
      exact hother more rfl
    simpa [typedOperators] using hshort
  case h_8 => cases h

/-- The parts of what is read: a key that is not empty, after it and white space an operator, and a line. -/
theorem splitFilter?_eq_some {cs key value : List Char} {op : Comparison}
    (h : splitFilter? cs = some (key, op, value)) :
    ∃ rest, key = (Text.trimFront cs).takeWhile isKeyChar ∧ value = Text.trimChars rest ∧ key ≠ [] ∧ '\n' ∉ value ∧
      StartsWith op (Text.trimFront ((Text.trimFront cs).dropWhile isKeyChar)) rest := by
  rw [splitFilter?] at h
  obtain ⟨⟨op', rest⟩, hop, h⟩ := Option.bind_eq_some_iff.1 h
  dsimp only at h
  split at h
  · cases h
  next hok =>
    cases h
    simp only [Bool.or_eq_true, not_or, List.isEmpty_iff, List.contains_iff_mem] at hok
    exact ⟨rest, rfl, rfl, hok.1, hok.2, readOperator?_startsWith hop⟩

theorem splitFilter?_spelledBy {cs key value : List Char} {op : Comparison}
    (h : splitFilter? cs = some (key, op, value)) : (TypedFilter.mk key op value).SpelledBy cs := by
  have hfront (xs : List Char) : ∀ c ∈ xs.takeWhile Text.isBlankChar, Text.isBlankChar c = true :=
    fun c hc => List.mem_takeWhile_imp hc
  obtain ⟨rest, rfl, rfl, hkey, hline, hop⟩ := splitFilter?_eq_some h
  set trimmed := Text.trimFront cs with htrimmed
  refine ⟨hkey, fun c hc => List.mem_takeWhile_imp hc, ?_, hline⟩
  refine ⟨cs.takeWhile Text.isBlankChar, (trimmed.dropWhile isKeyChar).takeWhile Text.isBlankChar, _, rest, ?_, ?_,
    hop, rfl⟩
  · rw [Text.trimFront, List.takeWhile_append_dropWhile, List.takeWhile_append_dropWhile, htrimmed, Text.trimFront,
      List.takeWhile_append_dropWhile]
  · intro c hc
    rcases List.mem_append.1 hc with hc | hc
    · exact hfront _ c hc
    · exact hfront _ c hc

theorem readValue_not_entity (s : String) : (readValue s).isEntity = false := by
  unfold readValue readTrimmed
  repeat' split
  all_goals rfl

theorem readFilter_spells {s : String} {e : Expr} (h : readFilter s = .ok e) :
    ∃ f : TypedFilter, f.SpelledBy s.toList ∧ e = f.expr := by
  rw [readFilter] at h
  split at h
  next key op value hsplit =>
    cases h
    exact ⟨⟨key, op, value⟩, splitFilter?_spelledBy hsplit, Path.compare_of_not_entity _ _ (readValue_not_entity _)⟩
  · cases h

theorem isNameChar_of_isKeyChar {c : Char} (h : isKeyChar c = true) : isNameChar c = true := by
  rwa [isKeyChar, Bool.or_assoc, Bool.or_right_comm, ← Bool.or_assoc] at h

/-! ## One predicate -/

namespace TypedFilter

variable {f : TypedFilter} {cs : List Char}

theorem SpelledBy.isNamed (h : f.SpelledBy cs) : f.path.IsNamed := by
  refine Path.isNamed_ofText fun c hc => ?_
  rw [String.toList_ofList] at hc
  exact isNameChar_of_isKeyChar (h.isKeyChar c hc)

theorem segments_ne_nil_iff : f.path.segments ≠ [] ↔ f.HasName := by
  rw [path, Path.segments_ofText_ne_nil_iff, String.toList_ofList, HasName]

theorem toList_text (f : TypedFilter) : f.expr.text.toList =
    f.path.toText.toList ++ ' ' :: (f.op.keyword.toList ++ ' ' :: (Expr.operand f.op f.operand).toList) :=
  toList_compare _ _ _

theorem SpelledBy.takesPattern_iff (h : f.SpelledBy cs) : f.op.takesPattern = true ↔ f.op = .like := by
  obtain ⟨-, -, -, -, -, -, ⟨sign, hsign, -, -⟩, -⟩ := h.spelled
  simp only [typedOperators, List.mem_cons, Prod.mk.injEq, List.not_mem_nil, or_false] at hsign
  rcases hsign with ⟨-, hop⟩ | ⟨-, hop⟩ | ⟨-, hop⟩ | ⟨-, hop⟩ | ⟨-, hop⟩ | ⟨-, hop⟩ | ⟨-, hop⟩
  all_goals
    rw [hop]
    decide

theorem SpelledBy.isLiteral_iff (h : f.SpelledBy cs) :
    IsLiteral (Expr.operand f.op f.operand).toList ↔ f.KeepsQuotes := by
  rw [isLiteral_operand_iff, h.takesPattern_iff, KeepsQuotes]

/-- **The text is one predicate** just if the key has a name and the value keeps to its literal. -/
theorem SpelledBy.isAnyPredicate_iff (h : f.SpelledBy cs) :
    IsAnyPredicate f.expr.text.toList ↔ f.HasName ∧ f.KeepsQuotes := by
  rw [toList_text]
  constructor
  · intro hpredicate
    obtain ⟨hne, hunit⟩ := hpredicate.split h.isNamed.isNameChar (.comparison f.op)
    refine ⟨segments_ne_nil_iff.1 fun hnone => hne ?_, fun hlike pattern hpattern => ?_⟩
    · rw [Path.toList_toText, hnone]
      rfl
    · have htext : Expr.operand f.op f.operand = Literal.quotePattern pattern := by
        rw [Expr.operand, hlike, hpattern]
        rfl
      rw [htext, Literal.toList_quotePattern] at hunit
      have hliteral := hunit.isLiteral
      rw [← Literal.toList_quotePattern, ← htext, h.isLiteral_iff] at hliteral
      exact hliteral hlike pattern hpattern
  · rintro ⟨hname, hquotes⟩
    exact .mk h.isNamed (segments_ne_nil_iff.2 hname) (.comparison f.op) (.literal (h.isLiteral_iff.2 hquotes))

end TypedFilter

/-! ## Filters joined -/

/-- The text of the conjunction has one reading, and it says that each of the expressions is true. -/
def ReadsAsConjunction (predicate : List Char → Prop) (es : List Expr) : Prop :=
  ∃ r, (∀ s, Reads predicate .sentence (all es).text.toList s ↔ s = r) ∧
    ∀ truth, r.Holds truth ↔ ∀ e ∈ es, truth e.text.toList

section

variable {es : List Expr} (hatomic : ∀ e ∈ es, e.isAtomic = true) (hne : es ≠ [])
include hatomic hne

/-- **Predicates that are joined are read alone**: the text is their conjunction and nothing else. -/
theorem readsAsConjunction_of_predicates {predicate : List Char → Prop} (hpred : ∀ cs, predicate cs → IsAnyTriple cs)
    (h : ∀ e ∈ es, predicate e.text.toList) : ReadsAsConjunction predicate es := by
  have hlive := live_of_atomic hatomic
  have hempty := isEmpty_all_of_atomic hatomic hne
  have hcanonical : Canonical (fun e => e.isAtomic = true ∧ predicate e.text.toList) (all es) :=
    .of_group .and fun e he => .leaf (isLeaf_of_isAtomic (hatomic e he)) ⟨hatomic e he, h e he⟩
  obtain ⟨r, hr, hmeaning⟩ := (hcanonical.spoken (fun e he _ => spoken_predicate he.2 he.1) hempty).alone
  refine ⟨r, fun s => ⟨fun hs => hs.unique_of_any hpred hr, ?_⟩, fun truth => ?_⟩
  · rintro rfl
    exact hr
  · rw [hmeaning, meaning, holds_all, hlive]
    refine forall₂_congr fun e he => ?_
    rw [holds_of_isLeaf (isLeaf_of_isAtomic (hatomic e he))]
    have hatom := hatomic e he
    cases e with
    | raw => cases hatom
    | _ => rfl

theorem readsAsConjunction_iff {predicate : List Char → Prop} (hpred : ∀ cs, predicate cs → IsAnyTriple cs) :
    ReadsAsConjunction predicate es ↔ ∀ e ∈ es, predicate e.text.toList := by
  refine ⟨?_, readsAsConjunction_of_predicates hatomic hne hpred⟩
  rintro ⟨r, hreads, hmeaning⟩
  -- if all predicates are true, so is the reading, and it does not see what else is true
  have htrue : r.Holds fun _ => True := (hmeaning _).2 fun _ _ => trivial
  have hpredicates : r.Holds predicate := (((hreads r).2 rfl).holds_congr fun _ hp => iff_of_true trivial hp).1 htrue
  exact (hmeaning predicate).1 hpredicates

end

/-! ## The main statement -/

/-- **Typed filters stay within their predicates** just if their keys have names and no backslash of a pattern is left
over. The text of each is a path, the keyword of the operator and what stands for the value. The joined text reads as the
conjunction of the filters just if each of them is one predicate, whether words of the grammar may be paths or are
reserved. -/
theorem typed_filters_within_predicates {filters : List String} {es : List Expr}
    (h : filters.mapM readFilter = .ok es) :
    List.Forall₂ (fun s e => ∃ f : TypedFilter, f.SpelledBy s.toList ∧ e = f.expr ∧
      e.text.toList =
        f.path.toText.toList ++ ' ' :: (f.op.keyword.toList ++ ' ' :: (Expr.operand f.op f.operand).toList) ∧
      f.path.IsNamed ∧ (f.path.segments ≠ [] ↔ f.HasName) ∧
      (IsLiteral (Expr.operand f.op f.operand).toList ↔ f.KeepsQuotes) ∧
      (IsAnyPredicate e.text.toList ↔ f.HasName ∧ f.KeepsQuotes)) filters es ∧
    (es ≠ [] → (all es).text = " and ".intercalate (es.map Expr.text) ∧
      (ReadsAsConjunction IsAnyPredicate es ↔ ∀ e ∈ es, IsAnyPredicate e.text.toList) ∧
      (ReadsAsConjunction IsPredicate es ↔ ∀ e ∈ es, IsPredicate e.text.toList)) := by
  refine ⟨(forall₂_of_mapM h).imp fun s e hs => ?_, fun hne => ?_⟩
  · obtain ⟨f, hf, rfl⟩ := readFilter_spells hs
    exact ⟨f, hf, rfl, f.toList_text, hf.isNamed, TypedFilter.segments_ne_nil_iff, hf.isLiteral_iff,
      hf.isAnyPredicate_iff⟩
  · have hatomic : ∀ e ∈ es, e.isAtomic = true := by
      intro e he
      obtain ⟨s, -, hs⟩ := exists_mem_of_mapM h e he
      obtain ⟨f, -, rfl⟩ := readFilter_spells hs
      rfl
    exact ⟨text_all_of_atomic hatomic hne, readsAsConjunction_iff hatomic hne fun cs => IsAnyPredicate.isAnyTriple,
      readsAsConjunction_iff hatomic hne fun cs hcs => hcs.isTriple.isAnyTriple⟩

/-- A filter on a path that is a word of the grammar, and one with a pattern whose quote comes after two backslashes. -/
theorem filters_on_reserved_word_and_pattern :
    ∃ es, ["not=x", "name ~ a\\\\\"%"].mapM readFilter = .ok es ∧
      (all es).text = "not is \"x\" and name like \"a\\\\\\\"%\"" ∧ ReadsAsConjunction IsAnyPredicate es := by
  have hread : ["not=x", "name ~ a\\\\\"%"].mapM readFilter =
      .ok [.compare ⟨["not"]⟩ .equal (.text "x"), .compare ⟨["name"]⟩ .like (.text "a\\\\\"%")] := rfl
  have hpredicate (name : String) (op : Comparison) (text : String) (hname : IsSegment name)
      (htext : Literal.EvenRuns text.toList) : IsAnyPredicate (Expr.compare ⟨[name]⟩ op (.text text)).text.toList := by
    rw [toList_compare]
    refine .mk (List.forall_mem_singleton.2 hname) (List.cons_ne_nil _ _) (.comparison op) (.literal ?_)
    exact isLiteral_operand fun _ s hs => Value.text.inj hs ▸ htext
  refine ⟨_, hread, by decide +kernel, ?_⟩
  refine ((typed_filters_within_predicates hread).2 (List.cons_ne_nil _ _)).2.1.2 ?_
  simp only [List.forall_mem_cons]
  exact ⟨hpredicate _ _ _ (by decide) (Literal.evenRuns_iff_closesFrom.2 (by decide)),
    hpredicate _ _ _ (by decide) (Literal.evenRuns_iff_closesFrom.2 (by decide)), List.forall_mem_nil _⟩

/-- A backslash at the end of a pattern swallows the closing quote, and a key of dots alone spells no path. -/
theorem filters_that_spill :
    (∃ e, readFilter "name~\\" = .ok e ∧ e.text = "name like \"\\\"" ∧ ¬ IsLiteral "\"\\\"".toList) ∧
    (∃ es, ["name~\\", "status=x"].mapM readFilter = .ok es ∧
      ∀ r, ¬ Reads IsAnyPredicate .sentence (all es).text.toList r) ∧
    ∃ e, readFilter ".=1" = .ok e ∧ e.text = " is 1" ∧ ∀ r, ¬ Reads IsAnyPredicate .sentence e.text.toList r := by
  refine ⟨⟨_, rfl, by decide +kernel, fun h => ?_⟩, ⟨_, rfl, fun r hr => ?_⟩, ⟨_, rfl, by decide +kernel, fun r hr => ?_⟩⟩
  · have hliteral : IsLiteral ['"', '\\', '"'] := h
    obtain ⟨content, hread⟩ := hliteral.exists_readLiteral
    cases hread
  · have hopen := (hr.balanced_of_any fun cs => IsAnyPredicate.isAnyTriple).run_start
    revert hopen
    decide +kernel
  · obtain ⟨c, rest, htext, hc⟩ := hr.head_ne_blank
    cases htext
    exact hc rfl

end EntityQuery.CommandLine
