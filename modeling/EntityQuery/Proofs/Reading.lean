import EntityQuery.Predicate
import EntityQuery.Proofs.Saying
import EntityQuery.Proofs.Tidy

/-!
# Texts mean what the trees mean

The text of a built expression is a sentence of the grammar, and read from left to right without precedence it says
what the tree says (`text_has_the_reading_of_the_tree`). This is `Canonical.spoken` for the predicates of the documented
grammar (`IsPredicate`) and for leaves that are written as such predicates or bring a sentence with them (`Readable`).
-/

namespace EntityQuery

open RawText

/-- A path that can stand before an operator: proper names, at least one, and no word of the grammar. -/
structure Path.IsSubject (p : Path) : Prop where
  named : p.IsNamed
  nonempty : p.segments ≠ []
  free : p.toText.toList ∉ reservedWords

/-- The predicates of the documented grammar. What stands in brackets is skipped as a whole, but something has to
stand there. -/
inductive IsPredicate : List Char → Prop
  | comparison {path : Path} {literal : List Char} (op : Comparison) : path.IsSubject → IsLiteral literal →
      IsPredicate (path.toText.toList ++ ' ' :: (op.keyword.toList ++ ' ' :: literal))
  | relationship {path : Path} {inner : List Char} (op : Relationship) : path.IsSubject → Balanced inner →
      inner ≠ [] →
      IsPredicate (path.toText.toList ++ ' ' :: (op.keyword.toList ++ ' ' :: '(' :: (inner ++ [')'])))
  | inclusion {path : Path} {inner : List Char} (op : Inclusion) : path.IsSubject → Balanced inner →
      inner ≠ [] →
      IsPredicate (path.toText.toList ++ ' ' :: (op.keyword.toList ++ ' ' :: '(' :: (inner ++ [')'])))

theorem isPredicate_number (name : String) (n : Nat) (hname : IsSegment name ∧ name.toList ∉ reservedWords) :
    IsPredicate (name.toList ++ ' ' :: (Comparison.equal.keyword.toList ++ ' ' :: Nat.toDigits 10 n)) := by
  have hpath : (Path.mk [name]).toText = name := by
    simp [Path.toText]
  have hsubject : (Path.mk [name]).IsSubject := by
    refine ⟨List.forall_mem_singleton.2 hname.1, List.cons_ne_nil _ _, ?_⟩
    rw [hpath]
    exact hname.2
  have hpredicate := IsPredicate.comparison .equal hsubject (.number (isNumeral_toDigits n))
  rwa [hpath] at hpredicate

theorem IsPredicate.isTriple {cs : List Char} (h : IsPredicate cs) : IsTriple cs := by
  cases h with
  | comparison op hpath hliteral =>
    exact .mk hpath.named.isNameChar hpath.free (.comparison op) (.literal hliteral)
  | relationship op hpath hinner _ =>
    exact .mk hpath.named.isNameChar hpath.free (.relationship op) (.brackets hinner)
  | inclusion op hpath hinner _ =>
    exact .mk hpath.named.isNameChar hpath.free (.inclusion op) (.brackets hinner)

namespace Expr

/-- The leaves whose texts the grammar reads. Query text that is taken as it is is blank or a sentence itself. -/
inductive Readable : Expr → Prop
  | compare {path : Path} {op : Comparison} {value : Value} : path.IsSubject → (compare path op value).Tidy →
      Readable (compare path op value)
  | related {path : Path} {op : Relationship} {condition : Expr} : path.IsSubject → condition.Tidy →
      condition.isEmpty = false → Readable (related path op condition)
  | member {path : Path} {op : Inclusion} {members : Members} : path.IsSubject →
      (member path op members).Tidy → Readable (member path op members)
  | raw {text : String} : Text.isBlank text = true ∨ (∃ r, Reads IsPredicate .sentence text.toList r) →
      Readable (raw text)

variable {e : Expr}

theorem spoken_leaf (h : Readable e) (hlive : e.isEmpty = false) : Spoken IsPredicate e := by
  cases h with
  | @compare path op value hpath htidy =>
    refine spoken_predicate ?_ rfl
    cases htidy with
    | compare _ hpattern =>
      rw [toList_compare]
      exact .comparison op hpath (isLiteral_operand hpattern)
  | @related path op condition hpath htidy hcondition =>
    refine spoken_predicate ?_ rfl
    rw [toList_related]
    exact .relationship op hpath htidy.balanced (text_ne_nil hcondition)
  | @member path op members hpath htidy =>
    refine spoken_predicate ?_ rfl
    rw [toList_member]
    cases htidy with
    | values => exact .inclusion op hpath (balanced_valuesText _) (valuesText_ne_nil _)
    | subquery _ hnames hfilters =>
      exact .inclusion op hpath (hnames.balanced (fun e he => (hfilters e he).balanced) true)
        (hnames.text_ne_nil true)
  | raw htext =>
    rcases htext with hblank | ⟨r, hr⟩
    · rw [isEmpty, hblank] at hlive
      cases hlive
    · exact spoken_raw (fun _ => IsPredicate.isTriple) hr

/-- The derived patterns are readable whatever text they are made from. -/
theorem readable_derived {path : Path} (hpath : path.IsSubject) (s : String) :
    Readable (path.startsWith s) ∧ Readable (path.endsWith s) ∧ Readable (path.contains s) := by
  have hlike : ∀ pattern : String, Literal.EvenRuns pattern.toList → Readable (path.like pattern) := by
    intro pattern hruns
    refine .compare hpath (.compare hpath.named fun _ text htext => ?_)
    cases htext
    exact hruns
  exact ⟨hlike _ (Literal.evenRuns_startsWith s), hlike _ (Literal.evenRuns_endsWith s),
    hlike _ (Literal.evenRuns_contains s)⟩

/-! ## The main statement -/

/-- **The text of a built expression has one reading, and it means what the tree means.** -/
theorem text_has_the_reading_of_the_tree (h : Built Readable e) (hlive : e.isEmpty = false) :
    ∃ r, (∀ s, Reads IsPredicate .sentence e.text.toList s ↔ s = r) ∧
      ∀ truth, r.Holds truth ↔ e.Holds (leafHolds IsPredicate truth) := by
  obtain ⟨r, hr, hmeaning⟩ := (h.canonical.spoken (fun _ => spoken_leaf) hlive).alone
  refine ⟨r, fun s => ⟨fun hs => ?_, ?_⟩, hmeaning⟩
  · exact hs.unique (fun _ => IsPredicate.isTriple) hr
  · rintro rfl
    exact hr

/-- A denied conjunction of a derived pattern with a quote in it and of query text with a connective of its own. -/
theorem reading_of_denied_conjunction :
    (negate (all [Path.startsWith ⟨["a"]⟩ "5\"", raw "b is 2 or c is 3"])).text =
      "not (a like \"5\\\"%\" and (b is 2 or c is 3))" ∧
    ∃ r, (∀ s, Reads IsPredicate .sentence "not (a like \"5\\\"%\" and (b is 2 or c is 3))".toList s ↔ s = r) ∧
      ∀ truth, r.Holds truth ↔
        (negate (all [Path.startsWith ⟨["a"]⟩ "5\"", raw "b is 2 or c is 3"])).Holds (leafHolds IsPredicate truth) := by
  have hsubject : ∀ name ∈ ["a", "b", "c"], Path.IsSubject ⟨[name]⟩ := by
    have hname : ∀ name ∈ ["a", "b", "c"], IsSegment name ∧ name.toList ∉ reservedWords := by
      decide
    intro name hmem
    obtain ⟨hsegment, hfree⟩ := hname name hmem
    refine ⟨fun s hs => ?_, List.cons_ne_nil _ _, ?_⟩
    · rwa [List.mem_singleton.1 hs]
    · simpa [Path.toText] using hfree
  have hpredicate : ∀ name ∈ ["a", "b", "c"], ∀ n : Nat,
      IsPredicate ((Path.mk [name]).toText.toList ++ ' ' :: ("is".toList ++ ' ' :: Nat.toDigits 10 n)) :=
    fun name hname n => .comparison .equal (hsubject name hname) (.number (isNumeral_toDigits n))
  have hraw : Reads IsPredicate .sentence "b is 2 or c is 3".toList _ :=
    .join .or (.term (.predicate (hpredicate "b" (by simp) 2))) (.predicate (hpredicate "c" (by simp) 3))
  have hbuilt : Built Readable (negate (all [Path.startsWith ⟨["a"]⟩ "5\"", raw "b is 2 or c is 3"])) := by
    refine .negate (.all ?_)
    simp only [List.forall_mem_cons]
    exact ⟨.leaf rfl (readable_derived (hsubject "a" (by simp)) _).1, .leaf rfl (.raw (.inr ⟨_, hraw⟩)),
      List.forall_mem_nil _⟩
  exact ⟨rfl, text_has_the_reading_of_the_tree hbuilt (by decide)⟩

end Expr

end EntityQuery
