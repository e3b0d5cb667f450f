import EntityQuery.Proofs.Literals
import EntityQuery.Proofs.Names

/-!
# The grammar of conditions

A sentence is terms with `and` and `or` between them, read strictly from left to right: neither binds tighter.
A term is a predicate, a sentence in brackets, or `not` and one term. `Reads` says which texts have a reading
and which.

What a predicate is depends on who reads. All that the grammar needs is that a predicate is three words: a
name that the grammar does not use itself, an operator, and a unit, which is a literal or a bracketed text and is
skipped as a whole (`IsTriple`). Then a sentence is balanced (`Reads.balanced`), and one without a connective is a
term (`Reads.term_of_no_connective`).
-/

namespace EntityQuery

open RawText

/-- What a sentence says: a tree over the texts of its predicates. -/
inductive Reading where
  | predicate (text : List Char)
  | not (term : Reading)
  | join (c : Connective) (left right : Reading)

def Connective.Join : Connective → Prop → Prop → Prop
  | .and, p, q => p ∧ q
  | .or, p, q => p ∨ q

def Reading.Holds (truth : List Char → Prop) : Reading → Prop
  | predicate text => truth text
  | not term => ¬ term.Holds truth
  | join c left right => c.Join (left.Holds truth) (right.Holds truth)

inductive Rank where
  | term
  | sentence

/-- The text has this reading as a term or as a sentence. -/
inductive Reads (predicate : List Char → Prop) : Rank → List Char → Reading → Prop
  | predicate {cs : List Char} : predicate cs → Reads predicate .term cs (.predicate cs)
  | not {cs : List Char} {r : Reading} : Reads predicate .term cs r →
      Reads predicate .term (negationKeyword.toList ++ ' ' :: cs) (.not r)
  | brackets {cs : List Char} {r : Reading} : Reads predicate .sentence cs r →
      Reads predicate .term ('(' :: (cs ++ [')'])) r
  | term {cs : List Char} {r : Reading} : Reads predicate .term cs r → Reads predicate .sentence cs r
  | join {cs ds : List Char} {r s : Reading} (c : Connective) : Reads predicate .sentence cs r →
      Reads predicate .term ds s →
      Reads predicate .sentence (cs ++ ' ' :: (c.keyword.toList ++ ' ' :: ds)) (.join c r s)

/-! ## Predicates as three words -/

inductive IsOperator : List Char → Prop
  | comparison (op : Comparison) : IsOperator op.keyword.toList
  | relationship (op : Relationship) : IsOperator op.keyword.toList
  | inclusion (op : Inclusion) : IsOperator op.keyword.toList

/-- The right-hand side of a predicate, which is skipped as a whole. -/
inductive IsUnit : List Char → Prop
  | literal {cs : List Char} : IsLiteral cs → IsUnit cs
  | brackets {cs : List Char} : Balanced cs → IsUnit ('(' :: (cs ++ [')']))

/-- What units begin with. No word that joins terms or opens a clause does. -/
def opensUnit (c : Char) : Bool := c.isDigit || ['"', '-', '.', 'n', 'T', 'F', '('].contains c

inductive IsTriple : List Char → Prop
  | mk {name op unit : List Char} : (∀ c ∈ name, isNameChar c = true) → name ∉ reservedWords →
      IsOperator op → IsUnit unit → IsTriple (name ++ ' ' :: (op ++ ' ' :: unit))

theorem connective_mem_reservedWords (c : Connective) : c.keyword.toList ∈ reservedWords := by
  cases c with
  | and => decide
  | or => decide

theorem negation_mem_reservedWords : negationKeyword.toList ∈ reservedWords := by
  decide

theorem Connective.keyword_inj {c c' : Connective} (h : c.keyword.toList = c'.keyword.toList) : c = c' := by
  revert h
  cases c <;> cases c' <;> decide

theorem connective_ne_negation (c : Connective) : c.keyword.toList ≠ negationKeyword.toList := by
  cases c with
  | and => decide
  | or => decide

theorem connective_ne_brackets (c : Connective) (cs : List Char) : c.keyword.toList ≠ '(' :: cs := by
  cases c with
  | and => exact fun heq => absurd (List.cons.inj heq).1 (by decide)
  | or => exact fun heq => absurd (List.cons.inj heq).1 (by decide)

theorem negation_ne_brackets (cs : List Char) : negationKeyword.toList ≠ '(' :: cs :=
  fun heq => absurd (List.cons.inj heq).1 (by decide)

variable {cs ds unit op : List Char}

namespace IsOperator

theorem plain (h : IsOperator op) :
    (∀ c ∈ op, c ≠ ' ' ∧ c ≠ '"' ∧ c ≠ '(' ∧ c ≠ ')') ∧ op ∉ reservedWords := by
  have htest : op.all (fun c => decide (c ≠ ' ' ∧ c ≠ '"' ∧ c ≠ '(' ∧ c ≠ ')')) = true ∧ op ∉ reservedWords := by
    cases h with
    | comparison op => cases op <;> decide
    | relationship op => cases op <;> decide
    | inclusion op => cases op <;> decide
  exact ⟨fun c hc => of_decide_eq_true (List.all_eq_true.1 htest.1 c hc), htest.2⟩

theorem balanced (h : IsOperator op) : Balanced op :=
  balanced_of_plain fun c hc => (h.plain.1 c hc).2

theorem words_eq (h : IsOperator op) : words op = [op] :=
  words_of_no_blank fun hblank => (h.plain.1 _ hblank).1 rfl

end IsOperator

namespace IsUnit

theorem balanced (h : IsUnit unit) : Balanced unit := by
  cases h with
  | literal h => exact h.balanced
  | brackets h => exact h.brackets

theorem words_eq (h : IsUnit unit) : words unit = [unit] := by
  cases h with
  | literal h => exact h.words_eq
  | brackets h => exact words_brackets h

theorem head (h : IsUnit unit) : ∃ c, unit.head? = some c ∧ opensUnit c = true := by
  cases h with
  | literal h =>
    obtain ⟨c, hc, hstart⟩ := h.head
    refine ⟨c, hc, ?_⟩
    rcases hstart with hdigit | hmem
    · rw [opensUnit, hdigit, Bool.true_or]
    · have hcontains : ['"', '-', '.', 'n', 'T', 'F', '('].contains c = true :=
        List.contains_iff_mem.2 (List.mem_append_left ['('] hmem)
      rw [opensUnit, hcontains, Bool.or_true]
  | brackets h => exact ⟨'(', rfl, by decide⟩

theorem isLiteral (h : IsUnit ('"' :: cs)) : IsLiteral ('"' :: cs) := by
  generalize htext : '"' :: cs = text at h
  cases h with
  | literal h => exact h
  | brackets => exact absurd (List.cons.inj htext).1 (by decide)

theorem not_mem {keywords : List (List Char)} (h : IsUnit unit)
    (hk : ∀ k ∈ keywords, k.head?.any opensUnit = false) : unit ∉ keywords := by
  intro hmem
  obtain ⟨c, hc, hstart⟩ := h.head
  have hother := hk unit hmem
  rw [hc, Option.any_some, hstart] at hother
  cases hother

theorem ne_connective (h : IsUnit unit) (c : Connective) : unit ≠ c.keyword.toList := by
  have hnot : unit ∉ [Connective.and.keyword.toList, Connective.or.keyword.toList] := h.not_mem (by decide)
  rintro rfl
  apply hnot
  cases c with
  | and => exact List.mem_cons_self
  | or => exact List.mem_cons_of_mem _ List.mem_cons_self

end IsUnit

theorem balanced_written {name inner : List Char} (hname : Balanced name) (hop : IsOperator op) (h : Balanced inner) :
    Balanced (name ++ ' ' :: (op ++ ' ' :: inner)) :=
  hname.append (.cons (by decide) (hop.balanced.append (.cons (by decide) h)))

theorem balanced_predicate {name inner : List Char} (hname : ∀ c ∈ name, isNameChar c = true) (hop : IsOperator op)
    (h : Balanced inner) : Balanced (name ++ ' ' :: (op ++ ' ' :: inner)) :=
  balanced_written (balanced_of_isNameChar hname) hop h

namespace IsTriple

theorem balanced (h : IsTriple cs) : Balanced cs := by
  obtain ⟨hname, -, hop, hunit⟩ := h
  exact balanced_predicate hname hop hunit.balanced

theorem words_eq (h : IsTriple cs) :
    ∃ name op unit, words cs = [name, op, unit] ∧ (∀ c ∈ name, isNameChar c = true) ∧
      name ∉ reservedWords ∧ IsOperator op ∧ IsUnit unit := by
  obtain ⟨hname, hfree, hop, hunit⟩ := h
  refine ⟨_, _, _, ?_, hname, hfree, hop, hunit⟩
  rw [words_append (balanced_of_isNameChar hname), words_append hop.balanced, words_of_isNameChar hname,
    hop.words_eq, hunit.words_eq]
  rfl

theorem no_connective (h : IsTriple cs) (c : Connective) : c.keyword.toList ∉ words cs := by
  obtain ⟨name, op, unit, hwords, -, hname, hop, hunit⟩ := h.words_eq
  rw [hwords]
  simp only [List.mem_cons, List.not_mem_nil, or_false, not_or]
  refine ⟨?_, ?_, (hunit.ne_connective c).symm⟩
  · rintro rfl
    exact hname (connective_mem_reservedWords c)
  · rintro rfl
    exact hop.plain.2 (connective_mem_reservedWords c)

theorem words_ne_negation (h : IsTriple cs) (ws : List (List Char)) : words cs ≠ negationKeyword.toList :: ws := by
  obtain ⟨name, op, unit, hwords, -, hname, -, -⟩ := h.words_eq
  rw [hwords]
  intro heq
  rw [(List.cons.inj heq).1] at hname
  exact hname negation_mem_reservedWords

theorem words_ne_singleton (h : IsTriple cs) (w : List Char) : words cs ≠ [w] := by
  obtain ⟨name, op, unit, hwords, -, -, -, -⟩ := h.words_eq
  rw [hwords]
  rintro ⟨⟩

end IsTriple

/-! ## Lexical facts -/

namespace Reads

theorem keyword_balanced (c : Connective) : Balanced c.keyword.toList := by
  cases c with
  | and => exact balanced_of_all (by decide)
  | or => exact balanced_of_all (by decide)

theorem negation_balanced : Balanced negationKeyword.toList := balanced_of_all (by decide)

theorem words_not (cs : List Char) :
    words (negationKeyword.toList ++ ' ' :: cs) = negationKeyword.toList :: words cs := by
  rw [words_append negation_balanced]
  rfl

theorem words_join (c : Connective) (h : Balanced cs) :
    words (cs ++ ' ' :: (c.keyword.toList ++ ' ' :: ds)) = words cs ++ c.keyword.toList :: words ds := by
  rw [words_append h, words_append (keyword_balanced c)]
  cases c with
  | and => rfl
  | or => rfl

theorem hasConnectiveFrom_join (c : Connective) (h : Balanced cs) :
    hasConnectiveFrom .start (cs ++ ' ' :: (c.keyword.toList ++ ' ' :: ds)) = true := by
  have hstarts : startsConnective (' ' :: (c.keyword.toList ++ ' ' :: ds)) = true := by
    cases c with
    | and => rfl
    | or => rfl
  exact hasConnectiveFrom_append h.run_start hstarts

variable {predicate : List Char → Prop} {rank : Rank} {r s : Reading}

theorem term_cases (h : Reads predicate .term cs r) :
    (predicate cs ∧ r = .predicate cs) ∨
    (∃ ds s, cs = negationKeyword.toList ++ ' ' :: ds ∧ r = .not s ∧ Reads predicate .term ds s) ∨
    ∃ ds, cs = '(' :: (ds ++ [')']) ∧ Reads predicate .sentence ds r := by
  cases h with
  | predicate hp => exact .inl ⟨hp, rfl⟩
  | not h => exact .inr (.inl ⟨_, _, rfl, rfl, h⟩)
  | brackets h => exact .inr (.inr ⟨_, rfl, h⟩)

theorem sentence_cases (h : Reads predicate .sentence cs r) :
    Reads predicate .term cs r ∨
    ∃ c as bs t u, cs = as ++ ' ' :: (c.keyword.toList ++ ' ' :: bs) ∧ r = .join c t u ∧
      Reads predicate .sentence as t ∧ Reads predicate .term bs u := by
  cases h with
  | term h => exact .inl h
  | join c h h' => exact .inr ⟨c, _, _, _, _, rfl, rfl, h, h'⟩

theorem balanced_of (hpred : ∀ cs, predicate cs → Balanced cs) (h : Reads predicate rank cs r) : Balanced cs := by
  induction h with
  | predicate hp => exact hpred _ hp
  | not _ ih => exact negation_balanced.append (.cons (by decide) ih)
  | brackets _ ih => exact ih.brackets
  | term _ ih => exact ih
  | join c _ _ ih ih' => exact ih.append (.cons (by decide) ((keyword_balanced c).append (.cons (by decide) ih')))

theorem holds_congr {truth truth' : List Char → Prop} (h : Reads predicate rank cs r)
    (htruth : ∀ ds, predicate ds → (truth ds ↔ truth' ds)) : r.Holds truth ↔ r.Holds truth' := by
  induction h with
  | predicate hp => exact htruth _ hp
  | not _ ih => exact not_congr ih
  | brackets _ ih => exact ih
  | term _ ih => exact ih
  | join c _ _ ih ih' =>
    cases c with
    | and => exact and_congr ih ih'
    | or => exact or_congr ih ih'

variable (hpred : ∀ cs, predicate cs → IsTriple cs)
include hpred

theorem balanced (h : Reads predicate rank cs r) : Balanced cs :=
  h.balanced_of fun _ hp => (hpred _ hp).balanced

theorem term_of_no_connective (h : Reads predicate .sentence cs r)
    (hnone : hasConnectiveFrom .start cs = false) : Reads predicate .term cs r := by
  rcases h.sentence_cases with h | ⟨c, as, bs, t, u, rfl, -, has, -⟩
  · exact h
  · rw [hasConnectiveFrom_join c (has.balanced hpred)] at hnone
    cases hnone

end Reads

end EntityQuery
