import EntityQuery.Proofs.Grammar

/-!
# Texts have one reading

A text has at most one reading, even if a path may be spelled like a word of the grammar, `and`, `or` or `not`
(`Reads.unique_of_any`): such a path is told from the word by the operator after it.

If words of the grammar may be paths, a sentence cannot be cut at its connectives. It can be read from the front: the words
with which a term begins tell where it ends (`Determined`), since after a predicate's path comes an operator and after
`not` never does, as what follows an operator is a unit. A sentence is a term with links after it, each a connective
and a term (`Links`), and so is known link by link.
-/

namespace EntityQuery

open RawText

variable {cs ds op unit : List Char} {ws us vs : List (List Char)} {r s t : Reading} {predicate : List Char → Prop}

inductive IsAnyTriple : List Char → Prop
  | mk {name op unit : List Char} : (∀ c ∈ name, isNameChar c = true) → IsOperator op → IsUnit unit →
      IsAnyTriple (name ++ ' ' :: (op ++ ' ' :: unit))

theorem IsOperator.head (h : IsOperator op) :
    ∃ c, op.head? = some c ∧ c.isDigit = false ∧ c ∉ ['"', '-', '.', 'T', 'F', '('] := by
  cases h with
  | comparison op => cases op <;> exact ⟨_, rfl, by decide⟩
  | relationship op => cases op <;> exact ⟨_, rfl, by decide⟩
  | inclusion op => cases op <;> exact ⟨_, rfl, by decide⟩

theorem not_isOperator_missing : ¬ IsOperator Literal.missing.toList := by
  generalize htext : Literal.missing.toList = text
  rintro (op | op | op)
  · revert htext
    cases op <;> decide
  · revert htext
    cases op <;> decide
  · revert htext
    cases op <;> decide

theorem IsUnit.not_isOperator (h : IsUnit unit) : ¬ IsOperator unit := by
  intro hop
  obtain ⟨c, hc, hdigit, hfree⟩ := hop.head
  have hhead {x : Char} (hx : unit.head? = some x) : x ∉ ['"', '-', '.', 'T', 'F', '('] := by
    rw [hx] at hc
    rwa [Option.some.inj hc]
  -- an operator begins with a small letter or a sign of its own, and units do not, `none` apart
  cases h with
  | literal h =>
    cases h with
    | missing => exact not_isOperator_missing hop
    | yes => exact hhead rfl (by decide)
    | no => exact hhead rfl (by decide)
    | number hnum =>
      rcases hnum.2 c (List.mem_of_mem_head? hc) with h | rfl | rfl
      · rw [hdigit] at h
        cases h
      · exact hfree (by decide)
      · exact hfree (by decide)
    | text hread =>
      obtain ⟨body, rfl, -⟩ := readLiteral_run hread
      exact hhead rfl (by decide)
  | brackets => exact hhead rfl (by decide)

theorem IsOperator.ne_negation (h : IsOperator op) : op ≠ negationKeyword.toList := by
  rintro rfl
  exact h.plain.2 negation_mem_reservedWords

theorem IsOperator.ne_brackets (h : IsOperator op) (cs : List Char) : op ≠ '(' :: cs := by
  rintro rfl
  exact (h.plain.1 '(' List.mem_cons_self).2.2.1 rfl

theorem IsTriple.isAnyTriple (h : IsTriple cs) : IsAnyTriple cs := by
  obtain ⟨hname, -, hop, hunit⟩ := h
  exact .mk hname hop hunit

namespace IsAnyTriple

theorem balanced (h : IsAnyTriple cs) : Balanced cs := by
  obtain ⟨hname, hop, hunit⟩ := h
  exact balanced_predicate hname hop hunit.balanced

theorem words_eq (h : IsAnyTriple cs) :
    ∃ name op unit, words cs = [name, op, unit] ∧ (∀ ds, name ≠ '(' :: ds) ∧ IsOperator op ∧ IsUnit unit := by
  obtain @⟨name, op, unit, hname, hop, hunit⟩ := h
  refine ⟨name, op, unit, ?_, ?_, hop, hunit⟩
  · rw [words_append (balanced_of_isNameChar hname), words_append hop.balanced, words_of_isNameChar hname,
      hop.words_eq, hunit.words_eq]
    rfl
  · rintro ds rfl
    exact isNameChar_ne (hname '(' List.mem_cons_self) (by simp) rfl

end IsAnyTriple

/-- A path, an operator and a unit. The path may be spelled like a word of the grammar. -/
inductive IsAnyPredicate : List Char → Prop
  | mk {path : Path} {op unit : List Char} : path.IsNamed → path.segments ≠ [] → IsOperator op → IsUnit unit →
      IsAnyPredicate (path.toText.toList ++ ' ' :: (op ++ ' ' :: unit))

theorem IsAnyPredicate.isAnyTriple (h : IsAnyPredicate cs) : IsAnyTriple cs := by
  obtain ⟨hnamed, -, hop, hunit⟩ := h
  exact .mk hnamed.isNameChar hop hunit

theorem IsAnyPredicate.split {name rest : List Char} (hname : ∀ c ∈ name, isNameChar c = true) (hop : IsOperator op)
    (h : IsAnyPredicate (name ++ ' ' :: (op ++ ' ' :: rest))) : name ≠ [] ∧ IsUnit rest := by
  generalize htext : name ++ ' ' :: (op ++ ' ' :: rest) = text at h
  obtain @⟨path, op', unit, hnamed, hne, hop', hunit⟩ := h
  have hwords := congrArg words htext
  rw [words_append (balanced_of_isNameChar hname), words_append hop.balanced, words_of_isNameChar hname, hop.words_eq,
    words_append (balanced_of_isNameChar hnamed.isNameChar), words_append hop'.balanced,
    words_of_isNameChar hnamed.isNameChar, hop'.words_eq, hunit.words_eq] at hwords
  obtain ⟨hpath, hrest⟩ := List.cons.inj hwords
  refine ⟨hpath ▸ hnamed.toText_ne_nil hne, ?_⟩
  have hsame : words rest = words unit := hunit.words_eq ▸ (List.cons.inj hrest).2
  rwa [words_inj hsame]

/-! ## Terms from the front -/

/-- Where the words of a term begin a list, no other term does. -/
def Determined (predicate : List Char → Prop) (cs : List Char) (r : Reading) : Prop :=
  ∀ ds s us vs, Reads predicate .term ds s → words cs ++ us = words ds ++ vs → cs = ds ∧ r = s

section

variable (hpred : ∀ cs, predicate cs → IsAnyTriple cs)
include hpred

theorem Reads.balanced_of_any {rank : Rank} (h : Reads predicate rank cs r) : Balanced cs :=
  h.balanced_of fun cs hp => (hpred cs hp).balanced

/-- No term begins with an operator and a unit: neither a path nor an operator can be what it takes for the other. -/
theorem Reads.words_ne_operator (h : Reads predicate .term cs r) (hop : IsOperator op) (hunit : IsUnit unit) :
    words cs ++ us ≠ op :: unit :: vs := by
  intro heq
  rcases h.term_cases with ⟨hp, -⟩ | ⟨ds, s, rfl, -, -⟩ | ⟨ds, rfl, hds⟩
  · obtain ⟨name, op', unit', hwords, -, hop', -⟩ := (hpred cs hp).words_eq
    rw [hwords] at heq
    obtain rfl := (List.cons.inj (List.cons.inj heq).2).1
    exact hunit.not_isOperator hop'
  · rw [Reads.words_not] at heq
    exact hop.ne_negation (List.cons.inj heq).1.symm
  · rw [words_brackets (hds.balanced_of_any hpred)] at heq
    exact hop.ne_brackets _ (List.cons.inj heq).1.symm

theorem determined_predicate (h : predicate cs) : Determined predicate cs (.predicate cs) := by
  intro ds s us vs hds heq
  obtain ⟨name, op, unit, hwords, hname, hop, hunit⟩ := (hpred cs h).words_eq
  rw [hwords] at heq
  rcases hds.term_cases with ⟨hp, rfl⟩ | ⟨es, t, rfl, -, hes⟩ | ⟨es, rfl, hes⟩
  · obtain ⟨name', op', unit', hwords', -, -, -⟩ := (hpred ds hp).words_eq
    rw [hwords'] at heq
    have hsame : words cs = words ds := by
      rw [hwords, hwords']
      simpa using (List.append_inj heq rfl).1
    obtain rfl := words_inj hsame
    exact ⟨rfl, rfl⟩
  · rw [Reads.words_not] at heq
    exact absurd (List.cons.inj heq).2.symm (hes.words_ne_operator hpred hop hunit)
  · rw [words_brackets (hes.balanced_of_any hpred)] at heq
    exact absurd (List.cons.inj heq).1 (hname _)

theorem determined_not (hcs : Reads predicate .term cs r) (h : Determined predicate cs r) :
    Determined predicate (negationKeyword.toList ++ ' ' :: cs) (.not r) := by
  intro ds s us vs hds heq
  rw [Reads.words_not] at heq
  rcases hds.term_cases with ⟨hp, -⟩ | ⟨es, t, rfl, rfl, hes⟩ | ⟨es, rfl, hes⟩
  · obtain ⟨name, op, unit, hwords, -, hop, hunit⟩ := (hpred ds hp).words_eq
    rw [hwords] at heq
    exact absurd (List.cons.inj heq).2 (hcs.words_ne_operator hpred hop hunit)
  · rw [Reads.words_not] at heq
    obtain ⟨rfl, rfl⟩ := h es t us vs hes (List.cons.inj heq).2
    exact ⟨rfl, rfl⟩
  · rw [words_brackets (hes.balanced_of_any hpred)] at heq
    exact absurd (List.cons.inj heq).1 (negation_ne_brackets _)

theorem determined_brackets (hcs : Balanced cs) (h : ∀ s, Reads predicate .sentence cs s → r = s) :
    Determined predicate ('(' :: (cs ++ [')'])) r := by
  intro ds s us vs hds heq
  rw [words_brackets hcs] at heq
  rcases hds.term_cases with ⟨hp, -⟩ | ⟨es, t, rfl, -, hes⟩ | ⟨es, rfl, hes⟩
  · obtain ⟨name, op, unit, hwords, hname, -, -⟩ := (hpred ds hp).words_eq
    rw [hwords] at heq
    exact absurd (List.cons.inj heq).1.symm (hname _)
  · rw [Reads.words_not] at heq
    exact absurd (List.cons.inj heq).1.symm (negation_ne_brackets _)
  · rw [words_brackets (hes.balanced_of_any hpred)] at heq
    obtain rfl := (List.append_inj' (List.cons.inj (List.cons.inj heq).1).2 rfl).1
    exact ⟨rfl, h s hes⟩

end

/-! ## Sentences link by link -/

/-- Connectives with terms, as words: they lead from the reading of what stands before them to the reading of the whole. -/
inductive Links (term : List Char → Reading → Prop) : List (List Char) → Reading → Reading → Prop
  | nil {r : Reading} : Links term [] r r
  | cons {cs : List Char} {ws : List (List Char)} {r s t : Reading} (c : Connective) : term cs s →
      Links term ws (.join c r s) t → Links term (c.keyword.toList :: (words cs ++ ws)) r t

namespace Links

variable {term : List Char → Reading → Prop}

theorem cases_eq (h : Links term ws r t) : (ws = [] ∧ r = t) ∨
    ∃ c cs s us, ws = c.keyword.toList :: (words cs ++ us) ∧ term cs s ∧ Links term us (.join c r s) t := by
  cases h with
  | nil => exact .inl ⟨rfl, rfl⟩
  | cons c hterm h => exact .inr ⟨c, _, _, _, rfl, hterm, h⟩

theorem snoc (c : Connective) (h : Links term ws r s) (hterm : term cs t) :
    Links term (ws ++ c.keyword.toList :: words cs) r (.join c s t) := by
  induction h with
  | @nil r =>
    have hone : Links term (c.keyword.toList :: (words cs ++ [])) r (.join c r t) := .cons c hterm .nil
    rwa [List.append_nil] at hone
  | cons c' hterm' _ ih =>
    rw [List.cons_append, List.append_assoc]
    exact .cons c' hterm' ih

theorem unique (h : Links (Determined predicate) ws r s) (h' : Links (Reads predicate .term) ws r t) : s = t := by
  induction h with
  | nil =>
    rcases h'.cases_eq with ⟨-, rfl⟩ | ⟨c, cs, t', us, heq, -, -⟩
    · rfl
    · cases heq
  | cons c hterm _ ih =>
    rcases h'.cases_eq with ⟨heq, -⟩ | ⟨c', ds, t', us, heq, hds, h'⟩
    · cases heq
    · obtain ⟨hc, hwords⟩ := List.cons.inj heq
      obtain rfl := Connective.keyword_inj hc
      obtain ⟨rfl, rfl⟩ := hterm _ _ _ _ hds hwords
      rw [← List.append_cancel_left hwords] at h'
      exact ih h'

end Links

def Linked (term : List Char → Reading → Prop) (cs : List Char) (r : Reading) : Prop :=
  ∃ ds s ws, term ds s ∧ words cs = words ds ++ ws ∧ Links term ws s r

theorem Linked.of_term {term : List Char → Reading → Prop} (h : term cs r) : Linked term cs r :=
  ⟨cs, r, [], h, (List.append_nil _).symm, .nil⟩

theorem Linked.join {term : List Char → Reading → Prop} (c : Connective) (hcs : Balanced cs) (h : Linked term cs r)
    (hterm : term ds s) : Linked term (cs ++ ' ' :: (c.keyword.toList ++ ' ' :: ds)) (.join c r s) := by
  obtain ⟨es, t, ws, hes, hwords, hlinks⟩ := h
  refine ⟨es, t, ws ++ c.keyword.toList :: words ds, hes, ?_, hlinks.snoc c hterm⟩
  rw [Reads.words_join c hcs, hwords, List.append_assoc]

theorem Linked.unique (h : Linked (Determined predicate) cs r) (h' : Linked (Reads predicate .term) cs s) : r = s := by
  obtain ⟨ds, t, ws, hds, hwords, hlinks⟩ := h
  obtain ⟨es, u, us, hes, hwords', hlinks'⟩ := h'
  rw [hwords] at hwords'
  obtain ⟨rfl, rfl⟩ := hds _ _ _ _ hes hwords'
  rw [← List.append_cancel_left hwords'] at hlinks'
  exact hlinks.unique hlinks'

/-- What determines a reading: of a term its first words, of a sentence those of each of its terms. -/
def DeterminedAt (predicate : List Char → Prop) : Rank → List Char → Reading → Prop
  | .term => Determined predicate
  | .sentence => Linked (Determined predicate)

section

variable (hpred : ∀ cs, predicate cs → IsAnyTriple cs)
include hpred

theorem Reads.linked (h : Reads predicate .sentence cs r) : Linked (Reads predicate .term) cs r := by
  generalize hrank : Rank.sentence = rank at h
  induction h with
  | predicate | not | brackets => cases hrank
  | term h => exact .of_term h
  | join c h hterm ih => exact (ih rfl).join c (h.balanced_of_any hpred) hterm

/-- **Terms are known from the front**, and sentences link by link. -/
theorem Reads.determined {rank : Rank} (h : Reads predicate rank cs r) : DeterminedAt predicate rank cs r := by
  induction h with
  | predicate hp => exact determined_predicate hpred hp
  | not h ih => exact determined_not hpred h ih
  | brackets h ih =>
    exact determined_brackets hpred (h.balanced_of_any hpred)
      fun s hs => ih.unique (hs.linked hpred)
  | term _ ih => exact .of_term ih
  | join c h _ ih ih' => exact ih.join c (h.balanced_of_any hpred) ih'

/-- **A text has at most one reading, whatever words are paths.** -/
theorem Reads.unique_of_any {rank : Rank} (h : Reads predicate rank cs r) (h' : Reads predicate rank cs s) : r = s := by
  have hdetermined := h.determined hpred
  cases rank with
  | term => exact (hdetermined cs s [] [] h' rfl).2
  | sentence => exact hdetermined.unique (h'.linked hpred)

end

theorem Reads.unique {rank : Rank} (hpred : ∀ cs, predicate cs → IsTriple cs) (h : Reads predicate rank cs r)
    (h' : Reads predicate rank cs s) : r = s := h.unique_of_any (fun cs hp => (hpred cs hp).isAnyTriple) h'

theorem Reads.head_ne_blank {rank : Rank} (h : Reads IsAnyPredicate rank cs r) : ∃ c rest, cs = c :: rest ∧ c ≠ ' ' := by
  induction h with
  | predicate hp =>
    obtain ⟨hnamed, hne, -, -⟩ := hp
    obtain ⟨c, rest, htext⟩ := List.exists_cons_of_ne_nil (hnamed.toText_ne_nil hne)
    rw [htext]
    exact ⟨c, _, rfl, isNameChar_ne (hnamed.isNameChar c (by simp [htext])) (by simp)⟩
  | not => exact ⟨'n', _, rfl, by decide⟩
  | brackets => exact ⟨'(', _, rfl, by decide⟩
  | term _ ih => exact ih
  | join c _ _ ih _ =>
    obtain ⟨c, rest, rfl, hc⟩ := ih
    exact ⟨c, _, rfl, hc⟩

end EntityQuery
