import EntityQuery.Proofs.EmptyBrackets
import EntityQuery.Proofs.Reading

/-!
# The grammar down into brackets

The documented grammar has a condition between the brackets of `has` and `any`, and nothing else; between those of a
membership test it has literals or the clauses of a subquery. `Grammatical` are its terms and its sentences, down into
those brackets. They have readings in which brackets are skipped (`Grammatical.reads`), and no empty brackets
(`Grammatical.not_emptyBrackets`).
-/

namespace EntityQuery

open RawText EntityQuery.Expr

/-- The terms and the sentences of the documented grammar. Like `Reads`, but what stands in brackets is not skipped: a
condition is a sentence, a list has literals, and a subquery has a sentence after `where` if it has that. -/
inductive Grammatical : Rank → List Char → Prop
  | comparison {path : Path} {literal : List Char} (op : Comparison) : path.IsSubject → IsLiteral literal →
      Grammatical .term (path.toText.toList ++ ' ' :: (op.keyword.toList ++ ' ' :: literal))
  | relationship {path : Path} {condition : List Char} (op : Relationship) : path.IsSubject →
      Grammatical .sentence condition →
      Grammatical .term (path.toText.toList ++ ' ' :: (op.keyword.toList ++ ' ' :: '(' :: (condition ++ [')'])))
  | listing {path : Path} {literals : List (List Char)} (op : Inclusion) : path.IsSubject → literals ≠ [] →
      (∀ literal ∈ literals, IsLiteral literal) →
      Grammatical .term (path.toText.toList ++ ' ' ::
        (op.keyword.toList ++ ' ' :: '(' :: ([',', ' '].intercalate literals ++ [')'])))
  | subselect {path : Path} {clauses : Clauses} {condition : String} (op : Inclusion) : path.IsSubject →
      clauses.HasNames → (condition ≠ "" → Grammatical .sentence condition.toList) →
      Grammatical .term (path.toText.toList ++ ' ' :: (op.keyword.toList ++ ' ' :: '(' ::
        ((joinParts (clauses.front true ++ (Clauses.conditionParts condition ++ clauses.back))).toList ++ [')'])))
  | not {cs : List Char} : Grammatical .term cs → Grammatical .term (negationKeyword.toList ++ ' ' :: cs)
  | brackets {cs : List Char} : Grammatical .sentence cs → Grammatical .term ('(' :: (cs ++ [')']))
  | term {cs : List Char} : Grammatical .term cs → Grammatical .sentence cs
  | join {cs ds : List Char} (c : Connective) : Grammatical .sentence cs → Grammatical .term ds →
      Grammatical .sentence (cs ++ ' ' :: (c.keyword.toList ++ ' ' :: ds))

namespace Grammatical

variable {rank : Rank} {cs ds : List Char} {c : Connective} {ts : List Expr}

theorem ne_nil (h : Grammatical rank cs) : cs ≠ [] := by
  cases h with
  | term h => cases h <;> simp
  | _ => simp

theorem reads (h : Grammatical rank cs) : ∃ r, Reads IsPredicate rank cs r := by
  have hbalanced {cs : List Char} (hr : ∃ r, Reads IsPredicate .sentence cs r) : Balanced cs := by
    obtain ⟨r, hr⟩ := hr
    exact hr.balanced fun _ => IsPredicate.isTriple
  induction h with
  | comparison op hpath hliteral => exact ⟨_, .predicate (.comparison op hpath hliteral)⟩
  | relationship op hpath hcondition ih =>
    exact ⟨_, .predicate (.relationship op hpath (hbalanced ih) hcondition.ne_nil)⟩
  | listing op hpath hne hliterals =>
    exact ⟨_, .predicate (.inclusion op hpath (balanced_literals hliterals) (literals_ne_nil hne hliterals))⟩
  | @subselect path clauses condition op hpath hnames hcondition ih =>
    have hcondition : Balanced condition.toList := by
      by_cases hnone : condition = ""
      · rw [hnone]
        exact .nil
      · exact hbalanced (ih hnone)
    have hentity : clauses.entityType ∈ clauses.front true ++ (Clauses.conditionParts condition ++ clauses.back) := by
      simp [Clauses.front]
    exact ⟨_, .predicate (.inclusion op hpath (balanced_joinParts (hnames.balanced_parts hcondition true))
      (joinParts_ne_nil hentity hnames.entityType.1))⟩
  | not _ ih =>
    obtain ⟨r, hr⟩ := ih
    exact ⟨_, .not hr⟩
  | brackets _ ih =>
    obtain ⟨r, hr⟩ := ih
    exact ⟨_, .brackets hr⟩
  | term _ ih =>
    obtain ⟨r, hr⟩ := ih
    exact ⟨_, .term hr⟩
  | join c _ _ ih ih' =>
    obtain ⟨r, hr⟩ := ih
    obtain ⟨s, hs⟩ := ih'
    exact ⟨_, .join c hr hs⟩

theorem balanced (h : Grammatical rank cs) : Balanced cs := by
  obtain ⟨r, hr⟩ := h.reads
  exact hr.balanced fun _ => IsPredicate.isTriple

theorem not_emptyBrackets (h : Grammatical rank cs) : ¬ EmptyBrackets cs := by
  have hword (cs : List Char) (hcs : cs.all isPlain = true) : Balanced cs ∧ ¬ EmptyBrackets cs := by
    refine ⟨balanced_of_all hcs, not_emptyBrackets_of_not_mem fun hmem => ?_⟩
    exact absurd (List.all_eq_true.1 hcs _ hmem) (by decide)
  -- the induction needs balanced parts: else a bracket of one part could close in another
  induction h with
  | comparison op hpath hliteral =>
    exact not_emptyBrackets_written hpath.named.isNameChar (.comparison op) hliteral.not_emptyBrackets
  | relationship op hpath hcondition ih =>
    exact not_emptyBrackets_written hpath.named.isNameChar (.relationship op)
      (not_emptyBrackets_brackets hcondition.balanced hcondition.ne_nil ih)
  | @listing path literals op hpath hne hliterals =>
    obtain ⟨hseparator, hnone⟩ := hword [',', ' '] (by decide)
    have hinner : ¬ EmptyBrackets ([',', ' '].intercalate literals) :=
      not_emptyBrackets_intercalate hseparator hnone fun l hl =>
        ⟨(hliterals l hl).balanced, (hliterals l hl).not_emptyBrackets⟩
    exact not_emptyBrackets_written hpath.named.isNameChar (.inclusion op)
      (not_emptyBrackets_brackets (balanced_literals hliterals) (literals_ne_nil hne hliterals) hinner)
  | @subselect path clauses condition op hpath hnames hcondition ih =>
    have hinner : Balanced condition.toList ∧ ¬ EmptyBrackets condition.toList := by
      by_cases hnone : condition = ""
      · rw [hnone]
        exact hword [] rfl
      · exact ⟨(hcondition hnone).balanced, ih hnone⟩
    exact not_emptyBrackets_written hpath.named.isNameChar (.inclusion op) (not_emptyBrackets_brackets
      (balanced_joinParts (hnames.balanced_parts hinner.1 true))
      (joinParts_ne_nil (by simp [Clauses.front]) hnames.entityType.1)
      (hnames.not_emptyBrackets hinner.1 hinner.2 true))
  | @not cs _ ih =>
    obtain ⟨hnot, hnone⟩ := hword (negationKeyword.toList ++ [' ']) (by decide)
    simpa using not_emptyBrackets_append hnot hnone ih
  | brackets h ih => exact not_emptyBrackets_brackets h.balanced h.ne_nil ih
  | term _ ih => exact ih
  | @join cs ds c h _ ih ih' =>
    obtain ⟨hbetween, hnone⟩ := hword (between c) (by cases c <;> decide)
    simpa [between] using not_emptyBrackets_append h.balanced ih (not_emptyBrackets_append hbetween hnone ih')

theorem term_of_no_connective (h : Grammatical .sentence cs) (hnone : hasConnectiveFrom .start cs = false) :
    Grammatical .term cs := by
  cases h with
  | term h => exact h
  | join c h _ =>
    rw [Reads.hasConnectiveFrom_join c h.balanced] at hnone
    cases hnone

/-- Two sentences with a connective between them are one: it is read on into the second from the left. -/
theorem append (c : Connective) (h : Grammatical .sentence cs) (h' : Grammatical .sentence ds) :
    Grammatical .sentence (cs ++ (between c ++ ds)) := by
  generalize hrank : Rank.sentence = rank at h'
  induction h' with
  | @term ds h' =>
    have htext : cs ++ (between c ++ ds) = cs ++ ' ' :: (c.keyword.toList ++ ' ' :: ds) := by
      simp [between]
    rw [htext]
    exact .join c h h'
  | @join bs ds d _ h' ih =>
    have htext : cs ++ (between c ++ (bs ++ ' ' :: (d.keyword.toList ++ ' ' :: ds))) =
        (cs ++ (between c ++ bs)) ++ ' ' :: (d.keyword.toList ++ ' ' :: ds) := by
      simp only [List.append_assoc]
    rw [htext]
    exact .join d (ih hrank) h'
  | _ => cases hrank

end Grammatical

end EntityQuery
