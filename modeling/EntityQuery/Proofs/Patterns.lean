import EntityQuery.Literal.Reader
import Mathlib.Algebra.Group.Nat.Even
import Mathlib.Tactic.Common

/-!
# Patterns inside their literal

A pattern keeps its backslashes when it is written, so a backslash of its own can disarm the quote that should
end the literal, or free a quote of the pattern. Neither can happen where every run of backslashes before a quote or
at the end is even (`EvenRuns`): such a pattern is one complete literal, and every other pattern either frees a quote,
which then closes the literal early, or leaves the literal open (`pattern_literal_ends`).

What a reader does with a pattern depends on its runs only through one bit, whether a backslash is left over
(`leftOver`, `readBody_pattern`). Texts that were escaped for a pattern have even runs, and written as a literal they
are read back with both layers of escapes removed (`readBody_escape_escapeWildcards`).
-/

namespace EntityQuery.Literal

/-- Every run of backslashes that a quote or the end follows has even length. -/
def EvenRuns (cs : List Char) : Prop :=
  ∀ pre n post, cs = pre ++ (List.replicate n '\\' ++ post) → pre.getLast? ≠ some '\\' →
    (post = [] ∨ post.head? = some '"') → Even n

def EndsInOddRun (cs : List Char) : Prop :=
  ∃ init n, cs = init ++ List.replicate n '\\' ∧ init.getLast? ≠ some '\\' ∧ ¬ Even n

def FreesQuote (cs : List Char) : Prop := ∃ pre post, cs = pre ++ '"' :: post ∧ EndsInOddRun pre

/-- Whether no quote and no end comes upon an odd number of backslashes, `escaped` saying whether an odd number
of them stands just before the text. -/
def closesFrom (escaped : Bool) : List Char → Bool
  | [] => !escaped
  | c :: cs =>
    if c = '\\' then closesFrom (!escaped) cs
    else (c != '"' || !escaped) && closesFrom false cs

/-- Whether a backslash is left over at the end of the text, `escaped` saying whether one is left over before it. -/
def leftOver (escaped : Bool) : List Char → Bool
  | [] => escaped
  | c :: cs => leftOver (c == '\\' && !escaped) cs

def afterFreed? (escaped : Bool) : List Char → Option (List Char)
  | [] => none
  | c :: cs => if c = '"' ∧ escaped = true then some cs else afterFreed? (c == '\\' && !escaped) cs

variable {cs : List Char} {k : Nat} {x : Char}

/-! ## Runs -/

theorem evenRuns_iff_not : EvenRuns cs ↔ ¬ FreesQuote cs ∧ ¬ EndsInOddRun cs := by
  constructor
  · refine fun h => ⟨?_, ?_⟩
    · rintro ⟨_, post, rfl, init, n, rfl, hlast, hodd⟩
      exact hodd (h init n ('"' :: post) (List.append_assoc _ _ _) hlast (.inr rfl))
    · rintro ⟨init, n, rfl, hlast, hodd⟩
      exact hodd (h init n [] (by rw [List.append_nil]) hlast (.inl rfl))
  · rintro ⟨hquote, hend⟩ pre n post rfl hlast hpost
    by_contra hodd
    cases post with
    | nil =>
      rw [List.append_nil] at hend
      exact hend ⟨pre, n, rfl, hlast, hodd⟩
    | cons x post =>
      obtain rfl : x = '"' := by simpa using hpost
      exact hquote ⟨_, post, (List.append_assoc _ _ _).symm, pre, n, rfl, hlast, hodd⟩

theorem endsInOddRun_replicate : EndsInOddRun (List.replicate k '\\') ↔ ¬ Even k := by
  constructor
  · rintro ⟨init, n, hsplit, hlast, hodd⟩
    rcases List.eq_nil_or_concat init with rfl | ⟨init, y, rfl⟩
    · rwa [(List.replicate_inj.1 hsplit).1]
    · have hy : y ∈ List.replicate k '\\' := by
        rw [hsplit]
        simp
      rw [List.eq_of_mem_replicate hy] at hlast
      simp at hlast
  · exact fun hodd => ⟨[], k, rfl, by simp, hodd⟩

theorem endsInOddRun_run_cons (hx : x ≠ '\\') :
    EndsInOddRun (List.replicate k '\\' ++ x :: cs) ↔ EndsInOddRun cs := by
  constructor
  · rintro ⟨init, n, hsplit, hlast, hodd⟩
    rcases List.append_eq_append_iff.1 hsplit with ⟨later, rfl, hlater⟩ | ⟨rest, -, hrest⟩
    · cases later with
      | nil => exact absurd (List.eq_of_mem_replicate (hlater ▸ List.mem_cons_self)) hx
      | cons y later =>
        refine ⟨later, n, (List.cons.inj hlater).2, ?_, hodd⟩
        cases later with
        | nil => simp
        | cons z later => simpa [List.getLast?_append] using hlast
    · have hmem : x ∈ List.replicate n '\\' := by
        rw [hrest]
        simp
      exact absurd (List.eq_of_mem_replicate hmem) hx
  · rintro ⟨init, n, rfl, hlast, hodd⟩
    refine ⟨List.replicate k '\\' ++ x :: init, n, by simp, ?_, hodd⟩
    cases init with
    | nil => simpa using hx
    | cons z init => simpa [List.getLast?_append] using hlast

/-! ## Backslashes that are left over -/

theorem leftOver_iff (cs : List Char) (k : Nat) :
    leftOver (decide (¬ Even k)) cs = true ↔ EndsInOddRun (List.replicate k '\\' ++ cs) := by
  induction cs generalizing k with
  | nil => rw [leftOver, List.append_nil, endsInOddRun_replicate, decide_eq_true_eq]
  | cons c cs ih =>
    rw [leftOver]
    by_cases hslash : c = '\\'
    · subst hslash
      have hrun : List.replicate k '\\' ++ '\\' :: cs = List.replicate (k + 1) '\\' ++ cs := by
        rw [List.replicate_succ', List.append_assoc]
        rfl
      have hodd : (('\\' == '\\') && !decide (¬ Even k)) = decide (¬ Even (k + 1)) := by
        rw [beq_self_eq_true, Bool.true_and, ← decide_not, decide_eq_decide, Nat.even_add_one]
      rw [hrun, ← ih (k + 1), hodd]
    · rw [beq_eq_false_iff_ne.2 hslash, Bool.false_and, endsInOddRun_run_cons hslash]
      exact ih 0

theorem endsInOddRun_iff : EndsInOddRun cs ↔ leftOver false cs = true := (leftOver_iff cs 0).symm

theorem isSome_afterFreed?_iff (escaped : Bool) (cs : List Char) :
    (afterFreed? escaped cs).isSome = true ↔ ∃ pre post, cs = pre ++ '"' :: post ∧ leftOver escaped pre = true := by
  induction cs generalizing escaped with
  | nil => simp [afterFreed?]
  | cons c cs ih =>
    rw [afterFreed?]
    split
    next hfreed => exact iff_of_true rfl ⟨[], cs, congrArg (· :: cs) hfreed.1, hfreed.2⟩
    next hkept =>
      rw [ih]
      constructor
      · rintro ⟨pre, post, rfl, hleft⟩
        exact ⟨c :: pre, post, rfl, hleft⟩
      · rintro ⟨pre, post, hsplit, hleft⟩
        cases pre with
        | nil => exact absurd ⟨(List.cons.inj hsplit).1, hleft⟩ hkept
        | cons y pre =>
          obtain ⟨rfl, rfl⟩ := List.cons.inj hsplit
          exact ⟨pre, post, rfl, hleft⟩

theorem freesQuote_iff : FreesQuote cs ↔ (afterFreed? false cs).isSome = true := by
  rw [isSome_afterFreed?_iff, FreesQuote]
  simp only [endsInOddRun_iff]

theorem closesFrom_eq (escaped : Bool) (cs : List Char) :
    closesFrom escaped cs = (!(afterFreed? escaped cs).isSome && !leftOver escaped cs) := by
  induction cs generalizing escaped with
  | nil => rfl
  | cons c cs ih =>
    rw [closesFrom, afterFreed?, leftOver]
    by_cases hslash : c = '\\'
    · subst hslash
      simp [ih]
    · by_cases hquote : c = '"'
      · cases escaped <;> simp [hquote, ih]
      · rw [if_neg hslash, if_neg (fun h => hquote h.1), bne_iff_ne.2 hquote, beq_eq_false_iff_ne.2 hslash, ih]
        rfl

theorem evenRuns_iff_closesFrom : EvenRuns cs ↔ closesFrom false cs = true := by
  rw [evenRuns_iff_not, freesQuote_iff, endsInOddRun_iff, closesFrom_eq]
  simp

/-! ## Reading the literal of a pattern -/

def held (escaped : Bool) : List Char := if escaped then ['\\'] else []

/-- A reader goes on through a pattern to what follows it, or stops at the first quote that a backslash left over
frees. -/
theorem readBody_pattern (escaped : Bool) (cs : List Char) : ∃ content, ∀ ds,
    readBody (held escaped ++ (escape (· == '"') cs ++ ds)) =
      match afterFreed? escaped cs with
      | some after => some (content, escape (· == '"') after ++ ds)
      | none => (readBody (held (leftOver escaped cs) ++ ds)).map fun (body, rest) => (content ++ body, rest) := by
  induction cs generalizing escaped with
  | nil => exact ⟨[], fun ds => by simp [afterFreed?, leftOver]⟩
  | cons c cs ih =>
    obtain ⟨content, hread⟩ := ih (c == '\\' && !escaped)
    rw [afterFreed?, leftOver]
    by_cases hfreed : c = '"' ∧ escaped = true
    · obtain ⟨rfl, rfl⟩ := hfreed
      exact ⟨['\\'], fun ds => by simp [held, readBody]⟩
    rw [if_neg hfreed]
    by_cases hopens : c = '\\' ∧ escaped = false
    · obtain ⟨rfl, rfl⟩ := hopens
      exact ⟨content, fun ds => by simpa [held] using hread ds⟩
    -- what is left is one character of the content, with or without a backslash before it
    have hstate : (c == '\\' && !escaped) = false := by
      simpa using hopens
    have hchar : ∀ ds, readBody (held escaped ++ (escape (· == '"') (c :: cs) ++ ds)) =
        (readBody (escape (· == '"') cs ++ ds)).map fun (body, rest) => (c :: body, rest) := by
      intro ds
      cases escaped with
      | false =>
        have hslash : c ≠ '\\' := by
          simpa using hopens
        by_cases hquote : c = '"'
        · simp [held, hquote, readBody]
        · simp [held, hquote, hslash, readBody]
      | true =>
        have hquote : c ≠ '"' := by
          simpa using hfreed
        simp [held, hquote, readBody]
    rw [hstate] at hread ⊢
    refine ⟨c :: content, fun ds => ?_⟩
    rw [hchar, show escape (· == '"') cs ++ ds = held false ++ (escape (· == '"') cs ++ ds) from rfl, hread]
    cases afterFreed? false cs with
    | some after => rfl
    | none => simp [Option.map_map, Function.comp_def]

theorem readLiteral_quotePattern_cases (pattern : String) :
    (EvenRuns pattern.toList ∧ ∃ content, readLiteral (quotePattern pattern).toList = some (content, [])) ∨
    (FreesQuote pattern.toList ∧
      ∃ content rest, rest ≠ [] ∧ readLiteral (quotePattern pattern).toList = some (content, rest)) ∨
    (EndsInOddRun pattern.toList ∧ ¬ FreesQuote pattern.toList ∧
      readLiteral (quotePattern pattern).toList = none) := by
  obtain ⟨content, hread⟩ := readBody_pattern false pattern.toList
  have hliteral : readLiteral (quotePattern pattern).toList =
      readBody (held false ++ (escape (· == '"') pattern.toList ++ ['"'])) := by
    rw [toList_quotePattern]
    rfl
  rw [evenRuns_iff_not, freesQuote_iff, endsInOddRun_iff, hliteral, hread]
  cases afterFreed? false pattern.toList with
  | some after => exact .inr (.inl ⟨rfl, content, _, by simp, rfl⟩)
  | none =>
    cases leftOver false pattern.toList with
    | false => exact .inl ⟨⟨nofun, nofun⟩, content, by simp [held, readBody]⟩
    | true => exact .inr (.inr ⟨rfl, nofun, rfl⟩)

/-- **A pattern with even runs of backslashes is written as one complete literal**, and no other pattern is. -/
theorem exists_readLiteral_quotePattern_iff {pattern : String} :
    (∃ content, readLiteral (quotePattern pattern).toList = some (content, [])) ↔ EvenRuns pattern.toList := by
  rcases readLiteral_quotePattern_cases pattern with ⟨heven, hread⟩ | ⟨hquote, content, rest, hrest, hread⟩ |
    ⟨hend, -, hread⟩
  · exact iff_of_true hread heven
  · rw [hread, evenRuns_iff_not]
    refine iff_of_false ?_ fun h => h.1 hquote
    rintro ⟨_, hsame⟩
    exact hrest (Prod.mk.inj (Option.some.inj hsame)).2
  · rw [hread, evenRuns_iff_not]
    exact iff_of_false nofun fun h => h.2 hend

theorem readLiteral_quotePattern {pattern : String} (h : EvenRuns pattern.toList) :
    ∃ content, readLiteral (quotePattern pattern).toList = some (content, []) :=
  exists_readLiteral_quotePattern_iff.2 h

/-- **Where the literal of a pattern ends.** It is one complete literal just if every run of backslashes that a quote or
the end follows is even. It closes early just if a quote comes upon an odd run, and it never closes just if only the end
does. -/
theorem pattern_literal_ends (pattern : String) :
    ((∃ content, readLiteral (quotePattern pattern).toList = some (content, [])) ↔ EvenRuns pattern.toList) ∧
    ((∃ content rest, rest ≠ [] ∧ readLiteral (quotePattern pattern).toList = some (content, rest)) ↔
      FreesQuote pattern.toList) ∧
    (readLiteral (quotePattern pattern).toList = none ↔
      EndsInOddRun pattern.toList ∧ ¬ FreesQuote pattern.toList) := by
  refine ⟨exists_readLiteral_quotePattern_iff, ?_⟩
  rcases readLiteral_quotePattern_cases pattern with ⟨heven, content, hread⟩ | ⟨hquote, content, rest, hrest, hread⟩ |
    ⟨hend, hquote, hread⟩
  · obtain ⟨hquote, hend⟩ := evenRuns_iff_not.1 heven
    rw [hread]
    refine ⟨iff_of_false ?_ hquote, iff_of_false nofun fun h => hend h.1⟩
    rintro ⟨_, _, hrest, hsame⟩
    exact hrest (Prod.mk.inj (Option.some.inj hsame)).2.symm
  · exact ⟨iff_of_true ⟨content, rest, hrest, hread⟩ hquote, iff_of_false (by rw [hread]; nofun) fun h => h.2 hquote⟩
  · rw [hread]
    exact ⟨iff_of_false nofun hquote, iff_of_true rfl ⟨hend, hquote⟩⟩

example : readLiteral (quotePattern "a\\\"b").toList = some (['a', '\\'], ['b', '"']) := rfl

example : readLiteral (quotePattern "a\\").toList = none := rfl

/-! ## Texts escaped for a pattern -/

theorem closesFrom_escapeWildcards (cs ds : List Char) :
    closesFrom false (escape isPatternSpecial cs ++ ds) = closesFrom false ds := by
  induction cs with
  | nil => rfl
  | cons c cs ih =>
    by_cases hslash : c = '\\'
    · subst hslash
      simpa [isPatternSpecial, closesFrom] using ih
    · by_cases hwild : c = wildcard
      · subst hwild
        simpa [isPatternSpecial, closesFrom, wildcard] using ih
      · simp [isPatternSpecial, hslash, hwild, closesFrom, ih]

theorem evenRuns_startsWith (s : String) : EvenRuns (escapeWildcards s ++ "%").toList := by
  rw [evenRuns_iff_closesFrom, String.toList_append, escapeWildcards, String.toList_ofList,
    closesFrom_escapeWildcards]
  decide

theorem evenRuns_endsWith (s : String) : EvenRuns ("%" ++ escapeWildcards s).toList := by
  have hend := closesFrom_escapeWildcards s.toList []
  rw [List.append_nil] at hend
  simp only [evenRuns_iff_closesFrom, String.toList_append, escapeWildcards, String.toList_ofList]
  exact hend

theorem evenRuns_contains (s : String) : EvenRuns ("%" ++ escapeWildcards s ++ "%").toList := by
  simp only [evenRuns_iff_closesFrom, String.toList_append, escapeWildcards, String.toList_ofList]
  exact (closesFrom_escapeWildcards s.toList ['%']).trans (by decide)

/-- Escaped for a pattern and then written as a literal, a text is read back with both layers removed. -/
theorem readBody_escape_escapeWildcards (cs ds : List Char) :
    readBody (escape (· == '"') (escape isPatternSpecial cs) ++ ds) =
      (readBody ds).map fun (content, rest) => (cs ++ content, rest) := by
  induction cs with
  | nil => simp
  | cons c cs ih =>
    have hnext : ∀ read : Option (List Char × List Char),
        ((read.map fun (content, rest) => (cs ++ content, rest)).map fun (content, rest) => (c :: content, rest)) =
          read.map fun (content, rest) => (c :: cs ++ content, rest) := by
      intro read
      cases read <;> rfl
    rw [← hnext, ← ih]
    by_cases hslash : c = '\\'
    · subst hslash
      simp [isPatternSpecial, readBody]
    · by_cases hwild : c = wildcard
      · subst hwild
        simp [isPatternSpecial, readBody, wildcard]
      · by_cases hquote : c = '"'
        · subst hquote
          simp [isPatternSpecial, readBody, wildcard]
        · simp [isPatternSpecial, readBody, hslash, hwild, hquote]

theorem readLiteral_derived (s : String) (rest : List Char) :
    readLiteral ((quotePattern (escapeWildcards s ++ "%")).toList ++ rest) = some (s.toList ++ ['%'], rest) ∧
    readLiteral ((quotePattern ("%" ++ escapeWildcards s)).toList ++ rest) = some ('%' :: s.toList, rest) ∧
    readLiteral ((quotePattern ("%" ++ escapeWildcards s ++ "%")).toList ++ rest) =
      some ('%' :: (s.toList ++ ['%']), rest) := by
  have hread := readBody_escape_escapeWildcards s.toList
  refine ⟨?_, ?_, ?_⟩
  · simp [readLiteral, readBody, escapeWildcards, hread]
  · simp [readLiteral, readBody, escapeWildcards, hread]
  · simp [readLiteral, readBody, escapeWildcards, hread]

end EntityQuery.Literal
