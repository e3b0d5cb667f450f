import EntityQuery.Predicate
import EntityQuery.Proofs.Patterns
import EntityQuery.Proofs.Rendering

/-!
# What patterns match

The content of the literal after `like` is a pattern: a backslash makes the next character stand for itself, a wildcard
that is not so marked stands for any run of characters, and every other character stands for itself (`readPattern`,
`Matches`).

A text that was escaped for a pattern is read as its own characters, also after its quotes were escaped for the literal
(`readPattern_escaped`): the two layers of marks are one in the end. So the derived patterns match exactly the
texts that start with, end with or contain the given one (`derived_patterns_match_literally`).
-/

namespace EntityQuery

/-- One element of a pattern: a character that matches itself, or any run of characters. -/
inductive PatternElement where
  | char (c : Char)
  | anyRun
  deriving DecidableEq

/-- The elements of a pattern. A backslash at the end marks nothing and stands for itself. -/
def readPattern : List Char → List PatternElement
  | [] => []
  | '\\' :: c :: rest => .char c :: readPattern rest
  | c :: rest => (if c = Literal.wildcard then .anyRun else .char c) :: readPattern rest

inductive Matches : List PatternElement → List Char → Prop
  | done : Matches [] []
  | char (c : Char) {pattern : List PatternElement} {text : List Char} :
      Matches pattern text → Matches (.char c :: pattern) (c :: text)
  | anyRun (run : List Char) {pattern : List PatternElement} {text : List Char} :
      Matches pattern text → Matches (.anyRun :: pattern) (run ++ text)

variable {pattern : List PatternElement} {text : List Char}

/-! ## Matching -/

theorem matches_nil_iff : Matches [] text ↔ text = [] := by
  constructor
  · rintro ⟨⟩
    rfl
  · rintro rfl
    exact .done

theorem matches_anyRun_iff :
    Matches (.anyRun :: pattern) text ↔ ∃ run rest, text = run ++ rest ∧ Matches pattern rest := by
  constructor
  · rintro ⟨⟩
    exact ⟨_, _, rfl, ‹_›⟩
  · rintro ⟨run, rest, rfl, h⟩
    exact .anyRun run h

theorem matches_chars_iff (cs : List Char) :
    Matches (cs.map .char ++ pattern) text ↔ ∃ rest, text = cs ++ rest ∧ Matches pattern rest := by
  induction cs generalizing text with
  | nil => simp
  | cons c cs ih =>
    constructor
    · rintro ⟨⟩
      obtain ⟨rest, rfl, h⟩ := ih.1 ‹_›
      exact ⟨rest, rfl, h⟩
    · rintro ⟨rest, rfl, h⟩
      exact .char c (ih.2 ⟨rest, rfl, h⟩)

theorem matches_wildcard : Matches [.anyRun] text :=
  matches_anyRun_iff.2 ⟨text, [], (List.append_nil text).symm, .done⟩

theorem matches_prefix_iff (cs : List Char) : Matches (cs.map .char ++ [.anyRun]) text ↔ cs <+: text := by
  rw [matches_chars_iff]
  constructor
  · rintro ⟨rest, rfl, -⟩
    exact List.prefix_append cs rest
  · rintro ⟨rest, rfl⟩
    exact ⟨rest, rfl, matches_wildcard⟩

theorem matches_suffix_iff (cs : List Char) : Matches (.anyRun :: cs.map .char) text ↔ cs <:+ text := by
  have hchars : ∀ rest, Matches (cs.map .char) rest ↔ rest = cs := by
    intro rest
    have h : Matches (cs.map .char ++ []) rest ↔ _ := matches_chars_iff cs
    simpa [matches_nil_iff] using h
  rw [matches_anyRun_iff]
  constructor
  · rintro ⟨run, rest, rfl, h⟩
    rw [(hchars rest).1 h]
    exact List.suffix_append run cs
  · rintro ⟨run, rfl⟩
    exact ⟨run, cs, rfl, (hchars cs).2 rfl⟩

theorem matches_infix_iff (cs : List Char) :
    Matches (.anyRun :: (cs.map .char ++ [.anyRun])) text ↔ cs <:+: text := by
  rw [matches_anyRun_iff]
  constructor
  · rintro ⟨run, rest, rfl, h⟩
    exact (matches_prefix_iff cs).1 h |>.isInfix.trans (List.suffix_append run rest).isInfix
  · rintro ⟨run, rest, rfl⟩
    exact ⟨run, cs ++ rest, by rw [List.append_assoc], (matches_prefix_iff cs).2 (List.prefix_append cs rest)⟩

/-! ## Escaped texts as patterns -/

/-- Escaped for a pattern, and its quotes for the literal, a text is read as its own characters. -/
theorem readPattern_escaped (cs ds : List Char) :
    readPattern (Literal.escape (· == '"') (Literal.escape Literal.isPatternSpecial cs) ++ ds) =
      cs.map .char ++ readPattern ds := by
  induction cs with
  | nil => rfl
  | cons c cs ih =>
    by_cases hslash : c = '\\'
    · subst hslash
      simp [Literal.isPatternSpecial, readPattern, ih]
    · by_cases hwild : c = Literal.wildcard
      · subst hwild
        simp [Literal.isPatternSpecial, Literal.wildcard, readPattern, ← ih]
      · by_cases hquote : c = '"'
        · subst hquote
          simp [Literal.isPatternSpecial, Literal.wildcard, readPattern, ← ih]
        · simp [Literal.isPatternSpecial, hslash, hwild, hquote, readPattern, ih]

theorem readPattern_derived (s : String) :
    readPattern (Literal.escape (· == '"') (Literal.escapeWildcards s ++ "%").toList) =
      s.toList.map .char ++ [.anyRun] ∧
    readPattern (Literal.escape (· == '"') ("%" ++ Literal.escapeWildcards s).toList) =
      .anyRun :: s.toList.map .char ∧
    readPattern (Literal.escape (· == '"') ("%" ++ Literal.escapeWildcards s ++ "%").toList) =
      .anyRun :: (s.toList.map .char ++ [.anyRun]) := by
  have hstart := readPattern_escaped s.toList ['%']
  have hend := readPattern_escaped s.toList []
  rw [List.append_nil] at hend
  refine ⟨?_, ?_, ?_⟩
  · simpa [Literal.escapeWildcards, readPattern, Literal.wildcard] using hstart
  · simp [Literal.escapeWildcards, readPattern, hend, Literal.wildcard]
  · simp [Literal.escapeWildcards, readPattern, hstart, Literal.wildcard]

example : readPattern ['5', '\\', '%', '\\', '"', '%'] = [.char '5', .char '%', .char '"', .anyRun] := rfl

/-! ## The main statement -/

/-- The expression compares the path with one complete literal, which ends where it is closed whatever follows, and
the content of the literal as a pattern matches exactly these texts. -/
def Path.LikesExactly (p : Path) (e : Expr) (those : String → Prop) : Prop :=
  ∃ content said : List Char,
    e.text.toList =
      p.toText.toList ++ ' ' :: (Comparison.like.keyword.toList ++ ' ' :: '"' :: (content ++ ['"'])) ∧
    (∀ rest, Literal.readLiteral ('"' :: (content ++ '"' :: rest)) = some (said, rest)) ∧
    ∀ t : String, Matches (readPattern content) t.toList ↔ those t

theorem Path.likesExactly_like (p : Path) {pattern : String} {said : List Char} {those : String → Prop}
    (hread : ∀ rest, Literal.readLiteral ((Literal.quotePattern pattern).toList ++ rest) = some (said, rest))
    (hmatches : ∀ t : String,
      Matches (readPattern (Literal.escape (· == '"') pattern.toList)) t.toList ↔ those t) :
    p.LikesExactly (p.like pattern) those := by
  refine ⟨Literal.escape (· == '"') pattern.toList, said, ?_, fun rest => ?_, hmatches⟩
  · rw [like, compare_of_not_entity _ _ rfl, Expr.toList_compare, Expr.operand]
    simp [Comparison.takesPattern, Literal.encodePattern]
  · have hrest := hread rest
    rwa [Literal.toList_quotePattern, List.cons_append, List.append_assoc] at hrest

/-- **The derived patterns match exactly the texts that start with, end with and contain the given one.** -/
theorem derived_patterns_match_literally (p : Path) (s : String) :
    p.LikesExactly (p.startsWith s) (fun t => s.toList <+: t.toList) ∧
    p.LikesExactly (p.endsWith s) (fun t => s.toList <:+ t.toList) ∧
    p.LikesExactly (p.contains s) (fun t => s.toList <:+: t.toList) := by
  have hread := Literal.readLiteral_derived s
  obtain ⟨hstart, hend, hpart⟩ := readPattern_derived s
  refine ⟨p.likesExactly_like (fun rest => (hread rest).1) fun t => ?_,
    p.likesExactly_like (fun rest => (hread rest).2.1) fun t => ?_,
    p.likesExactly_like (fun rest => (hread rest).2.2) fun t => ?_⟩
  · rw [hstart, matches_prefix_iff]
  · rw [hend, matches_suffix_iff]
  · rw [hpart, matches_infix_iff]

end EntityQuery
