import EntityQuery.Text.Blank
import EntityQuery.Proofs.Words

/-!
# Tokens

In query text that comes from elsewhere, white space of any kind and length stands between words, and brackets need none.
`tokens` cuts such a text at the white space outside brackets and literals and before and after each bracketed text. It
does so by writing the text as `words` needs it: `respaced` puts plain blanks wherever a token ends and leaves what stands
inside brackets and literals as it is.

A scan does not notice the new blanks (`run_respacedFrom`), so tokens are put together as words are: across white space
(`tokens_append_blank`) and next to brackets (`tokens_append_bracket`, `tokens_bracket`).
-/

namespace EntityQuery.RawText

open Position

variable {p : Position} {a b cs : List Char} {c : Char}

/-- The character, with plain blanks where a token ends; the scan stands at the given position. -/
def respacedChar (p : Position) (c : Char) : List Char :=
  if p = .start ∧ Text.isBlankChar c = true then [' ']
  else if p = .start ∧ c = '(' then [' ', '(']
  else if c = ')' ∧ p.step c = .start then [')', ' ']
  else [c]

def respacedFrom : Position → List Char → List Char
  | _, [] => []
  | p, c :: cs => respacedChar p c ++ respacedFrom (p.step c) cs

def respaced (cs : List Char) : List Char := respacedFrom .start cs

/-- The text cut at white space and around brackets, outside brackets and literals. -/
def tokens (cs : List Char) : List (List Char) := (words (respaced cs)).filter (!·.isEmpty)

/-! ## Respacing -/

theorem isBlankChar_plain (h : Text.isBlankChar c = true) : c ≠ '"' ∧ c ≠ '(' ∧ c ≠ ')' := by
  refine ⟨?_, ?_, ?_⟩ <;>
  · rintro rfl
    exact absurd h (by decide)

theorem step_blank (h : Text.isBlankChar c = true) : Position.start.step c = .start :=
  step_plain (isBlankChar_plain h)

theorem run_respacedChar (p : Position) (c : Char) : p.run (respacedChar p c) = p.step c := by
  rw [respacedChar]
  split_ifs with hblank hopen hclose
  · obtain ⟨rfl, hc⟩ := hblank
    exact (step_blank hc).symm
  · obtain ⟨rfl, rfl⟩ := hopen
    rfl
  · obtain ⟨rfl, hstart⟩ := hclose
    rw [run_cons, hstart]
    rfl
  · rfl

theorem respacedFrom_append (p : Position) (a b : List Char) :
    respacedFrom p (a ++ b) = respacedFrom p a ++ respacedFrom (p.run a) b := by
  induction a generalizing p with
  | nil => rfl
  | cons c a ih => rw [List.cons_append, respacedFrom, ih, respacedFrom, List.append_assoc, run_cons]

theorem run_respacedFrom (p : Position) (cs : List Char) : p.run (respacedFrom p cs) = p.run cs := by
  induction cs generalizing p with
  | nil => rfl
  | cons c cs ih => rw [respacedFrom, run_append, run_respacedChar, ih, run_cons]

theorem respacedFrom_inside (h : ∀ pre post, cs = pre ++ post → p.run pre ≠ .start) : respacedFrom p cs = cs := by
  induction cs generalizing p with
  | nil => rfl
  | cons c cs ih =>
    have hhere : p ≠ .start := h [] (c :: cs) rfl
    have hnext : p.step c ≠ .start := h [c] cs rfl
    have hsame : respacedChar p c = [c] := by
      simp [respacedChar, hhere, hnext]
    rw [respacedFrom, hsame, ih]
    · rfl
    · rintro pre post rfl
      exact h (c :: pre) post rfl

/-! ## Cutting respaced texts -/

/-- The rest of the tokens, where the text before a plain blank of the respaced text has been cut. -/
theorem filter_words_append (h : Position.start.run a = .start) (b : List Char) :
    (words (a ++ ' ' :: b)).filter (!·.isEmpty) =
      (words a).filter (!·.isEmpty) ++ (words b).filter (!·.isEmpty) := by
  rw [words, wordsFrom_append _ _ _ h, List.filter_append]
  rfl

theorem tokens_nil : tokens [] = [] := rfl

theorem tokens_append_blank (h : Position.start.run a = .start) (hc : Text.isBlankChar c = true) (b : List Char) :
    tokens (a ++ c :: b) = tokens a ++ tokens b := by
  have hblank : respacedChar .start c = [' '] := by
    simp [respacedChar, hc]
  rw [tokens, respaced, respacedFrom_append, h, respacedFrom, hblank, step_blank hc, List.singleton_append,
    filter_words_append]
  · rfl
  · rw [run_respacedFrom, h]

theorem tokens_append_bracket (h : Position.start.run a = .start) (b : List Char) :
    tokens (a ++ '(' :: b) = tokens a ++ tokens ('(' :: b) := by
  have hopen : respacedFrom .start ('(' :: b) = ' ' :: '(' :: respacedFrom (plain 1) b := rfl
  have hbracket : tokens ('(' :: b) = (words ('(' :: respacedFrom (plain 1) b)).filter (!·.isEmpty) :=
    filter_words_append (a := []) rfl _
  rw [tokens, respaced, respacedFrom_append, h, hopen, filter_words_append, hbracket]
  · rfl
  · rw [run_respacedFrom, h]

theorem tokens_bracket (h : Balanced cs) (b : List Char) :
    tokens ('(' :: (cs ++ ')' :: b)) = ('(' :: (cs ++ [')'])) :: tokens b := by
  have hinside : respacedFrom (plain 1) cs = cs := by
    apply respacedFrom_inside
    rintro pre post rfl
    exact h.run_ne_start 0
  have htext : respaced ('(' :: (cs ++ ')' :: b)) = [] ++ ' ' :: (('(' :: (cs ++ [')'])) ++ ' ' :: respaced b) := by
    have hopen : respaced ('(' :: (cs ++ ')' :: b)) = ' ' :: '(' :: respacedFrom (plain 1) (cs ++ ')' :: b) := rfl
    have hclose : respacedFrom (plain 1) (')' :: b) = ')' :: ' ' :: respaced b := rfl
    rw [hopen, respacedFrom_append, hinside, h, hclose]
    simp
  rw [tokens, htext, filter_words_append rfl, filter_words_append h.brackets.run_start, words_brackets h]
  rfl

theorem tokens_blank (h : ∀ c ∈ cs, Text.isBlankChar c = true) : tokens cs = [] := by
  induction cs with
  | nil => rfl
  | cons c cs ih =>
    have hrest := tokens_append_blank (a := []) rfl (h c (by simp)) cs
    rw [List.nil_append, tokens_nil, List.nil_append] at hrest
    rw [hrest]
    exact ih fun d hd => h d (by simp [hd])

theorem tokens_eq_singleton (hne : cs ≠ []) (hwords : words cs = [cs]) (hsame : respaced cs = cs) :
    tokens cs = [cs] := by
  rw [tokens, hsame, hwords]
  simp [hne]

theorem tokens_of_plain (hne : cs ≠ [])
    (h : ∀ c ∈ cs, Text.isBlankChar c = false ∧ c ≠ '"' ∧ c ≠ '(' ∧ c ≠ ')') : tokens cs = [cs] := by
  refine tokens_eq_singleton hne (words_of_no_blank fun hblank => ?_) ?_
  · exact absurd (h ' ' hblank).1 (by decide)
  · clear hne
    induction cs with
    | nil => rfl
    | cons c cs ih =>
      obtain ⟨hblank, hplain⟩ := h c (by simp)
      have hsame : respacedChar .start c = [c] := by
        simp [respacedChar, hblank, hplain.2]
      rw [respaced, respacedFrom, hsame, show Position.start.step c = .start from step_plain hplain]
      exact congrArg (c :: ·) (ih fun d hd => h d (by simp [hd]))

theorem tokens_of_readLiteral {content : List Char} (h : Literal.readLiteral cs = some (content, [])) :
    tokens cs = [cs] := by
  have hwords := words_of_readLiteral h
  obtain ⟨body, rfl, hrun, hinside⟩ := readLiteral_run h
  refine tokens_eq_singleton (List.cons_ne_nil _ _) hwords ?_
  have hbody : respacedFrom (literal 0 false) body = body :=
    respacedFrom_inside fun pre post hsplit hstart => by
      obtain ⟨escaped, hrun⟩ := hinside pre post 0 hsplit
      exact Position.noConfusion (hrun.symm.trans hstart)
  rw [respaced, respacedFrom, show Position.start.step '"' = literal 0 false from rfl, respacedFrom_append, hbody,
    hrun]
  rfl

example : tokens "a  is\t1\nor(b is 2)and not(c is \"x and (\")".toList =
    ["a", "is", "1", "or", "(b is 2)", "and", "not", "(c is \"x and (\")"].map String.toList := by
  decide

end EntityQuery.RawText
