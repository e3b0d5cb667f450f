import EntityQuery.RawText
import EntityQuery.Literal.Reader
import Mathlib.Tactic.Common
import Mathlib.Data.List.Basic

/-!
# Balanced texts and their words

A text is `Balanced` if a scan through it comes back to where it started, at any depth of brackets: its
literals are closed and its brackets match. Balanced texts can be put side by side and bracketed without
one reaching into the other.

`words` cuts a text at the blanks that stand outside brackets and literals. Cutting loses nothing
(`intercalate_words`) and respects balanced parts (`words_append`), so a text that was joined from balanced
words is cut into those words again.
-/

namespace EntityQuery.RawText

namespace Position

def Under : Position → Position → Prop
  | plain d, plain e => d ≤ e
  | literal d x, literal e y => d ≤ e ∧ x = y
  | _, _ => False

theorem Under.step {p q : Position} (h : p.Under q) (c : Char) : (p.step c).Under (q.step c) := by
  match p, q, h with
  | plain d, plain e, h =>
    simp only [Under] at h
    simp only [Position.step]
    split_ifs
    · exact ⟨h, rfl⟩
    · exact Nat.succ_le_succ h
    · exact Nat.sub_le_sub_right h 1
    · exact h
  | literal d true, literal e true, h => exact ⟨h.1, rfl⟩
  | literal d false, literal e false, h =>
    simp only [Position.step]
    split_ifs
    · exact ⟨h.1, rfl⟩
    · exact h.1
    · exact ⟨h.1, rfl⟩
  | literal _ true, literal _ false, h => cases h.2
  | literal _ false, literal _ true, h => cases h.2

theorem Under.run {p q : Position} (h : p.Under q) (cs : List Char) : (p.run cs).Under (q.run cs) := by
  induction cs generalizing p q with
  | nil => exact h
  | cons c cs ih => exact ih (h.step c)

theorem eq_start_of_under {p : Position} (h : p.Under start) : p = start := by
  cases p with
  | plain d => rw [Nat.le_zero.1 h, start]
  | literal d x => exact h.elim

theorem step_plain {d : Nat} {c : Char} (h : c ≠ '"' ∧ c ≠ '(' ∧ c ≠ ')') : (plain d).step c = plain d := by
  simp [step, h.1, h.2.1, h.2.2]

end Position

open Position

variable {cs ds a b : List Char}

/-! ## Balanced texts -/

/-- A scan of the text ends at the depth at which it began, outside literals. -/
def Balanced (cs : List Char) : Prop := ∀ d, (plain d).run cs = plain d

theorem Balanced.nil : Balanced [] := fun _ => rfl

theorem Balanced.append (ha : Balanced a) (hb : Balanced b) : Balanced (a ++ b) := by
  intro d
  rw [run_append, ha d, hb d]

theorem Balanced.run_start (h : Balanced cs) : Position.start.run cs = .start := h 0

theorem balanced_of_plain (h : ∀ c ∈ cs, c ≠ '"' ∧ c ≠ '(' ∧ c ≠ ')') : Balanced cs := by
  intro d
  induction cs with
  | nil => rfl
  | cons c cs ih =>
    rw [run_cons, step_plain (h c (by simp))]
    exact ih fun c hc => h c (by simp [hc])

def isPlain (c : Char) : Bool := decide (c ≠ '"' ∧ c ≠ '(' ∧ c ≠ ')')

theorem balanced_of_all (h : cs.all isPlain = true) : Balanced cs :=
  balanced_of_plain fun c hc => of_decide_eq_true (List.all_eq_true.1 h c hc)

theorem Balanced.cons {c : Char} (hc : c ≠ '"' ∧ c ≠ '(' ∧ c ≠ ')') (h : Balanced cs) :
    Balanced (c :: cs) := by
  intro d
  rw [run_cons, step_plain hc, h d]

theorem Balanced.brackets (h : Balanced cs) : Balanced ('(' :: (cs ++ [')'])) := by
  intro d
  have hopen : (plain d).step '(' = plain (d + 1) := rfl
  have hclose : (plain (d + 1)).run [')'] = plain d := rfl
  rw [run_cons, hopen, run_append, h, hclose]

theorem Balanced.intercalate {sep : List Char} {parts : List (List Char)} (hsep : Balanced sep)
    (h : ∀ part ∈ parts, Balanced part) : Balanced (sep.intercalate parts) := by
  induction parts with
  | nil => exact .nil
  | cons part rest ih =>
    have hpart := h part (by simp)
    have hrest := ih fun q hq => h q (by simp [hq])
    cases rest with
    | nil => rwa [List.intercalate_singleton]
    | cons next rest =>
      rw [List.intercalate_cons_cons]
      exact (hpart.append hsep).append hrest

theorem Balanced.run_ne_start {pre post : List Char} (h : Balanced (pre ++ post)) (d : Nat) :
    (plain (d + 1)).run pre ≠ .start := by
  intro hstart
  have hunder : ((plain d).run pre).Under ((plain (d + 1)).run pre) :=
    Under.run (p := plain d) (q := plain (d + 1)) (Nat.le_succ d) pre
  have hsame : (plain d).run pre = .start := eq_start_of_under (hstart ▸ hunder)
  -- from there on both scans are one, but they end at different depths
  have hlow := h d
  have hhigh := h (d + 1)
  rw [run_append, hsame] at hlow
  rw [run_append, hstart, hlow] at hhigh
  have := Position.plain.inj hhigh
  omega

/-! ## Literals -/

theorem closes_run {mayMark : Char → Bool} {content rest : List Char} (h : Literal.Closes mayMark cs content rest) :
    ∃ body, cs = body ++ '"' :: rest ∧ (∀ d, (literal d false).run body = literal d false) ∧
      ∀ pre post d, body = pre ++ post → ∃ escaped, (literal d false).run pre = literal d escaped := by
  induction h with
  | close rest =>
    refine ⟨[], rfl, fun _ => rfl, fun pre post d hsplit => ?_⟩
    rw [(List.append_eq_nil_iff.1 hsplit.symm).1]
    exact ⟨false, rfl⟩
  | @marked c _ _ _ _ _ ih =>
    obtain ⟨body, rfl, hrun, hinside⟩ := ih
    refine ⟨'\\' :: c :: body, rfl, fun d => ?_, fun pre post d hsplit => ?_⟩
    · exact hrun d
    -- a part of the body may end between the backslash and the character that it marks
    · rcases pre with _ | ⟨x, _ | ⟨y, pre⟩⟩
      · exact ⟨false, rfl⟩
      · rw [← (List.cons.inj hsplit).1]
        exact ⟨true, rfl⟩
      · obtain ⟨hx, hsplit⟩ := List.cons.inj hsplit
        rw [← hx]
        exact hinside pre post d (List.cons.inj hsplit).2
  | @plain c _ _ _ hquote hslash _ ih =>
    obtain ⟨body, rfl, hrun, hinside⟩ := ih
    have hstep : ∀ d, (literal d false).step c = literal d false := by
      intro d
      simp [Position.step, hquote, hslash]
    refine ⟨c :: body, rfl, fun d => ?_, fun pre post d hsplit => ?_⟩
    · rw [run_cons, hstep, hrun]
    · cases pre with
      | nil => exact ⟨false, rfl⟩
      | cons x pre =>
        obtain ⟨hx, hsplit⟩ := List.cons.inj hsplit
        rw [← hx, run_cons, hstep]
        exact hinside pre post d hsplit

/-- A complete literal is a quote, a body that stays inside the literal, and a quote. -/
theorem readLiteral_run {content : List Char} (h : Literal.readLiteral cs = some (content, [])) :
    ∃ body, cs = '"' :: (body ++ ['"']) ∧ (∀ d, (literal d false).run body = literal d false) ∧
      ∀ pre post d, body = pre ++ post → ∃ escaped, (literal d false).run pre = literal d escaped := by
  obtain ⟨_, rfl, hcloses⟩ := Literal.readLiteral_eq_some_iff.1 h
  obtain ⟨body, rfl, hbody⟩ := closes_run hcloses
  exact ⟨body, rfl, hbody⟩

theorem balanced_of_readLiteral {content : List Char}
    (h : Literal.readLiteral cs = some (content, [])) : Balanced cs := by
  obtain ⟨body, rfl, hrun, -⟩ := readLiteral_run h
  intro d
  have hopen : (plain d).step '"' = literal d false := rfl
  have hclose : (literal d false).run ['"'] = plain d := rfl
  rw [run_cons, hopen, run_append, hrun, hclose]

/-! ## Words -/

/-- The text cut at the blanks outside brackets and literals; the scan begins at the given position. -/
def wordsFrom : Position → List Char → List (List Char)
  | _, [] => [[]]
  | p, c :: cs =>
    if p = .start ∧ c = ' ' then [] :: wordsFrom .start cs
    else (wordsFrom (p.step c) cs).modifyHead (c :: ·)

def words (cs : List Char) : List (List Char) := wordsFrom .start cs

theorem wordsFrom_ne_nil (p : Position) (cs : List Char) : wordsFrom p cs ≠ [] := by
  cases cs with
  | nil => simp [wordsFrom]
  | cons c cs =>
    rw [wordsFrom]
    split_ifs
    · simp
    · simp [wordsFrom_ne_nil (p.step c) cs]

theorem intercalate_wordsFrom (p : Position) (cs : List Char) :
    [' '].intercalate (wordsFrom p cs) = cs := by
  induction cs generalizing p with
  | nil => simp [wordsFrom]
  | cons c cs ih =>
    rw [wordsFrom]
    split_ifs with h
    · rw [List.intercalate_cons_of_ne_nil (wordsFrom_ne_nil _ _), ih, h.2]
      rfl
    · obtain ⟨w, ws, hws⟩ := List.exists_cons_of_ne_nil (wordsFrom_ne_nil (p.step c) cs)
      have htext := ih (p.step c)
      rw [hws] at htext
      rw [hws, List.modifyHead_cons, List.intercalate_cons_cons_left, htext]

theorem intercalate_words (cs : List Char) : [' '].intercalate (words cs) = cs :=
  intercalate_wordsFrom .start cs

theorem words_inj (h : words cs = words ds) : cs = ds := by
  rw [← intercalate_words cs, h, intercalate_words]

theorem wordsFrom_append (p : Position) (a b : List Char) (h : p.run a = .start) :
    wordsFrom p (a ++ ' ' :: b) = wordsFrom p a ++ words b := by
  induction a generalizing p with
  | nil =>
    rw [run_nil] at h
    simp [wordsFrom, h, words]
  | cons c a ih =>
    rw [List.cons_append, wordsFrom, wordsFrom]
    split_ifs with hblank
    · obtain ⟨rfl, rfl⟩ := hblank
      rw [ih .start h, List.cons_append]
    · obtain ⟨w, ws, hws⟩ := List.exists_cons_of_ne_nil (wordsFrom_ne_nil (p.step c) a)
      rw [ih (p.step c) h, hws]
      rfl

/-- The words of a balanced text, a blank and another text are the words of the two. -/
theorem words_append (h : Balanced a) (b : List Char) : words (a ++ ' ' :: b) = words a ++ words b :=
  wordsFrom_append .start a b h.run_start

theorem wordsFrom_eq_singleton (p : Position) (cs : List Char)
    (h : ∀ pre post, cs = pre ++ ' ' :: post → p.run pre ≠ .start) : wordsFrom p cs = [cs] := by
  induction cs generalizing p with
  | nil => rfl
  | cons c cs ih =>
    rw [wordsFrom, if_neg]
    · rw [ih (p.step c)]
      · rfl
      · intro pre post hsplit
        exact h (c :: pre) post (by rw [hsplit, List.cons_append])
    · rintro ⟨rfl, rfl⟩
      exact h [] cs rfl rfl

theorem words_of_no_blank (h : ' ' ∉ cs) : words cs = [cs] := by
  apply wordsFrom_eq_singleton
  rintro pre post rfl
  simp at h

theorem words_append_plain (h : ∀ c ∈ a, c ≠ ' ' ∧ c ≠ '"' ∧ c ≠ '(' ∧ c ≠ ')') (b : List Char) :
    words (a ++ b) = (words b).modifyHead (a ++ ·) := by
  induction a with
  | nil =>
    rw [List.nil_append]
    cases words b <;> rfl
  | cons c a ih =>
    obtain ⟨hblank, hplain⟩ := h c (by simp)
    have hstep : Position.start.step c = .start := step_plain hplain
    rw [List.cons_append, words, wordsFrom, if_neg fun h => hblank h.2, hstep]
    change (words (a ++ b)).modifyHead (c :: ·) = _
    rw [ih fun d hd => h d (by simp [hd]), List.modifyHead_modifyHead]
    rfl

theorem split_before_last {x z : Char} {pre post : List Char} (hz : z ≠ x)
    (h : cs ++ [z] = pre ++ x :: post) : ∃ last, cs = pre ++ x :: last := by
  rcases List.eq_nil_or_concat post with rfl | ⟨last, y, rfl⟩
  · exact absurd (List.append_inj' h rfl).2 (by simpa using hz)
  · refine ⟨last, ?_⟩
    rw [List.concat_eq_append, ← List.cons_append, ← List.append_assoc] at h
    exact (List.append_inj' h rfl).1

theorem words_brackets (h : Balanced cs) : words ('(' :: (cs ++ [')'])) = ['(' :: (cs ++ [')'])] := by
  apply wordsFrom_eq_singleton
  intro pre post hsplit
  cases pre with
  | nil => simp at hsplit
  | cons x pre =>
    obtain ⟨hx, hsplit⟩ := List.cons.inj hsplit
    obtain ⟨last, rfl⟩ := split_before_last (by decide) hsplit
    rw [← hx]
    exact h.run_ne_start 0

theorem words_of_readLiteral {content : List Char}
    (h : Literal.readLiteral cs = some (content, [])) : words cs = [cs] := by
  obtain ⟨body, rfl, -, hinside⟩ := readLiteral_run h
  apply wordsFrom_eq_singleton
  intro pre post hsplit
  cases pre with
  | nil => simp at hsplit
  | cons x pre =>
    obtain ⟨hx, hsplit⟩ := List.cons.inj hsplit
    obtain ⟨last, hbody⟩ := split_before_last (by decide) hsplit
    obtain ⟨escaped, hrun⟩ := hinside pre (' ' :: last) 0 hbody
    rw [← hx]
    exact fun hstart => Position.noConfusion (hrun.symm.trans hstart)

/-! ## Connectives -/

theorem hasConnectiveFrom_append {p : Position} (h : p.run a = .start)
    (hb : startsConnective b = true) : hasConnectiveFrom p (a ++ b) = true := by
  induction a generalizing p with
  | nil =>
    rw [run_nil] at h
    cases b with
    | nil => cases hb
    | cons c b => simp [hasConnectiveFrom, h, hb]
  | cons c a ih =>
    rw [List.cons_append, hasConnectiveFrom, ih h, Bool.or_true]

/-- What a scan finds starts where it is back on the outside. -/
theorem hasConnectiveFrom_iff_exists {p : Position} :
    hasConnectiveFrom p cs = true ↔
      ∃ pre post, cs = pre ++ post ∧ p.run pre = .start ∧ startsConnective post = true := by
  constructor
  · intro h
    induction cs generalizing p with
    | nil => cases h
    | cons c cs ih =>
      rw [hasConnectiveFrom, Bool.or_eq_true, Bool.and_eq_true, decide_eq_true_eq] at h
      rcases h with ⟨hstart, hstarts⟩ | h
      · exact ⟨[], c :: cs, rfl, hstart, hstarts⟩
      · obtain ⟨pre, post, rfl, hrun, hstarts⟩ := ih h
        exact ⟨c :: pre, post, rfl, hrun, hstarts⟩
  · rintro ⟨pre, post, rfl, hrun, hstarts⟩
    exact hasConnectiveFrom_append hrun hstarts

end EntityQuery.RawText
