import EntityQuery.Text.Blank
import Mathlib.Data.List.Basic

/-!
# Regular expressions

Regular expressions with named groups, matched at the start of a text by backtracking. `Regex.attempts` lists the ways
to match in the order in which they are tried, and `Regex.captures` has the groups of the first.

Three facts say which way comes first where runs of characters are involved. A longest run is taken whole if what comes
after it cannot begin with one of its characters (`findSome?_longest`). A shortest run in front of blanks and the end is
what is left after trimming the end (`findSome?_trimBack`). With blanks before it as well, which may be given back, it
is what is left after trimming both ends (`findSome?_trimChars`).
-/

namespace EntityQuery.Text

structure Match where
  taken : List Char
  /-- The named groups with what they have taken. -/
  groups : List (String × List Char)
  rest : List Char

namespace Match

def andThen (m n : Match) : Match := ⟨m.taken ++ n.taken, m.groups ++ n.groups, n.rest⟩

def named (name : String) (m : Match) : Match := { m with groups := (name, m.taken) :: m.groups }

end Match

/-- The runs of characters of a class that a text begins with, and what follows them; the shortest first. -/
def runs (p : Char → Bool) : List Char → List (List Char × List Char)
  | [] => [([], [])]
  | c :: cs => ([], c :: cs) :: if p c then (runs p cs).map fun run => (c :: run.1, run.2) else []

theorem takeWhile_run {p : Char → Bool} {run rest : List Char} (hrun : ∀ c ∈ run, p c = true)
    (hrest : ∀ c ∈ rest.head?, p c = false) : (run ++ rest).takeWhile p = run := by
  rw [List.takeWhile_append_of_pos hrun]
  cases rest with
  | nil => simp
  | cons c rest => simp [hrest c rfl]

theorem dropWhile_run {p : Char → Bool} {run rest : List Char} (hrun : ∀ c ∈ run, p c = true)
    (hrest : ∀ c ∈ rest.head?, p c = false) : (run ++ rest).dropWhile p = rest := by
  rw [List.dropWhile_append_of_pos hrun]
  cases rest with
  | nil => simp
  | cons c rest => simp [hrest c rfl]

theorem takeWhile_ne_append_cons {mark : Char} {front : List Char} (h : mark ∉ front) (rest : List Char) :
    (front ++ mark :: rest).takeWhile (· != mark) = front :=
  takeWhile_run (fun _ hc => bne_iff_ne.2 (ne_of_mem_of_not_mem hc h)) fun c hc => by cases hc; simp

theorem dropWhile_ne_append_cons {mark : Char} {front : List Char} (h : mark ∉ front) (rest : List Char) :
    (front ++ mark :: rest).dropWhile (· != mark) = mark :: rest :=
  dropWhile_run (fun _ hc => bne_iff_ne.2 (ne_of_mem_of_not_mem hc h)) fun c hc => by cases hc; simp

theorem head?_dropWhile (p : Char → Bool) (cs : List Char) : ∀ c ∈ (cs.dropWhile p).head?, p c = false := by
  intro c hc
  have hhead := List.head?_dropWhile_not p cs
  rw [Option.mem_def.1 hc] at hhead
  simpa using hhead

inductive Regex where
  | nothing
  | atEnd
  /-- One character of a class. -/
  | one (p : Char → Bool)
  /-- Characters of a class, as many as possible. -/
  | greedy (p : Char → Bool)
  /-- Characters of a class, as few as possible. -/
  | lazy (p : Char → Bool)
  | seq (r s : Regex)
  /-- The first expression; the second only if that leads nowhere. -/
  | either (r s : Regex)
  | named (name : String) (r : Regex)

namespace Regex

/-- The ways to match at the start of a text, in the order in which they are tried. -/
def attempts : Regex → List Char → List Match
  | nothing, cs => [⟨[], [], cs⟩]
  | atEnd, cs => if cs.isEmpty then [⟨[], [], []⟩] else []
  | one p, cs =>
    match cs with
    | [] => []
    | c :: cs => if p c then [⟨[c], [], cs⟩] else []
  | greedy p, cs => (runs p cs).reverse.map fun run => ⟨run.1, [], run.2⟩
  | lazy p, cs => (runs p cs).map fun run => ⟨run.1, [], run.2⟩
  | seq r s, cs => (attempts r cs).flatMap fun m => (attempts s m.rest).map m.andThen
  | either r s, cs => attempts r cs ++ attempts s cs
  | named name r, cs => (attempts r cs).map (Match.named name)

def captures (r : Regex) (cs : List Char) : Option (List (String × List Char)) :=
  (r.attempts cs).head?.map Match.groups

def groupText (groups : List (String × List Char)) (name : String) : List Char := (groups.lookup name).getD []

def oneOrMore (p : Char → Bool) : Regex := seq (one p) (greedy p)

def optional (r : Regex) : Regex := either r nothing

def exactly (text : List Char) : Regex := text.foldr (fun c r => seq (one (· == c)) r) nothing

def oneOf (texts : List (List Char)) : Regex := texts.foldr (fun text r => either (exactly text) r) (one fun _ => false)

variable {r s t : Regex} {p q : Char → Bool} {cs : List Char} {c : Char} {name : String}

/-! ## One expression after another -/

theorem captures_seq (r s : Regex) (cs : List Char) :
    captures (seq r s) cs = (attempts r cs).findSome? fun m => (captures s m.rest).map (m.groups ++ ·) := by
  rw [captures, attempts, List.head?_flatMap, List.map_findSome?]
  congr 1
  funext m
  simp only [Function.comp, List.head?_map, captures, Option.map_map]
  rfl

theorem attempts_seq_assoc (r s t : Regex) (cs : List Char) :
    attempts (seq (seq r s) t) cs = attempts (seq r (seq s t)) cs := by
  simp only [attempts, List.flatMap_assoc, List.flatMap_map, List.map_flatMap, List.map_map]
  congr 1
  funext m
  congr 1
  funext n
  congr 1
  funext k
  simp [Match.andThen]

theorem captures_seq_assoc (r s t : Regex) (cs : List Char) :
    captures (seq (seq r s) t) cs = captures (seq r (seq s t)) cs := by
  rw [captures, attempts_seq_assoc, captures]

theorem captures_nothing (s : Regex) (cs : List Char) : captures (seq nothing s) cs = captures s cs := by
  simp [captures_seq, attempts]

theorem captures_atEnd (cs : List Char) : captures atEnd cs = if cs.isEmpty then some [] else none := by
  rw [captures, attempts]
  split <;> rfl

theorem captures_one (p : Char → Bool) (s : Regex) (c : Char) (cs : List Char) :
    captures (seq (one p) s) (c :: cs) = if p c then captures s cs else none := by
  rw [captures_seq, attempts]
  split <;> simp

theorem captures_either (r s t : Regex) (cs : List Char) :
    captures (seq (either r s) t) cs = (captures (seq r t) cs).or (captures (seq s t) cs) := by
  simp only [captures_seq, attempts, List.findSome?_append]

theorem captures_optional (r s : Regex) (cs : List Char) :
    captures (seq (optional r) s) cs = (captures (seq r s) cs).or (captures s cs) := by
  rw [optional, captures_either, captures_nothing]

/-! ## Given texts -/

theorem attempts_exactly (text cs : List Char) :
    attempts (exactly text) cs = if text.isPrefixOf cs then [⟨text, [], cs.drop text.length⟩] else [] := by
  induction text generalizing cs with
  | nil => rfl
  | cons d text ih =>
    rw [exactly, List.foldr_cons, ← exactly, attempts]
    cases cs with
    | nil => rfl
    | cons c cs =>
      by_cases hc : c = d
      · subst hc
        simp only [attempts, beq_self_eq_true, if_true, List.flatMap_singleton, ih, List.isPrefixOf_cons_cons,
          Bool.true_and]
        split <;> rfl
      · have hd : ¬ d = c := fun h => hc h.symm
        simp [attempts, hc, hd]

theorem captures_oneOf (name : String) (texts : List (List Char)) (s : Regex) (cs : List Char) :
    captures (seq (named name (oneOf texts)) s) cs = (texts.filter (·.isPrefixOf cs)).findSome? fun text =>
      (captures s (cs.drop text.length)).map ((name, text) :: ·) := by
  rw [captures_seq, attempts, List.findSome?_map]
  induction texts with
  | nil => cases cs <;> rfl
  | cons text texts ih =>
    rw [oneOf, List.foldr_cons, ← oneOf, attempts, List.findSome?_append, ih, attempts_exactly, List.filter_cons]
    split
    · simp only [List.findSome?_cons, List.findSome?_nil, Function.comp, Match.named, List.cons_append, List.nil_append]
      cases captures s (cs.drop text.length) <;> rfl
    · rfl

/-! ## Runs -/

/-- A longest run is taken whole if nothing that leads on begins with one of its characters. -/
theorem findSome?_longest {α : Type} {f : List Char × List Char → Option α}
    (h : ∀ run c rest, p c = true → f (run, c :: rest) = none) :
    (runs p cs).reverse.findSome? f = f (cs.takeWhile p, cs.dropWhile p) := by
  induction cs generalizing f with
  | nil => simp [runs]
  | cons c cs ih =>
    rw [runs]
    cases hc : p c with
    | false => simp [hc]
    | true =>
      simp only [if_true, List.reverse_cons, List.findSome?_append, ← List.map_reverse, List.findSome?_map,
        List.findSome?_singleton, h _ _ _ hc, Option.or_none, List.takeWhile_cons, List.dropWhile_cons, hc]
      exact ih fun run d rest hd => h (c :: run) d rest hd

/-- A shortest run in front of blanks and the end is the text without the blanks at its end. -/
theorem findSome?_trimBack {α : Type} (g : List Char → α) (cs : List Char) :
    (runs p cs).findSome? (fun run => if run.2.all isBlankChar then some (g run.1) else none) =
      if (trimBack cs).all p then some (g (trimBack cs)) else none := by
  induction cs generalizing g with
  | nil => rfl
  | cons c cs ih =>
    rw [runs, List.findSome?_cons]
    -- the empty run is taken if nothing but blanks is left, and only then
    by_cases hblank : (c :: cs).all isBlankChar = true
    · have hnil : trimBack (c :: cs) = [] := trimBack_eq_nil_iff.2 (List.all_eq_true.1 hblank)
      simp only [hblank, if_true, hnil, List.all_nil]
    · have hcons : trimBack (c :: cs) = c :: trimBack cs := by
        rw [trimBack_cons]
        split
        next hnil =>
          have hc : isBlankChar c = false := by
            have hcs : cs.all isBlankChar = true := List.all_eq_true.2 (trimBack_eq_nil_iff.1 hnil)
            simpa [hcs] using hblank
          rw [hnil, trimBack_cons_of_not_blank hc]
          rfl
        · rfl
      simp only [hblank, Bool.false_eq_true, if_false, hcons, List.all_cons]
      cases hc : p c with
      | false => simp
      | true =>
        simp only [if_true, List.findSome?_map, Bool.true_and]
        exact ih fun run => g (c :: run)

/-- Blanks before the run are left out of it, although they may be given back: that would not help, since a longer run
holds all that a shorter one holds. -/
theorem findSome?_trimChars {α : Type} (g : List Char → α) (cs : List Char) :
    (runs isBlankChar cs).reverse.findSome?
        (fun run => if (trimBack run.2).all p then some (g (trimBack run.2)) else none) =
      if (trimChars cs).all p then some (g (trimChars cs)) else none := by
  induction cs with
  | nil => rfl
  | cons c cs ih =>
    rw [runs]
    cases hc : isBlankChar c with
    | false =>
      have hfront : trimFront (c :: cs) = c :: cs := by simp [trimFront, hc]
      simp [trimChars, hfront]
    | true =>
      have htrim : trimChars (c :: cs) = trimChars cs := by simp [trimChars, trimFront, hc]
      simp only [if_true, List.reverse_cons, List.findSome?_append, ← List.map_reverse, List.findSome?_map, htrim]
      refine (congrArg (Option.or · _) ih).trans ?_
      split
      · rfl
      next hfails =>
        -- giving the blank back makes the run longer, and it held a wrong character before
        have hlonger : ¬ (trimBack (c :: cs)).all p = true := by
          intro hall
          refine hfails (List.all_eq_true.2 fun x hx => List.all_eq_true.1 hall x ?_)
          rw [← htrim, trimChars, ← trimFront_trimBack] at hx
          exact (List.dropWhile_suffix isBlankChar).subset hx
        simp only [List.findSome?_singleton, hlonger, Bool.false_eq_true, if_false, Option.or_none]

/-! ## What an expression cannot begin with -/

/-- The expression matches no text that begins with a character of the class. -/
def Refuses (r : Regex) (p : Char → Bool) : Prop := ∀ c cs, p c = true → r.attempts (c :: cs) = []

theorem Refuses.captures_eq_none (h : r.Refuses p) (hc : p c = true) : r.captures (c :: cs) = none := by
  rw [captures, h c cs hc]
  rfl

theorem refuses_atEnd : atEnd.Refuses p := fun _ _ _ => rfl

theorem refuses_one (h : ∀ c, p c = true → q c = false) : (one q).Refuses p := by
  intro c cs hc
  simp [attempts, h c hc]

theorem Refuses.seq (h : r.Refuses p) (s : Regex) : (seq r s).Refuses p := by
  intro c cs hc
  rw [attempts, h c cs hc]
  rfl

theorem Refuses.named (h : r.Refuses p) (name : String) : (named name r).Refuses p := by
  intro c cs hc
  rw [attempts, h c cs hc]
  rfl

theorem Refuses.either (hr : r.Refuses p) (hs : s.Refuses p) : (either r s).Refuses p := by
  intro c cs hc
  rw [attempts, hr c cs hc, hs c cs hc]
  rfl

theorem Refuses.skip (h : s.Refuses p) (hq : ∀ c, p c = true → q c = false) :
    (.seq (greedy q) s : Regex).Refuses p := by
  intro c cs hc
  simp [attempts, runs, hq c hc, h c cs hc]

theorem Refuses.optional (hr : r.Refuses p) (hs : s.Refuses p) : (.seq (.optional r) s : Regex).Refuses p := by
  intro c cs hc
  simp [Regex.optional, attempts, hr c cs hc, hs c cs hc]

theorem refuses_oneOf {texts : List (List Char)}
    (h : ∀ c, p c = true → ∀ text ∈ texts, ∃ d rest, text = d :: rest ∧ c ≠ d) : (oneOf texts).Refuses p := by
  induction texts with
  | nil => exact refuses_one fun _ _ => rfl
  | cons text texts ih =>
    refine .either (fun c cs hc => ?_) (ih fun c hc other hother => h c hc other (List.mem_cons_of_mem text hother))
    obtain ⟨d, rest, rfl, hne⟩ := h c hc text List.mem_cons_self
    have hd : ¬ d = c := fun hd => hne hd.symm
    simp [attempts_exactly, hd]

/-! ## Runs that are taken whole -/

theorem captures_skip (h : s.Refuses p) (cs : List Char) :
    captures (seq (greedy p) s) cs = captures s (cs.dropWhile p) := by
  rw [captures_seq, attempts, List.findSome?_map, findSome?_longest]
  · simp
  · intro run c rest hc
    simp [h.captures_eq_none hc]

theorem captures_oneOrMore (h : s.Refuses p) (cs : List Char) :
    captures (seq (oneOrMore p) s) cs = if cs.takeWhile p = [] then none else captures s (cs.dropWhile p) := by
  rw [oneOrMore, captures_seq_assoc]
  cases cs with
  | nil => rfl
  | cons c cs =>
    rw [captures_one, captures_skip h]
    cases hc : p c <;> simp [hc]

theorem captures_word (h : s.Refuses p) (name : String) (cs : List Char) :
    captures (seq (named name (oneOrMore p)) s) cs =
      if cs.takeWhile p = [] then none else (captures s (cs.dropWhile p)).map ((name, cs.takeWhile p) :: ·) := by
  rw [captures_seq, attempts, oneOrMore, attempts, List.findSome?_map]
  cases cs with
  | nil => rfl
  | cons c cs =>
    cases hc : p c with
    | false => simp [attempts, hc]
    | true =>
      simp only [attempts, hc, if_true, List.flatMap_singleton, List.findSome?_map, List.takeWhile_cons,
        List.dropWhile_cons, List.cons_ne_nil, if_false]
      rw [findSome?_longest]
      · simp [Match.named, Match.andThen]
      · intro run d rest hd
        simp [Match.andThen, Match.named, h.captures_eq_none hd]

/-! ## Up to the end -/

def blankEnd : Regex := seq (greedy isBlankChar) atEnd

theorem captures_blankEnd (cs : List Char) : captures blankEnd cs = if cs.all isBlankChar then some [] else none := by
  rw [blankEnd, captures_skip refuses_atEnd, captures_atEnd]
  congr 1
  rw [List.isEmpty_iff, List.all_eq_true]
  exact propext trimFront_eq_nil_iff

theorem captures_tail (name : String) (lead cs : List Char) :
    ((runs p cs).map fun run => (⟨lead ++ run.1, [], run.2⟩ : Match).named name).findSome?
        (fun m => (captures blankEnd m.rest).map (m.groups ++ ·)) =
      if (trimBack cs).all p then some [(name, lead ++ trimBack cs)] else none := by
  rw [List.findSome?_map, ← findSome?_trimBack fun run => [(name, lead ++ run)]]
  congr 1
  funext run
  simp only [Function.comp, Match.named, captures_blankEnd]
  split <;> rfl

def paddedLine (name : String) (p : Char → Bool) : Regex :=
  seq (greedy isBlankChar) (seq (named name (lazy p)) blankEnd)

theorem captures_paddedLine (name : String) (p : Char → Bool) (cs : List Char) :
    captures (paddedLine name p) cs = if (trimChars cs).all p then some [(name, trimChars cs)] else none := by
  rw [paddedLine, captures_seq, attempts, List.findSome?_map, ← findSome?_trimChars fun run => [(name, run)]]
  congr 1
  funext run
  simp only [Function.comp, List.nil_append, Option.map_id']
  rw [captures_seq, attempts, attempts, List.map_map]
  exact captures_tail name [] run.2

end Regex

end EntityQuery.Text
