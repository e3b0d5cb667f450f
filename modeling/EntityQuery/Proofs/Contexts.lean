import EntityQuery.Proofs.Grouping

/-!
# Expressions inside expressions

A `Frame` is an expression, perhaps with a subquery, with a place left open in it; frames inside frames (`fillAll`) lead
to any place in a tree. A frame writes fixed texts around what it shows of the expression in its place
(`Frame.text_fill`), and what it shows depends on the expression's text and on whether the expression is bracketed there.

Hence the statement about groups of one term: such a group is written, joined and negated like its term, except in one kind
of place. Beside other terms a group of one is never bracketed, so its term loses the brackets that it would have there
(`text_of_single_term_group`).
-/

namespace EntityQuery.Expr

inductive Frame where
  | related (path : Path) (op : Relationship)
  /-- Among the filters of a subquery, after those of the clauses. -/
  | subquery (path : Path) (op : Inclusion) (clauses : Clauses) (after : List Expr)
  | group (c : Connective) (before after : List Expr)
  | not

def Frame.fill : Frame → Expr → Expr
  | related path op, e => .related path op e
  | subquery path op clauses after, e =>
    .member path op (.subquery { clauses with filters := clauses.filters ++ e :: after })
  | group c before after, e => ofConnective c (before ++ e :: after)
  | not, e => .not e

/-- Frames inside each other, the outermost first, with an expression in the innermost place. -/
def fillAll (frames : List Frame) (e : Expr) : Expr := frames.foldr Frame.fill e

def shownAmong (c : Connective) (others : List Expr) (e : Expr) : List Char :=
  if (live others).isEmpty then e.text.toList else part c e

def Frame.shown : Frame → Expr → List Char
  | related _ _, e => e.text.toList
  | subquery _ _ clauses after, e => shownAmong .and (clauses.filters ++ after) e
  | group c before after, e => shownAmong c (before ++ after) e
  | not, e => if e.bracketsUnderNot then '(' :: (e.text.toList ++ [')']) else e.text.toList

variable {e e' : Expr} {c : Connective} {before after : List Expr}

/-! ## Frames and texts -/

theorem live_around (hlive : e.isEmpty = false) :
    live (before ++ e :: after) = live before ++ e :: live after := by
  rw [live_append, live_cons, hlive]
  rfl

theorem parts_around (c : Connective) (before after : List Expr) :
    ∃ pre post, ∀ e, parts c (before ++ e :: after) = pre ++ (part c e ++ post) := by
  obtain ⟨pre, post, h⟩ := intercalate_around (between c) (before.map (part c)) (after.map (part c))
  refine ⟨pre, post, fun e => ?_⟩
  rw [parts, List.map_append, List.map_cons]
  exact h (part c e)

theorem text_group_around (c : Connective) (before after : List Expr) :
    ∃ pre post, ∀ e, e.isEmpty = false → (ofConnective c (before ++ e :: after)).text.toList =
      pre ++ (shownAmong c (before ++ after) e ++ post) := by
  simp only [shownAmong]
  cases halone : (live (before ++ after)).isEmpty with
  | true =>
    refine ⟨[], [], fun e hlive => ?_⟩
    rw [List.isEmpty_iff, live_append, List.append_eq_nil_iff] at halone
    have hone : live (before ++ e :: after) = [e] := by
      rw [live_around hlive, halone.1, halone.2]
      rfl
    rw [text_of_live_one c hone]
    simp
  | false =>
    obtain ⟨pre, post, hparts⟩ := parts_around c (live before) (live after)
    -- with another live term in the group the text is a join, whatever the expression
    have hmany : ∀ e, e.isEmpty = false → 1 < (live (before ++ e :: after)).length := by
      intro e hlive
      have hsome : 0 < (live before ++ live after).length := by
        rw [← live_append, List.length_pos_iff, ne_eq, ← List.isEmpty_iff, halone]
        simp
      rw [live_around hlive, List.length_append, List.length_cons]
      rw [List.length_append] at hsome
      omega
    cases c with
    | and =>
      refine ⟨pre, post, fun e hlive => ?_⟩
      rw [toList_join .and (hmany e hlive), live_around hlive]
      exact hparts e
    | or =>
      refine ⟨'(' :: pre, post ++ [')'], fun e hlive => ?_⟩
      rw [toList_join .or (hmany e hlive), live_around hlive]
      simp [hparts]

theorem clauses_text_around (clauses : Clauses) :
    ∃ pre post, ∀ filters, (and filters).text.toList ≠ [] →
      (({ clauses with filters } : Clauses).text true).toList = pre ++ ((and filters).text.toList ++ post) := by
  have hvisible : ∀ part : List Char, part ≠ [] → (!part.isEmpty) = true := by
    intro part hpart
    simpa using hpart
  obtain ⟨pre, post, haround⟩ := intercalate_around [' ']
    (((clauses.front true).map String.toList).filter (!·.isEmpty) ++ ["where".toList])
    ((clauses.back.map String.toList).filter (!·.isEmpty))
  refine ⟨pre, post, fun filters hcondition => ?_⟩
  have hwhere := Clauses.conditionParts_of_shown hcondition
  have hsame : ({ clauses with filters } : Clauses).predicate.text = (and filters).text := text_all _
  rw [Clauses.text_eq_parts, hsame, hwhere, toList_joinParts, ← haround]
  have hshown : ((["where", (and filters).text].map String.toList).filter (!·.isEmpty)) =
      ["where".toList, (and filters).text.toList] := by
    rw [List.filter_eq_self.2]
    · rfl
    · simp only [List.map_cons, List.map_nil, List.forall_mem_cons]
      exact ⟨rfl, hvisible _ hcondition, List.forall_mem_nil _⟩
  rw [List.map_append, List.map_append, List.filter_append, List.filter_append, hshown]
  simp only [List.append_assoc, List.cons_append, List.nil_append]
  rfl

/-- **A frame writes fixed texts around what it shows.** -/
theorem Frame.text_fill (f : Frame) :
    ∃ pre post, ∀ e, e.isEmpty = false → (f.fill e).text.toList = pre ++ (f.shown e ++ post) := by
  cases f with
  | related path op =>
    refine ⟨path.toText.toList ++ ' ' :: (op.keyword.toList ++ [' ', '(']), [')'], fun e _ => ?_⟩
    rw [fill, toList_related, shown]
    simp
  | subquery path op clauses after =>
    obtain ⟨pre, post, hcondition⟩ := text_group_around .and clauses.filters after
    obtain ⟨front, back, hclauses⟩ := clauses_text_around clauses
    refine ⟨path.toText.toList ++ ' ' :: (op.keyword.toList ++ ' ' :: '(' :: (front ++ pre)),
      post ++ (back ++ [')']), fun e hlive => ?_⟩
    -- the condition shows, so the clauses write it with the keyword
    have hne : (and (clauses.filters ++ e :: after)).text.toList ≠ [] := by
      refine text_ne_nil ((isEmpty_ofConnective_eq_false_iff .and).2 ?_)
      simp [live_around hlive]
    have hcond : (and (clauses.filters ++ e :: after)).text.toList = _ := hcondition e hlive
    rw [fill, toList_member, Members.text, hclauses _ hne, hcond, shown]
    simp only [List.append_assoc, List.cons_append]
  | group c before after =>
    obtain ⟨pre, post, htext⟩ := text_group_around c before after
    exact ⟨pre, post, htext⟩
  | not =>
    refine ⟨negationKeyword.toList ++ [' '], [], fun e _ => ?_⟩
    rw [fill, toList_not, shown]
    simp

theorem Frame.text_fill_eq_iff (f : Frame) (hlive : e.isEmpty = false) (hlive' : e'.isEmpty = false) :
    (f.fill e).text = (f.fill e').text ↔ f.shown e = f.shown e' := by
  obtain ⟨pre, post, htext⟩ := f.text_fill
  rw [← String.toList_inj, htext e hlive, htext e' hlive', List.append_cancel_left_eq,
    List.append_cancel_right_eq]

/-! ## Expressions that are bracketed alike -/

/-- Both expressions show, and they are bracketed in the same places. -/
structure BracketedAlike (e e' : Expr) : Prop where
  isLive : e.isEmpty = false
  isLive' : e'.isEmpty = false
  underNot : e.bracketsUnderNot = e'.bracketsUnderNot
  inside (c : Connective) : e.bracketsIn c = e'.bracketsIn c

theorem BracketedAlike.shown_eq_iff (h : BracketedAlike e e') (f : Frame) :
    f.shown e = f.shown e' ↔ e.text = e'.text := by
  have hamong : ∀ c others, shownAmong c others e = shownAmong c others e' ↔ e.text = e'.text := by
    intro c others
    rw [shownAmong, shownAmong, part, part, h.inside c, ← String.toList_inj]
    split
    · rfl
    · split <;> simp
  cases f with
  | related path op => exact String.toList_inj
  | subquery path op clauses after => exact hamong .and _
  | group c before after => exact hamong c _
  | not =>
    rw [Frame.shown, Frame.shown, h.underNot, ← String.toList_inj]
    split <;> simp

theorem BracketedAlike.fill (f : Frame) (hlive : e.isEmpty = false) (hlive' : e'.isEmpty = false)
    (hnot : e.bracketsUnderNot = e'.bracketsUnderNot) : BracketedAlike (f.fill e) (f.fill e') := by
  cases f with
  | related path op => exact ⟨rfl, rfl, rfl, fun _ => rfl⟩
  | subquery path op clauses after => exact ⟨rfl, rfl, rfl, fun _ => rfl⟩
  | not => exact ⟨rfl, rfl, rfl, fun _ => rfl⟩
  | group c before after =>
    have hshows : ∀ e, e.isEmpty = false → ((Frame.group c before after).fill e).isEmpty = false := by
      intro e hlive
      rw [Frame.fill, isEmpty_ofConnective_eq_false_iff, live_around hlive]
      simp
    have hterms : List.Forall₂ (fun t u => t.bracketsUnderNot = u.bracketsUnderNot) (live (before ++ e :: after))
        (live (before ++ e' :: after)) := by
      rw [live_around hlive, live_around hlive']
      have hsame (ts : List Expr) : List.Forall₂ (fun t u => t.bracketsUnderNot = u.bracketsUnderNot) ts ts :=
        List.forall₂_same.2 fun _ _ => rfl
      exact List.rel_append (hsame _) (.cons hnot (hsame _))
    obtain ⟨-, hunder, hinside⟩ := SameBrackets.group c hterms
    exact ⟨hshows e hlive, hshows e' hlive', hunder, hinside⟩

theorem BracketedAlike.fillAll (frames : List Frame) (h : BracketedAlike e e') :
    BracketedAlike (fillAll frames e) (fillAll frames e') := by
  induction frames with
  | nil => exact h
  | cons f frames ih => exact .fill f ih.isLive ih.isLive' ih.underNot

theorem BracketedAlike.text_fillAll_eq_iff (frames : List Frame) (h : BracketedAlike e e') :
    (Expr.fillAll frames e).text = (Expr.fillAll frames e').text ↔ e.text = e'.text := by
  induction frames with
  | nil => rfl
  | cons f frames ih =>
    have hinner := h.fillAll frames
    exact (f.text_fill_eq_iff hinner.isLive hinner.isLive').trans ((hinner.shown_eq_iff f).trans ih)

/-! ## Groups of one term -/

/-- The connective under which a place stands beside other terms that show. -/
def Frame.beside? : Frame → Option Connective
  | related _ _ => none
  | subquery _ _ clauses after => if (live (clauses.filters ++ after)).isEmpty then none else some .and
  | group c before after => if (live (before ++ after)).isEmpty then none else some c
  | not => none

/-- The innermost place is one in which the expression is bracketed beside other terms. -/
def BracketedIn (frames : List Frame) (e : Expr) : Prop :=
  ∃ f ∈ frames.getLast?, ∃ c ∈ f.beside?, e.bracketsIn c = true

theorem isEmpty_single (d : Connective) (e : Expr) : (ofConnective d [e]).isEmpty = e.isEmpty := by
  rw [isEmpty_ofConnective, allEmpty, allEmpty, Bool.and_true]

theorem text_single (d : Connective) (hlive : e.isEmpty = false) : (ofConnective d [e]).text = e.text :=
  text_of_live_one d (by simp [live_cons, hlive])

theorem bracketsUnderNot_single (d : Connective) (hlive : e.isEmpty = false) :
    (ofConnective d [e]).bracketsUnderNot = e.bracketsUnderNot :=
  bracketsUnderNot_of_live_one d (by simp [live_cons, hlive])

theorem bracketsIn_single (c d : Connective) (hlive : e.isEmpty = false) :
    (ofConnective d [e]).bracketsIn c = false := by
  cases d <;> simp [ofConnective, bracketsIn, live_cons, hlive]

theorem shown_single_iff (f : Frame) (d : Connective) (hlive : e.isEmpty = false) :
    f.shown (ofConnective d [e]) = f.shown e ↔ ¬ ∃ c ∈ f.beside?, e.bracketsIn c = true := by
  have hamong : ∀ c others, shownAmong c others (ofConnective d [e]) = shownAmong c others e ↔
      ¬ ∃ b ∈ (if (live others).isEmpty then none else some c : Option Connective), e.bracketsIn b = true := by
    intro c others
    rw [shownAmong, shownAmong, part, part, bracketsIn_single c d hlive, text_single d hlive]
    cases (live others).isEmpty with
    | true => simp
    | false =>
      cases hbrackets : e.bracketsIn c with
      | false => simp [hbrackets]
      | true =>
        have hlonger : e.text.toList ≠ '(' :: (e.text.toList ++ [')']) := by
          intro h
          have hlength := congrArg List.length h
          simp at hlength
          omega
        simp [hbrackets, hlonger]
  cases f with
  | related path op => simp [Frame.shown, Frame.beside?, text_single d hlive]
  | subquery path op clauses after => exact hamong .and _
  | group c before after => exact hamong c _
  | not => simp [Frame.shown, Frame.beside?, text_single d hlive, bracketsUnderNot_single d hlive]

/-- **A group of one term shows only where it costs the term its brackets.** Anywhere in a tree, a live expression can be
put into a group of its own without a change in the text, unless it stands beside other terms and is bracketed there. -/
theorem text_of_single_term_group (d : Connective) (frames : List Frame) (hlive : e.isEmpty = false) :
    (fillAll frames (ofConnective d [e])).text = (fillAll frames e).text ↔ ¬ BracketedIn frames e := by
  have hsingle : (ofConnective d [e]).isEmpty = false := (isEmpty_single d e).trans hlive
  rcases List.eq_nil_or_concat frames with rfl | ⟨outer, f, rfl⟩
  · simp [fillAll, BracketedIn, text_single d hlive]
  · have hinner : BracketedAlike (f.fill (ofConnective d [e])) (f.fill e) :=
      .fill f hsingle hlive (bracketsUnderNot_single d hlive)
    have houter : ∀ t, fillAll (outer.concat f) t = fillAll outer (f.fill t) := by
      intro t
      simp [fillAll]
    have hplace : BracketedIn (outer.concat f) e ↔ ∃ c ∈ f.beside?, e.bracketsIn c = true := by
      simp [BracketedIn]
    rw [houter, houter, hplace, hinner.text_fillAll_eq_iff outer, f.text_fill_eq_iff hsingle hlive]
    exact shown_single_iff f d hlive

/-- Query text with a connective, in a group of its own under a negation in a conjunction: the text does not change. -/
theorem denied_raw_text_in_group :
    (raw "a is 1 or b is 2").isEmpty = false ∧
    (and [not (and [raw "a is 1 or b is 2"]), raw "c is 3"]).text =
      (and [not (raw "a is 1 or b is 2"), raw "c is 3"]).text := by
  have hlive : (raw "a is 1 or b is 2").isEmpty = false := by
    decide
  -- under `not` it is not beside other terms
  have hplace : ¬ BracketedIn [.group .and [] [raw "c is 3"], .not] (raw "a is 1 or b is 2") := by
    simp [BracketedIn, Frame.beside?]
  exact ⟨hlive, (text_of_single_term_group .and [.group .and [] [raw "c is 3"], .not] hlive).2 hplace⟩

/-- Beside another term, the group takes the brackets of its term away, and the text says something else. -/
theorem raw_text_in_group_loses_brackets :
    (and [raw "a is 1 or b is 2", raw "c is 3"]).text = "(a is 1 or b is 2) and c is 3" ∧
    (and [and [raw "a is 1 or b is 2"], raw "c is 3"]).text = "a is 1 or b is 2 and c is 3" := by
  exact ⟨rfl, rfl⟩

end EntityQuery.Expr
