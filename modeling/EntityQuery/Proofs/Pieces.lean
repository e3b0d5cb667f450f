import EntityQuery.Literal.Reader
import EntityQuery.Proofs.Names

/-!
# Cutting texts at their literals

`cut` takes a text apart into characters outside literals and the contents of literals: a literal opens at a quote, a
backslash makes the next character part of the literal, and the next quote that is not so marked closes it. A text in
which a literal is left open is not cut at all.

`Alongside` relates two texts that are cut into the same characters outside literals, with literals in the same places and
of the given contents. It is built up piece by piece, like the texts.
-/

namespace EntityQuery

/-- A character outside literals, or what a literal says. -/
inductive Piece where
  | plain (c : Char)
  | literal (content : List Char)
  deriving DecidableEq

def Piece.outside : Piece → Option Char
  | plain c => some c
  | literal _ => none

def Piece.content? : Piece → Option (List Char)
  | plain _ => none
  | literal content => some content

/-- Where the cutting stands: outside literals, or in a literal of which so much has been seen. -/
inductive Cutting where
  | outside
  | inside (content : List Char) (escaped : Bool)

def cutFrom : Cutting → List Char → Option (List Piece)
  | .outside, [] => some []
  | .outside, c :: cs =>
    if c = '"' then cutFrom (.inside [] false) cs else (cutFrom .outside cs).map (.plain c :: ·)
  | .inside _ _, [] => none
  | .inside content true, c :: cs => cutFrom (.inside (content ++ [c]) false) cs
  | .inside content false, c :: cs =>
    if c = '\\' then cutFrom (.inside content true) cs
    else if c = '"' then (cutFrom .outside cs).map (.literal content :: ·)
    else cutFrom (.inside (content ++ [c]) false) cs

/-- The pieces of a text, if every literal in it is closed. -/
def cut (cs : List Char) : Option (List Piece) := cutFrom .outside cs

def outsides (ps : List Piece) : List (Option Char) := ps.map Piece.outside

def contents (ps : List Piece) : List (List Char) := ps.filterMap Piece.content?

variable {a b cs ds : List Char} {ps qs : List Piece}

/-! ## Texts that are cut by themselves -/

/-- The text is cut into these pieces, whatever follows it. -/
def Cuts (cs : List Char) (ps : List Piece) : Prop := ∀ ds, cut (cs ++ ds) = (cut ds).map (ps ++ ·)

theorem Cuts.cut_eq (h : Cuts cs ps) : cut cs = some ps := by
  have hend := h []
  have hnil : cut [] = some [] := rfl
  rwa [List.append_nil, hnil, Option.map_some, List.append_nil] at hend

theorem Cuts.nil : Cuts [] [] := fun ds => by simp

theorem Cuts.append (ha : Cuts a ps) (hb : Cuts b qs) : Cuts (a ++ b) (ps ++ qs) := by
  intro ds
  rw [List.append_assoc, ha, hb, Option.map_map]
  congr 1
  funext rest
  exact (List.append_assoc ps qs rest).symm

theorem Cuts.plain (h : '"' ∉ cs) : Cuts cs (cs.map .plain) := by
  intro ds
  induction cs with
  | nil => simp
  | cons c cs ih =>
    rw [List.mem_cons, not_or] at h
    rw [List.cons_append, cut, cutFrom, if_neg (Ne.symm h.1), ← cut, ih h.2, Option.map_map]
    rfl

theorem cutFrom_of_closes {mayMark : Char → Bool} {content rest : List Char} (seen : List Char)
    (h : Literal.Closes mayMark cs content rest) :
    cutFrom (.inside seen false) cs = (cut rest).map (.literal (seen ++ content) :: ·) := by
  -- along the rules; the cutting has collected `seen` where the literal is said afresh
  induction h generalizing seen with
  | close rest =>
    rw [List.append_nil]
    rfl
  | @marked c cs content rest _ _ ih =>
    have hmark : cutFrom (.inside seen false) ('\\' :: c :: cs) = cutFrom (.inside (seen ++ [c]) false) cs := rfl
    rw [hmark, ih, List.append_assoc]
    rfl
  | plain hquote hslash _ ih =>
    rw [cutFrom, if_neg hslash, if_neg hquote, ih, List.append_assoc]
    rfl

theorem Cuts.literal {content : List Char} (h : ∀ ds, Literal.readLiteral (cs ++ ds) = some (content, ds)) :
    Cuts cs [.literal content] := by
  intro ds
  obtain ⟨body, htext, hcloses⟩ := Literal.readLiteral_eq_some_iff.1 (h ds)
  rw [htext, cut, cutFrom, if_pos rfl, cutFrom_of_closes [] hcloses]
  rfl

theorem cutFrom_inside_ne (content : List Char) (escaped : Bool) (cs : List Char) :
    cutFrom (.inside content escaped) cs ≠ some [] := by
  induction cs generalizing content escaped with
  | nil => simp [cutFrom]
  | cons c cs ih =>
    cases escaped with
    | true => exact ih _ _
    | false =>
      rw [cutFrom]
      split_ifs
      · exact ih _ _
      · simp
      · exact ih _ _

theorem Cuts.eq_nil_iff (h : Cuts cs ps) : cs = [] ↔ ps = [] := by
  have hcut := h.cut_eq
  constructor
  · rintro rfl
    exact (Option.some.inj hcut).symm
  · rintro rfl
    cases cs with
    | nil => rfl
    | cons c cs =>
      rw [cut, cutFrom] at hcut
      split_ifs at hcut
      · exact absurd hcut (cutFrom_inside_ne _ _ _)
      · simp at hcut

/-! ## Two texts side by side -/

/-- The two texts differ in the contents of literals only, and these are `us` and `vs`. -/
def Alongside (a b : List Char) (us vs : List (List Char)) : Prop :=
  ∃ ps qs, Cuts a ps ∧ Cuts b qs ∧ outsides ps = outsides qs ∧ contents ps = us ∧ contents qs = vs

inductive AlongsideEach : List (List Char) → List (List Char) → List (List Char) → List (List Char) → Prop
  | nil : AlongsideEach [] [] [] []
  | cons {a b : List Char} {us vs : List (List Char)} {as bs us' vs' : List (List Char)} :
      Alongside a b us vs → AlongsideEach as bs us' vs' →
      AlongsideEach (a :: as) (b :: bs) (us ++ us') (vs ++ vs')

variable {c : Char} {us vs us' vs' : List (List Char)} {a' b' : List Char}

namespace Alongside

theorem nil : Alongside [] [] [] [] := ⟨[], [], .nil, .nil, rfl, rfl, rfl⟩

theorem append (h : Alongside a b us vs) (h' : Alongside a' b' us' vs') :
    Alongside (a ++ a') (b ++ b') (us ++ us') (vs ++ vs') := by
  obtain ⟨ps, qs, ha, hb, hout, rfl, rfl⟩ := h
  obtain ⟨ps', qs', ha', hb', hout', rfl, rfl⟩ := h'
  refine ⟨ps ++ ps', qs ++ qs', ha.append ha', hb.append hb', ?_, ?_, ?_⟩
  · rw [outsides, outsides, List.map_append, List.map_append]
    exact congrArg₂ (· ++ ·) hout hout'
  · exact List.filterMap_append
  · exact List.filterMap_append

theorem plain (h : '"' ∉ a) : Alongside a a [] [] := by
  have hnone : contents (a.map Piece.plain) = [] := by
    rw [contents, List.filterMap_map]
    exact List.filterMap_eq_nil_iff.2 fun _ _ => rfl
  exact ⟨_, _, .plain h, .plain h, rfl, hnone, hnone⟩

theorem after (hc : '"' ∉ cs) (h : Alongside a b us vs) : Alongside (cs ++ a) (cs ++ b) us vs :=
  (plain hc).append h

theorem before (hc : '"' ∉ cs) (h : Alongside a b us vs) : Alongside (a ++ cs) (b ++ cs) us vs := by
  have hboth := h.append (plain hc)
  rwa [List.append_nil, List.append_nil] at hboth

theorem cons (hc : '"' ≠ c) (h : Alongside a b us vs) : Alongside (c :: a) (c :: b) us vs := by
  have hone : '"' ∉ [c] := by
    simpa using hc
  exact h.after hone

theorem literal {u v : List Char} (ha : ∀ ds, Literal.readLiteral (a ++ ds) = some (u, ds))
    (hb : ∀ ds, Literal.readLiteral (b ++ ds) = some (v, ds)) : Alongside a b [u] [v] :=
  ⟨_, _, .literal ha, .literal hb, rfl, rfl, rfl⟩

theorem brackets (h : Alongside a b us vs) : Alongside ('(' :: (a ++ [')'])) ('(' :: (b ++ [')'])) us vs :=
  .cons (by decide) (h.before (by decide))

theorem eq_nil_iff (h : Alongside a b us vs) : a = [] ↔ b = [] := by
  obtain ⟨ps, qs, ha, hb, hout, -, -⟩ := h
  rw [ha.eq_nil_iff, hb.eq_nil_iff, ← List.map_eq_nil_iff (f := Piece.outside), ← outsides, hout, outsides,
    List.map_eq_nil_iff]

theorem of_nil (h : Alongside [] [] us vs) : us = [] ∧ vs = [] := by
  obtain ⟨ps, qs, ha, hb, -, rfl, rfl⟩ := h
  rw [ha.eq_nil_iff.1 rfl, hb.eq_nil_iff.1 rfl]
  exact ⟨rfl, rfl⟩

end Alongside

namespace AlongsideEach

variable {as bs as' bs' : List (List Char)}

theorem append (h : AlongsideEach as bs us vs) (h' : AlongsideEach as' bs' us' vs') :
    AlongsideEach (as ++ as') (bs ++ bs') (us ++ us') (vs ++ vs') := by
  induction h with
  | nil => exact h'
  | cons hab _ ih =>
    rw [List.append_assoc, List.append_assoc]
    exact .cons hab ih

theorem plain (h : ∀ a ∈ as, '"' ∉ a) : AlongsideEach as as [] [] := by
  induction as with
  | nil => exact .nil
  | cons a as ih => exact .cons (.plain (h a (by simp))) (ih fun b hb => h b (by simp [hb]))

theorem of_forall₂ {α : Type} {xs ys : List α} {R : α → α → Prop} (text : α → List Char)
    (texts : α → List (List Char)) (h : List.Forall₂ R xs ys)
    (hR : ∀ x y, R x y → Alongside (text x) (text y) (texts x) (texts y)) :
    AlongsideEach (xs.map text) (ys.map text) (xs.flatMap texts) (ys.flatMap texts) := by
  induction h with
  | nil => exact .nil
  | cons hxy _ ih => exact .cons (hR _ _ hxy) ih

theorem nonempty (h : AlongsideEach as bs us vs) :
    AlongsideEach (as.filter (!·.isEmpty)) (bs.filter (!·.isEmpty)) us vs := by
  induction h with
  | nil => exact .nil
  | @cons a b us vs as bs us' vs' hab _ ih =>
    by_cases ha : a = []
    · obtain rfl := ha
      obtain rfl := hab.eq_nil_iff.1 rfl
      obtain ⟨rfl, rfl⟩ := hab.of_nil
      exact ih
    · have hb : b ≠ [] := fun hb => ha (hab.eq_nil_iff.2 hb)
      rw [List.filter_cons_of_pos (by simpa using ha), List.filter_cons_of_pos (by simpa using hb)]
      exact .cons hab ih

theorem intercalate {sep : List Char} (hsep : '"' ∉ sep) (h : AlongsideEach as bs us vs) :
    Alongside (sep.intercalate as) (sep.intercalate bs) us vs := by
  induction h with
  | nil => exact .nil
  | cons hab hrest ih =>
    cases hrest with
    | nil => simpa using hab
    | cons hab' hrest =>
      rw [List.intercalate_cons_cons, List.intercalate_cons_cons]
      exact (hab.before hsep).append ih

end AlongsideEach

end EntityQuery
