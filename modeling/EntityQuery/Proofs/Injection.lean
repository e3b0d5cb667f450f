import EntityQuery.Predicate
import EntityQuery.Proofs.Grammar
import EntityQuery.Proofs.Pieces
import EntityQuery.Proofs.Rendering
import Mathlib.Data.List.Forall2

/-!
# Text values cannot change a statement

Two statements are `Alike` if one becomes the other by putting other texts in the places of texts: of values, of textual
identifiers, and of what the derived patterns are made from. Cut at their literals, their texts have the same characters
outside literals and their literals in the same places, and the contents of the literals are the texts that were put
there (`texts_fill_gaps_only`).

The induction carries more than the texts of two expressions side by side (`RunsAlongside`): the decisions about
brackets and about empty terms must come out the same, too.
-/

namespace EntityQuery

/-! ## The same but for texts -/

/-- The same value, or two texts, or entities with two textual identifiers. -/
inductive Value.Alike : Value → Value → Prop
  | same (v : Value) : Alike v v
  | text (s t : String) : Alike (.text s) (.text t)
  | entity (entityType : Option String) (s t : String) :
      Alike (.entity ⟨entityType, .text s⟩) (.entity ⟨entityType, .text t⟩)

/-- No name of the clauses has a quote in it. -/
structure Clauses.QuoteFree (c : Clauses) : Prop where
  entityType : '"' ∉ c.entityType.toList
  projection : ∀ s ∈ c.projection, '"' ∉ s.toList
  groupBy : ∀ s ∈ c.groupBy, '"' ∉ s.toList
  sort : ∀ k ∈ c.sort, '"' ∉ k.path.toText.toList

/-- The same expression but for texts. Query text that is taken as it is has no place here, nor have patterns other than
the derived ones. -/
inductive Expr.Alike : Expr → Expr → Prop
  | compare {path : Path} {op : Comparison} {v w : Value} : '"' ∉ path.toText.toList →
      op.takesPattern = false → Value.Alike v w → Alike (.compare path op v) (.compare path op w)
  | startsWith {path : Path} (s t : String) : '"' ∉ path.toText.toList →
      Alike (path.startsWith s) (path.startsWith t)
  | endsWith {path : Path} (s t : String) : '"' ∉ path.toText.toList →
      Alike (path.endsWith s) (path.endsWith t)
  | contains {path : Path} (s t : String) : '"' ∉ path.toText.toList →
      Alike (path.contains s) (path.contains t)
  | related {path : Path} {op : Relationship} {e f : Expr} : '"' ∉ path.toText.toList → Alike e f →
      Alike (.related path op e) (.related path op f)
  | values {path : Path} {op : Inclusion} {vs ws : List Value} : '"' ∉ path.toText.toList →
      List.Forall₂ Value.Alike vs ws → Alike (.member path op (.values vs)) (.member path op (.values ws))
  | subquery {path : Path} {op : Inclusion} {c : Clauses} {fs : List Expr} : '"' ∉ path.toText.toList →
      c.QuoteFree → c.filters.length = fs.length → (∀ e f, (e, f) ∈ c.filters.zip fs → Alike e f) →
      Alike (.member path op (.subquery c)) (.member path op (.subquery { c with filters := fs }))
  | and {ts us : List Expr} : ts.length = us.length → (∀ t u, (t, u) ∈ ts.zip us → Alike t u) →
      Alike (.and ts) (.and us)
  | or {ts us : List Expr} : ts.length = us.length → (∀ t u, (t, u) ∈ ts.zip us → Alike t u) →
      Alike (.or ts) (.or us)
  | not {t u : Expr} : Alike t u → Alike (.not t) (.not u)

/-- Clauses with the same names and numbers, and with conditions that are the same but for texts. -/
structure Clauses.Alike (c d : Clauses) : Prop where
  quoteFree : c.QuoteFree
  same : d = { c with filters := d.filters }
  filters : List.Forall₂ Expr.Alike c.filters d.filters

/-- Assignments to the same keys in the same order. -/
def FieldValues.Alike (a b : FieldValues) : Prop :=
  List.Forall₂ (fun p q => p.1 = q.1 ∧ '"' ∉ p.1.toList ∧ Value.Alike p.2 q.2) a.fields b.fields

inductive Statement.Alike {σ : Type} : Statement σ → Statement σ → Prop
  | select {s t : Select σ} : s.clauses.Alike t.clauses → Alike (.select s) (.select t)
  | insert {s t : Insert σ} : '"' ∉ s.entityType.toList → s.entityType = t.entityType →
      s.values.Alike t.values → Alike (.insert s) (.insert t)
  | update {s t : Update σ} : s.clauses.Alike t.clauses → s.effect.Alike t.effect →
      Alike (.update s) (.update t)
  | delete {s t : Delete σ} : s.clauses.Alike t.clauses → Alike (.delete s) (.delete t)

/-! ## The texts of a statement -/

def Literal.unmarked : List Char → List Char
  | [] => []
  | '\\' :: c :: cs => c :: unmarked cs
  | c :: cs => c :: unmarked cs

def Value.texts : Value → List (List Char)
  | text s => [s.toList]
  | entity e => [e.id.toText.toList]
  | _ => []

def Value.patternTexts : Value → List (List Char)
  | text s => [Literal.unmarked s.toList]
  | v => v.texts

mutual

/-- The texts in the literals of an expression, in the order in which they are written. -/
def Expr.texts : Expr → List (List Char)
  | .compare _ op v => if op.takesPattern then v.patternTexts else v.texts
  | .related _ _ condition => condition.texts
  | .member _ _ members => members.texts
  | .and ts => Expr.liveTexts ts
  | .or ts => Expr.liveTexts ts
  | .not t => t.texts
  | .raw _ => []

def Expr.liveTexts : List Expr → List (List Char)
  | [] => []
  | t :: ts => if t.isEmpty then Expr.liveTexts ts else t.texts ++ Expr.liveTexts ts

/-- An empty list is written as one empty text. -/
def Members.texts : Members → List (List Char)
  | .values vs => if vs.isEmpty then [[]] else vs.flatMap Value.texts
  | .subquery clauses => clauses.texts

def Clauses.texts : Clauses → List (List Char)
  | ⟨_, filters, _, _, _, _, _⟩ => Expr.liveTexts filters

end

def FieldValues.texts (values : FieldValues) : List (List Char) := values.fields.flatMap fun (_, v) => v.texts

def Statement.texts {σ : Type} : Statement σ → List (List Char)
  | select s => s.clauses.texts
  | insert s => s.values.texts
  | update s => s.clauses.texts ++ s.effect.texts
  | delete s => s.clauses.texts

namespace Expr

theorem liveTexts_eq (ts : List Expr) : liveTexts ts = (live ts).flatMap texts := by
  induction ts with
  | nil => rfl
  | cons t ts ih =>
    rw [liveTexts, live_cons]
    split
    · exact ih
    · rw [ih, List.flatMap_cons]

theorem texts_ofConnective (c : Connective) (ts : List Expr) :
    (ofConnective c ts).texts = (live ts).flatMap texts := by
  cases c <;> simp [ofConnective, texts, liveTexts_eq]

end Expr

theorem Clauses.texts_eq (c : Clauses) : c.texts = (Expr.live c.filters).flatMap Expr.texts := by
  obtain ⟨entityType, filters, projection, groupBy, sort, offset, limit⟩ := c
  rw [Clauses.texts, Expr.liveTexts_eq]

theorem Literal.unmarked_escapeWildcards (cs ds : List Char) :
    unmarked (escape isPatternSpecial cs ++ ds) = cs ++ unmarked ds := by
  induction cs with
  | nil => rfl
  | cons c cs ih =>
    by_cases hslash : c = '\\'
    · subst hslash
      simp [isPatternSpecial, unmarked, ih]
    · by_cases hwild : c = wildcard
      · subst hwild
        simp [isPatternSpecial, unmarked, ih]
      · simp [isPatternSpecial, hslash, hwild, unmarked, ih]

theorem Path.texts_derived (p : Path) (s : String) :
    (p.startsWith s).texts = [s.toList ++ ['%']] ∧ (p.endsWith s).texts = ['%' :: s.toList] ∧
      (p.contains s).texts = ['%' :: (s.toList ++ ['%'])] := by
  have htexts : ∀ pattern : String, (p.like pattern).texts = [Literal.unmarked pattern.toList] := by
    intro pattern
    change (Expr.compare p .like (.text pattern)).texts = _
    rw [Expr.texts]
    rfl
  have hsame := Literal.unmarked_escapeWildcards s.toList
  have hend := hsame []
  rw [Literal.unmarked, List.append_nil, List.append_nil] at hend
  refine ⟨?_, ?_, ?_⟩
  · rw [startsWith, htexts]
    simp [Literal.escapeWildcards, hsame, Literal.unmarked]
  · rw [endsWith, htexts]
    simp [Literal.escapeWildcards, hend, Literal.unmarked]
  · rw [contains, htexts]
    simp [Literal.escapeWildcards, hsame, Literal.unmarked]

/-! ## Values -/

theorem quoteFree_numeral {cs : List Char} (h : IsNumeral cs) : '"' ∉ cs :=
  fun hmem => (IsLiteral.numeral_plain h _ hmem).2.1 rfl

theorem alongside_quote (s t : String) :
    Alongside (Literal.quote s).toList (Literal.quote t).toList [s.toList] [t.toList] :=
  .literal (Literal.readLiteral_quote s) (Literal.readLiteral_quote t)

theorem alongside_encode_same (v : Value) :
    Alongside (Literal.encode v).toList (Literal.encode v).toList v.texts v.texts := by
  cases v with
  | null => exact .plain (by decide)
  | boolean b =>
    cases b with
    | true => exact .plain (by decide)
    | false => exact .plain (by decide)
  | integer n => exact .plain (quoteFree_numeral (isNumeral_int n.toInt))
  | float x =>
    refine .plain ?_
    change '"' ∉ (Literal.ofFloat x).toList
    rcases ofFloat_cases x with hmissing | hnum
    · rw [hmissing]
      decide
    · exact quoteFree_numeral hnum
  | decimal d => exact .plain (quoteFree_numeral (isNumeral_decimal d))
  | text s => exact alongside_quote s s
  | entity e => exact alongside_quote e.id.toText e.id.toText

theorem alongside_encode {v w : Value} (h : v.Alike w) :
    Alongside (Literal.encode v).toList (Literal.encode w).toList v.texts w.texts := by
  cases h with
  | same => exact alongside_encode_same v
  | text s t => exact alongside_quote s t
  | entity entityType s t => exact alongside_quote s t

theorem alongside_values {vs ws : List Value} (h : List.Forall₂ Value.Alike vs ws) :
    Alongside (valuesText vs).toList (valuesText ws).toList (Members.values vs).texts (Members.values ws).texts := by
  cases h with
  | nil =>
    rw [Members.texts]
    exact alongside_quote "" ""
  | @cons v w vs ws hvw hrest =>
    have heach := AlongsideEach.of_forall₂ (fun v => (Literal.encode v).toList) Value.texts
      (List.Forall₂.cons hvw hrest) fun _ _ => alongside_encode
    have hcomma : '"' ∉ ", ".toList := by
      decide
    have hjoined := heach.intercalate hcomma
    rw [Members.texts, Members.texts, valuesText, valuesText]
    simpa [List.map_map, Function.comp_def] using hjoined

/-! ## Expressions -/

namespace Expr

/-- What is carried through two expressions that are the same but for texts. -/
structure RunsAlongside (e f : Expr) : Prop where
  text : Alongside e.text.toList f.text.toList e.texts f.texts
  isEmpty : e.isEmpty = f.isEmpty
  underNot : e.bracketsUnderNot = f.bracketsUnderNot
  inside (c : Connective) : e.bracketsIn c = f.bracketsIn c

theorem RunsAlongside.of_text {e f : Expr} (he : e.isAtomic = true) (hf : f.isAtomic = true)
    (h : Alongside e.text.toList f.text.toList e.texts f.texts) : RunsAlongside e f := by
  have hbrackets := SameBrackets.of_isAtomic he hf
  exact ⟨h, hbrackets.isEmpty, hbrackets.underNot, hbrackets.inside⟩

theorem alongside_predicate {name op a b : List Char} {us vs : List (List Char)} (hname : '"' ∉ name)
    (hop : IsOperator op) (h : Alongside a b us vs) :
    Alongside (name ++ ' ' :: (op ++ ' ' :: a)) (name ++ ' ' :: (op ++ ' ' :: b)) us vs := by
  have hquote : '"' ∉ op := fun hmem => (hop.plain.1 _ hmem).2.1 rfl
  exact .after hname (.cons (by decide) (.after hquote (.cons (by decide) h)))

theorem part_alongside (c : Connective) {t u : Expr} (h : RunsAlongside t u) :
    Alongside (part c t) (part c u) t.texts u.texts := by
  rw [part, part, h.inside c]
  split
  · exact h.text.brackets
  · exact h.text

section groups

variable {ts us : List Expr} (h : List.Forall₂ RunsAlongside ts us)
include h

theorem parts_alongside (c : Connective) :
    Alongside (parts c ts) (parts c us) (ts.flatMap texts) (us.flatMap texts) := by
  have hbetween : '"' ∉ between c := by
    cases c <;> decide
  exact (AlongsideEach.of_forall₂ (part c) texts h fun _ _ => part_alongside c).intercalate hbetween

theorem text_group_alongside (c : Connective) :
    Alongside (ofConnective c ts).text.toList (ofConnective c us).text.toList (ofConnective c ts).texts
      (ofConnective c us).texts := by
  have hlive := forall₂_live RunsAlongside.isEmpty h
  rw [texts_ofConnective, texts_ofConnective]
  generalize hts : live ts = as at hlive
  generalize hus : live us = bs at hlive
  cases hlive with
  | nil =>
    rw [text_of_live_nil c hts, text_of_live_nil c hus]
    exact .nil
  | @cons t u as bs htu hrest =>
    cases hrest with
    | nil =>
      rw [text_of_live_one c hts, text_of_live_one c hus, List.flatMap_singleton, List.flatMap_singleton]
      exact htu.text
    | cons htu' hrest =>
      rw [toList_join c (by simp [hts]), toList_join c (by simp [hus]), hts, hus]
      cases c with
      | and => exact parts_alongside (.cons htu (.cons htu' hrest)) .and
      | or => exact (parts_alongside (.cons htu (.cons htu' hrest)) .or).brackets

theorem group_alongside (c : Connective) : RunsAlongside (ofConnective c ts) (ofConnective c us) := by
  have hlive := forall₂_live RunsAlongside.isEmpty h
  have hbrackets : SameBrackets (ofConnective c ts) (ofConnective c us) :=
    .group c (hlive.imp fun _ _ htu => htu.underNot)
  exact ⟨text_group_alongside h c, hbrackets.isEmpty, hbrackets.underNot, hbrackets.inside⟩

end groups

end Expr

/-! ## Clauses -/

theorem alongside_joinParts {front back : List String} {condition condition' : String} {us vs : List (List Char)}
    (hfront : ∀ part ∈ front, '"' ∉ part.toList) (hback : ∀ part ∈ back, '"' ∉ part.toList)
    (h : Alongside condition.toList condition'.toList us vs) :
    Alongside (joinParts (front ++ (Clauses.conditionParts condition ++ back))).toList
      (joinParts (front ++ (Clauses.conditionParts condition' ++ back))).toList us vs := by
  have hplain : ∀ parts : List String, (∀ part ∈ parts, '"' ∉ part.toList) →
      AlongsideEach (parts.map String.toList) (parts.map String.toList) [] [] := by
    intro parts hparts
    refine .plain ?_
    rw [List.forall_mem_map]
    exact hparts
  have hmiddle : AlongsideEach ((Clauses.conditionParts condition).map String.toList)
      ((Clauses.conditionParts condition').map String.toList) us vs := by
    have hsame : condition = "" ↔ condition' = "" := by
      rw [← String.toList_eq_nil_iff, h.eq_nil_iff, String.toList_eq_nil_iff]
    -- a blank condition is left out with its keyword, and then on both sides
    by_cases hempty : condition = ""
    · have hempty' := hsame.1 hempty
      subst hempty hempty'
      obtain ⟨rfl, rfl⟩ := h.of_nil
      exact .nil
    · have hempty' : condition' ≠ "" := fun h => hempty (hsame.2 h)
      rw [Clauses.conditionParts, Clauses.conditionParts, if_neg (by simpa using hempty),
        if_neg (by simpa using hempty')]
      have hlast := AlongsideEach.cons h .nil
      rw [List.append_nil, List.append_nil] at hlast
      exact .cons (.plain (a := "where".toList) (by decide)) hlast
  rw [toList_joinParts, toList_joinParts]
  simp only [List.map_append]
  have hend := hmiddle.append (hplain back hback)
  rw [List.append_nil, List.append_nil] at hend
  exact ((hplain front hfront).append hend).nonempty.intercalate (by decide)

theorem quoteFree_number {keyword : String} (h : '"' ∉ keyword.toList) (n : Nat) :
    '"' ∉ (keyword ++ toString n).toList := by
  rw [String.toList_append, List.mem_append, not_or]
  exact ⟨h, quoteFree_numeral (isNumeral_toString n)⟩

theorem quoteFree_sortKey {k : SortKey} (h : '"' ∉ k.path.toText.toList) : '"' ∉ k.clause.toList := by
  rw [SortKey.clause]
  split
  · exact h
  · rw [String.toList_append, List.mem_append, not_or]
    exact ⟨h, by decide⟩

namespace Clauses.QuoteFree

variable {c : Clauses} (h : c.QuoteFree)
include h

theorem front (withProjection : Bool) : ∀ part ∈ c.front withProjection, '"' ∉ part.toList := by
  have hplain : ∀ part ∈ ["select", "from"], '"' ∉ part.toList := by
    decide
  intro part hpart
  rcases mem_front hpart with hkeyword | ⟨rfl, -⟩ | rfl
  · exact hplain part hkeyword
  · exact not_mem_intercalate (by decide) h.projection
  · exact h.entityType

theorem back : ∀ part ∈ c.back, '"' ∉ part.toList := by
  have hplain : ∀ part ∈ ["group by", "order by"] ++ ["offset ", "limit "], '"' ∉ part.toList := by
    decide
  intro part hpart
  rcases mem_back hpart with hkeyword | ⟨rfl, -⟩ | ⟨rfl, -⟩ | ⟨keyword, hkeyword, n, rfl⟩
  · exact hplain part (List.mem_append_left _ hkeyword)
  · exact not_mem_intercalate (by decide) h.groupBy
  · refine not_mem_intercalate (by decide) ?_
    rw [List.forall_mem_map]
    exact fun k hk => quoteFree_sortKey (h.sort k hk)
  · exact quoteFree_number (hplain keyword (List.mem_append_right _ hkeyword)) n

theorem alongside {fs : List Expr} (hfilters : List.Forall₂ Expr.RunsAlongside c.filters fs)
    (withProjection : Bool) :
    Alongside (c.text withProjection).toList (({ c with filters := fs } : Clauses).text withProjection).toList
      c.texts ({ c with filters := fs } : Clauses).texts := by
  have hpredicate := Expr.text_group_alongside hfilters .and
  rw [Expr.texts_ofConnective, Expr.texts_ofConnective] at hpredicate
  rw [Clauses.text_eq_parts, Clauses.text_eq_parts, Clauses.texts_eq, Clauses.texts_eq, Clauses.predicate,
    Clauses.predicate, Expr.text_all, Expr.text_all]
  exact alongside_joinParts (h.front withProjection) h.back hpredicate

end Clauses.QuoteFree

/-! ## The induction over expressions -/

namespace Expr

theorem runsAlongside_like {path : Path} (hpath : '"' ∉ path.toText.toList) {p q : String} {u v : List Char}
    (hp : ∀ ds, Literal.readLiteral ((Literal.quotePattern p).toList ++ ds) = some (u, ds))
    (hq : ∀ ds, Literal.readLiteral ((Literal.quotePattern q).toList ++ ds) = some (v, ds))
    (hu : (path.like p).texts = [u]) (hv : (path.like q).texts = [v]) :
    RunsAlongside (path.like p) (path.like q) := by
  refine .of_text rfl rfl ?_
  rw [hu, hv, Path.like, Path.like]
  simp only [Path.compare, toList_compare]
  exact alongside_predicate hpath (.comparison .like) (.literal hp hq)

theorem Alike.runsAlongside {e f : Expr} (h : e.Alike f) : RunsAlongside e f := by
  have hpairs : ∀ {ts us : List Expr}, ts.length = us.length →
      (∀ t u, (t, u) ∈ ts.zip us → RunsAlongside t u) → List.Forall₂ RunsAlongside ts us :=
    fun hlength hzip => List.forall₂_iff_zip.2 ⟨hlength, fun hmem => hzip _ _ hmem⟩
  induction h with
  | @compare path op v w hpath hop hvw =>
    refine .of_text rfl rfl ?_
    rw [toList_compare, toList_compare, operand, operand, texts, texts, hop]
    exact alongside_predicate hpath (.comparison op) (alongside_encode hvw)
  | @startsWith path s t hpath =>
    exact runsAlongside_like hpath (fun ds => (Literal.readLiteral_derived s ds).1)
      (fun ds => (Literal.readLiteral_derived t ds).1) (path.texts_derived s).1 (path.texts_derived t).1
  | @endsWith path s t hpath =>
    exact runsAlongside_like hpath (fun ds => (Literal.readLiteral_derived s ds).2.1)
      (fun ds => (Literal.readLiteral_derived t ds).2.1) (path.texts_derived s).2.1 (path.texts_derived t).2.1
  | @contains path s t hpath =>
    exact runsAlongside_like hpath (fun ds => (Literal.readLiteral_derived s ds).2.2)
      (fun ds => (Literal.readLiteral_derived t ds).2.2) (path.texts_derived s).2.2 (path.texts_derived t).2.2
  | @related path op e f hpath _ ih =>
    refine .of_text rfl rfl ?_
    rw [toList_related, toList_related, texts, texts]
    exact alongside_predicate hpath (.relationship op) ih.text.brackets
  | @values path op vs ws hpath hvalues =>
    refine .of_text rfl rfl ?_
    rw [toList_member, toList_member, texts, texts, Members.text, Members.text]
    exact alongside_predicate hpath (.inclusion op) (alongside_values hvalues).brackets
  | @subquery path op c fs hpath hnames hlength _ ih =>
    refine .of_text rfl rfl ?_
    rw [toList_member, toList_member, texts, texts, Members.text, Members.text, Members.texts, Members.texts]
    exact alongside_predicate hpath (.inclusion op) (hnames.alongside (hpairs hlength ih) true).brackets
  | and hlength _ ih => exact group_alongside (hpairs hlength ih) .and
  | or hlength _ ih => exact group_alongside (hpairs hlength ih) .or
  | @not t u _ ih =>
    refine ⟨?_, rfl, rfl, fun _ => rfl⟩
    rw [toList_not, toList_not, ih.underNot, texts, texts]
    refine .after (by decide) (.cons (by decide) ?_)
    -- both are bracketed or neither is
    split
    · exact ih.text.brackets
    · exact ih.text

end Expr

/-! ## Statements -/

theorem Clauses.Alike.alongside {c d : Clauses} (h : c.Alike d) (withProjection : Bool) :
    Alongside (c.text withProjection).toList (d.text withProjection).toList c.texts d.texts := by
  rw [h.same]
  exact h.quoteFree.alongside (h.filters.imp fun _ _ => Expr.Alike.runsAlongside) withProjection

theorem FieldValues.Alike.alongside {a b : FieldValues} (h : a.Alike b) :
    Alongside a.text.toList b.text.toList a.texts b.texts := by
  have heach := AlongsideEach.of_forall₂ (fun p => (assignmentText p).toList)
    (fun p : String × Value => p.2.texts) h fun p q hpq => by
      obtain ⟨hkey, hfree, hvalue⟩ := hpq
      rw [toList_assignmentText, toList_assignmentText, ← hkey]
      exact .after hfree (.cons (by decide) (alongside_encode hvalue))
  have hcomma : '"' ∉ ", ".toList := by
    decide
  have hjoined := heach.intercalate hcomma
  rw [text_eq, text_eq, String.toList_intercalate, String.toList_intercalate, List.map_map, List.map_map]
  exact hjoined

theorem Statement.Alike.alongside {σ : Type} {s t : Statement σ} (h : s.Alike t) :
    Alongside s.text.toList t.text.toList s.texts t.texts := by
  cases h with
  | select h => exact h.alongside true
  | @insert s t hname htype hvalues =>
    rw [Statement.text, Statement.text, s.toList_text, t.toList_text, ← htype]
    exact .after (by decide) (.after hname hvalues.alongside.brackets)
  | @update s t hclauses hvalues =>
    rw [Statement.text, Statement.text, Update.toList_text, Update.toList_text]
    refine .after (by decide) ((hclauses.alongside false).append (.cons (by decide) (.after (by decide) ?_)))
    exact .cons (by decide) hvalues.alongside.brackets
  | @delete s t hclauses =>
    rw [Statement.text, Statement.text, Delete.toList_text, Delete.toList_text]
    exact .after (by decide) (hclauses.alongside false)

theorem length_contents (ps : List Piece) : (contents ps).length = (outsides ps).count none := by
  induction ps with
  | nil => rfl
  | cons p ps ih =>
    cases p with
    | plain c =>
      change (contents ps).length = (some c :: outsides ps).count none
      rw [ih, List.count_cons_of_ne (by simp)]
    | literal content =>
      change (contents ps).length + 1 = (none :: outsides ps).count none
      rw [ih, List.count_cons_self]

/-- **Other texts fill the gaps between the same characters.** Every literal is closed, there are as many of them,
and each says exactly the text that was put there. -/
theorem Statement.texts_fill_gaps_only {σ : Type} {s t : Statement σ} (h : s.Alike t) :
    ∃ ps qs, cut s.text.toList = some ps ∧ cut t.text.toList = some qs ∧ outsides ps = outsides qs ∧
      (contents ps).length = (contents qs).length ∧ contents ps = s.texts ∧ contents qs = t.texts := by
  obtain ⟨ps, qs, hps, hqs, hout, hs, ht⟩ := h.alongside
  refine ⟨ps, qs, hps.cut_eq, hqs.cut_eq, hout, ?_, hs, ht⟩
  rw [length_contents, length_contents, hout]

/-- Quotes, brackets, keywords and backslashes in three texts of an update stay inside their literals. -/
theorem texts_of_update_fill_gaps :
    ∃ ps qs,
      cut "update Task where name is \"a\" and note like \"b%\" set (note=\"c\")".toList = some ps ∧
      cut "update Task where name is \"\\\" or (\" and note like \"5\\%\\\\%\" set (note=\"\\\\\")".toList = some qs ∧
      outsides ps = outsides qs ∧ (contents ps).length = (contents qs).length ∧
      contents ps = ["a".toList, "b%".toList, "c".toList] ∧
      contents qs = ["\" or (".toList, "5%\\%".toList, "\\".toList] := by
  have hclauses : Clauses.Alike
      { entityType := "Task", filters := [.compare ⟨["name"]⟩ .equal (.text "a"), Path.startsWith ⟨["note"]⟩ "b"] }
      { entityType := "Task"
        filters := [.compare ⟨["name"]⟩ .equal (.text "\" or ("), Path.startsWith ⟨["note"]⟩ "5%\\"] } :=
    ⟨⟨by decide, List.forall_mem_nil _, List.forall_mem_nil _, List.forall_mem_nil _⟩, rfl,
      .cons (.compare (by decide) rfl (.text _ _)) (.cons (.startsWith _ _ (by decide)) .nil)⟩
  have hvalues : FieldValues.Alike ⟨[("note", .text "c")]⟩ ⟨[("note", .text "\\")]⟩ :=
    .cons ⟨rfl, by decide, .text _ _⟩ .nil
  have halike : Statement.Alike (σ := Unit) (.update ⟨_, _, none, none⟩) (.update ⟨_, _, none, none⟩) :=
    .update hclauses hvalues
  exact Statement.texts_fill_gaps_only halike

end EntityQuery
