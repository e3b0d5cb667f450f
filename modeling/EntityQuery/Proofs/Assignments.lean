import EntityQuery.Proofs.Decoding

/-!
# Assignments are known by their text, whatever stands before them

The text of an update ends in its assignments between brackets, and what stands before the brackets may hold brackets
and quotes of its own. If the keys are plain (`IsPlainKey`) the text still tells where the assignments begin
(`split_at_listing`) and what they are (`FieldValues.assignments_eq_of_plainKeys`).

Suppose a listing could also be read from the middle of another one. The bracket before it stands in a literal of the
other. From there on the two readings are opposed: each quote follows an equals sign, so it opens a literal for one
reading and closes one for the other (`Opposed.step`). They cannot both end outside.
-/

namespace EntityQuery

/-! ## Reading a listing -/

/-- The key holds none of the characters that set off a literal or the whole listing. -/
def IsPlainKey (key : String) : Prop := ∀ c ∈ key.toList, c ≠ '"' ∧ c ≠ '=' ∧ c ≠ '('

instance (key : String) : Decidable (IsPlainKey key) := List.decidableBAll _ key.toList

inductive Standing where
  /-- Outside literals, perhaps right after an equals sign. -/
  | outside (assigning : Bool)
  | inside (escaped : Bool)
  /-- Past something that no listing with plain keys holds. -/
  | lost

namespace Standing

/-- Outside literals a quote may only follow an equals sign, and an opening bracket may not stand at all. -/
def step : Standing → Char → Standing
  | outside assigning, c =>
    if c = '(' then lost
    else if c = '"' then (if assigning then inside false else lost)
    else outside (c == '=')
  | inside true, _ => inside false
  | inside false, c => if c = '\\' then inside true else if c = '"' then outside false else inside false
  | lost, _ => lost

def run (s : Standing) (cs : List Char) : Standing := cs.foldl step s

variable {s t : Standing} {cs ds : List Char}

theorem run_append (s : Standing) (cs ds : List Char) : s.run (cs ++ ds) = (s.run cs).run ds := List.foldl_append

/-! ## Opposed readings -/

/-- One reading stands outside literals where the other stands inside, and no quote that comes next is marked for the
one while it would open a literal for the other. A reading that is lost is opposed to any. -/
inductive Opposed : Standing → Standing → Prop
  | outside {assigning escaped : Bool} : (assigning && escaped) = false → Opposed (outside assigning) (inside escaped)
  | inside {assigning escaped : Bool} : (assigning && escaped) = false → Opposed (inside escaped) (outside assigning)
  | lost_left (t : Standing) : Opposed lost t
  | lost_right (s : Standing) : Opposed s lost

theorem Opposed.symm (h : Opposed s t) : Opposed t s := by
  cases h with
  | outside h => exact .inside h
  | inside h => exact .outside h
  | lost_left t => exact .lost_right t
  | lost_right s => exact .lost_left s

theorem opposed_step_outside {assigning escaped : Bool} (h : (assigning && escaped) = false) (c : Char) :
    Opposed ((outside assigning).step c) ((Standing.inside escaped).step c) := by
  by_cases hbracket : c = '('
  · subst hbracket
    exact .lost_left _
  by_cases hquote : c = '"'
  · subst hquote
    cases assigning with
    | false => exact .lost_left _
    | true =>
      -- what opens a literal here is not marked over there, so it closes one
      obtain rfl : escaped = false := by simpa using h
      exact .inside rfl
  have houtside : (outside assigning).step c = outside (c == '=') := by
    rw [step, if_neg hbracket, if_neg hquote]
  rw [houtside]
  cases escaped with
  | true => exact .outside (Bool.and_false _)
  | false =>
    by_cases hslash : c = '\\'
    · subst hslash
      exact .outside rfl
    · rw [step, if_neg hslash, if_neg hquote]
      exact .outside (Bool.and_false _)

theorem Opposed.step (h : Opposed s t) (c : Char) : Opposed (s.step c) (t.step c) := by
  cases h with
  | outside h => exact opposed_step_outside h c
  | inside h => exact (opposed_step_outside h c).symm
  | lost_left t => exact .lost_left _
  | lost_right s => exact .lost_right _

theorem Opposed.run (h : Opposed s t) (cs : List Char) : Opposed (s.run cs) (t.run cs) := by
  induction cs generalizing s t with
  | nil => exact h
  | cons c cs ih => exact ih (h.step c)

theorem opposed_step_bracket (s : Standing) : Opposed (outside false) (s.step '(') := by
  match s with
  | outside assigning => exact .lost_right _
  | inside true => exact .outside rfl
  | inside false => exact .outside rfl
  | lost => exact .lost_right _

end Standing

open Standing

variable {cs ds x y : List Char}

/-! ## Texts that end outside -/

/-- A reading that comes to the text outside literals leaves it outside literals. -/
def EndsOutside (cs : List Char) : Prop := ∀ assigning, ∃ assigning', (outside assigning).run cs = outside assigning'

namespace EndsOutside

theorem nil : EndsOutside [] := fun assigning => ⟨assigning, rfl⟩

theorem append (hc : EndsOutside cs) (hd : EndsOutside ds) : EndsOutside (cs ++ ds) := by
  intro assigning
  obtain ⟨between, hfirst⟩ := hc assigning
  obtain ⟨last, hsecond⟩ := hd between
  exact ⟨last, by rw [run_append, hfirst, hsecond]⟩

theorem of_plain (h : ∀ c ∈ cs, c ≠ '"' ∧ c ≠ '(') : EndsOutside cs := by
  induction cs with
  | nil => exact .nil
  | cons c cs ih =>
    intro assigning
    obtain ⟨⟨hquote, hbracket⟩, hrest⟩ := List.forall_mem_cons.1 h
    have hstep : (outside assigning).step c = outside (c == '=') := by
      rw [step, if_neg hbracket, if_neg hquote]
    obtain ⟨last, hlast⟩ := ih hrest (c == '=')
    exact ⟨last, by rw [run, List.foldl_cons, hstep]; exact hlast⟩

theorem intercalate {sep : List Char} {parts : List (List Char)} (hsep : EndsOutside sep)
    (h : ∀ part ∈ parts, EndsOutside part) : EndsOutside (sep.intercalate parts) := by
  induction parts with
  | nil => exact .nil
  | cons part rest ih =>
    obtain ⟨hpart, hrest⟩ := List.forall_mem_cons.1 h
    cases rest with
    | nil => rwa [List.intercalate_singleton]
    | cons next rest =>
      rw [List.intercalate_cons_cons]
      exact (hpart.append hsep).append (ih hrest)

end EndsOutside

theorem run_escape (cs : List Char) : (inside false).run (Literal.escape Literal.isQuoteSpecial cs) = inside false := by
  induction cs with
  | nil => rfl
  | cons c cs ih =>
    have hchar : (inside false).run (if Literal.isQuoteSpecial c then ['\\', c] else [c]) = inside false := by
      by_cases hspecial : Literal.isQuoteSpecial c
      · rw [if_pos hspecial]
        rfl
      · rw [if_neg hspecial]
        have hplain : c ≠ '\\' ∧ c ≠ '"' := by
          simpa [Literal.isQuoteSpecial] using hspecial
        change (inside false).step c = _
        rw [step, if_neg hplain.1, if_neg hplain.2]
    rw [Literal.escape_cons, run_append, hchar, ih]

theorem endsOutside_quote (s : String) : EndsOutside ('=' :: (Literal.quote s).toList) := by
  intro assigning
  refine ⟨false, ?_⟩
  rw [Literal.toList_quote]
  change (inside false).run (Literal.escape _ s.toList ++ ['"']) = _
  rw [run_append, run_escape]
  rfl

/-! ## Values in a listing -/

/-- A literal without quotes holds none of the characters that set off literals or assignments. -/
def IsBare (cs : List Char) : Prop := ∀ c ∈ cs, c ≠ '"' ∧ c ≠ '(' ∧ c ≠ ','

instance (cs : List Char) : Decidable (IsBare cs) := List.decidableBAll _ cs

theorem IsNumeral.isBare (h : IsNumeral cs) : IsBare cs := by
  intro c hc
  obtain ⟨-, hquote, hopen, -, hcomma⟩ := IsLiteral.numeral_plain h c hc
  exact ⟨hquote, hopen, hcomma⟩

theorem encode_quoted_or_bare (v : Value) :
    (∃ s, Literal.encode v = Literal.quote s) ∨ IsBare (Literal.encode v).toList := by
  have hmissing : IsBare Literal.missing.toList := by decide
  cases v with
  | text s => exact .inl ⟨s, rfl⟩
  | entity e => exact .inl ⟨e.id.toText, rfl⟩
  | null => exact .inr hmissing
  | boolean b =>
    right
    cases b with
    | true => decide
    | false => decide
  | integer n => exact .inr (isNumeral_int n.toInt).isBare
  | decimal d => exact .inr (isNumeral_decimal d).isBare
  | float x =>
    right
    obtain hnone | hnumeral := ofFloat_cases x
    · rw [Literal.encode, hnone]
      exact hmissing
    · exact hnumeral.isBare

theorem endsOutside_encode (v : Value) : EndsOutside ('=' :: (Literal.encode v).toList) := by
  obtain ⟨s, hquoted⟩ | hbare := encode_quoted_or_bare v
  · rw [hquoted]
    exact endsOutside_quote s
  · exact .of_plain (List.forall_mem_cons.2 ⟨by decide, fun c hc => ⟨(hbare c hc).1, (hbare c hc).2.1⟩⟩)

def AtComma (rest : List Char) : Prop := rest = [] ∨ rest.head? = some ','

theorem IsBare.takeWhile_append {rest : List Char} (h : IsBare cs) (hrest : AtComma rest) :
    (cs ++ rest).takeWhile (· != ',') = cs := by
  have hkept : ∀ c ∈ cs, (c != ',') = true := fun c hc => bne_iff_ne.2 (h c hc).2.2
  rw [List.takeWhile_append_of_pos hkept]
  obtain rfl | hcomma := hrest
  · exact List.append_nil cs
  · obtain ⟨tail, rfl⟩ := List.head?_eq_some_iff.1 hcomma
    exact List.append_nil cs

theorem IsBare.ne_quote_append {s : String} {rest rest' : List Char} (h : IsBare cs) (hrest : AtComma rest) :
    (Literal.quote s).toList ++ rest' ≠ cs ++ rest := by
  rw [Literal.toList_quote]
  intro hsame
  cases cs with
  | nil =>
    have hhead := congrArg List.head? hsame
    obtain rfl | hcomma := hrest
    · cases hhead
    · rw [List.nil_append, hcomma] at hhead
      cases hhead
  | cons c cs =>
    obtain rfl := (List.cons.inj hsame).1
    exact (h _ List.mem_cons_self).1 rfl

theorem encode_append_inj {v w : Value} {rest rest' : List Char} (hrest : AtComma rest) (hrest' : AtComma rest')
    (h : (Literal.encode v).toList ++ rest = (Literal.encode w).toList ++ rest') :
    Literal.encode v = Literal.encode w ∧ rest = rest' := by
  obtain ⟨s, hs⟩ | hv := encode_quoted_or_bare v
  · obtain ⟨u, hu⟩ | hw := encode_quoted_or_bare w
    · rw [hs, hu] at h ⊢
      obtain ⟨rfl, hsame⟩ := Literal.quote_append_inj h
      exact ⟨rfl, hsame⟩
    · rw [hs] at h
      exact absurd h (hw.ne_quote_append hrest')
  · obtain ⟨u, hu⟩ | hw := encode_quoted_or_bare w
    · rw [hu] at h
      exact absurd h.symm (hv.ne_quote_append hrest)
    · have hsame : (Literal.encode v).toList = (Literal.encode w).toList := by
        rw [← hv.takeWhile_append hrest, h, hw.takeWhile_append hrest']
      rw [hsame] at h
      exact ⟨String.toList_inj.1 hsame, List.append_cancel_left h⟩

/-! ## The listing -/

namespace FieldValues

def listed (fields : List (String × Value)) : List Char :=
  fields.flatMap fun p => ',' :: ' ' :: (assignmentText p).toList

theorem atComma_listed (fields : List (String × Value)) : AtComma (listed fields) := by
  cases fields with
  | nil => exact .inl rfl
  | cons p rest => exact .inr rfl

theorem toList_text_cons (p : String × Value) (rest : List (String × Value)) :
    (text ⟨p :: rest⟩).toList = (assignmentText p).toList ++ listed rest := by
  rw [text_eq, String.toList_intercalate]
  induction rest generalizing p with
  | nil =>
    rw [List.map_singleton, List.map_singleton, List.intercalate_singleton]
    exact (List.append_nil _).symm
  | cons q rest ih =>
    have hrest := ih q
    simp only [List.map_cons] at hrest ⊢
    rw [List.intercalate_cons_cons, hrest, List.append_assoc]
    rfl

theorem listed_cons_of_text (p : String × Value) (rest : List (String × Value)) :
    listed (p :: rest) = ',' :: ' ' :: (text ⟨p :: rest⟩).toList := by
  rw [toList_text_cons]
  rfl

theorem assignments_eq_of_listed {fs gs : List (String × Value)} (hf : ∀ p ∈ fs, IsPlainKey p.1)
    (hg : ∀ p ∈ gs, IsPlainKey p.1) (h : listed fs = listed gs) : assignments ⟨fs⟩ = assignments ⟨gs⟩ := by
  have hequals {key : String} (hkey : IsPlainKey key) : '=' ∉ key.toList := fun hmem => (hkey _ hmem).2.1 rfl
  induction fs generalizing gs with
  | nil =>
    cases gs with
    | nil => rfl
    | cons q gs => cases h
  | cons p fs ih =>
    cases gs with
    | nil => cases h
    | cons q gs =>
      obtain ⟨hp, hfs⟩ := List.forall_mem_cons.1 hf
      obtain ⟨hq, hgs⟩ := List.forall_mem_cons.1 hg
      have hfirst : (assignmentText p).toList ++ listed fs = (assignmentText q).toList ++ listed gs :=
        (List.cons.inj (List.cons.inj h).2).2
      rw [toList_assignmentText, toList_assignmentText, List.append_assoc, List.append_assoc] at hfirst
      -- a plain key ends at the first equals sign, and a literal is told from what follows it
      obtain ⟨hkey, hvalues⟩ := split_at_first (hequals hp) (hequals hq) hfirst
      obtain ⟨hvalue, hrest⟩ := encode_append_inj (atComma_listed fs) (atComma_listed gs) hvalues
      have htail := ih hfs hgs hrest
      have hhead : (p.1, Literal.encode p.2) = (q.1, Literal.encode q.2) :=
        Prod.ext (String.toList_inj.1 hkey) hvalue
      exact List.cons_eq_cons.2 ⟨hhead, htail⟩

/-- **Assignments with plain keys are known by their text.** -/
theorem assignments_eq_of_plainKeys {a b : FieldValues} (ha : ∀ p ∈ a.fields, IsPlainKey p.1)
    (hb : ∀ p ∈ b.fields, IsPlainKey p.1) (h : a.text.toList = b.text.toList) : a.assignments = b.assignments := by
  obtain ⟨fs⟩ := a
  obtain ⟨gs⟩ := b
  cases fs with
  | nil =>
    cases gs with
    | nil => rfl
    | cons q gs => exact absurd h.symm (text_ne_nil (List.cons_ne_nil q gs))
  | cons p fs =>
    cases gs with
    | nil => exact absurd h (text_ne_nil (List.cons_ne_nil p fs))
    | cons q gs =>
      refine assignments_eq_of_listed ha hb ?_
      rw [listed_cons_of_text, listed_cons_of_text, h]

theorem endsOutside_assignment {p : String × Value} (h : IsPlainKey p.1) : EndsOutside (assignmentText p).toList := by
  rw [toList_assignmentText]
  exact .append (.of_plain fun c hc => ⟨(h c hc).1, (h c hc).2.2⟩) (endsOutside_encode p.2)

theorem endsOutside_text {a : FieldValues} (h : ∀ p ∈ a.fields, IsPlainKey p.1) : EndsOutside a.text.toList := by
  rw [text_eq, String.toList_intercalate]
  have hseparator : EndsOutside ", ".toList := fun _ => ⟨false, rfl⟩
  refine hseparator.intercalate ?_
  intro part hpart
  rw [List.map_map] at hpart
  obtain ⟨p, hp, rfl⟩ := List.mem_map.1 hpart
  exact endsOutside_assignment (h p hp)

end FieldValues

/-! ## Where the listing begins -/

theorem EndsOutside.ne_append_bracket (hcs : EndsOutside cs) (hds : EndsOutside ds) : cs ≠ x ++ '(' :: ds := by
  intro hsplit
  obtain ⟨last, hlast⟩ := hcs false
  obtain ⟨last', hlast'⟩ := hds false
  have hopposed : Opposed ((outside false).run ds) ((((outside false).run x).step '(').run ds) :=
    (opposed_step_bracket _).run ds
  have hwhole : (((outside false).run x).step '(').run ds = outside last := by
    rw [← hlast, hsplit, Standing.run_append]
    rfl
  rw [hlast', hwhole] at hopposed
  cases hopposed

/-- The last bracket that is followed by a listing is where it begins, whatever stands before it. -/
theorem split_at_listing (hcs : EndsOutside cs) (hds : EndsOutside ds) (h : x ++ '(' :: cs = y ++ '(' :: ds) :
    x = y ∧ cs = ds := by
  obtain ⟨z, hy, hbracket⟩ | ⟨z, hx, hbracket⟩ := List.append_eq_append_iff.1 h
  · cases z with
    | nil =>
      rw [List.append_nil] at hy
      exact ⟨hy.symm, (List.cons.inj hbracket).2⟩
    | cons c z => exact absurd (List.cons.inj hbracket).2 (hcs.ne_append_bracket hds)
  · cases z with
    | nil =>
      rw [List.append_nil] at hx
      exact ⟨hx, (List.cons.inj hbracket).2.symm⟩
    | cons c z => exact absurd (List.cons.inj hbracket).2 (hds.ne_append_bracket hcs)

theorem Update.eq_of_text {σ : Type} {s t : Update σ} (hs : ∀ p ∈ s.effect.fields, IsPlainKey p.1)
    (ht : ∀ p ∈ t.effect.fields, IsPlainKey p.1) (h : Update.text s = Update.text t) :
    s.queryText = t.queryText ∧ s.effect.assignments = t.effect.assignments := by
  have hsplit (u : Update σ) : (Update.text u).toList =
      ("update ".toList ++ u.queryText.toList ++ " set ".toList) ++ '(' :: (u.effect.text.toList ++ [')']) := by
    rw [Update.toList_text, List.append_assoc, List.append_assoc]
    rfl
  have hclosing : EndsOutside [')'] := fun _ => ⟨false, rfl⟩
  have hchars := congrArg String.toList h
  rw [hsplit, hsplit] at hchars
  obtain ⟨hfront, hlisting⟩ := split_at_listing ((FieldValues.endsOutside_text hs).append hclosing)
    ((FieldValues.endsOutside_text ht).append hclosing) hchars
  constructor
  · exact String.toList_inj.1 (List.append_cancel_left (List.append_cancel_right hfront))
  · exact FieldValues.assignments_eq_of_plainKeys hs ht (List.append_cancel_right hlisting)

end EntityQuery
