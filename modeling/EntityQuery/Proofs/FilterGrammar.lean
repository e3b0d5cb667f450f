import EntityQuery.Proofs.Backtracking
import EntityQuery.Proofs.FreeSpacing
import EntityQuery.Proofs.TypedFilters

/-!
# The grammar of filter texts

A filter text is white space, a key, white space, an operator and a remainder that is one line once it is trimmed
(`FilterText`). These texts and no others are accepted, and each for the comparison that it spells
(`splitFilter?_chars`, `exists_of_splitFilter?`).

The same grammar as a regular expression is `filterPattern`. It looks ambiguous, since white space may belong to the
remainder or not and `>=` may be read as `>` and a remainder. But the key cannot be shortened, an operator can be
shortened only if the remainder was no line, and then it is none either (`captures_operatorPattern`). So the groups of
the first match are the parts that are read (`captures_filterPattern`).
-/

namespace EntityQuery.CommandLine

open Text

structure FilterText where
  front : List Char
  key : List Char
  gap : List Char
  sign : List Char
  op : Comparison
  rest : List Char
  front_blank : ∀ c ∈ front, isBlankChar c = true
  key_ne_nil : key ≠ []
  key_chars : ∀ c ∈ key, isKeyChar c = true
  /-- The key goes on as long as there are characters of a key. -/
  key_whole : ∀ c ∈ (gap ++ (sign ++ rest)).head?, isKeyChar c = false
  gap_blank : ∀ c ∈ gap, isBlankChar c = true
  typed : (sign, op) ∈ typedOperators
  /-- An operator of two characters is not taken for one of one. -/
  sign_whole : ∀ other ∈ typedOperators, other.1 <+: sign ++ rest → other.1.length ≤ sign.length
  one_line : '\n' ∉ trimChars rest

namespace FilterText

def chars (t : FilterText) : List Char := t.front ++ (t.key ++ (t.gap ++ (t.sign ++ t.rest)))

def predicate (t : FilterText) : Expr :=
  .compare (.ofText (String.ofList t.key)) t.op (readValue (String.ofList t.rest))

end FilterText

/-! ## Operators -/

theorem isBlankChar_of_isKeyChar {c : Char} (h : isKeyChar c = true) : isBlankChar c = false :=
  isNameChar_not_blank (isNameChar_of_isKeyChar h)

theorem isKeyChar_of_isBlankChar {c : Char} (h : isBlankChar c = true) : isKeyChar c = false := by
  cases hkey : isKeyChar c with
  | false => rfl
  | true => rw [isBlankChar_of_isKeyChar hkey] at h; cases h

theorem head_typedOperators :
    ∀ typed ∈ typedOperators, ∃ d rest, typed.1 = d :: rest ∧ isBlankChar d = false ∧ isKeyChar d = false := by
  have htest : typedOperators.all (fun typed => typed.1.head?.any fun d => !isBlankChar d && !isKeyChar d) = true := by
    decide
  intro typed htyped
  have hhead := List.all_eq_true.1 htest typed htyped
  cases hsign : typed.1 with
  | nil => simp [hsign] at hhead
  | cons d rest => exact ⟨d, rest, rfl, by simpa [hsign] using hhead⟩

theorem readOperator?_eq_some_iff {cs rest : List Char} {op : Comparison} :
    readOperator? cs = some (op, rest) ↔ StartsWith op cs rest := by
  refine ⟨readOperator?_startsWith, ?_⟩
  rintro ⟨sign, hsign, rfl, hwhole⟩
  simp only [typedOperators, List.mem_cons, Prod.mk.injEq, List.not_mem_nil, or_false] at hsign
  rcases hsign with ⟨rfl, rfl⟩ | ⟨rfl, rfl⟩ | ⟨rfl, rfl⟩ | ⟨rfl, rfl⟩ | ⟨rfl, rfl⟩ | ⟨rfl, rfl⟩ | ⟨rfl, rfl⟩
  case inr.inr.inr.inr.inl | inr.inr.inr.inr.inr.inl =>
    -- an equals sign behind it would make a longer operator
    cases rest with
    | nil => rfl
    | cons c rest =>
      by_cases hc : c = '='
      · subst hc
        simp [typedOperators] at hwhole
      · simp [readOperator?, hc]
  all_goals rfl

/-! ## Reading filter texts -/

namespace FilterText

theorem startsWith (t : FilterText) : StartsWith t.op (t.sign ++ t.rest) t.rest := ⟨t.sign, t.typed, rfl, t.sign_whole⟩

theorem splitFilter?_chars (t : FilterText) : splitFilter? t.chars = some (t.key, t.op, trimChars t.rest) := by
  obtain ⟨d, more, hsign, hblank, -⟩ : ∃ d more, t.sign = d :: more ∧ _ := head_typedOperators _ t.typed
  have hfront : trimFront t.chars = t.key ++ (t.gap ++ (t.sign ++ t.rest)) := by
    rw [chars, trimFront_append_of_blank t.front_blank, trimFront_eq_self_iff]
    intro c hc
    obtain ⟨x, key, hkey⟩ := List.exists_cons_of_ne_nil t.key_ne_nil
    rw [hkey] at hc
    cases hc
    exact isBlankChar_of_isKeyChar (t.key_chars _ (by simp [hkey]))
  have hgap : trimFront (t.gap ++ (t.sign ++ t.rest)) = t.sign ++ t.rest := by
    rw [trimFront_append_of_blank t.gap_blank, trimFront_eq_self_iff, hsign]
    intro c hc
    cases hc
    exact hblank
  rw [splitFilter?]
  simp only [hfront, takeWhile_run t.key_chars t.key_whole, dropWhile_run t.key_chars t.key_whole, hgap,
    readOperator?_eq_some_iff.2 t.startsWith]
  simp [t.key_ne_nil, t.one_line]

end FilterText

theorem exists_of_splitFilter? {cs key value : List Char} {op : Comparison}
    (h : splitFilter? cs = some (key, op, value)) :
    ∃ t : FilterText, cs = t.chars ∧ t.key = key ∧ t.op = op ∧ trimChars t.rest = value := by
  obtain ⟨rest, rfl, rfl, hkey, hline, sign, htyped, hsigned, hwhole⟩ := splitFilter?_eq_some h
  set trimmed := trimFront cs with htrimmed
  have hafter : trimmed.dropWhile isKeyChar =
      (trimmed.dropWhile isKeyChar).takeWhile isBlankChar ++ (sign ++ rest) := by
    rw [← hsigned, trimFront, List.takeWhile_append_dropWhile]
  rw [hsigned] at hwhole
  refine ⟨{
    front := cs.takeWhile isBlankChar
    key := trimmed.takeWhile isKeyChar
    gap := (trimmed.dropWhile isKeyChar).takeWhile isBlankChar
    sign := sign
    op := op
    rest := rest
    front_blank := fun c hc => List.mem_takeWhile_imp hc
    key_ne_nil := hkey
    key_chars := fun c hc => List.mem_takeWhile_imp hc
    key_whole := ?_
    gap_blank := fun c hc => List.mem_takeWhile_imp hc
    typed := htyped
    sign_whole := hwhole
    one_line := hline }, ?_, rfl, rfl, rfl⟩
  · rw [← hafter]
    exact head?_dropWhile isKeyChar trimmed
  · change cs = cs.takeWhile isBlankChar ++ (trimmed.takeWhile isKeyChar ++
      ((trimmed.dropWhile isKeyChar).takeWhile isBlankChar ++ (sign ++ rest)))
    rw [← hafter, List.takeWhile_append_dropWhile, htrimmed, trimFront, List.takeWhile_append_dropWhile]

/-! ## The pattern -/

def operatorPattern : Regex :=
  .seq (.named "op" (.oneOf (typedOperators.map Prod.fst))) (.paddedLine "value" (· != '\n'))

/-- The form of a filter as a regular expression. -/
def filterPattern : Regex :=
  .seq (.greedy isBlankChar) (.seq (.named "key" (.oneOrMore isKeyChar)) (.seq (.greedy isBlankChar) operatorPattern))

def matchFilter (s : String) : Except Error Expr :=
  match filterPattern.captures s.toList with
  | none => .error (.invalidFilter s)
  | some groups =>
    match typedOperators.lookup (Regex.groupText groups "op") with
    | none => .error (.invalidFilter (String.ofList (Regex.groupText groups "op")))
    | some op =>
      .ok ((Path.ofText (String.ofList (Regex.groupText groups "key"))).compare op
        (readValue (String.ofList (Regex.groupText groups "value"))))

def signOf (op : Comparison) : List Char := ((typedOperators.find? (·.2 = op)).map Prod.fst).getD []

def shorterSigns : Comparison → List (List Char)
  | .greaterOrEqual => [['>']]
  | .lessOrEqual => [['<']]
  | _ => []

theorem signs_of_readOperator? {cs rest : List Char} {op : Comparison} (h : readOperator? cs = some (op, rest)) :
    cs = signOf op ++ rest ∧
      (typedOperators.map Prod.fst).filter (·.isPrefixOf cs) = signOf op :: shorterSigns op := by
  unfold readOperator? at h
  split at h
  case h_1 | h_2 | h_3 | h_4 | h_7 =>
    cases h
    exact ⟨rfl, by simp [typedOperators, signOf, shorterSigns]⟩
  case h_5 hother | h_6 hother =>
    cases h
    have hshort : ¬ ['='] <+: rest := by
      rintro ⟨more, rfl⟩
      exact hother more rfl
    exact ⟨rfl, by simp [typedOperators, signOf, shorterSigns, hshort]⟩
  case h_8 => cases h

theorem no_sign_of_readOperator? {cs : List Char} (h : readOperator? cs = none) :
    (typedOperators.map Prod.fst).filter (·.isPrefixOf cs) = [] := by
  rw [List.filter_eq_nil_iff]
  intro sign hsign hstarts
  obtain ⟨typed, htyped, rfl⟩ := List.mem_map.1 hsign
  obtain ⟨rest, rfl⟩ := List.isPrefixOf_iff_prefix.1 hstarts
  simp only [typedOperators, List.mem_cons, List.not_mem_nil, or_false] at htyped
  unfold readOperator? at h
  split at h
  case h_8 hne hge hle heq hgt hlt hlike =>
    rcases htyped with rfl | rfl | rfl | rfl | rfl | rfl | rfl
    · exact hne rest rfl
    · exact hge rest rfl
    · exact hle rest rfl
    · exact heq rest rfl
    · exact hgt rest rfl
    · exact hlt rest rfl
    · exact hlike rest rfl
  all_goals cases h

def operatorGroups (sign rest : List Char) : Option (List (String × List Char)) :=
  if '\n' ∈ trimChars rest then none else some [("op", sign), ("value", trimChars rest)]

theorem captures_line (rest : List Char) : (Regex.paddedLine "value" (· != '\n')).captures rest =
    if '\n' ∈ trimChars rest then none else some [("value", trimChars rest)] := by
  have hline : (trimChars rest).all (· != '\n') = true ↔ '\n' ∉ trimChars rest := by simp [List.all_bne']
  rw [Regex.captures_paddedLine]
  by_cases h : '\n' ∈ trimChars rest
  · rw [if_neg fun hall => hline.1 hall h, if_pos h]
  · rw [if_pos (hline.2 h), if_neg h]

theorem newline_mem_trimChars_cons {c : Char} {rest : List Char} (hc : isBlankChar c = false)
    (h : '\n' ∈ trimChars rest) : '\n' ∈ trimChars (c :: rest) := by
  have hfront : trimFront (c :: rest) = c :: rest := by simp [trimFront, hc]
  rw [trimChars, hfront, trimBack_cons_of_not_blank hc]
  rw [trimChars, ← trimFront_trimBack] at h
  exact List.mem_cons_of_mem c ((List.dropWhile_suffix isBlankChar).subset h)

/-- **The first operator that leads to a match is the one that is read**: where `>=` leads to none, `>` does not either.
-/
theorem captures_operatorPattern (cs : List Char) : operatorPattern.captures cs =
    (readOperator? cs).bind fun read => operatorGroups (signOf read.1) read.2 := by
  have hgroups (sign rest : List Char) :
      ((Regex.paddedLine "value" (· != '\n')).captures rest).map (("op", sign) :: ·) = operatorGroups sign rest := by
    rw [captures_line, operatorGroups]
    split <;> rfl
  rw [operatorPattern, Regex.captures_oneOf]
  simp only [hgroups]
  cases hread : readOperator? cs with
  | none =>
    rw [no_sign_of_readOperator? hread]
    rfl
  | some read =>
    obtain ⟨op, rest⟩ := read
    obtain ⟨rfl, hsigns⟩ := signs_of_readOperator? hread
    have hfirst : (signOf op ++ rest).drop (signOf op).length = rest := List.drop_left
    rw [hsigns, List.findSome?_cons, hfirst, Option.bind_some]
    cases hline : operatorGroups (signOf op) rest with
    | some groups => rfl
    | none =>
      dsimp only
      -- the remainder is no line, and a shorter operator only leaves more of the text as its remainder
      have hbroken : '\n' ∈ trimChars rest := by
        by_contra h
        rw [operatorGroups, if_neg h] at hline
        cases hline
      have hequals (sign : List Char) : operatorGroups sign ('=' :: rest) = none :=
        if_pos (newline_mem_trimChars_cons (by decide) hbroken)
      cases op with
      | greaterOrEqual => exact List.findSome?_singleton.trans (hequals ['>'])
      | lessOrEqual => exact List.findSome?_singleton.trans (hequals ['<'])
      | _ => rfl

theorem refuses_operatorPattern {p : Char → Bool} (h : ∀ c, p c = true → isBlankChar c = true ∨ isKeyChar c = true) :
    operatorPattern.Refuses p := by
  refine .seq (.named (Regex.refuses_oneOf fun c hc sign hsign => ?_) _) _
  obtain ⟨typed, htyped, rfl⟩ := List.mem_map.1 hsign
  obtain ⟨d, rest, hd, hblank, hkey⟩ := head_typedOperators typed htyped
  refine ⟨d, rest, hd, ?_⟩
  rintro rfl
  simpa [hblank, hkey] using h c hc

/-- **The groups of the first match are the parts that are read.** -/
theorem captures_filterPattern (cs : List Char) : filterPattern.captures cs =
    (splitFilter? cs).map fun read => [("key", read.1), ("op", signOf read.2.1), ("value", read.2.2)] := by
  have hgap : operatorPattern.Refuses isBlankChar := refuses_operatorPattern fun _ => .inl
  have hkey : (Regex.seq (.greedy isBlankChar) operatorPattern).Refuses isKeyChar :=
    .skip (refuses_operatorPattern fun _ => .inr) fun _ => isBlankChar_of_isKeyChar
  have hfront : (Regex.seq (.named "key" (.oneOrMore isKeyChar)) (.seq (.greedy isBlankChar) operatorPattern)).Refuses
      isBlankChar :=
    .seq (.named (.seq (Regex.refuses_one fun _ => isKeyChar_of_isBlankChar) _) _) _
  rw [filterPattern, Regex.captures_skip hfront, Regex.captures_word hkey, Regex.captures_skip hgap,
    captures_operatorPattern, splitFilter?]
  change (if (trimFront cs).takeWhile isKeyChar = [] then none else
    ((readOperator? (trimFront ((trimFront cs).dropWhile isKeyChar))).bind _).map _) = _
  cases readOperator? (trimFront ((trimFront cs).dropWhile isKeyChar)) with
  | none => simp
  | some read =>
    simp only [operatorGroups, Option.bind_some, Option.bind_eq_bind]
    by_cases hnone : (trimFront cs).takeWhile isKeyChar = []
    · simp [hnone]
    · by_cases hline : '\n' ∈ trimChars read.2
      · simp [hline]
      · simp [hnone, hline]
        rfl

/-! ## The main statement -/

theorem readValue_trimChars (cs : List Char) :
    readValue (String.ofList (trimChars cs)) = readValue (String.ofList cs) := by
  rw [readValue, readValue, trim, trim, String.toList_ofList, String.toList_ofList, trimChars_trimChars]

theorem readFilter_of_split {s : String} {t : FilterText}
    (h : splitFilter? s.toList = some (t.key, t.op, trimChars t.rest)) : readFilter s = .ok t.predicate := by
  rw [readFilter, h]
  dsimp only
  rw [readValue_trimChars, Path.compare_of_not_entity _ _ (readValue_not_entity _), FilterText.predicate]

theorem lookup_signOf {cs key value : List Char} {op : Comparison} (h : splitFilter? cs = some (key, op, value)) :
    typedOperators.lookup (signOf op) = some op := by
  obtain ⟨t, -, -, rfl, -⟩ := exists_of_splitFilter? h
  have hall : ∀ typed ∈ typedOperators, typedOperators.lookup (signOf typed.2) = some typed.2 := by decide
  exact hall _ t.typed

theorem matchFilter_eq (s : String) : matchFilter s = readFilter s := by
  rw [matchFilter, captures_filterPattern, readFilter]
  cases hsplit : splitFilter? s.toList with
  | none => rfl
  | some read =>
    obtain ⟨key, op, value⟩ := read
    have hop : Regex.groupText [("key", key), ("op", signOf op), ("value", value)] "op" = signOf op := rfl
    simp only [Option.map_some, hop, lookup_signOf hsplit]
    rfl

/-- **The texts that have the form of a filter are accepted, and no others**, for the comparison of their key, their
operator and the value of their remainder. Every other text is refused as a whole. Matching the pattern comes to the
same: in particular what it takes for an operator always is one, so no refusal names the operator alone. -/
theorem filters_accepted_by_form (s : String) :
    (∀ e, readFilter s = .ok e ↔ ∃ t : FilterText, s.toList = t.chars ∧ e = t.predicate) ∧
    (∀ err, readFilter s = .error err ↔ err = .invalidFilter s ∧ ¬ ∃ t : FilterText, s.toList = t.chars) ∧
    matchFilter s = readFilter s ∧
    ∀ groups, filterPattern.captures s.toList = some groups →
      ∃ op, typedOperators.lookup (Regex.groupText groups "op") = some op := by
  have haccept (t : FilterText) (ht : s.toList = t.chars) : readFilter s = .ok t.predicate :=
    readFilter_of_split (ht ▸ t.splitFilter?_chars)
  have hform (hsome : splitFilter? s.toList ≠ none) : ∃ t : FilterText, s.toList = t.chars := by
    obtain ⟨⟨key, op, value⟩, hsplit⟩ := Option.ne_none_iff_exists'.1 hsome
    obtain ⟨t, ht, -⟩ := exists_of_splitFilter? hsplit
    exact ⟨t, ht⟩
  refine ⟨fun e => ⟨fun h => ?_, ?_⟩, fun err => ⟨fun h => ?_, ?_⟩, matchFilter_eq s, fun groups hgroups => ?_⟩
  · have hsome : splitFilter? s.toList ≠ none := by
      intro hnone
      rw [readFilter, hnone] at h
      cases h
    obtain ⟨t, ht⟩ := hform hsome
    rw [haccept t ht] at h
    exact ⟨t, ht, (Except.ok.inj h).symm⟩
  · rintro ⟨t, ht, rfl⟩
    exact haccept t ht
  · constructor
    · rw [readFilter] at h
      split at h
      · cases h
      · exact (Except.error.inj h).symm
    · rintro ⟨t, ht⟩
      rw [haccept t ht] at h
      cases h
  · rintro ⟨rfl, hnone⟩
    have hsplit : splitFilter? s.toList = none := by
      by_contra hsome
      exact hnone (hform hsome)
    rw [readFilter, hsplit]
  · rw [captures_filterPattern] at hgroups
    obtain ⟨⟨key, op, value⟩, hsplit, rfl⟩ := Option.map_eq_some_iff.1 hgroups
    exact ⟨op, lookup_signOf hsplit⟩

/-- A remainder of two lines is no remainder, neither of `>=` nor of `>`. -/
example : readFilter "due >= 1\n2 " = .error (.invalidFilter "due >= 1\n2 ") := rfl

end EntityQuery.CommandLine
