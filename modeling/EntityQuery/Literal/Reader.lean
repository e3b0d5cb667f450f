import EntityQuery.Literal

/-!
# Reading a literal back

A literal opens at a double quote; a backslash makes the next character literal, and the next
quote that is not so marked closes it. `Closes` states the rules one by one, and the reader follows
just these (`readBody_eq_some_iff`). Main fact: `readLiteral_quote` (a written text is read back
whole, whatever follows it), hence `quote_append_inj`.
-/

namespace EntityQuery.Literal

/-- What stands before the closing quote, marks removed, and what follows that quote. -/
def readBody : List Char → Option (List Char × List Char)
  | [] => none
  | '"' :: rest => some ([], rest)
  | '\\' :: c :: rest => (readBody rest).map fun (body, after) => (c :: body, after)
  | c :: rest => (readBody rest).map fun (body, after) => (c :: body, after)

def readLiteral : List Char → Option (List Char × List Char)
  | '"' :: rest => readBody rest
  | _ => none

/-! ## The rules -/

/-- What an open literal says up to the quote that closes it, and what follows that quote, if only
such characters may be marked. -/
inductive Closes (mayMark : Char → Bool) : List Char → List Char → List Char → Prop
  | close (rest : List Char) : Closes mayMark ('"' :: rest) [] rest
  | marked {c : Char} {cs said rest : List Char} : mayMark c = true → Closes mayMark cs said rest →
      Closes mayMark ('\\' :: c :: cs) (c :: said) rest
  | plain {c : Char} {cs said rest : List Char} : c ≠ '"' → c ≠ '\\' →
      Closes mayMark cs said rest → Closes mayMark (c :: cs) (c :: said) rest

variable {mayMark : Char → Bool} {cs said rest : List Char}

theorem Closes.readBody_eq (h : Closes mayMark cs said rest) : readBody cs = some (said, rest) := by
  induction h with
  | close rest => rfl
  | marked _ _ ih => simp [readBody, ih]
  | plain _ hslash _ ih => simp [readBody, hslash, ih]

/-- The reader follows the rules under which every character may be marked, and finds whatever
they admit. -/
theorem readBody_eq_some_iff :
    readBody cs = some (said, rest) ↔ Closes (fun _ => true) cs said rest := by
  refine ⟨fun h => ?_, Closes.readBody_eq⟩
  fun_induction readBody cs generalizing said rest with
  | case1 => cases h
  | case2 after =>
    obtain ⟨rfl, rfl⟩ := Prod.mk.inj (Option.some.inj h)
    exact .close after
  | case3 c cs ih =>
    obtain ⟨⟨said, rest⟩, hread, heq⟩ := Option.map_eq_some_iff.1 h
    obtain ⟨rfl, rfl⟩ := Prod.mk.inj heq
    exact .marked rfl (ih hread)
  | case4 c cs hquote hslash ih =>
    obtain ⟨⟨said, rest⟩, hread, heq⟩ := Option.map_eq_some_iff.1 h
    obtain ⟨rfl, rfl⟩ := Prod.mk.inj heq
    refine .plain hquote (fun hc => ?_) (ih hread)
    -- after a backslash at the end there is nothing to read
    cases cs with
    | nil => cases hread
    | cons d cs => exact hslash d cs hc rfl

theorem readLiteral_eq_some_iff : readLiteral cs = some (said, rest) ↔
    ∃ body, cs = '"' :: body ∧ Closes (fun _ => true) body said rest := by
  constructor
  · intro h
    unfold readLiteral at h
    split at h
    next body => exact ⟨body, rfl, readBody_eq_some_iff.1 h⟩
    · cases h
  · rintro ⟨body, rfl, hcloses⟩
    exact readBody_eq_some_iff.2 hcloses

/-! ## Written texts -/

theorem closes_escape (said rest : List Char) :
    Closes isQuoteSpecial (escape isQuoteSpecial said ++ '"' :: rest) said rest := by
  induction said with
  | nil => exact .close rest
  | cons c said ih =>
    rw [escape_cons]
    by_cases hc : isQuoteSpecial c = true
    · rw [if_pos hc]
      exact .marked hc ih
    · rw [if_neg hc]
      have hplain : c ≠ '\\' ∧ c ≠ '"' := by
        simpa [isQuoteSpecial] using hc
      exact .plain hplain.2 hplain.1 ih

/-- **A quoted text is self-delimiting.** Reading gives back exactly the text and leaves exactly
what follows. -/
theorem readLiteral_quote (s : String) (rest : List Char) :
    readLiteral ((quote s).toList ++ rest) = some (s.toList, rest) := by
  have hread := (closes_escape s.toList rest).readBody_eq
  simpa [readLiteral] using hread

theorem quote_append_inj {s t : String} {rest rest' : List Char}
    (h : (quote s).toList ++ rest = (quote t).toList ++ rest') : s = t ∧ rest = rest' := by
  have hread := congrArg readLiteral h
  rw [readLiteral_quote, readLiteral_quote, Option.some.injEq, Prod.mk.injEq] at hread
  exact ⟨String.toList_inj.1 hread.1, hread.2⟩

end EntityQuery.Literal
