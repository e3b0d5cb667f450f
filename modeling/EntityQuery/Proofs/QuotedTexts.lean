import EntityQuery.Literal.Reader
import Mathlib.Tactic.Common

/-!
# Quoted texts delimit themselves

The rules of literals have one parameter, which characters may have a backslash before them. If any character may, they
are the rules of reading, which leave no choice. If only quotes and backslashes may, they are the rules of writing, and
what they admit is the quoted text and nothing else (`beginsWithLiteral_special_iff`).
-/

namespace EntityQuery.Literal

/-- The text begins with a literal that says this, in which only such characters are marked, and the rest follows. -/
def BeginsWithLiteral (mayMark : Char → Bool) (text said rest : String) : Prop :=
  ∃ body, text.toList = '"' :: body ∧ Closes mayMark body said.toList rest.toList

variable {body said rest : List Char} {text s r : String}

/-- With backslashes only where they are needed, there is one way to write a text. -/
theorem closes_special_iff :
    Closes isQuoteSpecial body said rest ↔ body = escape isQuoteSpecial said ++ '"' :: rest := by
  constructor
  · intro h
    induction h with
    | close rest => rfl
    | marked hc _ ih =>
      rw [escape_cons, if_pos hc, ih]
      rfl
    | @plain c cs said rest hquote hslash _ ih =>
      have hc : ¬ isQuoteSpecial c = true := by
        simp [isQuoteSpecial, hquote, hslash]
      rw [escape_cons, if_neg hc, ih]
      rfl
  · rintro rfl
    exact closes_escape said rest

theorem beginsWithLiteral_special_iff : BeginsWithLiteral isQuoteSpecial text s r ↔ text = quote s ++ r := by
  have hquote : (quote s ++ r).toList = '"' :: (escape isQuoteSpecial s.toList ++ '"' :: r.toList) := by
    simp
  rw [← String.toList_inj, hquote]
  constructor
  · rintro ⟨body, htext, hcloses⟩
    rw [htext, closes_special_iff.1 hcloses]
  · exact fun htext => ⟨_, htext, closes_escape _ _⟩

/-- **A quoted text delimits itself.** Whatever follows it, it is read as that text and nothing else, with just what
follows it left; and it is the one way to write the text with no backslashes but those it needs. So from a quoted text
and what follows it, put together, both are known. -/
theorem quoted_texts_delimit_themselves (s r : String) :
    (∀ said rest, BeginsWithLiteral (fun _ => true) (quote s ++ r) said rest ↔ said = s ∧ rest = r) ∧
    readLiteral (quote s ++ r).toList = some (s.toList, r.toList) ∧
    (∀ text, BeginsWithLiteral isQuoteSpecial text s r ↔ text = quote s ++ r) ∧
    ∀ s' r', quote s ++ r = quote s' ++ r' ↔ s = s' ∧ r = r' := by
  have hread : readLiteral (quote s ++ r).toList = some (s.toList, r.toList) := by
    rw [String.toList_append]
    exact readLiteral_quote s r.toList
  refine ⟨fun said rest => ?_, hread, fun text => beginsWithLiteral_special_iff, fun s' r' => ⟨fun h => ?_, ?_⟩⟩
  · rw [BeginsWithLiteral, ← readLiteral_eq_some_iff, hread, Option.some.injEq, Prod.mk.injEq, String.toList_inj,
      String.toList_inj, eq_comm, eq_comm (a := r)]
  · have hchars := congrArg String.toList h
    rw [String.toList_append, String.toList_append] at hchars
    obtain ⟨hs, hr⟩ := quote_append_inj hchars
    exact ⟨hs, String.toList_inj.1 hr⟩
  · rintro ⟨rfl, rfl⟩
    rfl

/-- A text that ends in a backslash and a quote, and more quotes after it. -/
example : readLiteral (quote "a\\\"" ++ "\"\\").toList = some ("a\\\"".toList, "\"\\".toList) := rfl

end EntityQuery.Literal
