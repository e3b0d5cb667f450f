/-!
# Ranges of code points

A character class of the Unicode standard is held as an ascending list of closed ranges.
`inRanges` looks a code point up; `inRanges_iff` says that on an ascending list the search, which
stops early, finds exactly the members.
-/

namespace EntityQuery.Text

/-- Closed ranges of code points, each with its first and its last member. -/
abbrev Ranges := List (Nat × Nat)

/-- Whether a code point lies in one of the ranges. The ranges ascend, so the search ends at the
first one that starts above it. -/
def inRanges : Ranges → Nat → Bool
  | [], _ => false
  | (first, last) :: rest, n => if n < first then false else n ≤ last || inRanges rest n

def Ascending : Ranges → Bool
  | [] => true
  | r :: rest => (rest.head?.all fun next => r.1 ≤ next.1) && Ascending rest

theorem first_le_of_ascending {r : Nat × Nat} {rest : Ranges} (h : Ascending (r :: rest) = true) :
    ∀ next ∈ rest, r.1 ≤ next.1 := by
  induction rest generalizing r with
  | nil => simp
  | cons q rest ih =>
    simp only [Ascending, List.head?_cons, Option.all_some, Bool.and_eq_true,
      decide_eq_true_eq] at h
    intro next hnext
    rcases List.mem_cons.1 hnext with rfl | hnext
    · exact h.1
    · exact Nat.le_trans h.1 (ih (r := q) (by simp [Ascending, h.2]) next hnext)

theorem inRanges_iff {ranges : Ranges} (h : Ascending ranges = true) (n : Nat) :
    inRanges ranges n = true ↔ ∃ r ∈ ranges, r.1 ≤ n ∧ n ≤ r.2 := by
  induction ranges with
  | nil => simp [inRanges]
  | cons r rest ih =>
    obtain ⟨first, last⟩ := r
    have hfirst := first_le_of_ascending h
    have hrest : Ascending rest = true := by
      rw [Ascending, Bool.and_eq_true] at h
      exact h.2
    by_cases hn : n < first
    · have hnone : ¬ ∃ r ∈ (first, last) :: rest, r.1 ≤ n ∧ n ≤ r.2 := by
        rintro ⟨r, hr, hle, -⟩
        rcases List.mem_cons.1 hr with rfl | hr
        · exact absurd hle (Nat.not_le.2 hn)
        · exact absurd (Nat.le_trans (hfirst r hr) hle) (Nat.not_le.2 hn)
      simp only [inRanges, hn, if_true, hnone, Bool.false_eq_true]
    · simp [inRanges, hn, ih hrest, Nat.not_lt.1 hn]

end EntityQuery.Text
