import EntityQuery.Proofs.BuilderCalls
import Mathlib.Algebra.Ring.Parity
import Mathlib.Data.List.DropRight

/-!
# The order after reversals

To turn the order of a statement round flips the sort keys that it has and none that come later. So what becomes of a key
depends on the calls after the one that adds it: it is lost if one of them clears the order, and otherwise its direction
is flipped once for each of them that turns the order round. `additions` lists the keys with the calls after them, and
the order at the end is made of those that were added since the order was cleared (`keys_turned_by_later_reversals`).
-/

namespace EntityQuery

/-! ## Directions turned round -/

theorem SortDirection.reversed_ne (d : SortDirection) : d.reversed ≠ d := by
  cases d <;> decide

namespace SortKey

def turned (key : SortKey) (n : Nat) : SortKey := if Odd n then key.reversed else key

variable (key : SortKey) (m n : Nat)

@[simp] theorem turned_zero : key.turned 0 = key := by
  simp [turned]

theorem turned_turned : (key.turned m).turned n = key.turned (m + n) := by
  by_cases hm : Odd m <;> by_cases hn : Odd n <;> simp [turned, Nat.odd_add, ← Nat.not_odd_iff_even, hm, hn]

theorem path_turned : (key.turned n).path = key.path := by
  rw [turned]
  split
  · rfl
  · rfl

theorem direction_turned_ne_iff : (key.turned n).direction ≠ key.direction ↔ Odd n := by
  rw [turned]
  split
  next hodd => exact iff_of_true key.direction.reversed_ne hodd
  next heven => exact iff_of_false (fun h => h rfl) heven

end SortKey

/-! ## The last elements that pass a test -/

theorem rtakeWhile_cons {α : Type} (p : α → Bool) (x : α) (xs : List α) :
    (x :: xs).rtakeWhile p = if xs.all p && p x then x :: xs else xs.rtakeWhile p := by
  induction xs using List.reverseRecOn with
  | nil => exact List.rtakeWhile_concat p [] x
  | append_singleton xs y ih =>
    rw [← List.cons_append, List.rtakeWhile_concat, List.rtakeWhile_concat, ih]
    cases hy : p y <;> cases hxs : xs.all p && p x <;> simp [hy, hxs]

namespace BuilderCall

variable {σ : Type} {k : RowKind}

/-! ## What calls do to the order -/

/-- The sort key that the call adds, if it adds one. A text that spells none adds none. -/
def addedKey? : BuilderCall σ k → Option SortKey
  | sort text => (SortKey.read text).toOption
  | sortBy key => some key
  | _ => none

def isReverse : BuilderCall σ k → Bool
  | reverse => true
  | _ => false

def isClear : BuilderCall σ k → Bool
  | clearSort => true
  | _ => false

def reversals (calls : List (BuilderCall σ k)) : Nat := calls.countP isReverse

/-- The keys that the calls add, each with the calls after it. -/
def additions : List (BuilderCall σ k) → List (SortKey × List (BuilderCall σ k))
  | [] => []
  | c :: later => c.addedKey?.toList.map (·, later) ++ additions later

/-- The calls after the last one that clears the order, which are all calls if none does. -/
def sinceClear (calls : List (BuilderCall σ k)) : List (BuilderCall σ k) := calls.rtakeWhile (!·.isClear)

/-- The keys that are still there after the calls, each with the calls after it: those of the statement, unless some call
clears the order, and those that were added since. -/
def remaining (s : Rows k σ) (calls : List (BuilderCall σ k)) : List (SortKey × List (BuilderCall σ k)) :=
  (if calls.any isClear then [] else s.clauses.sort.map (·, calls)) ++ additions (sinceClear calls)

/-- **What one call does to the order.** -/
theorem sort_attempt (s : Rows k σ) (c : BuilderCall σ k) : (c.attempt s).clauses.sort =
    if c.isClear then [] else s.clauses.sort.map (·.turned (reversals [c])) ++ c.addedKey?.toList := by
  have hturned : s.clauses.sort.map (·.turned 0) = s.clauses.sort := by
    simp
  have hother (haspect : .order ≠ c.aspect) : (c.attempt s).clauses.sort = s.clauses.sort.map (·.turned 0) ++ [] := by
    rw [hturned, List.append_nil]
    exact Part.order.inj (part_attempt_of_ne haspect)
  cases c with
  | sort text =>
    rw [addedKey?]
    cases hread : SortKey.read text with
    | ok key =>
      rw [attempt_of_ok (by rw [apply, RowStatement.sort, hread]; rfl)]
      exact congrArg (· ++ [key]) hturned.symm
    | error err =>
      rw [attempt_of_error (by rw [apply, RowStatement.sort, hread]; rfl)]
      exact hturned.symm.trans (List.append_nil _).symm
  | sortBy key => exact congrArg (· ++ [key]) hturned.symm
  | reverse => exact (List.append_nil _).symm
  | clearSort => rfl
  | _ => exact hother (by rintro ⟨⟩)

theorem reversals_cons (c : BuilderCall σ k) (calls : List (BuilderCall σ k)) :
    reversals (c :: calls) = reversals [c] + reversals calls := by
  rw [← List.singleton_append, reversals, List.countP_append]
  rfl

def leftTurned (a : SortKey × List (BuilderCall σ k)) : SortKey := a.1.turned (reversals a.2)

theorem remaining_cons (s : Rows k σ) (c : BuilderCall σ k) (calls : List (BuilderCall σ k)) :
    (remaining s (c :: calls)).map leftTurned = (remaining (c.attempt s) calls).map leftTurned := by
  rw [remaining, remaining, sinceClear, sinceClear, rtakeWhile_cons, sort_attempt]
  by_cases hlater : calls.any isClear
  · -- a later call clears the order: nothing from before it remains
    have hall : calls.all (!·.isClear) = false := by simpa using hlater
    simp [hlater, hall]
  · have hall : calls.all (!·.isClear) = true := by simpa using hlater
    have hself : calls.rtakeWhile (!·.isClear) = calls := by simpa using hall
    cases hclear : c.isClear with
    | true => simp [hlater, hall, hself, hclear]
    | false =>
      have hold : s.clauses.sort.map (fun key => leftTurned (key, c :: calls)) =
          s.clauses.sort.map fun key => leftTurned (key.turned (reversals [c]), calls) := by
        refine List.map_congr_left fun key _ => ?_
        rw [leftTurned, leftTurned, SortKey.turned_turned, reversals_cons]
      simp [hlater, hall, hself, hclear, additions, Function.comp_def, hold]

theorem sort_run (s : Rows k σ) (calls : List (BuilderCall σ k)) :
    (run s calls).clauses.sort = (remaining s calls).map leftTurned := by
  induction calls generalizing s with
  | nil => simp [run, remaining, sinceClear, additions, leftTurned, reversals, Function.comp_def]
  | cons c calls ih =>
    rw [remaining_cons]
    exact ih _

/-! ## The main statement -/

/-- **A key has its direction flipped if the order was turned round an odd number of times after the key was added.** The
order after any calls is made of the keys that were added since it was last cleared, one after the other and with the paths
with which they were added; a call that fails adds none. Keys that the statement had before are like keys added first. -/
theorem keys_turned_by_later_reversals (s : Rows k σ) (calls : List (BuilderCall σ k)) :
    List.Forall₂
      (fun (added : SortKey × List (BuilderCall σ k)) key =>
        key.path = added.1.path ∧ (key.direction ≠ added.1.direction ↔ Odd (reversals added.2)))
      (remaining s calls) (run s calls).clauses.sort := by
  rw [sort_run, List.forall₂_map_right_iff, List.forall₂_same]
  exact fun added _ => ⟨added.1.path_turned _, added.1.direction_turned_ne_iff _⟩

/-- Of four keys one is cleared away, one is turned round twice, one once, and one is added after that. -/
example : (run (k := .delete) (Delete.ofType "Task" : Delete Unit) [sort "id", clearSort, sort "name", reverse, sort "name up",
      sort "bid desc", reverse, sortBy (Path.ofText "end").descending]).toStatement.text =
    "delete Task order by name, bid, end descending" := by
  decide

end BuilderCall

end EntityQuery
