import EntityQuery.Expr

/-!
# Negation normal form

Every negation is pushed down to a leaf by De Morgan's laws: `not (a or b)` becomes `not a and not b`.
The function works on an expression and on its denial at once; `normalForm_not` and its companions
give the rules through `negate`.
-/

namespace EntityQuery.Expr

mutual

/-- The expression with every negation at a leaf. -/
def normalForm : Expr → Expr
  | not t => denial t
  | and terms => all (normalForms terms)
  | or terms => any (normalForms terms)
  | leaf => leaf

def denial : Expr → Expr
  | and terms => any (denials terms)
  | or terms => all (denials terms)
  | not t => normalForm t
  | leaf => not leaf

def normalForms : List Expr → List Expr
  | [] => []
  | t :: ts => normalForm t :: normalForms ts

/-- The denials of the terms; an empty term has none and stays. -/
def denials : List Expr → List Expr
  | [] => []
  | t :: ts => (if t.isEmpty then normalForm t else denial t) :: denials ts

end

theorem normalForms_eq_map (ts : List Expr) : normalForms ts = ts.map normalForm := by
  induction ts with
  | nil => rfl
  | cons t ts ih => simp [normalForms, ih]

theorem normalForm_negate (t : Expr) :
    t.negate.normalForm = if t.isEmpty then t.normalForm else t.denial := by
  cases t with
  | not t => simp [negate, isEmpty, denial]
  | _ => simp only [negate]; split <;> simp_all [normalForm]

theorem denials_eq_map (ts : List Expr) : denials ts = ts.map fun t => t.negate.normalForm := by
  induction ts with
  | nil => rfl
  | cons t ts ih => simp [denials, ih, normalForm_negate]

theorem normalForm_and (ts : List Expr) : (and ts).normalForm = all (ts.map normalForm) := by
  rw [normalForm, normalForms_eq_map]

theorem normalForm_or (ts : List Expr) : (or ts).normalForm = any (ts.map normalForm) := by
  rw [normalForm, normalForms_eq_map]

theorem normalForm_not_and (ts : List Expr) :
    (not (and ts)).normalForm = any (ts.map fun t => t.negate.normalForm) := by
  rw [normalForm, denial, denials_eq_map]

theorem normalForm_not_or (ts : List Expr) :
    (not (or ts)).normalForm = all (ts.map fun t => t.negate.normalForm) := by
  rw [normalForm, denial, denials_eq_map]

end EntityQuery.Expr
