import LiveIni.Text

/-!
Tables from names to values. A table keeps the order in which its names were first set;
setting a name again changes its value in place.
-/

namespace LiveIni

/-- An ordered table, as the list of its names and values. -/
abbrev Table (α : Type) := List (Text × α)

namespace Table

variable {α : Type}

def get? (name : Text) : Table α → Option α
  | [] => none
  | (n, a) :: rest => if n = name then some a else get? name rest

def has (t : Table α) (name : Text) : Bool :=
  (get? name t).isSome

def names (t : Table α) : List Text :=
  t.map Prod.fst

/-- Gives a name a value: in its old place if the table has it, and at the end otherwise. -/
def set (name : Text) (a : α) : Table α → Table α
  | [] => [(name, a)]
  | (n, b) :: rest => if n = name then (name, a) :: rest else (n, b) :: set name a rest

def erase (name : Text) (t : Table α) : Table α :=
  t.filter fun (n, _) => n ≠ name

theorem get?_set_self (name : Text) (a : α) (t : Table α)
    : get? name (set name a t) = some a := by
  induction t with
  | nil => simp [set, get?]
  | cons head rest ih =>
    by_cases h : head.1 = name
    · simp [set, get?, h]
    · simp [set, get?, h, ih]

theorem get?_set_of_ne {name other : Text} (h : other ≠ name) (a : α) (t : Table α)
    : get? other (set name a t) = get? other t := by
  induction t with
  | nil => simp [set, get?, Ne.symm h]
  | cons head rest ih =>
    by_cases hn : head.1 = name
    · simp [set, get?, hn, Ne.symm h]
    · simp [set, get?, hn, ih]

end Table

end LiveIni
