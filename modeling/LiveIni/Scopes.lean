import LiveIni.Substitution

/-!
A scope together with restricted copies that were taken of it, by name. The scope goes on
changing. A copy keeps the bindings and operations of the moment it was taken, but all of them
look into one environment, which is the scope's own at any time. The calls are counted
together.
-/

namespace LiveIni

/-- A scope, its copies, and the calls made through any of them. -/
structure Scopes where
  main : Scope := {}
  copies : Table Scope := []
  calls : Calls := []

namespace Scopes

/-- The name of the scope itself. -/
def mainName : Text := "main".toList

/-- The scope or the copy of a name, with the environment as it is now. -/
def get? (s : Scopes) (name : Text) : Option Scope :=
  if name = mainName then some s.main
  else (s.copies.get? name).map fun copy => { copy with environment := s.main.environment }

/-- Takes a restricted copy of a scope, under a name. -/
def restrict (s : Scopes) (scope : Scope) (name : Text) : Scopes :=
  { s with copies := s.copies.set name scope.restrict }

/-- Changes the scope itself. -/
def change (s : Scopes) (c : ScopeChange) : Scopes :=
  { s with main := s.main.change c }

/-- Runs a computation, and records the calls that it makes. -/
def run {α : Type} (s : Scopes) (run : Run α) : Except Fault α × Scopes :=
  let (result, calls) := run s.calls
  (result, { s with calls := calls })

end Scopes

end LiveIni
