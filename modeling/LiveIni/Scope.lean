import LiveIni.Fault
import LiveIni.Table

/-!
What a text can refer to: bindings from names to values, named operations, and environment
variables. A binding may be deferred to an operation that computes the value anew at each
reference. Operations are the only way in which a text can act, so every call of one is
recorded, and a restricted scope refuses them all.
-/

namespace LiveIni

/-- Why an operation failed: by a fault of evaluation, which is passed on as it is, or for a
reason of its own.
-/
inductive Failure where
  | fault (f : Fault)
  | foreign (message : Text)
deriving DecidableEq, Repr

/-- An operation. Its result depends on how many times its name has been called, this call
included, and on the arguments.
-/
structure Operation where
  run : (count : Nat) → (args : List Value) → Except Failure Value

instance : Inhabited Operation :=
  ⟨⟨fun _ _ => .ok .null⟩⟩

/-- What a name is bound to: a value, or an operation that computes one. -/
inductive Binding where
  | value (v : Value)
  | deferred (op : Operation)

/-- The values of environment variables. -/
abbrev Environment := Table Text

/-- What the machine bears that substitutes a text. It is the same for the trial of a text and for
its substitution, although on a real machine what is left of it depends on the caller.
-/
structure Limits where
  /-- How many operands inside each other evaluation can hold. -/
  depth : Nat := 980
  /-- The expressions that are given up while they are read, and why. -/
  reader : Text → Option ReaderFailure := fun _ => none
  /-- Whether memory holds all places of a decimal. -/
  holds : Number.ExtendedDecimal → Bool := fun _ => true

/-- What a text can refer to. In a strict scope every reference must be bound; a restricted one
refuses to invoke operations. Quotations in expressions know characters by their names.
-/
structure Scope where
  bindings : Table Binding := []
  operations : Table Operation := []
  environment : Environment := []
  strict : Bool := false
  restricted : Bool := false
  names : Text → Option Char := fun _ => none
  limits : Limits := {}

/-- The scope with every operation refused. -/
def Scope.restrict (scope : Scope) : Scope :=
  { scope with restricted := true }

/-- A change to what a text can refer to. -/
inductive ScopeChange where
  | bind (name : Text) (binding : Binding)
  | unbind (name : Text)
  | register (name : Text) (op : Operation)
  | unregister (name : Text)
  | setVariable (name value : Text)
  | unsetVariable (name : Text)

def Scope.change (scope : Scope) : ScopeChange → Scope
  | .bind name binding => { scope with bindings := scope.bindings.set name binding }
  | .unbind name => { scope with bindings := scope.bindings.erase name }
  | .register name op => { scope with operations := scope.operations.set name op }
  | .unregister name => { scope with operations := scope.operations.erase name }
  | .setVariable name value => { scope with environment := scope.environment.set name value }
  | .unsetVariable name => { scope with environment := scope.environment.erase name }

structure Call where
  name : Text
  args : List Value
deriving DecidableEq, Repr

/-- The calls so far, in order. -/
abbrev Calls := List Call

/-- How many times a name has been called. -/
def Calls.count (calls : Calls) (name : Text) : Nat :=
  calls.countP (·.name = name)

/-- A computation that may call operations. The calls made before a fault stay recorded. -/
abbrev Run (α : Type) := ExceptT Fault (StateM Calls) α

-----------------------------------------------------------------------------------------
-- Ready-made operations
-----------------------------------------------------------------------------------------

namespace Operation

/-- Results in one value. -/
def constant (v : Value) : Operation :=
  ⟨fun _ _ => .ok v⟩

/-- Results in the number of calls of its name. -/
def counter : Operation :=
  ⟨fun count _ => .ok (.int count)⟩

/-- Results in the number of its arguments. -/
def argumentCount : Operation :=
  ⟨fun _ args => .ok (.int args.length)⟩

/-- Results in its first argument, or in null. -/
def firstArgument : Operation :=
  ⟨fun _ args => .ok (args.headD .null)⟩

/-- Joins the texts of its arguments by a separator. -/
def join (separator : Text) : Operation :=
  ⟨fun _ args =>
    match args.mapM Value.render? with
    | some texts => .ok (.text (separator.intercalate texts))
    | none => .error (.foreign digitLimitMessage.toList)⟩

/-- Fails with a message. -/
def fail (message : Text) : Operation :=
  ⟨fun _ _ => .error (.foreign message)⟩

/-- Fails as a reference that is not bound. -/
def undefined (name : Text) : Operation :=
  ⟨fun _ _ => .error (.fault (.undefined name))⟩

end Operation

end LiveIni
