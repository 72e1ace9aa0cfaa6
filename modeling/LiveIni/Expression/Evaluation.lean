import LiveIni.Expression.Grammar
import LiveIni.Scope
import LiveIni.Text.Blank

/-!
Evaluating expressions in a scope. Operands are evaluated from left to right, and only those
that decide the result: the other side of a connective, the rest of a comparison chain and
the other branch of a condition stay untouched. Bindings come before operations where a bare
name is used, and operations before deferred bindings where a name is called.
-/

namespace LiveIni

/-- The result of an operator, or its fault. -/
def Run.ofOperands {α : Type} : Except OperandFault α → Run α
  | .ok a => pure a
  | .error f => throw (.operands f)

/-- The value of an operator with one operand. Only integers and doubles have a sign. -/
def UnaryOp.apply : UnaryOp → Value → Except Fault Value
  | negate, .int n => .ok (.int (-n))
  | negate, .double x => .ok (.double x.neg)
  | affirm, .int n => .ok (.int n)
  | affirm, .double x => .ok (.double x)
  | negate, v => .error (.notNegatable v)
  | affirm, v => .error (.notNegatable v)
  | not, v => .ok (.bool !v.isTrue)
  | invert, _ => .error (.unsupportedOperator "Invert")

/-- Whether a connective stops at a value without looking at the next operand. -/
def Connective.stops : Connective → Value → Bool
  | and, v => !v.isTrue
  | or, v => v.isTrue

namespace Scope

/-- The text of a value, unless it is a decimal with more places than memory holds or an integer
with too many digits.
-/
def text? (scope : Scope) : Value → Option Text
  | .decimal d => if scope.limits.holds d then some d.positional else none
  | v => v.render?

/-- The text of a value, or the fault for the lack of one. -/
def render (scope : Scope) (v : Value) : Run Text :=
  match scope.text? v with
  | some t => pure t
  | none =>
    match v with
    | .decimal _ => throw .outOfMemory
    | _ => throw .digitLimit

/-- Invokes an operation under a name. The call counts from its beginning, even if it fails. -/
def invoke (scope : Scope) (name : Text) (op : Operation) (args : List Value) : Run Value := do
  if scope.restricted then throw (.refused name)
  else
    modify (· ++ [⟨name, args⟩])
    let calls : Calls ← get
    match op.run (calls.count name) args with
    | .ok v => return v
    | .error (.fault f) => throw f
    | .error (.foreign message) => throw (.operationFailed name message)

/-- The values of the names that are bound everywhere, in any case of letters. -/
def builtin? (name : Text) : Option Value :=
  let word := Text.lower name
  if word = "true".toList then some (.bool true)
  else if word = "false".toList then some (.bool false)
  else if word = "null".toList then some .null
  else none

/-- The value of a reference to nothing. -/
def unbound (scope : Scope) (name : Text) : Run Value :=
  if scope.strict then throw (.undefined name) else pure .null

/-- The value of a reference: an environment variable after `env:`, and a binding or a builtin
otherwise.
-/
def lookup (scope : Scope) (name : Text) : Run Value :=
  match "env:".toList.isPrefixOf? name with
  | some key =>
    match scope.environment.get? key with
    | some t => pure (.text t)
    | none => scope.unbound name
  | none =>
    match scope.bindings.get? name with
    | some (.value v) => pure v
    | some (.deferred op) => scope.invoke name op []
    | none =>
      match builtin? name with
      | some v => pure v
      | none => scope.unbound name

/-- The value of a bare name in an expression: an operation without a binding of its name is
called without arguments.
-/
def nameValue (scope : Scope) (name : Text) : Run Value :=
  match scope.bindings.get? name, scope.operations.get? name with
  | none, some op => scope.invoke name op []
  | _, _ => scope.lookup name

/-- Calls a name. -/
def callName (scope : Scope) (name : Text) (args : List Value) : Run Value :=
  match scope.operations.get? name, scope.bindings.get? name with
  | some op, _ => scope.invoke name op args
  | none, some (.deferred op) => scope.invoke name op args
  | none, _ => throw (.unknownOperation name)

/-- Goes on with a connective that has come to the value `v`. -/
def connectFrom (eval : Expr → Run Value) (op : Connective) : Value → List Expr → Run Value
  | v, [] => pure v
  | v, e :: rest => do
    if op.stops v then return v
    else connectFrom eval op (← eval e) rest

/-- Goes on with a comparison chain from its operand `left`. -/
def compareFrom (eval : Expr → Run Value) : Value → List (Relation × Expr) → Run Value
  | _, [] => pure (.bool true)
  | _, (.refused name, _) :: _ => throw (.unsupportedComparison name)
  | left, (.known op, e) :: rest => do
    let right ← eval e
    if ← Run.ofOperands (left.compareBy op right) then compareFrom eval right rest
    else return .bool false

/-- The value of an expression whose operands are at most `depth` inside each other. The
source is what a message shows of a deeper one.
-/
def eval (scope : Scope) (source : Text) : (depth : Nat) → Expr → Run Value
  | 0, _ => throw (.tooDeep source)
  | depth + 1, e =>
    match e with
    | .constant v => pure v
    | .refusedConstant shown => throw (.unsupportedConstant shown)
    | .surrogates => throw .surrogates
    | .name id => scope.nameValue id
    | .unary op operand => do
      match op.apply (← eval scope source depth operand) with
      | .ok v => return v
      | .error f => throw f
    | .binary op left right => do
      let l ← eval scope source depth left
      let r ← eval scope source depth right
      Run.ofOperands (l.apply op r)
    | .refusedOperator name => throw (.unsupportedOperator name)
    | .connect op first rest => do
      connectFrom (eval scope source depth) op (← eval scope source depth first) rest
    | .compare first relations rest => do
      compareFrom (eval scope source depth) (← eval scope source depth first)
        (relations.zip rest)
    | .conditional test body other => do
      if (← eval scope source depth test).isTrue then eval scope source depth body
      else eval scope source depth other
    | .call operation args => do
      scope.callName operation (← args.mapM (eval scope source depth))
    | .refusedCall => throw .unplainCall
    | .refused element => throw (.unsupportedElement element)

/-- The value of the text of an expression. A blank text is null. -/
def evaluate (scope : Scope) (source : Text) : Run Value :=
  let body := Text.strip source
  if body.isEmpty then pure .null
  else
    match scope.limits.reader body with
    | some failure => throw (.unread failure)
    | none =>
      if body.contains '\x00' then throw .nullCharacter
      else
        match Expr.parse? scope.names body with
        | some e => scope.eval source scope.limits.depth e
        | none => throw (.invalidExpression source)

end Scope

end LiveIni
