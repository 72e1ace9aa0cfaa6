import LiveIni.Scope
import LiveIni.Text.Blank

/-!
Placeholders: `%NAME%` stands for the environment variable of that name. Between the percent
signs stands at least one character, and no blank and no percent sign. A placeholder for an
unknown variable is left as it is, with both of its percent signs.
-/

namespace LiveIni.Environment

/-- The name of the placeholder whose opening percent sign stands before `rest`. -/
def placeholderName? (rest : Text) : Option Text :=
  let name := rest.takeWhile fun c => c ≠ '%' && !Text.isBlank c
  if !name.isEmpty ∧ (rest.drop name.length).head? = some '%' then some name else none

/-- What stands at one position of the expanded text, and how many further characters of the
text it replaces.
-/
def expandAt (env : Environment) (c : Char) (rest : Text) : Text × Nat :=
  if c = '%' then
    match placeholderName? rest with
    | some name =>
      ((env.get? name).getD (('%' :: name) ++ ['%']), name.length + 1)
    | none => (['%'], 0)
  else ([c], 0)

/-- A text with its placeholders replaced. What is put in is not expanded again. -/
def expand (env : Environment) (t : Text) : Text :=
  (Text.scan (expandAt env) t).flatten

end LiveIni.Environment
