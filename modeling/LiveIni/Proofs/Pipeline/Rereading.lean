import LiveIni.Proofs.Inference.Fitting
import LiveIni.Proofs.Pipeline.Reading
import LiveIni.Proofs.Substitution.Inert

/-!
Strings that are written in place of their raw texts and read again. They are written as they
are, without escapes, so that a string is read as itself only if it is substituted by itself.
-/

namespace LiveIni

/-- Only a text itself is inferred to be a string. -/
theorem eq_of_infer_string {format : NumberFormat} {t s : Text} {invalid : Option InvalidLiteral}
    (inferred : infer format t = .ok (.string s, invalid))
    : t = s := by
  obtain ⟨_, same⟩ | same | ⟨_, _, fits⟩ := infer_cases inferred
  · cases same
  · cases same
    rfl
  · exact absurd fits Inference.fit?_ne_string

namespace Pipeline

variable {p : Pipeline} {scope : Scope} {environment : Option Environment}

/-- Inferring the type of a text gives what is inferred, if anything is. -/
theorem infer_of_inferValue {t : Text} {reading : Reading} {world after : World}
    (inferred : p.inferValue t world = (.ok reading, after))
    : infer p.format t = .ok reading := by
  have result := (p.inferValue_settles t).result_eq inferred
  cases found : infer p.format t with
  | ok other =>
      rw [found] at result
      cases result
      rfl
  | error fault =>
      rw [found] at result
      cases result

/-- A string that a raw text is resolved to is inferred to be a string. -/
theorem infer_of_resolveValue {raw s : Text} {invalid : Option InvalidLiteral}
    {world after : World}
    (resolved : p.resolveValue scope false environment raw world
      = (.ok (.string s, invalid), after))
    : infer p.format s = .ok (.string s, invalid) := by
  unfold resolveValue at resolved
  obtain ⟨substituted, between, _, rest⟩ := Computation.ok_of_bind resolved
  have inferred := infer_of_inferValue rest
  rwa [eq_of_infer_string inferred] at inferred

variable (p scope)

/-- The value can be written, and in every world what is written is approved, and is resolved to
the value again.
-/
def Rereads (v : TypedValue) : Prop :=
  ∃ written, v.render? = some written
    ∧ ∀ environment world,
        (p.approve scope [written] world).1 = .ok ()
        ∧ ∃ invalid,
          (p.resolveValue scope false environment written world).1 = .ok (v, invalid)

variable {p scope}

/-- An approved text is resolved to its meaning. -/
theorem resolveValue_unexpanded {t s : Text} (settled : scope.settled t = .ok s) (world : World)
    : (p.resolveValue scope false environment t world).1 = p.meaning scope false t :=
  (p.resolveValue_settles scope false settled world).1

/-- A string that a raw text has been resolved to, without placeholders being expanded, is
approved and resolved to itself again exactly if substituting it without any operation gives the
string back. It always is if no neighbouring characters of it begin an escape, a reference or
an expression.
Witness: the string is written as it is, and its type has been inferred from the same text.
-/
theorem string_rereads_iff {raw s : Text} {invalid : Option InvalidLiteral} {world after : World}
    (running : p.interruption = none)
    (resolved : p.resolveValue scope false environment raw world
      = (.ok (.string s, invalid), after))
    : (p.Rereads scope (.string s) ↔ scope.settled s = .ok s)
      ∧ (Piece.Inert s → p.Rereads scope (.string s)) := by
  have inferred := infer_of_resolveValue resolved
  have rereads (settled : scope.settled s = .ok s) : p.Rereads scope (.string s) := by
    refine ⟨s, rfl, fun environment world => ⟨?_, invalid, ?_⟩⟩
    · rw [(p.approve_settles scope [s] world).1, p.verdict_eq_ok_iff]
      exact ⟨running, by simp [settled]⟩
    · rw [resolveValue_unexpanded settled, meaning, settled]
      change (infer p.format s).mapError _ = _
      rw [inferred]
      rfl
  refine ⟨⟨?_, rereads⟩, fun inert => rereads (scope.settled_of_inert inert)⟩
  rintro ⟨written, same, again⟩
  cases same
  obtain ⟨approved, invalid, value⟩ := again none world
  rw [(p.approve_settles scope [s] world).1] at approved
  obtain ⟨t, settled⟩ := settled_of_verdict approved (List.mem_singleton.mpr rfl)
  rw [resolveValue_unexpanded settled, meaning, settled] at value
  change (infer p.format t).mapError _ = _ at value
  cases found : infer p.format t with
  | error fault =>
      rw [found] at value
      cases value
  | ok reading =>
      rw [found] at value
      cases value
      rw [settled, eq_of_infer_string found]

/-- A path with backslashes before letters, and a price that ends in a dollar sign, are inert. -/
theorem string_rereads_iff_pathAndPrice
    : let p : Pipeline := {}
      let scope : Scope := { bindings := [(['x'], .value (.text "5$".toList))] }
      p.resolveValue scope false none "C:\\dir\\; $x".toList {}
          = (.ok (.string "C:\\dir; 5$".toList, none), {})
        ∧ Piece.Inert "C:\\dir; 5$".toList
        ∧ p.Rereads scope (.string "C:\\dir; 5$".toList) := by
  intro p scope
  have resolved : p.resolveValue scope false none "C:\\dir\\; $x".toList {}
      = (.ok (.string "C:\\dir; 5$".toList, none), {}) := by
    rfl
  have inert : Piece.Inert "C:\\dir; 5$".toList := by decide
  exact ⟨resolved, inert, (string_rereads_iff rfl resolved).2 inert⟩

/-- Strings are not always read as themselves. A dollar sign that was escaped is not escaped any more
when it is read again: it then refers to the name after it, or makes the text malformed. So does a
dollar sign that a binding has put in.
-/
theorem string_rereads_as_reference
    : let p : Pipeline := {}
      let bound : Scope := { bindings := [(['x'], .value (.text "$y".toList))] }
      (p.resolveValue {} false none "\\$x".toList {} = (.ok (.string "$x".toList, none), {})
          ∧ ¬p.Rereads {} (.string "$x".toList))
        ∧ (p.resolveValue {} false none "\\$\x7b".toList {}
            = (.ok (.string "$\x7b".toList, none), {})
          ∧ ¬p.Rereads {} (.string "$\x7b".toList))
        ∧ p.resolveValue bound false none "$x".toList {} = (.ok (.string "$y".toList, none), {})
        ∧ ¬p.Rereads bound (.string "$y".toList) := by
  refine ⟨⟨rfl, ?_⟩, ⟨rfl, ?_⟩, rfl, ?_⟩
  · rintro ⟨written, same, again⟩
    cases same
    obtain ⟨_, _, value⟩ := again none {}
    cases value
  · rintro ⟨written, same, again⟩
    cases same
    cases (again none {}).1
  · rintro ⟨written, same, again⟩
    cases same
    obtain ⟨_, _, value⟩ := again none {}
    cases value

end Pipeline

end LiveIni
