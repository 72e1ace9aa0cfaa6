import LiveIni.Proofs.Document.Building
import LiveIni.Proofs.Inference.Fitting

/-!
Documents equal themselves. Only a double that is not a number is different from itself, and
none is ever inferred.
-/

namespace LiveIni

open Number

theorem Number.Decimal.compare_self (d : Decimal) : d.compare d = .eq := by
  dsimp only [Decimal.compare]
  exact Std.ReflCmp.compare_self

theorem Number.Double.compare?_self {x : Double} (finite : x.isFinite = true)
    : x.compare? x = some .eq := by
  cases x with
  | finite negative significand exponent =>
      exact congrArg some Std.ReflCmp.compare_self
  | infinite negative => cases finite
  | nan => cases finite

namespace Inference

theorem same_of_fit? {d : Decimal} {kind : NumberKind} {v : TypedValue}
    (fits : fit? d kind = some v)
    : v.same v = true := by
  cases kind with
  | integer type =>
      obtain ⟨n, _, holds⟩ := Option.bind_eq_some_iff.mp fits
      split at holds
      · cases holds
        exact decide_eq_true rfl
      · cases holds
  | bigint =>
      obtain ⟨n, _, rfl⟩ := Option.map_eq_some_iff.mp fits
      exact decide_eq_true rfl
  | decimal =>
      obtain ⟨fixed, _, rfl⟩ := Option.map_eq_some_iff.mp fits
      exact decide_eq_true fixed.compare_self
  | double =>
      obtain ⟨x, found, rfl⟩ := Option.map_eq_some_iff.mp fits
      unfold toDouble? at found
      dsimp only at found
      split at found
      · next within =>
          cases found
          rw [Bool.and_eq_true] at within
          exact decide_eq_true (Double.compare?_self within.1)
      · cases found

end Inference

/-- An inferred value is the same as itself. -/
theorem same_of_infer {format : NumberFormat} {t : Text} {v : TypedValue}
    {invalid : Option InvalidLiteral} (inferred : infer format t = .ok (v, invalid))
    : v.same v = true := by
  obtain ⟨b, rfl⟩ | rfl | ⟨d, kind, fits⟩ := infer_cases inferred
  · exact decide_eq_true rfl
  · exact decide_eq_true rfl
  · exact Inference.same_of_fit? fits

/-- The entry holds no value that is different from itself. -/
def Entry.SameAsItself (entry : Entry) : Prop :=
  entry.same entry = true

theorem Entry.sameAsItself_keyValue {kv : KeyValue} (same : kv.typed.same kv.typed = true)
    : (Entry.keyValue kv).SameAsItself := by
  simp [SameAsItself, Entry.same, same]

/-- Entries that have been changed are the same as before if each of them is, by induction on them. -/
theorem Entries.same_mapValues {change : Entry → Entry} {entries : Entries}
    (each : ∀ named ∈ entries, (change named.2).same named.2 = true)
    : Entries.same (entries.mapValues change) entries = true := by
  induction entries with
  | nil => rfl
  | cons named rest ih =>
      obtain ⟨first, others⟩ := List.forall_mem_cons.mp each
      simp [Entries.same, first, ih others]

namespace Document

/-- Sections whose entries have been changed are the same as before if each of these is, by induction
on the sections.
-/
theorem sameSections_mapEntries {change : Entry → Entry} {sections : Sections}
    (each : ∀ named ∈ sections, ∀ entry ∈ named.2, (change entry.2).same entry.2 = true)
    : sameSections (sections.mapEntries change) sections = true := by
  induction sections with
  | nil => rfl
  | cons named rest ih =>
      obtain ⟨first, others⟩ := List.forall_mem_cons.mp each
      simp [sameSections, Entries.same_mapValues first, ih others]

/-- Sections are the same as themselves if each of their entries is. -/
theorem sameSections_self {sections : Sections} {named : Text → Prop}
    (each : sections.Each named fun entries => ∀ entry ∈ entries, entry.2.SameAsItself)
    : sameSections sections sections = true := by
  have same := @sameSections_mapEntries id sections fun pair member => (each pair member).2
  rwa [Sections.mapEntries_id] at same

end Document

end LiveIni
