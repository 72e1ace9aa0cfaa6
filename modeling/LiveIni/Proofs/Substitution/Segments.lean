import LiveIni.Proofs.Expression.Outcome
import LiveIni.Proofs.Substitution.Inert
import LiveIni.Proofs.Document.Tables
import LiveIni.Proofs.Text.Cutting
import Mathlib.Data.List.TakeWhile

/-!
Texts that are put together from segments, each of which shows its own end: runs of ordinary
characters, escapes, and references in braces. However they adjoin, they are substituted one by one,
and nothing that is put in is read again. A text whose special characters are all escaped is
substituted by itself.
-/

namespace LiveIni

namespace Piece

/-- The text is read as these pieces wherever it begins, whatever comes after it. -/
def Delimits (t : Text) (pieces : List Piece) : Prop :=
  ∀ total rest, Text.scan (read total) (t ++ rest) = pieces ++ Text.scan (read total) rest

variable {s t : Text} {pieces more : List Piece}

theorem Delimits.append (first : Delimits s pieces) (second : Delimits t more)
    : Delimits (s ++ t) (pieces ++ more) := by
  intro total rest
  rw [List.append_assoc, first, second, List.append_assoc]

/-- A text that shows its own end is, as a whole, made of its pieces. -/
theorem Delimits.ofText_eq (delimited : Delimits t pieces) : ofText t = pieces := by
  have whole := delimited t.length []
  rwa [List.append_nil, Text.scan_nil, List.append_nil] at whole

/-- Characters that begin neither an escape nor a reference are pieces of their own, by induction on
the run.
-/
theorem delimits_run (ordinary : ∀ c ∈ t, c ≠ '$' ∧ c ≠ '\\')
    : Delimits t (t.map fun c => literal [c]) := by
  intro total rest
  induction t with
  | nil => rfl
  | cons c more ih =>
      obtain ⟨notDollar, notBackslash⟩ := ordinary c List.mem_cons_self
      have inert : ∀ d ∈ (more ++ rest).head?, begins c d = false :=
        fun d _ => by simp [begins, notDollar, notBackslash]
      rw [List.cons_append, Text.scan_cons, read_eq_literal inert, List.drop_zero,
        ih fun d member => ordinary d (List.mem_cons_of_mem c member)]
      rfl

/-- A piece whose length does not depend on what comes after it shows its own end. -/
theorem delimits_of_read {c : Char} {piece : Piece}
    (reads : ∀ total rest, read total c (t ++ rest) = (piece, t.length))
    : Delimits (c :: t) [piece] := by
  intro total rest
  rw [List.cons_append, Text.scan_cons, reads, List.drop_left]
  rfl

theorem delimits_escape {c : Char} (escapable : isEscapable c = true)
    : Delimits ['\\', c] [literal [c]] :=
  delimits_of_read fun total rest => by simp [read, escapable]

-----------------------------------------------------------------------------------------
-- Names in braces
-----------------------------------------------------------------------------------------

/-- The text is a letter or an underscore, with letters, digits and underscores after it. -/
def IsPlainName (t : Text) : Prop :=
  t.head?.any isNameStart = true ∧ ∀ c ∈ t, isNamePart c = true

instance : DecidablePred IsPlainName :=
  fun t => @instDecidableAnd (t.head?.any isNameStart = true) (∀ c ∈ t, isNamePart c = true)
    inferInstance (List.decidableBAll _ t)

variable {name : Text}

theorem IsPlainName.not_mem (valid : IsPlainName name) {c : Char} (apart : isNamePart c = false)
    : c ∉ name := by
  intro member
  rw [valid.2 c member] at apart
  cases apart

theorem IsPlainName.plainName_eq (valid : IsPlainName name) : plainName name = name := by
  obtain ⟨begun, parts⟩ := valid
  cases name with
  | nil => cases begun
  | cons c rest =>
      have start : isNameStart c = true := begun
      rw [plainName, if_pos start,
        List.takeWhile_eq_self_iff.mpr fun d member => parts d (List.mem_cons_of_mem c member)]

theorem IsPlainName.isEmpty_eq (valid : IsPlainName name) : name.isEmpty = false := by
  cases name with
  | nil => cases valid.1
  | cons _ _ => rfl

/-- No name of a binding has the mark of environment variables, which has a colon. -/
theorem IsPlainName.mark_eq_none (valid : IsPlainName name)
    : environmentMark.isPrefixOf? name = none := by
  refine Option.eq_none_iff_forall_ne_some.mpr fun rest marked => ?_
  rw [List.isPrefixOf?_eq_some_iff_append_eq] at marked
  have noColon : ':' ∉ name := valid.not_mem (by decide)
  exact noColon (marked ▸ List.mem_append_left rest (by decide))

theorem IsPlainName.isName (valid : IsPlainName name) : isName name = true := by
  rw [Piece.isName, nameAt, valid.mark_eq_none, valid.plainName_eq, valid.isEmpty_eq]
  simp

theorem IsPlainName.isName_variable (valid : IsPlainName name)
    : Piece.isName (environmentMark ++ name) = true := by
  have marked : environmentMark.isPrefixOf? (environmentMark ++ name) = some name :=
    List.isPrefixOf?_eq_some_iff_append_eq.mpr rfl
  rw [Piece.isName, nameAt, marked]
  simp [valid.plainName_eq, valid.isEmpty_eq, environmentMark]

/-- A name in braces ends at the first closing brace. -/
theorem delimits_braced (valid : isName name = true) (unclosed : '\x7d' ∉ name)
    : Delimits ('$' :: '\x7b' :: (name ++ ['\x7d'])) [reference name] := by
  refine delimits_of_read fun total rest => ?_
  have cut : Text.cutAt? '\x7d' (name ++ '\x7d' :: rest) = some (name, rest) :=
    Text.cutAt?_eq_some_iff.mpr ⟨rfl, unclosed⟩
  simp [read, afterDollar, cut, valid]

end Piece

-----------------------------------------------------------------------------------------
-- Segments
-----------------------------------------------------------------------------------------

/-- A part of a text that shows its own end: a run of ordinary characters, an escape, or a reference
in braces to a binding or to an environment variable.
-/
inductive Segment where
  | run (t : Text) (ordinary : ∀ c ∈ t, c ≠ '$' ∧ c ≠ '\\')
  | escape (c : Char) (escapable : Piece.isEscapable c = true)
  | binding (name : Text) (valid : Piece.IsPlainName name)
  | environment (name : Text) (valid : Piece.IsPlainName name)

namespace Segment

/-- The segment as it is written. -/
def text : Segment → Text
  | run t _ => t
  | escape c _ => ['\\', c]
  | binding name _ => '$' :: '\x7b' :: (name ++ ['\x7d'])
  | environment name _ => '$' :: '\x7b' :: (Piece.environmentMark ++ name ++ ['\x7d'])

/-- The pieces that the segment is read as. -/
def pieces : Segment → List Piece
  | run t _ => t.map fun c => .literal [c]
  | escape c _ => [.literal [c]]
  | binding name _ => [.reference name]
  | environment name _ => [.reference (Piece.environmentMark ++ name)]

theorem delimits (s : Segment) : Piece.Delimits s.text s.pieces := by
  cases s with
  | run t ordinary => exact Piece.delimits_run ordinary
  | escape c escapable => exact Piece.delimits_escape escapable
  | binding name valid => exact Piece.delimits_braced valid.isName (valid.not_mem (by decide))
  | environment name valid =>
      refine Piece.delimits_braced valid.isName_variable fun member => ?_
      rcases List.mem_append.mp member with inMark | inName
      · exact absurd inMark (by decide)
      · exact valid.not_mem (by decide) inName

end Segment

namespace Scope

variable (scope : Scope)

/-- Every reference has a value that can be written: nothing has to be bound, and what is bound is a
value, and no operation.
-/
structure Plain : Prop where
  lenient : scope.strict = false
  bound : ∀ name binding, scope.bindings.get? name = some binding
    → ∃ v t, binding = .value v ∧ scope.text? v = some t

/-- The value that a name is bound to; null if it is bound to nothing. -/
def boundValue (name : Text) : Value :=
  match scope.bindings.get? name with
  | some (.value v) => v
  | _ => (builtin? name).getD .null

/-- The text that is put in for a segment. -/
def shown? : Segment → Option Text
  | .run t _ => some t
  | .escape c _ => some [c]
  | .binding name _ => scope.text? (scope.boundValue name)
  | .environment name _ => some ((scope.environment.get? name).getD [])

/-- The texts of pieces, one after the other. -/
def replaced (pieces : List Piece) : Run Text := do
  return (← pieces.mapM scope.replace).flatten

variable {scope}

theorem replaced_append (pieces more : List Piece)
    : scope.replaced (pieces ++ more)
      = (do
          let t ← scope.replaced pieces
          let u ← scope.replaced more
          return t ++ u) := by
  simp [replaced]

theorem replaced_run (t : Text) : scope.replaced (t.map fun c => .literal [c]) = pure t := by
  rw [replaced, mapM_replace_literal, pure_bind, ← List.flatMap_def, List.flatMap_singleton']

theorem replaced_reference {name : Text} {v : Value} {t : Text}
    (found : scope.lookup name = pure v) (written : scope.text? v = some t)
    : scope.replaced [.reference name] = pure t := by
  simp [replaced, replace, found, render_of_text? written]

theorem Plain.lookup_binding (plain : scope.Plain) {name : Text} (valid : Piece.IsPlainName name)
    : scope.lookup name = pure (scope.boundValue name) := by
  have noMark : "env:".toList.isPrefixOf? name = none := valid.mark_eq_none
  unfold lookup boundValue
  rw [noMark]
  dsimp only
  cases found : scope.bindings.get? name with
  | some binding =>
      obtain ⟨v, _, rfl, _⟩ := plain.bound name binding found
      rfl
  | none =>
      cases builtin? name with
      | some v => rfl
      | none => simp [unbound, plain.lenient]

theorem Plain.lookup_variable (plain : scope.Plain) (name : Text)
    : scope.lookup (Piece.environmentMark ++ name)
      = pure (match scope.environment.get? name with | some t => .text t | none => .null) := by
  have marked : "env:".toList.isPrefixOf? (Piece.environmentMark ++ name) = some name :=
    List.isPrefixOf?_eq_some_iff_append_eq.mpr rfl
  unfold lookup
  rw [marked]
  dsimp only
  cases scope.environment.get? name with
  | some t => rfl
  | none => simp [unbound, plain.lenient]

/-- Every bound value can be written, and so can the builtins and null. -/
theorem Plain.exists_render (plain : scope.Plain) (name : Text)
    : ∃ t, scope.text? (scope.boundValue name) = some t := by
  unfold boundValue
  cases found : scope.bindings.get? name with
  | some binding =>
      obtain ⟨v, t, rfl, rendered⟩ := plain.bound name binding found
      exact ⟨t, rendered⟩
  | none =>
      unfold builtin?
      dsimp only
      split_ifs <;> exact ⟨_, rfl⟩

/-- Every segment has a text that is put in for it. -/
theorem Plain.exists_shown (plain : scope.Plain) (s : Segment)
    : ∃ t, scope.shown? s = some t ∧ scope.replaced s.pieces = pure t := by
  cases s with
  | run t _ => exact ⟨t, rfl, replaced_run t⟩
  | escape c _ => exact ⟨[c], rfl, replaced_run [c]⟩
  | binding name valid =>
      obtain ⟨t, rendered⟩ := plain.exists_render name
      exact ⟨t, rendered, replaced_reference (plain.lookup_binding valid) rendered⟩
  | environment name _ =>
      refine ⟨_, rfl, replaced_reference (plain.lookup_variable name) ?_⟩
      cases scope.environment.get? name <;> rfl

end Scope

-----------------------------------------------------------------------------------------
-- Texts made of segments
-----------------------------------------------------------------------------------------

/-- A backslash before every character that can be escaped. -/
def Piece.escaped (t : Text) : Text :=
  t.flatMap fun c => if isEscapable c then ['\\', c] else [c]

/-- An escaped text is read as its characters, by induction on the text. -/
theorem Piece.delimits_escaped (t : Text) : Delimits (escaped t) (t.map fun c => literal [c]) := by
  induction t with
  | nil => exact fun _ _ => rfl
  | cons c rest ih =>
      have first : Delimits (if isEscapable c then ['\\', c] else [c]) [literal [c]] := by
        split
        · next escapable => exact delimits_escape escapable
        · next plain =>
            refine delimits_run (t := [c]) fun d member => ?_
            rw [List.mem_singleton.mp member]
            constructor
            · rintro rfl
              exact plain rfl
            · rintro rfl
              exact plain rfl
      exact first.append ih

theorem Segment.delimits_flatMap (segments : List Segment)
    : Piece.Delimits (segments.flatMap text) (segments.flatMap pieces) := by
  induction segments with
  | nil => exact fun _ _ => rfl
  | cons s rest ih => exact s.delimits.append ih

/-- Segments have the texts that are put in for each of them, by induction on the segments. -/
theorem Scope.Plain.exists_texts {scope : Scope} (plain : scope.Plain) (segments : List Segment)
    : ∃ texts, segments.mapM scope.shown? = some texts
        ∧ scope.replaced (segments.flatMap Segment.pieces) = pure texts.flatten := by
  induction segments with
  | nil => exact ⟨[], rfl, rfl⟩
  | cons s rest ih =>
      obtain ⟨t, shown, first⟩ := plain.exists_shown s
      obtain ⟨texts, others, replaced⟩ := ih
      refine ⟨t :: texts, ?_, ?_⟩
      · rw [List.mapM_cons, shown, others]
        rfl
      · rw [List.flatMap_cons, replaced_append, first, replaced]
        rfl

/-- In a scope whose references all have values that can be written, and from whatever calls,
segments are substituted one by one, however they adjoin: runs by themselves, escapes by their
characters and references by their values, whatever these contain. In every scope, a text whose
special characters are escaped is substituted by itself.
Witness: every segment shows its own end, so that what is put in is never looked at again.
-/
theorem Scope.substitute_segments (scope : Scope)
    : (scope.Plain → ∀ segments : List Segment, ∃ texts,
        segments.mapM scope.shown? = some texts
        ∧ scope.substitute (segments.flatMap Segment.text) = pure texts.flatten)
      ∧ ∀ t, scope.substitute (Piece.escaped t) = pure t := by
  constructor
  · intro plain segments
    obtain ⟨texts, shown, replaced⟩ := plain.exists_texts segments
    refine ⟨texts, shown, ?_⟩
    change scope.replaced (Piece.ofText (segments.flatMap Segment.text)) = _
    rw [(Segment.delimits_flatMap segments).ofText_eq, replaced]
  · intro t
    change scope.replaced (Piece.ofText (Piece.escaped t)) = pure t
    rw [(Piece.delimits_escaped t).ofText_eq, replaced_run]

/-- What is put in looks like a reference, an escape and an expression, and is kept as it is; so is
an escaped text that looks like all of them.
-/
theorem Scope.substitute_segments_alikes
    : let scope : Scope := {
        bindings := [(['x'], .value (.text "$y\\".toList))]
        environment := [("HOME".toList, "$(1)".toList)] }
      scope.Plain
        ∧ scope.substitute "a\\$$\x7bx\x7d$\x7benv:HOME\x7d$\x7bz\x7d#".toList
          = pure "a$$y\\$(1)#".toList
        ∧ scope.substitute (Piece.escaped "\\$x;$(1)".toList) = pure "\\$x;$(1)".toList := by
  intro scope
  have plain : scope.Plain := by
    refine ⟨rfl, fun name binding found => ?_⟩
    have member := Table.mem_of_get? found
    cases List.mem_singleton.mp member
    exact ⟨_, _, rfl, rfl⟩
  obtain ⟨texts, shown, substituted⟩ := scope.substitute_segments.1 plain [
    .run ['a'] (by simp), .escape '$' (by decide), .binding ['x'] (by decide),
    .environment "HOME".toList (by decide), .binding ['z'] (by decide), .run ['#'] (by simp)]
  cases shown
  exact ⟨plain, substituted, scope.substitute_segments.2 _⟩

end LiveIni
