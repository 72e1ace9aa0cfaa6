import LiveIni.Document.Line
import LiveIni.Document.Output
import LiveIni.Proofs.Text.Breaks
import LiveIni.Proofs.Text.Cutting

/-!
Lines that are written as they were read. What has been read as a header, a comment or a key
with its raw text is written as a line that is read as just that, although the blanks around a
key are lost, and although keys and raw texts may hold brackets.
-/

namespace LiveIni

open Text

namespace Line

/-- A header is a name that is not empty in the outermost brackets, with blanks around them. -/
theorem headerName?_eq_some_iff {t name : Text}
    : headerName? t = some name
      ↔ ∃ lead after, t = lead ++ '[' :: (name ++ ']' :: after) ∧ isBlankLine lead = true
        ∧ isBlankLine after = true ∧ name ≠ [] := by
  constructor
  · intro found
    obtain ⟨lead, whole, leadBlank⟩ := exists_eq_append_dropWhile isBlank t
    unfold headerName? at found
    split at found
    · next rest begun =>
        rw [begun] at whole
        split at found
        · next inner after cut =>
            obtain ⟨rfl, _⟩ := cutAtLast?_eq_some_iff.mp cut
            split at found
            · next fits =>
                cases found
                rw [Bool.and_eq_true, Bool.not_eq_true', List.isEmpty_eq_false_iff] at fits
                exact ⟨lead, after, whole, leadBlank, fits.2, fits.1⟩
            · cases found
        · cases found
    · cases found
  · rintro ⟨lead, after, rfl, leadBlank, afterBlank, nonempty⟩
    have opened : (lead ++ '[' :: (name ++ ']' :: after)).dropWhile isBlank
        = '[' :: (name ++ ']' :: after) := by
      rw [List.dropWhile_append_of_pos (List.all_eq_true.mp leadBlank)]
      exact List.dropWhile_cons_of_neg (by decide)
    have closed : cutAtLast? ']' (name ++ ']' :: after) = some (name, after) := by
      refine cutAtLast?_eq_some_iff.mpr ⟨rfl, fun member => ?_⟩
      exact absurd (List.all_eq_true.mp afterBlank ']' member) (by decide)
    have fits : (!name.isEmpty && after.all isBlank) = true := by
      rw [Bool.and_eq_true, Bool.not_eq_true', List.isEmpty_eq_false_iff]
      exact ⟨nonempty, afterBlank⟩
    unfold headerName?
    rw [opened]
    simp only [closed]
    exact if_pos fits

/-- A key and its raw text stand on the sides of the first equals sign. -/
theorem keyAndRaw?_eq_some_iff {t key raw : Text}
    : keyAndRaw? t = some (key, raw)
      ↔ ∃ before, t = before ++ '=' :: raw ∧ '=' ∉ before
        ∧ before.any (fun c => c = ';' || c = '#') = false
        ∧ isBlankLine before = false ∧ strip before = key := by
  unfold keyAndRaw?
  constructor
  · intro found
    split at found
    · next before rest cut =>
        obtain ⟨whole, absent⟩ := cutAt?_eq_some_iff.mp cut
        split at found
        · cases found
        · next fits =>
            cases found
            rw [Bool.not_eq_true, Bool.or_eq_false_iff] at fits
            exact ⟨before, whole, absent, fits.1, fits.2, rfl⟩
    · cases found
  · rintro ⟨before, whole, absent, noSign, notBlank, rfl⟩
    rw [cutAt?_eq_some_iff.mpr ⟨whole, absent⟩]
    dsimp only
    rw [noSign, notBlank]
    rfl

/-- What a line is read as, and what that says of it. -/
inductive ReadAs (t : Text) : Line → Prop
  | blank (isBlank : isBlankLine t = true) : ReadAs t .blank
  | header {name : Text} (visible : isBlankLine t = false) (found : headerName? t = some name)
    : ReadAs t (.header name)
  | comment (visible : isBlankLine t = false) (noHeader : headerName? t = none)
    : ReadAs t (.comment t)
  | keyValue {key raw : Text} (visible : isBlankLine t = false) (noHeader : headerName? t = none)
    (found : keyAndRaw? t = some (key, raw))
    : ReadAs t (.keyValue key raw)
  | malformed (visible : isBlankLine t = false) : ReadAs t (.malformed t)

theorem readAs_ofText (t : Text) : ReadAs t (ofText t) := by
  unfold ofText
  split
  · next isBlank => exact .blank isBlank
  · next notBlank =>
      have visible := Bool.eq_false_iff.mpr notBlank
      split
      · next found => exact .header visible found
      · next noHeader =>
          split
          · exact .comment visible noHeader
          · split
            · next found => exact .keyValue visible noHeader found
            · exact .malformed visible

theorem headerName?_of_ofText {t name : Text} (read : ofText t = .header name)
    : headerName? t = some name := by
  cases read ▸ readAs_ofText t with
  | header _ found => exact found

/-- What is read as a comment is kept as it is. -/
theorem eq_of_ofText_comment {t text : Text} (read : ofText t = .comment text) : text = t := by
  cases read ▸ readAs_ofText t with
  | comment _ _ => rfl

theorem keyAndRaw?_of_ofText {t key raw : Text} (read : ofText t = .keyValue key raw)
    : headerName? t = none ∧ keyAndRaw? t = some (key, raw) := by
  cases read ▸ readAs_ofText t with
  | keyValue _ noHeader found => exact ⟨noHeader, found⟩

/-- What cannot be read is kept as it is. -/
theorem eq_of_ofText_malformed {t text : Text} (read : ofText t = .malformed text) : text = t := by
  cases read ▸ readAs_ofText t with
  | malformed _ => rfl

-----------------------------------------------------------------------------------------
-- Reading written lines
-----------------------------------------------------------------------------------------

theorem ofText_headerLine {name : Text} (nonempty : name ≠ [])
    : ofText (Document.headerLine name) = .header name := by
  have found : headerName? (Document.headerLine name) = some name :=
    headerName?_eq_some_iff.mpr ⟨[], [], rfl, rfl, rfl, nonempty⟩
  unfold ofText
  rw [found, if_neg (fun blank => by cases blank)]

/-- What is read as a key: no equals sign, no comment sign, nothing but the key after stripping, and
a first character that is not blank.
-/
structure IsKey (key : Text) : Prop where
  absent : '=' ∉ key
  noSign : key.any (fun c => c = ';' || c = '#') = false
  stripped : strip key = key
  begins : ∃ c more, key = c :: more ∧ isBlank c = false

/-- A line with a key and a raw text is these with blanks around the key. -/
theorem key_of_keyAndRaw? {t key raw : Text} (found : keyAndRaw? t = some (key, raw))
    : IsKey key
      ∧ ∃ lead trail, t = lead ++ key ++ trail ++ '=' :: raw ∧ isBlankLine lead = true
        ∧ isBlankLine trail = true := by
  obtain ⟨before, whole, absent, noSign, notBlank, rfl⟩ := keyAndRaw?_eq_some_iff.mp found
  obtain ⟨lead, trail, parts, leadBlank, trailBlank⟩ := exists_eq_strip before
  have within : strip before ⊆ before := by
    intro c member
    rw [parts]
    exact List.mem_append_left _ (List.mem_append_right _ member)
  have first : ∃ c more, strip before = c :: more ∧ isBlank c = false := by
    have kept : (strip before).dropWhile isBlank = strip before := dropWhile_trim isBlank before
    cases stripped : strip before with
    | nil =>
        rw [parts, stripped, isBlankLine, List.all_append, List.all_append] at notBlank
        rw [isBlankLine] at leadBlank trailBlank
        rw [leadBlank, trailBlank] at notBlank
        cases notBlank
    | cons c more =>
        rw [stripped] at kept
        refine ⟨c, more, rfl, Bool.eq_false_iff.mpr fun blank => ?_⟩
        rw [List.dropWhile_cons_of_pos blank] at kept
        have bound := (List.dropWhile_sublist isBlank (l := more)).length_le
        rw [kept, List.length_cons] at bound
        omega
  refine ⟨⟨fun member => absent (within member), ?_, strip_strip before, first⟩, lead, trail, ?_,
    leadBlank, trailBlank⟩
  · rw [List.any_eq_false] at noSign ⊢
    exact fun c member => noSign c (within member)
  · rw [← parts]
    exact whole

/-- The text ends in a closing bracket, but for blanks after it. -/
def Closes (t : Text) : Prop :=
  ∃ before after, t = before ++ ']' :: after ∧ isBlankLine after = true

/-- A key and a value make a header exactly if the key opens a bracket that the value closes. -/
theorem exists_headerName?_pairLine_iff {key : Text} (isKey : IsKey key) (value : Text)
    : (∃ name, headerName? (Document.pairLine key value) = some name)
      ↔ key.head? = some '[' ∧ Closes value := by
  obtain ⟨c, more, rfl, notBlank⟩ := isKey.begins
  constructor
  · rintro ⟨name, isHeader⟩
    obtain ⟨outer, after, parts, outerBlank, afterBlank, _⟩ := headerName?_eq_some_iff.mp isHeader
    rw [Document.pairLine] at parts
    cases outer with
    | cons d others =>
        -- The line begins with the key, and the key does not begin with a blank.
        rw [isBlankLine, List.all_cons, ← (List.cons.inj parts).1, notBlank] at outerBlank
        cases outerBlank
    | nil =>
        obtain ⟨rfl, inner⟩ := List.cons.inj parts
        refine ⟨rfl, ?_⟩
        rcases List.append_eq_append_iff.mp inner with ⟨next, rfl, rest⟩ | ⟨next, rfl, rest⟩
        · cases next with
          | nil => cases rest
          | cons e before =>
              obtain ⟨rfl, rfl⟩ := List.cons.inj rest
              exact ⟨before, after, rfl, afterBlank⟩
        · cases next with
          | nil => cases rest
          | cons e others =>
              obtain ⟨rfl, rfl⟩ := List.cons.inj rest
              -- The bracket is not in the key: the equals sign after it is not blank.
              have blank := List.all_eq_true.mp afterBlank '=' (by simp)
              exact absurd blank (by decide)
  · rintro ⟨opens, before, after, rfl, afterBlank⟩
    obtain rfl : c = '[' := Option.some.inj opens
    refine ⟨more ++ '=' :: before, headerName?_eq_some_iff.mpr ⟨[], after, ?_, rfl, afterBlank, ?_⟩⟩
    · rw [Document.pairLine]
      simp only [List.nil_append, List.append_assoc, List.cons_append]
    · simp

/-- A key and its raw text do not make a header if they come from a line that is none: the
brackets of the one would be brackets of the other.
-/
theorem headerName?_pairLine {t key raw : Text} (found : keyAndRaw? t = some (key, raw))
    (noHeader : headerName? t = none)
    : headerName? (Document.pairLine key raw) = none := by
  obtain ⟨isKey, lead, trail, whole, leadBlank, _⟩ := key_of_keyAndRaw? found
  refine Option.eq_none_iff_forall_ne_some.mpr fun name isHeader => ?_
  obtain ⟨opens, before, after, rfl, afterBlank⟩ :=
    (exists_headerName?_pairLine_iff isKey raw).mp ⟨name, isHeader⟩
  obtain ⟨c, more, rfl, _⟩ := isKey.begins
  obtain rfl : c = '[' := Option.some.inj opens
  have isHeader : headerName? t = some (more ++ trail ++ '=' :: before) := by
    refine headerName?_eq_some_iff.mpr ⟨lead, after, ?_, leadBlank, afterBlank, ?_⟩
    · rw [whole]
      simp only [List.append_assoc, List.cons_append]
    · simp
  rw [noHeader] at isHeader
  cases isHeader

/-- A key with a value is read as a header or as just that. -/
theorem ofText_pairLine_of_isKey {key : Text} (isKey : IsKey key) (value : Text)
    : ofText (Document.pairLine key value)
      = match headerName? (Document.pairLine key value) with
        | some name => .header name
        | none => .keyValue key value := by
  obtain ⟨c, more, begins, notBlank⟩ := isKey.begins
  have visible : isBlankLine (Document.pairLine key value) = false := by
    rw [Document.pairLine, begins, List.cons_append, isBlankLine, List.all_cons, notBlank]
    rfl
  have noComment : isComment (Document.pairLine key value) = false := by
    have noSign := isKey.noSign
    rw [begins, List.any_cons, Bool.or_eq_false_iff] at noSign
    rw [isComment, Document.pairLine, begins, List.cons_append,
      List.dropWhile_cons_of_neg (Bool.eq_false_iff.mp notBlank)]
    exact noSign.1
  have pair : keyAndRaw? (Document.pairLine key value) = some (key, value) := by
    refine keyAndRaw?_eq_some_iff.mpr ⟨key, rfl, isKey.absent, isKey.noSign, ?_, isKey.stripped⟩
    rw [begins, isBlankLine, List.all_cons, notBlank]
    rfl
  rw [ofText, visible, if_neg Bool.false_ne_true]
  cases headerName? (Document.pairLine key value) with
  | some name => rfl
  | none =>
      dsimp only
      rw [noComment, if_neg Bool.false_ne_true, pair]

/-- A key and its raw text are read as themselves, if some line is read as them. -/
theorem ofText_pairLine {t key raw : Text} (read : ofText t = .keyValue key raw)
    : ofText (Document.pairLine key raw) = .keyValue key raw := by
  obtain ⟨noHeader, found⟩ := keyAndRaw?_of_ofText read
  rw [ofText_pairLine_of_isKey (key_of_keyAndRaw? found).1, headerName?_pairLine found noHeader]

end Line

end LiveIni
