import LiveIni.Document.Line

/-!
Where lines stand: their numbers, and the section that is open there, which is the one of the
last header so far.
-/

namespace LiveIni

namespace Line

def header? : Line → Option Text
  | header name => some name
  | _ => none

/-- The section that is open after some lines, if the given one is open before them. -/
def openAfter (inSection : Text) (lines : List Line) : Text :=
  (lines.filterMap header?).getLast?.getD inSection

@[simp]
theorem openAfter_nil (inSection : Text) : openAfter inSection [] = inSection := rfl

theorem openAfter_cons (inSection : Text) (line : Line) (rest : List Line)
    : openAfter inSection (line :: rest) = openAfter (line.header?.getD inSection) rest := by
  unfold openAfter
  rw [List.filterMap_cons]
  cases line.header? with
  | none => rfl
  | some name =>
      rw [List.getLast?_cons]
      rfl

theorem openAfter_append (inSection : Text) (lines more : List Line)
    : openAfter inSection (lines ++ more) = openAfter (openAfter inSection lines) more := by
  induction lines generalizing inSection with
  | nil => rfl
  | cons line rest ih => rw [List.cons_append, openAfter_cons, ih, openAfter_cons]

theorem openAfter_concat (inSection : Text) (lines : List Line) (line : Line)
    : openAfter inSection (lines ++ [line])
      = line.header?.getD (openAfter inSection lines) := by
  rw [openAfter_append, openAfter_cons, openAfter_nil]

end Line

namespace PlacedLine

variable {number : Nat} {inSection : Text} {l : PlacedLine}

theorem place_cons (number : Nat) (inSection : Text) (line : Line) (rest : List Line)
    : place number inSection (line :: rest)
      = ⟨number, line.header?.getD inSection, line⟩
        :: place (number + 1) (line.header?.getD inSection) rest := by
  cases line <;> rfl

/-- Lines after others begin where these end, in the section that these leave open. -/
theorem place_append (number : Nat) (inSection : Text) (lines more : List Line)
    : place number inSection (lines ++ more)
      = place number inSection lines
        ++ place (number + lines.length) (Line.openAfter inSection lines) more := by
  induction lines generalizing number inSection with
  | nil => rfl
  | cons line rest ih =>
      rw [List.cons_append, place_cons, place_cons, ih, List.cons_append, Line.openAfter_cons,
        List.length_cons, Nat.add_assoc, Nat.add_comm 1]

@[simp]
theorem map_line_place (number : Nat) (inSection : Text) (lines : List Line)
    : (place number inSection lines).map (·.line) = lines := by
  induction lines generalizing number inSection with
  | nil => rfl
  | cons line rest ih => rw [place_cons, List.map_cons, ih]

/-- A placed line is one of the lines, and its section is the one open at first or one that has a
header, by induction on the lines.
-/
theorem of_mem_place {lines : List Line} (member : l ∈ place number inSection lines)
    : l.line ∈ lines ∧ (l.inSection = inSection ∨ .header l.inSection ∈ lines) := by
  induction lines generalizing number inSection with
  | nil => cases member
  | cons line rest ih =>
      have opened : line.header?.getD inSection = inSection
          ∨ .header (line.header?.getD inSection) ∈ line :: rest := by
        cases line with
        | header name => exact .inr List.mem_cons_self
        | blank | comment _ | keyValue _ _ | malformed _ => exact .inl rfl
      rw [place_cons] at member
      rcases List.mem_cons.mp member with rfl | later
      · exact ⟨List.mem_cons_self, opened⟩
      · obtain ⟨inLines, placed⟩ := ih later
        refine ⟨List.mem_cons_of_mem _ inLines, ?_⟩
        rcases placed with same | header
        · exact same ▸ opened
        · exact .inr (List.mem_cons_of_mem _ header)

/-- The raw texts of lines do not depend on where the lines stand. -/
theorem mem_raws_iff {number : Nat} {inSection raw : Text} {lines : List Line}
    : raw ∈ (place number inSection lines).filterMap (·.raw?)
      ↔ ∃ key, .keyValue key raw ∈ lines := by
  have whole := map_line_place number inSection lines
  constructor
  · intro member
    obtain ⟨⟨_, _, line⟩, placed, isRaw⟩ := List.mem_filterMap.mp member
    cases line with
    | keyValue key value =>
        cases isRaw
        exact ⟨key, whole ▸ List.mem_map_of_mem placed⟩
    | blank | header _ | comment _ | malformed _ => cases isRaw
  · rintro ⟨key, member⟩
    rw [← whole] at member
    obtain ⟨⟨_, _, _⟩, placed, rfl⟩ := List.mem_map.mp member
    exact List.mem_filterMap.mpr ⟨_, placed, rfl⟩

theorem number_of_mem_place {lines : List Line} (member : l ∈ place number inSection lines)
    : number ≤ l.number ∧ l.number < number + lines.length := by
  induction lines generalizing number inSection with
  | nil => cases member
  | cons line rest ih =>
      rw [place_cons] at member
      rw [List.length_cons]
      rcases List.mem_cons.mp member with rfl | later
      · dsimp only
        omega
      · have bounds := ih later
        omega

/-- Every line of a text stands at one place: its number counts the lines before it, and its
section is the one that is open after it.
-/
theorem ofText_eq_append {text line : Text} {before after : List Text}
    (cut : Text.lines text = before ++ line :: after)
    : ofText text
      = place 1 Document.noSection (before.map Line.ofText)
        ++ ⟨before.length + 1,
            Line.openAfter Document.noSection ((before ++ [line]).map Line.ofText),
            Line.ofText line⟩
          :: place (before.length + 2)
              (Line.openAfter Document.noSection ((before ++ [line]).map Line.ofText))
              (after.map Line.ofText) := by
  rw [ofText, cut, List.map_append, List.map_cons, place_append, place_cons, List.length_map,
    List.map_append, List.map_singleton, Line.openAfter_concat, Nat.add_comm 1, Nat.add_assoc]

end PlacedLine

end LiveIni
