import LiveIni.Text.Lines

/-!
Lines and line ends. No line of a text holds a line end, and lines without line ends, each
ended in one and the same way, are the lines that are read back.
-/

namespace LiveIni.Text

/-- The text holds no line end. -/
def Unbroken (t : Text) : Prop :=
  ∀ c ∈ t, c ≠ '\n' ∧ c ≠ '\r'

instance (t : Text) : Decidable (Unbroken t) :=
  decidable_of_iff (t.all (fun c => c != '\n' && c != '\r') = true) (by
    simp only [Unbroken, List.all_eq_true, Bool.and_eq_true, bne_iff_ne])

/-- The ways to end a line. -/
def lineEnds : List Text :=
  [['\n'], ['\r', '\n'], ['\r']]

theorem Unbroken.of_subset {s t : Text} (unbroken : Unbroken t) (subset : s ⊆ t) : Unbroken s :=
  fun c member => unbroken c (subset member)

theorem linesFrom_feed (rest : Text)
    : linesFrom false ('\n' :: rest)
      = ([], (linesFrom false rest).1 :: (linesFrom false rest).2) :=
  rfl

theorem linesFrom_return (pending : Bool) (rest : Text)
    : linesFrom pending ('\r' :: rest)
      = ([], (linesFrom true rest).1 :: (linesFrom true rest).2) := by
  cases pending <;> rfl

theorem linesFrom_cons {c : Char} (noEnd : c ≠ '\n' ∧ c ≠ '\r') (pending : Bool) (rest : Text)
    : linesFrom pending (c :: rest)
      = (c :: (linesFrom false rest).1, (linesFrom false rest).2) := by
  have noReturn : decide (c = '\r') = false := decide_eq_false noEnd.2
  rw [linesFrom]
  · rw [noReturn]
    exact if_neg (not_or.mpr noEnd)
  · exact fun _ isFeed => noEnd.1 isFeed

/-- That a carriage return came before matters only to a line feed. -/
theorem linesFrom_pending {t : Text} (noFeed : t.head? ≠ some '\n')
    : linesFrom true t = linesFrom false t := by
  cases t with
  | nil => rfl
  | cons c rest =>
      rcases Decidable.em (c = '\r') with rfl | noReturn
      · rw [linesFrom_return, linesFrom_return]
      · have noEnd : c ≠ '\n' ∧ c ≠ '\r' := ⟨fun feed => noFeed (congrArg some feed), noReturn⟩
        rw [linesFrom_cons noEnd, linesFrom_cons noEnd]

-----------------------------------------------------------------------------------------
-- Lines of a text
-----------------------------------------------------------------------------------------

/-- Nothing that is cut out of a text holds a line end, by induction on the text. -/
theorem linesFrom_unbroken (pending : Bool) (t : Text)
    : ∀ line ∈ (linesFrom pending t).1 :: (linesFrom pending t).2, Unbroken line := by
  have empty : Unbroken [] := fun _ member => by cases member
  have ended {lines : List Text} (each : ∀ line ∈ lines, Unbroken line)
      : ∀ line ∈ [] :: lines, Unbroken line := by
    intro line member
    rcases List.mem_cons.mp member with rfl | later
    · exact empty
    · exact each line later
  induction t generalizing pending with
  | nil => cases pending <;> exact ended fun _ member => by cases member
  | cons c rest ih =>
      by_cases isFeed : c = '\n'
      · subst isFeed
        cases pending with
        | true => exact ih false
        | false => exact ended (ih false)
      · by_cases isReturn : c = '\r'
        · subst isReturn
          rw [linesFrom_return]
          exact ended (ih true)
        · rw [linesFrom_cons ⟨isFeed, isReturn⟩]
          intro line member
          rcases List.mem_cons.mp member with rfl | later
          · intro d inLine
            rcases List.mem_cons.mp inLine with rfl | inRest
            · exact ⟨isFeed, isReturn⟩
            · exact ih false _ List.mem_cons_self d inRest
          · exact ih false line (List.mem_cons_of_mem _ later)

/-- No line of a text holds a line end. -/
theorem unbroken_of_mem_lines {t line : Text} (member : line ∈ lines t) : Unbroken line :=
  linesFrom_unbroken false t line member

/-- A line without line ends is cut off whole, by induction on the line. -/
theorem linesFrom_append {line : Text} (unbroken : Unbroken line) (rest : Text)
    : linesFrom false (line ++ rest)
      = (line ++ (linesFrom false rest).1, (linesFrom false rest).2) := by
  induction line with
  | nil => rfl
  | cons c more ih =>
      have tail := ih (unbroken.of_subset (List.subset_cons_self c more))
      rw [List.cons_append, linesFrom_cons (unbroken c List.mem_cons_self), tail]
      rfl

/-- A line end ends a line, unless it is a carriage return and a line feed comes after it. -/
theorem linesFrom_lineEnd {lineEnd : Text} (isEnd : lineEnd ∈ lineEnds) {rest : Text}
    (noFeed : lineEnd = ['\r'] → rest.head? ≠ some '\n')
    : linesFrom false (lineEnd ++ rest)
      = ([], (linesFrom false rest).1 :: (linesFrom false rest).2) := by
  simp only [lineEnds, List.mem_cons, List.not_mem_nil, or_false] at isEnd
  rcases isEnd with rfl | rfl | rfl
  · exact linesFrom_feed rest
  · exact linesFrom_return false ('\n' :: rest)
  · rw [List.singleton_append, linesFrom_return, linesFrom_pending (noFeed rfl)]

/-- Lines without line ends, each ended by a carriage return, do not begin with a line feed, nor do
they with a text after them that does not.
-/
theorem head?_flatMap_return {ls : List Text} (unbroken : ∀ line ∈ ls, Unbroken line) {rest : Text}
    (noFeed : rest.head? ≠ some '\n')
    : (ls.flatMap (· ++ ['\r']) ++ rest).head? ≠ some '\n' := by
  cases ls with
  | nil => exact noFeed
  | cons line others =>
      rw [List.flatMap_cons]
      cases line with
      | nil => exact fun feed => absurd (Option.some.inj feed) (by decide)
      | cons c more =>
          have noEnd := unbroken (c :: more) List.mem_cons_self c List.mem_cons_self
          exact fun feed => noEnd.1 (Option.some.inj feed)

/-- Lines without line ends, each ended in the same way, are read back before the lines of what
comes after them, by induction on the lines.
-/
theorem lines_flatMap_append {lineEnd : Text} (isEnd : lineEnd ∈ lineEnds) {ls : List Text}
    (unbroken : ∀ line ∈ ls, Unbroken line) {rest : Text}
    (noFeed : lineEnd = ['\r'] → rest.head? ≠ some '\n')
    : lines (ls.flatMap (· ++ lineEnd) ++ rest) = ls ++ lines rest := by
  induction ls with
  | nil => rfl
  | cons line others ih =>
      have within : ∀ l ∈ others, Unbroken l := fun l member =>
        unbroken l (List.mem_cons_of_mem _ member)
      have noFeedAfter (isReturn : lineEnd = ['\r'])
          : (others.flatMap (· ++ lineEnd) ++ rest).head? ≠ some '\n' := by
        rw [isReturn]
        exact head?_flatMap_return within (noFeed isReturn)
      have cut : lines ((line ++ lineEnd) ++ (others.flatMap (· ++ lineEnd) ++ rest))
          = line :: lines (others.flatMap (· ++ lineEnd) ++ rest) := by
        unfold lines
        rw [List.append_assoc, linesFrom_append (unbroken line List.mem_cons_self),
          linesFrom_lineEnd isEnd noFeedAfter]
        exact congrArg (· :: _) (List.append_nil line)
      rw [List.flatMap_cons, List.append_assoc, cut, ih within]
      rfl

/-- Lines without line ends, each ended in the same way, are read back with one empty line after
them.
-/
theorem lines_flatMap {lineEnd : Text} (isEnd : lineEnd ∈ lineEnds) {ls : List Text}
    (unbroken : ∀ line ∈ ls, Unbroken line)
    : lines (ls.flatMap (· ++ lineEnd)) = ls ++ [[]] := by
  have read : lines (ls.flatMap (· ++ lineEnd) ++ []) = ls ++ lines [] :=
    lines_flatMap_append isEnd unbroken fun _ feed => by cases feed
  rwa [List.append_nil] at read

end LiveIni.Text
