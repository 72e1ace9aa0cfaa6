import LiveIni.Proofs.Text.Breaks
import LiveIni.Text.Blank

/-!
The lines of a text that are not blank. They are cut at every line end that is put after a text,
whatever the text itself ends in: all that can happen there is that a blank line is lost.
-/

namespace LiveIni.Text

/-- The first line of a text. -/
def firstLine (t : Text) : Text :=
  (linesFrom false t).1

/-- All lines of a text but the first. -/
def laterLines (t : Text) : List Text :=
  (linesFrom false t).2

/-- A text without line ends only makes the first line of what comes after it longer. -/
theorem lines_append_of_unbroken {s : Text} (unbroken : Unbroken s) (t : Text)
    : lines (s ++ t) = (s ++ firstLine t) :: laterLines t := by
  rw [lines, linesFrom_append unbroken]
  rfl

/-- The lines that are not blank. -/
def visible (ls : List Text) : List Text :=
  ls.filter fun line => !isBlankLine line

def visibleLines (t : Text) : List Text :=
  visible (lines t)

theorem visible_cons (line : Text) (ls : List Text)
    : visible (line :: ls) = visible [line] ++ visible ls :=
  List.filter_append [line] ls

section Cut

variable {lineEnd rest : Text} (isEnd : lineEnd ∈ lineEnds)
  (noFeed : lineEnd = ['\r'] → rest.head? ≠ some '\n')

include isEnd noFeed

/-- A line end after a carriage return may be the second half of one line end. Then it ends no
line of its own, but no visible line is lost.
-/
theorem visible_linesFrom_lineEnd
    : visible ((linesFrom true (lineEnd ++ rest)).1 :: (linesFrom true (lineEnd ++ rest)).2)
      = visibleLines rest := by
  simp only [lineEnds, List.mem_cons, List.not_mem_nil, or_false] at isEnd
  rcases isEnd with rfl | rfl | rfl
  · rfl
  · rfl
  · rw [List.singleton_append, linesFrom_return, linesFrom_pending (noFeed rfl)]
    rfl

/-- A line end after a text leaves the first line of the text and cuts the visible ones among all
others, by induction on the text. If a carriage return came before the text, a line feed that
the text begins with ends no line, so the first line is then not looked at for itself.
-/
theorem linesFrom_append_lineEnd (t : Text)
    : ((linesFrom false (t ++ (lineEnd ++ rest))).1 = (linesFrom false t).1
        ∧ visible (linesFrom false (t ++ (lineEnd ++ rest))).2
          = visible (linesFrom false t).2 ++ visibleLines rest)
      ∧ visible ((linesFrom true (t ++ (lineEnd ++ rest))).1
          :: (linesFrom true (t ++ (lineEnd ++ rest))).2)
        = visible ((linesFrom true t).1 :: (linesFrom true t).2) ++ visibleLines rest := by
  induction t with
  | nil =>
      rw [List.nil_append, linesFrom_lineEnd isEnd noFeed, visible_linesFrom_lineEnd isEnd noFeed]
      exact ⟨⟨rfl, rfl⟩, rfl⟩
  | cons c more ih =>
      obtain ⟨⟨first, later⟩, pending⟩ := ih
      have whole : visible ((linesFrom false (more ++ (lineEnd ++ rest))).1
            :: (linesFrom false (more ++ (lineEnd ++ rest))).2)
          = visible ((linesFrom false more).1 :: (linesFrom false more).2)
            ++ visibleLines rest := by
        rw [visible_cons, first, later, ← List.append_assoc, ← visible_cons]
      rw [List.cons_append]
      by_cases isFeed : c = '\n'
      · subst isFeed
        exact ⟨⟨rfl, whole⟩, whole⟩
      · by_cases isReturn : c = '\r'
        · subst isReturn
          rw [linesFrom_return, linesFrom_return, linesFrom_return, linesFrom_return]
          exact ⟨⟨rfl, pending⟩, pending⟩
        · have noEnd := And.intro isFeed isReturn
          rw [linesFrom_cons noEnd, linesFrom_cons noEnd, linesFrom_cons noEnd,
            linesFrom_cons noEnd]
          refine ⟨⟨congrArg (c :: ·) first, later⟩, ?_⟩
          rw [visible_cons, first, later, ← List.append_assoc, ← visible_cons]

/-- A line end after a text cuts the visible lines. -/
theorem visibleLines_append (t : Text)
    : visibleLines (t ++ (lineEnd ++ rest)) = visibleLines t ++ visibleLines rest := by
  obtain ⟨⟨first, later⟩, _⟩ := linesFrom_append_lineEnd isEnd noFeed t
  rw [visibleLines, lines, visible_cons, first, later, ← List.append_assoc, ← visible_cons]
  rfl

end Cut

/-- Texts that are each ended in the same way have the visible lines of each of them in order, also
those that hold line ends themselves, by induction on the texts.
-/
theorem visibleLines_flatMap {lineEnd : Text} (isEnd : lineEnd ∈ lineEnds) {ts : List Text}
    (noFeed : ∀ t ∈ ts, t.head? ≠ some '\n')
    : visibleLines (ts.flatMap (· ++ lineEnd)) = ts.flatMap visibleLines := by
  induction ts with
  | nil => rfl
  | cons t others ih =>
      have within : ∀ s ∈ others, s.head? ≠ some '\n' := fun s member =>
        noFeed s (List.mem_cons_of_mem _ member)
      have noFeedAfter (isReturn : lineEnd = ['\r'])
          : (others.flatMap (· ++ lineEnd)).head? ≠ some '\n' := by
        cases others with
        | nil => exact fun feed => by cases feed
        | cons s _ =>
            have begins := within s List.mem_cons_self
            rw [isReturn]
            cases s with
            | nil => exact fun feed => absurd (Option.some.inj feed) (by decide)
            | cons c _ => exact begins
      rw [List.flatMap_cons, List.append_assoc, visibleLines_append isEnd noFeedAfter, ih within,
        List.flatMap_cons]

end LiveIni.Text
