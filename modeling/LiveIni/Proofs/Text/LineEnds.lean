import LiveIni.Proofs.Text.Breaks
import LiveIni.Proofs.Text.Replacing

/-!
Line ends of all kinds in one text, one after the other. A carriage return and a line feed after it
are one line end, so that a text is cut into the same lines after each of its line ends has been
replaced by a line feed.
-/

namespace LiveIni.Text

/-- The text with its line ends translated: every pair of a carriage return and a line feed is
replaced by a line feed, and so is every carriage return that is left.
-/
def translateEnds (t : Text) : Text :=
  replaceAll ['\r'] ['\n'] (replaceAll ['\r', '\n'] ['\n'] t)

/-- A text is taken apart at its start: it begins with a line end as long as there is one, or with
another character.
-/
@[elab_as_elim]
theorem lineEnd_induction {motive : Text → Prop} (nil : motive [])
    (ended : ∀ lineEnd ∈ lineEnds, ∀ rest, (lineEnd = ['\r'] → rest.head? ≠ some '\n') →
      motive rest → motive (lineEnd ++ rest))
    (char : ∀ c rest, c ≠ '\n' ∧ c ≠ '\r' → motive rest → motive (c :: rest)) (t : Text)
    : motive t := by
  -- A pair is two characters, so that the text after it is not just the tail.
  suffices both : motive t ∧ ∀ c, motive (c :: t) from both.1
  induction t with
  | nil =>
      refine ⟨nil, fun c => ?_⟩
      by_cases isFeed : c = '\n'
      · exact isFeed ▸ ended ['\n'] (by decide) [] nofun nil
      · by_cases isReturn : c = '\r'
        · exact isReturn ▸ ended ['\r'] (by decide) [] nofun nil
        · exact char c [] ⟨isFeed, isReturn⟩ nil
  | cons d rest ih =>
      obtain ⟨atRest, atPair⟩ := ih
      refine ⟨atPair d, fun c => ?_⟩
      by_cases isFeed : c = '\n'
      · exact isFeed ▸ ended ['\n'] (by decide) (d :: rest) nofun (atPair d)
      · by_cases isReturn : c = '\r'
        · subst isReturn
          by_cases isPair : d = '\n'
          · exact isPair ▸ ended ['\r', '\n'] (by decide) rest nofun atRest
          · exact ended ['\r'] (by decide) (d :: rest)
              (fun _ feed => isPair (Option.some.inj feed)) (atPair d)
        · exact char c (d :: rest) ⟨isFeed, isReturn⟩ (atPair d)

-----------------------------------------------------------------------------------------
-- One line end after the other
-----------------------------------------------------------------------------------------

section Start

variable {lineEnd rest : Text} (isEnd : lineEnd ∈ lineEnds)
  (noFeed : lineEnd = ['\r'] → rest.head? ≠ some '\n')

include isEnd noFeed in
/-- Each line end becomes a line feed, and a carriage return does so only if no line feed comes after
it.
-/
theorem translateEnds_lineEnd : translateEnds (lineEnd ++ rest) = '\n' :: translateEnds rest := by
  have pairs : replaceAll ['\r', '\n'] ['\n'] (['\r', '\n'] ++ rest)
      = ['\n'] ++ replaceAll ['\r', '\n'] ['\n'] rest :=
    replaceAll_append (List.cons_ne_nil _ _) rest
  have single {c : Char} (noPair : ¬['\r', '\n'] <+: c :: rest)
      : replaceAll ['\r', '\n'] ['\n'] (c :: rest)
        = c :: replaceAll ['\r', '\n'] ['\n'] rest :=
    replaceAll_cons (List.cons_ne_nil _ _) noPair
  simp only [lineEnds, List.mem_cons, List.not_mem_nil, or_false] at isEnd
  rcases isEnd with rfl | rfl | rfl
  · have noPair : ¬['\r', '\n'] <+: '\n' :: rest := by simp
    simp [translateEnds, single noPair, replaceAll_singleton]
  · rw [List.cons_append, List.singleton_append] at pairs
    simp [translateEnds, pairs, replaceAll_singleton]
  · have noPair : ¬['\r', '\n'] <+: '\r' :: rest := by
      rintro ⟨more, whole⟩
      refine noFeed rfl ?_
      rw [← (List.cons.inj whole).2]
      rfl
    simp [translateEnds, single noPair, replaceAll_singleton]

theorem translateEnds_cons {c : Char} (noEnd : c ≠ '\n' ∧ c ≠ '\r') (rest : Text)
    : translateEnds (c :: rest) = c :: translateEnds rest := by
  have noPair : ¬['\r', '\n'] <+: c :: rest := by
    simp [List.cons_prefix_cons, noEnd.2.symm]
  have kept : replaceAll ['\r', '\n'] ['\n'] (c :: rest)
      = c :: replaceAll ['\r', '\n'] ['\n'] rest :=
    replaceAll_cons (List.cons_ne_nil _ _) noPair
  simp [translateEnds, kept, replaceAll_singleton, noEnd.2]

include isEnd noFeed in
theorem withLineFeeds_lineEnd : withLineFeeds (lineEnd ++ rest) = '\n' :: withLineFeeds rest := by
  simp [withLineFeeds, linesFrom_lineEnd isEnd noFeed]

theorem withLineFeeds_cons {c : Char} (noEnd : c ≠ '\n' ∧ c ≠ '\r') (rest : Text)
    : withLineFeeds (c :: rest) = c :: withLineFeeds rest := by
  simp [withLineFeeds, linesFrom_cons noEnd]

end Start

/-- Joining the lines of a text by line feeds translates its line ends, by induction on these. -/
theorem withLineFeeds_eq_translateEnds (t : Text) : withLineFeeds t = translateEnds t := by
  induction t using lineEnd_induction with
  | nil => rfl
  | ended lineEnd isEnd rest noFeed ih =>
      rw [withLineFeeds_lineEnd isEnd noFeed, translateEnds_lineEnd isEnd noFeed, ih]
  | char c rest noEnd ih => rw [withLineFeeds_cons noEnd, translateEnds_cons noEnd, ih]

/-- A text with its line ends translated is cut in the same places, by induction on the line ends. -/
theorem linesFrom_translateEnds (t : Text)
    : linesFrom false (translateEnds t) = linesFrom false t := by
  induction t using lineEnd_induction with
  | nil => rfl
  | ended lineEnd isEnd rest noFeed ih =>
      rw [translateEnds_lineEnd isEnd noFeed, linesFrom_feed, linesFrom_lineEnd isEnd noFeed, ih]
  | char c rest noEnd ih =>
      rw [translateEnds_cons noEnd, linesFrom_cons noEnd, linesFrom_cons noEnd, ih]

theorem lines_translateEnds (t : Text) : lines (translateEnds t) = lines t := by
  simp only [lines, linesFrom_translateEnds]

/-- Two returns before a feed are two line ends, and a return after a feed is one more. -/
example
    : translateEnds "a\r\r\nb\n\rc\r".toList = "a\n\nb\n\nc\n".toList
      ∧ lines "a\r\r\nb\n\rc\r".toList = [['a'], [], ['b'], [], ['c'], []] := by
  decide

end LiveIni.Text
