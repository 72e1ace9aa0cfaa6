import LiveIni.Text

/-!
Lines of a text. A line feed, a carriage return and the pair of both each end a line, and
nothing else does. Joining all lines by line feeds is what reading a file in text mode does
to its line ends.
-/

namespace LiveIni.Text

/-- Cuts a text at its line ends. A text without a line end is one line, and a line end at
the very end is followed by one more, empty line. The first argument says that a carriage
return has just ended a line, so that a line feed here belongs to it.
-/
def linesFrom : Bool → Text → Text × List Text
  | _, [] => ([], [])
  | true, '\n' :: rest => linesFrom false rest
  | _, c :: rest =>
    let (line, more) := linesFrom (c = '\r') rest
    if c = '\n' ∨ c = '\r' then ([], line :: more) else (c :: line, more)

/-- The lines of a text, at least one. -/
def lines (t : Text) : List Text :=
  let (line, more) := linesFrom false t
  line :: more

/-- A text with each of its line ends written as a line feed. -/
def withLineFeeds (t : Text) : Text :=
  let (line, more) := linesFrom false t
  line ++ more.flatMap fun l => '\n' :: l

end LiveIni.Text
