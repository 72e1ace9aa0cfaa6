import LiveIni.Text

/-!
Paths of files. Empty parts and parts that are a single point do not matter; a part of two
points leads to the directory above. A path that begins with a slash leads from the root, all
others from a working directory.
-/

namespace LiveIni

/-- A path, as its parts. An empty first part stands for the root. -/
structure Path where
  parts : List Text
deriving DecidableEq, Repr, Inhabited

namespace Path

def ofText (t : Text) : Path :=
  let parts := (Text.splitAt '/' t).filter fun part => part ≠ [] && part ≠ ['.']
  ⟨if t.head? = some '/' then [] :: parts else parts⟩

/-- The text of a path, a single point for the working directory itself. -/
def text (p : Path) : Text :=
  if p.parts = [] then ['.'] else if p.parts = [[]] then ['/'] else ['/'].intercalate p.parts

/-- The parts, in reverse, of the place that a part leads to from a directory. Nothing is above
the root.
-/
def enter (above : List Text) (part : Text) : List Text :=
  if part = ['.', '.'] then (if above = [[]] then above else above.drop 1) else part :: above

def parent (p : Path) : Path :=
  ⟨p.parts.dropLast⟩

/-- The path without parts of two points: each takes back the part before it. -/
def resolved (p : Path) : Path :=
  ⟨(p.parts.foldl enter []).reverse⟩

end Path

end LiveIni
