import LiveIni.Document

/-!
Building a document entry by entry. Comments get the made-up names `Comment1`, `Comment2` and
so on, the first that is free. If a key has the name of a comment, the key takes the name and
the comment, in its place, gets another one: no comment is ever lost.
-/

namespace LiveIni

/-- A document in the making. For each section that has been opened or has comments, a count
is kept below which no name of a comment is tried.
-/
structure Builder where
  sections : Table Entries := []
  counts : Table Nat := []
  diagnostics : List Diagnostic := []
deriving Repr, Inhabited

namespace Builder

/-- The made-up name of the comment with a number. -/
def commentName (n : Nat) : Text :=
  "Comment".toList ++ Text.ofNat n

/-- The first number from `start` on whose name is not in use, if there is one among the next
`tries` numbers.
-/
def freeNumber (entries : Entries) : (tries start : Nat) → Nat
  | 0, start => start
  | tries + 1, start =>
    if entries.has (commentName start) then freeNumber entries tries (start + 1) else start

/-- The entries of a section, none if it is not there. -/
def entriesOf (b : Builder) (name : Text) : Entries :=
  (b.sections.get? name).getD []

/-- The number for the next comment of a section. Of one number more than there are entries, at
least one is free.
-/
def nextNumber (b : Builder) (name : Text) : Nat :=
  let entries := b.entriesOf name
  freeNumber entries (entries.length + 1) ((b.counts.get? name).getD 0 + 1)

/-- Opens a section, which is made if it is not there. Comments are counted anew. -/
def openSection (b : Builder) (name : Text) : Builder :=
  { b with
    sections := if b.sections.has name then b.sections else b.sections.set name []
    counts := b.counts.set name 0 }

/-- Adds a comment to a section, and says under which name. -/
def addComment (b : Builder) (inSection text : Text) : Builder × Text :=
  let number := b.nextNumber inSection
  let name := commentName number
  ({ b with
    sections := b.sections.set inSection ((b.entriesOf inSection).set name (.comment text))
    counts := b.counts.set inSection number }, name)

/-- Gives the comment of a name another name, in its place. -/
def renameComment (b : Builder) (inSection name : Text) : Builder :=
  let number := b.nextNumber inSection
  let renamed := (b.entriesOf inSection).map fun (n, entry) =>
    (if n = name then commentName number else n, entry)
  { b with
    sections := b.sections.set inSection renamed
    counts := b.counts.set inSection number }

/-- Whether storing an entry takes the name of a comment away. -/
def takesName (b : Builder) (inSection name : Text) (entry : Entry) : Bool :=
  match entry, (b.entriesOf inSection).get? name with
  | .keyValue _, some (.comment _) => true
  | _, _ => false

/-- Stores an entry in a section under a name, and says whether the name is new. -/
def addEntry (b : Builder) (inSection name : Text) (entry : Entry) : Builder × Bool :=
  let b := if b.takesName inSection name entry then b.renameComment inSection name else b
  let entries := b.entriesOf inSection
  ({ b with sections := b.sections.set inSection (entries.set name entry) },
    !entries.has name)

/-- Notes a problem. -/
def report (b : Builder) (d : Diagnostic) : Builder :=
  { b with diagnostics := b.diagnostics ++ [d] }

def build (b : Builder) : Document :=
  ⟨b.sections, b.diagnostics⟩

end Builder

end LiveIni
