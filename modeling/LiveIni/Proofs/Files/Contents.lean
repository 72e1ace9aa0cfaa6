import LiveIni.Files
import LiveIni.Proofs.Computation

/-!
What files contain, place by place: making directories changes the content of no file, and opening
a file for writing that of the file alone.
-/

namespace LiveIni.Files

/-- The content of the file at a place; none if no file stands there. -/
def content? (files : Files) (place : Path) : Option Bytes :=
  match node? files place with
  | some (.file content) => some content
  | _ => none

variable {files : Files} {p q : Path}

/-- Where nothing stands yet the table of files has no entry. -/
theorem get?_of_node?_eq_none (absent : node? files p = none) : Table.get? p.text files = none := by
  unfold node? at absent
  split at absent
  · cases absent
  · exact absent

/-- Only the file whose place is set has a new content. -/
theorem content?_set_of_ne (other : q.text ≠ p.text) (node : Node)
    : content? (Table.set p.text node files) q = content? files q := by
  unfold content? node?
  rw [Table.get?_set_of_ne other]

/-- What a place has been given, unless it is a directory in any case. -/
theorem node?_set_self {found : Option Node} (plain : node? files p = found)
    (notRoot : found ≠ some .directory) (node : Node)
    : node? (Table.set p.text node files) p = some node := by
  unfold node? at plain ⊢
  split
  · next root =>
      rw [if_pos root] at plain
      exact absurd plain.symm notRoot
  · exact Table.get?_set_self p.text node files

-----------------------------------------------------------------------------------------
-- Making directories
-----------------------------------------------------------------------------------------

/-- A directory where nothing stood is no file, and no file was there. -/
theorem content?_set_directory (absent : node? files p = none) (q : Path)
    : content? (Table.set p.text .directory files) q = content? files q := by
  by_cases same : q.text = p.text
  · have before := get?_of_node?_eq_none absent
    unfold content? node?
    rw [same, Table.get?_set_self, before]
    by_cases root : q.parts = [] ∨ q.parts = [[]]
    · rw [if_pos root, if_pos root]
    · rw [if_neg root, if_neg root]
  · exact content?_set_of_ne same .directory

theorem content?_makeDirectory {path : Path} {made : Files}
    (making : makeDirectory files path = .ok made) (q : Path)
    : content? made q = content? files q := by
  unfold makeDirectory at making
  obtain ⟨p, _, making⟩ := Computation.bind_eq_ok_iff.mp making
  split at making
  · cases making
  · next absent =>
      cases making
      exact content?_set_directory absent q

/-- Making a directory with those above it leaves all contents, by induction on those above. -/
theorem content?_makeDirectoriesAt {above : List Text} {made : Files}
    (making : makeDirectoriesAt files above = .ok made) (q : Path)
    : content? made q = content? files q := by
  induction above generalizing made with
  | nil =>
      cases making
      rfl
  | cons part above ih =>
      -- What fails to be made may be there already, and is then kept as it is.
      have kept {before : Files} {fault : PathFault}
          (keeping : (if isDirectory before ⟨(part :: above).reverse⟩ then .ok before
            else .error fault) = Except.ok made)
          : made = before := by
        split at keeping
        · cases keeping
          rfl
        · cases keeping
      unfold makeDirectoriesAt at making
      dsimp only at making
      split at making
      · next more direct =>
          cases making
          exact content?_makeDirectory direct q
      · obtain ⟨parents, first, making⟩ := Computation.bind_eq_ok_iff.mp making
        rw [← ih first]
        split at making
        · next more last =>
            cases making
            exact content?_makeDirectory last q
        · rw [kept making]
      · rw [kept making]

theorem content?_makeDirectories {path : Path} {made : Files}
    (making : makeDirectories files path = .ok made) (q : Path)
    : content? made q = content? files q :=
  content?_makeDirectoriesAt making q

-----------------------------------------------------------------------------------------
-- Opening for writing
-----------------------------------------------------------------------------------------

/-- Following parts enters them one after the other, by induction on the parts. -/
theorem follow_eq {above parts : List Text} (followed : follow files above parts = .ok p)
    : p = ⟨(parts.foldl Path.enter above).reverse⟩ := by
  induction parts generalizing above with
  | nil =>
      cases followed
      rfl
  | cons part rest ih =>
      unfold follow at followed
      split at followed
      · cases followed
      · cases followed
      · exact ih followed

/-- Where a path leads, it leads to its resolved form. -/
theorem place_eq {path : Path} (placed : place files path = .ok p) : p = path.resolved :=
  follow_eq placed

/-- The content with which a file is opened, for the content that it had before. -/
def contentOpened : WriteMode → Option Bytes → Bytes
  | .extend, before => before.getD []
  | _, _ => []

/-- A file that is opened is made or emptied, unless it is there to be extended. -/
theorem openForWriting_cases {path : Path} {mode : WriteMode} {opened : Files} {bytes : Bytes}
    (opens : openForWriting files path mode = .ok (opened, p, bytes))
    : place files path = .ok p
      ∧ (node? files p ≠ some .directory
          ∧ opened = Table.set p.text (.file []) files
          ∧ bytes = []
          ∧ contentOpened mode (content? files p) = []
        ∨ mode = .extend ∧ node? files p = some (.file bytes) ∧ opened = files) := by
  unfold openForWriting at opens
  obtain ⟨found, placed, opens⟩ := Computation.bind_eq_ok_iff.mp opens
  cases stands : node? files found with
  | none =>
      rw [stands] at opens
      cases opens
      refine ⟨placed, .inl ⟨by simp [stands], rfl, rfl, ?_⟩⟩
      rw [content?, stands]
      cases mode <;> rfl
  | some node =>
      rw [stands] at opens
      cases node with
      | directory => cases mode <;> cases opens
      | file content =>
          cases mode with
          | new => cases opens
          | replace =>
              cases opens
              exact ⟨placed, .inl ⟨by simp [stands], rfl, rfl, rfl⟩⟩
          | extend =>
              cases opens
              exact ⟨placed, .inr ⟨rfl, stands, rfl⟩⟩

/-- A file that has been opened has the content that its mode leaves of the old one, and no other
file has changed.
-/
theorem content?_openForWriting {path : Path} {mode : WriteMode} {opened : Files} {bytes : Bytes}
    (opens : openForWriting files path mode = .ok (opened, p, bytes))
    : p = path.resolved
      ∧ bytes = contentOpened mode (content? files p)
      ∧ content? opened p = some bytes
      ∧ ∀ q, q.text ≠ p.text → content? opened q = content? files q := by
  obtain ⟨placed, ⟨plain, rfl, rfl, left⟩ | ⟨rfl, stands, rfl⟩⟩ := openForWriting_cases opens
  · refine ⟨place_eq placed, left.symm, ?_, fun q other => content?_set_of_ne other _⟩
    rw [content?, node?_set_self rfl plain]
  · have before : content? opened p = some bytes := by rw [content?, stands]
    refine ⟨place_eq placed, ?_, before, fun q other => rfl⟩
    rw [before]
    rfl

-----------------------------------------------------------------------------------------
-- Extending a file
-----------------------------------------------------------------------------------------

/-- What is added to a file is at the end of its content, and no other file has changed. -/
theorem content?_append {bytes : Bytes} (stands : content? files p = some bytes) (more : Bytes)
    : content? (append files p more) p = some (bytes ++ more)
      ∧ ∀ q, q.text ≠ p.text → content? (append files p more) q = content? files q := by
  have file : node? files p = some (.file bytes) := by
    unfold content? at stands
    split at stands
    · next found =>
        cases stands
        exact found
    · cases stands
  simp only [append, file, write]
  refine ⟨?_, fun q other => content?_set_of_ne other _⟩
  rw [content?, node?_set_self file (by simp)]

-----------------------------------------------------------------------------------------
-- Reading
-----------------------------------------------------------------------------------------

/-- What can be read at a path is what the file at its place contains. -/
theorem content?_of_read {path : Path} {bytes : Bytes} (found : read files path = .ok bytes)
    : content? files path.resolved = some bytes := by
  unfold read at found
  obtain ⟨p, placed, found⟩ := Computation.bind_eq_ok_iff.mp found
  rw [← place_eq placed, content?]
  split at found
  · cases found
  · cases found
  · next stands =>
      cases found
      rw [stands]

/-- A directory stays one when a file is written elsewhere or where a file was. -/
theorem node?_set_directory {q : Path} (isDirectory : node? files q = some .directory)
    (plain : node? files p ≠ some .directory) (node : Node)
    : node? (Table.set p.text node files) q = some .directory := by
  unfold node? at isDirectory plain ⊢
  by_cases root : q.parts = [] ∨ q.parts = [[]]
  · rw [if_pos root]
  · rw [if_neg root] at isDirectory ⊢
    by_cases same : q.text = p.text
    · rw [same] at isDirectory
      by_cases top : p.parts = [] ∨ p.parts = [[]]
      · exact absurd (if_pos top) plain
      · exact absurd ((if_neg top).trans isDirectory) plain
    · rw [Table.get?_set_of_ne same, isDirectory]

/-- A path leads to the same place when a file is written there, by induction on the parts. -/
theorem follow_set {above parts : List Text} {q : Path} (node : Node)
    (plain : node? files p ≠ some .directory) (followed : follow files above parts = .ok q)
    : follow (Table.set p.text node files) above parts = .ok q := by
  induction parts generalizing above with
  | nil => exact followed
  | cons part rest ih =>
      unfold follow at followed ⊢
      split at followed
      · cases followed
      · cases followed
      · next isDirectory =>
          rw [node?_set_directory isDirectory plain]
          exact ih followed

theorem place_set {path q : Path} (node : Node) (plain : node? files p ≠ some .directory)
    (placed : place files path = .ok q)
    : place (Table.set p.text node files) path = .ok q :=
  follow_set node plain placed

/-- A path that has been opened still leads to its place. -/
theorem place_openForWriting {path : Path} {mode : WriteMode} {opened : Files} {bytes : Bytes}
    (opens : openForWriting files path mode = .ok (opened, p, bytes))
    : place opened path = .ok p := by
  obtain ⟨placed, ⟨plain, rfl, _⟩ | ⟨_, _, rfl⟩⟩ := openForWriting_cases opens
  · exact place_set (.file []) plain placed
  · exact placed

/-- What is written to a file that has been opened is read back from its path. -/
theorem read_write {path : Path} {mode : WriteMode} {opened : Files} {bytes : Bytes}
    (opens : openForWriting files path mode = .ok (opened, p, bytes)) (content : Bytes)
    : read (write opened p content) path = .ok content := by
  obtain ⟨-, -, left, -⟩ := content?_openForWriting opens
  have plain : node? opened p ≠ some .directory := by
    intro isDirectory
    rw [content?, isDirectory] at left
    cases left
  refine Computation.bind_eq_ok_iff.mpr
    ⟨p, place_set (.file content) plain (place_openForWriting opens), ?_⟩
  rw [write, node?_set_self rfl plain]

end LiveIni.Files
