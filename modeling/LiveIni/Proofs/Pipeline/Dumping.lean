import LiveIni.Pipeline
import LiveIni.Proofs.Files.Contents

/-!
Dumps that fail. All that can go wrong before the file is opened leaves every file as it was. But
the text is encoded only after that, and so a text that its encoding refuses costs the file the
content that opening it takes away. Which texts an encoding refuses is up to its codec.
-/

namespace LiveIni.Pipeline

variable {p : Pipeline} {d : Document} {world after : World} {fault : PipelineFault}

/-- A world, after a message about a failure if there is one. -/
def noting (p : Pipeline) (world : World) : Option Text → World
  | none => world
  | some message => Logger.safeLog p.logger .error message none world

-----------------------------------------------------------------------------------------
-- Opening
-----------------------------------------------------------------------------------------

/-- The path is opened for writing: the files with it made or emptied if need be, its place, and the
content that is to be extended.
-/
def Opens (p : Pipeline) (files : Files) (path : Path) (mode : Files.WriteMode) (opened : Files)
    (place : Path) (content : Bytes) : Prop :=
  ∃ made, files.makeDirectories path.parent = .ok made
    ∧ p.refusal path = none
    ∧ made.openForWriting path mode = .ok (opened, place, content)

/-- A file that has been opened has the content that its mode leaves of the old one, and no other
file has changed.
-/
theorem Opens.contents {files opened : Files} {path place : Path} {mode : Files.WriteMode}
    {content : Bytes} (opens : p.Opens files path mode opened place content)
    : place = path.resolved
      ∧ content = Files.contentOpened mode (files.content? place)
      ∧ opened.content? place = some content
      ∧ ∀ q, q.text ≠ place.text → opened.content? q = files.content? q := by
  obtain ⟨made, making, _, opening⟩ := opens
  have kept := Files.content?_makeDirectories making
  obtain ⟨same, bytes, left, others⟩ := Files.content?_openForWriting opening
  rw [kept] at bytes
  exact ⟨same, bytes, left, fun q other => (others q other).trans (kept q)⟩

theorem pathRefused_eq {α : Type} (path refused : Path) (fault : PathFault) (world : World)
    : ∃ why message, (p.pathRefused path refused fault : Action α) world
        = (.error why, p.noting world (some message)) := by
  cases fault <;> exact ⟨_, _, rfl⟩

/-- A path is opened, or all contents stay and a message is logged at most. -/
theorem openFile_eq (p : Pipeline) (path : Path) (mode : Files.WriteMode) (world : World)
    : (∃ opened place content, p.Opens world.files path mode opened place content
          ∧ p.openFile path mode world = (.ok (place, content), { world with files := opened }))
        ∨ (∀ opened place content, ¬p.Opens world.files path mode opened place content)
          ∧ ∃ made why message, (∀ q, made.content? q = world.files.content? q)
            ∧ p.openFile path mode world
              = (.error why, p.noting { world with files := made } message) := by
  have seen : (get : Action World) world = (.ok world, world) := rfl
  have stored (w v : World) : (set w : Action PUnit) v = (.ok PUnit.unit, w) := rfl
  unfold openFile
  rw [Computation.bind_of_ok seen]
  cases making : world.files.makeDirectories path.parent with
  | error refused =>
      obtain ⟨why, message, refuses⟩ :=
        @pathRefused_eq p (Path × Bytes) path path.parent refused world
      refine .inr ⟨?_, world.files, why, some message, fun q => rfl, refuses⟩
      rintro opened place content ⟨made, makes, _⟩
      cases making.symm.trans makes
  | ok made =>
      have kept := Files.content?_makeDirectories making
      dsimp only
      rw [Computation.bind_of_ok (stored _ _)]
      cases barred : p.refusal path with
      | some reason =>
          refine .inr ⟨?_, made, _, some _, kept, rfl⟩
          rintro opened place content ⟨_, _, free, _⟩
          cases barred.symm.trans free
      | none =>
          cases opening : made.openForWriting path mode with
          | error refused =>
              obtain ⟨why, message, refuses⟩ :=
                @pathRefused_eq p (Path × Bytes) path path refused
                  { world with files := made }
              refine .inr ⟨?_, made, why, some message, kept, refuses⟩
              rintro opened place content ⟨_, makes, _, opens⟩
              cases making.symm.trans makes
              cases opening.symm.trans opens
          | ok result =>
              obtain ⟨opened, place, content⟩ := result
              exact .inl ⟨opened, place, content, ⟨made, making, barred, opening⟩, rfl⟩

-----------------------------------------------------------------------------------------
-- Encoding
-----------------------------------------------------------------------------------------

/-- The codec of the name encodes the text as the bytes, for the start of a file or for its end. -/
def EncodesAs (p : Pipeline) (encoding : Text) (atStart : Bool) (text : Text) (bytes : Bytes)
    : Prop :=
  ∃ codec, p.codecs encoding = some codec
    ∧ codec.isText = true
    ∧ codec.encode atStart text = .ok bytes

/-- A text is encoded, or a message about the failure is logged at most. -/
theorem encodeText_eq (p : Pipeline) (path : Path) (encoding : Text) (atStart : Bool) (text : Text)
    (world : World)
    : (∃ bytes, p.EncodesAs encoding atStart text bytes
          ∧ p.encodeText path encoding atStart text world = (.ok bytes, world))
        ∨ (∀ bytes, ¬p.EncodesAs encoding atStart text bytes)
          ∧ ∃ why message,
            p.encodeText path encoding atStart text world = (.error why, p.noting world message) := by
  unfold encodeText
  cases found : p.codecs encoding with
  | none =>
      refine .inr ⟨?_, _, none, rfl⟩
      rintro bytes ⟨codec, known, _⟩
      cases found.symm.trans known
  | some codec =>
      dsimp only
      cases isText : codec.isText with
      | false =>
          refine .inr ⟨?_, _, none, rfl⟩
          rintro bytes ⟨_, known, plain, _⟩
          cases found.symm.trans known
          cases isText.symm.trans plain
      | true =>
          cases encoded : codec.encode atStart text with
          | ok bytes => exact .inl ⟨bytes, ⟨codec, found, isText, encoded⟩, rfl⟩
          | error refused =>
              have never (bytes : Bytes) : ¬p.EncodesAs encoding atStart text bytes := by
                rintro ⟨_, known, _, encodes⟩
                cases found.symm.trans known
                cases encoded.symm.trans encodes
              cases refused with
              | unencodable text => exact .inr ⟨never, _, some _, rfl⟩
              | foreign message => exact .inr ⟨never, _, none, rfl⟩

-----------------------------------------------------------------------------------------
-- What a failure leaves
-----------------------------------------------------------------------------------------

/-- Only a document that is appended leaves the content that was there before. -/
theorem contentOpened_writeMode (append force : Bool) (before : Option Bytes)
    : Files.contentOpened (writeMode append force) before
      = if append then before.getD [] else [] := by
  cases append <;> cases force <;> rfl

/-- What a file has been left with, by a failure to write a text to it: the content that opening it
leaves, if it was opened and the text could not be encoded, and else its old content.
-/
structure LeftBy (files left : Files) (path : Path) (mode : Files.WriteMode) (spoilt : Prop)
    : Prop where
  spoils
    : spoilt
      → left.content? path.resolved
        = some (Files.contentOpened mode (files.content? path.resolved))
  keeps : ¬spoilt → left.content? path.resolved = files.content? path.resolved
  others : ∀ q, q.text ≠ path.resolved.text → left.content? q = files.content? q

/-- Where all contents are still the same, an unspoilt file has been left as it was. -/
theorem LeftBy.of_same {files left : Files} {path : Path} {mode : Files.WriteMode} {spoilt : Prop}
    (same : ∀ q, left.content? q = files.content? q) (unspoilt : ¬spoilt)
    : LeftBy files left path mode spoilt :=
  ⟨fun impossible => absurd impossible unspoilt, fun _ => same _, fun q _ => same q⟩

/-- A file that has been opened has been left spoilt, if the text is no good for it. -/
theorem Opens.leftBy {files opened : Files} {path place : Path} {mode : Files.WriteMode}
    {content : Bytes} {spoilt : Prop} (opens : p.Opens files path mode opened place content)
    (isSpoilt : spoilt)
    : LeftBy files opened path mode spoilt := by
  obtain ⟨rfl, bytes, left, others⟩ := opens.contents
  exact ⟨fun _ => bytes ▸ left, fun unspoilt => absurd isSpoilt unspoilt, others⟩

/-- Writing a text breaks off if the file can be opened, but the text cannot be encoded for it. -/
def BreaksOffAt (p : Pipeline) (files : Files) (path : Path) (mode : Files.WriteMode)
    (encoding text : Text) : Prop :=
  ∃ opened place content, p.Opens files path mode opened place content
    ∧ ∀ bytes, ¬p.EncodesAs encoding content.isEmpty text bytes

/-- A failure to write a text spoils the file exactly if it broke off. -/
theorem writeFile_failed {path : Path} {mode : Files.WriteMode} {encoding text : Text}
    (failed : p.writeFile path mode encoding text world = (.error fault, after))
    : ∃ left message,
        after = p.noting { world with files := left } message
        ∧ LeftBy world.files left path mode (p.BreaksOffAt world.files path mode encoding text) := by
  unfold writeFile at failed
  rcases p.openFile_eq path mode world with
    ⟨opened, place, content, opens, ran⟩ | ⟨closed, made, why, message, kept, ran⟩
  · rw [Computation.bind_of_ok ran] at failed
    dsimp only at failed
    rcases p.encodeText_eq path encoding content.isEmpty text { world with files := opened } with
      ⟨bytes, _, encoded⟩ | ⟨never, why, message, refused⟩
    · rw [Computation.bind_of_ok encoded] at failed
      cases failed
    · rw [Computation.bind_of_error refused] at failed
      cases failed
      exact ⟨opened, message, rfl, opens.leftBy ⟨opened, place, content, opens, never⟩⟩
  · rw [Computation.bind_of_error ran] at failed
    cases failed
    refine ⟨made, message, rfl, .of_same kept ?_⟩
    rintro ⟨opened, place, content, opens, _⟩
    exact closed opened place content opens

/-- The text of a document in the form of a name, if it has one. -/
def text? (p : Pipeline) (d : Document) (mode : Text) : Option Text :=
  (OutputMode.ofName? mode).bind fun m => d.text? m p.newline

/-- Writing a document as text fails exactly if it has none, and changes nothing. -/
theorem dumps_eq (p : Pipeline) (d : Document) (mode : Text) (world : World)
    : (∃ text, p.text? d mode = some text ∧ p.dumps d mode world = (.ok text, world))
      ∨ p.text? d mode = none ∧ ∃ fault, p.dumps d mode world = (.error fault, world) := by
  unfold text? dumps
  cases OutputMode.ofName? mode with
  | none => exact .inr ⟨rfl, _, rfl⟩
  | some m =>
      dsimp only [Option.bind_some]
      cases d.text? m p.newline with
      | none => exact .inr ⟨rfl, _, rfl⟩
      | some text => exact .inl ⟨text, rfl, rfl⟩

/-- A dump breaks off if there is a codec of the name and a text of the document, and the target can
be opened, but the text cannot be encoded for it: the codec is not found again under its own name,
is not one of text, or fails.
-/
def BreaksOff (p : Pipeline) (d : Document) (path mode encoding : Text) (append force : Bool)
    (files : Files) : Prop :=
  ∃ codec text,
    p.codecs encoding = some codec
    ∧ p.text? d mode = some text
    ∧ p.BreaksOffAt files (Path.ofText path) (writeMode append force) codec.name.toList text

/-- A dump that fails has spoilt its target exactly if it broke off.
Witness: the name of the encoding is looked up and the text is made before any file is touched.
-/
theorem dump_failed {path mode encoding : Text} {append force : Bool}
    (failed : p.dump d path mode encoding append force world = (.error fault, after))
    : ∃ left message,
        after = p.noting { world with files := left } message
        ∧ LeftBy world.files left (Path.ofText path) (writeMode append force)
          (p.BreaksOff d path mode encoding append force world.files) := by
  unfold dump at failed
  cases named : p.codecs encoding with
  | none =>
      rw [named] at failed
      cases failed
      refine ⟨world.files, none, rfl, .of_same (fun q => rfl) ?_⟩
      rintro ⟨codec, text, found, _⟩
      cases named.symm.trans found
  | some codec =>
      rw [named] at failed
      dsimp only at failed
      rcases p.dumps_eq d mode world with ⟨text, has, dumped⟩ | ⟨hasNone, why, dumped⟩
      · rw [Computation.bind_of_ok dumped] at failed
        rcases written : p.writeFile (Path.ofText path) (writeMode append force)
            codec.name.toList text world with ⟨result, final⟩
        cases result with
        | ok _ =>
            rw [Computation.bind_of_ok written] at failed
            cases failed
        | error why =>
            rw [Computation.bind_of_error written] at failed
            cases failed
            have same
                : p.BreaksOff d path mode encoding append force world.files
                  ↔ p.BreaksOffAt world.files (Path.ofText path) (writeMode append force)
                    codec.name.toList text := by
              simp [BreaksOff, named, has]
            rw [propext same]
            exact writeFile_failed written
      · rw [Computation.bind_of_error dumped] at failed
        cases failed
        refine ⟨world.files, none, rfl, .of_same (fun q => rfl) ?_⟩
        rintro ⟨_, text, _, has, _⟩
        cases hasNone.symm.trans has

/-- A document with a letter that is not in every encoding. -/
def accentedValue : Document where
  sections := [(Document.noSection, [(['k'], .keyValue ⟨['k'], ['é'], .string ['é']⟩)])]

/-- A world with a file that says `keep`. -/
def keepingWorld : World where
  files := [("f.ini".toList, .file (Text.utf8 "keep".toList))]

end LiveIni.Pipeline
