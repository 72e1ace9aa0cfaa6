import LiveIni.Proofs.Encoding.Utf8
import LiveIni.Proofs.Pipeline.Appending
import LiveIni.Proofs.Pipeline.Dumping
import LiveIni.Proofs.Pipeline.LineEnds
import LiveIni.Proofs.Pipeline.Loggers

/-!
Files that a document is written to, and another one is appended to. If no messages go to files,
such a file holds what the codec makes of the first text and then of the second, and it is loaded as
the two texts together are parsed.
-/

namespace LiveIni.Pipeline

variable {p writer₁ writer₂ : Pipeline} {d d₁ d₂ : Document} {world between after : World}

-----------------------------------------------------------------------------------------
-- Dumps that succeed
-----------------------------------------------------------------------------------------

/-- A text that has been written to a file is at the end of what opening left of the content. -/
theorem writeFile_written {path : Path} {mode : Files.WriteMode} {encoding text : Text}
    {done : Unit} (written : p.writeFile path mode encoding text world = (.ok done, after))
    : let kept := Files.contentOpened mode (world.files.content? path.resolved)
      ∃ bytes, p.EncodesAs encoding kept.isEmpty text bytes
        ∧ after.files.read path = .ok (kept ++ bytes) := by
  intro kept
  unfold writeFile at written
  rcases p.openFile_eq path mode world with
    ⟨opened, place, content, opens, ran⟩ | ⟨_, made, why, message, _, ran⟩
  · obtain ⟨rfl, rfl, _, _⟩ := opens.contents
    obtain ⟨made, _, _, opening⟩ := opens
    rw [Computation.bind_of_ok ran] at written
    dsimp only at written
    rcases p.encodeText_eq path encoding kept.isEmpty text { world with files := opened } with
      ⟨bytes, encodes, encoded⟩ | ⟨_, why, message, refused⟩
    · rw [Computation.bind_of_ok encoded] at written
      cases written
      exact ⟨bytes, encodes, Files.read_write opening _⟩
    · rw [Computation.bind_of_error refused] at written
      cases written
  · rw [Computation.bind_of_error ran] at written
    cases written

/-- A document that has been dumped is, as a text, at the end of its target, after the old content
if that is kept.
-/
theorem dump_written {path mode encoding : Text} {append force : Bool} {target : Path}
    (spares : Logger.sparesFiles p.logger = true)
    (dumped : p.dump d path mode encoding append force world = (.ok target, after))
    : let before := world.files.content? (Path.ofText path).resolved
      let kept := if append then before.getD [] else []
      ∃ codec text bytes, p.codecs encoding = some codec
        ∧ p.text? d mode = some text
        ∧ p.EncodesAs codec.name.toList kept.isEmpty text bytes
        ∧ after.files.read (Path.ofText path) = .ok (kept ++ bytes) := by
  intro before kept
  unfold dump at dumped
  cases named : p.codecs encoding with
  | none =>
      rw [named] at dumped
      cases dumped
  | some codec =>
      rw [named] at dumped
      dsimp only at dumped
      rcases p.dumps_eq d mode world with ⟨text, has, made⟩ | ⟨_, why, made⟩
      · rw [Computation.bind_of_ok made] at dumped
        obtain ⟨done, middle, written, dumped⟩ := Computation.ok_of_bind dumped
        obtain ⟨bytes, encodes, reads⟩ := writeFile_written written
        rw [contentOpened_writeMode] at encodes reads
        obtain ⟨_, last, logged, dumped⟩ := Computation.ok_of_bind dumped
        cases logged
        cases dumped
        refine ⟨codec, text, bytes, rfl, has, encodes, ?_⟩
        rw [(Logger.safeLog_alike spares _ _ middle).files]
        exact reads
      · rw [Computation.bind_of_error made] at dumped
        cases dumped

/-- A document that has a text is written as that text in every world, and changes none. -/
theorem dumps_of_text? {mode text : Text} (has : p.text? d mode = some text) (world : World)
    : p.dumps d mode world = (.ok text, world) := by
  rcases p.dumps_eq d mode world with ⟨_, same, dumped⟩ | ⟨hasNone, _⟩
  · cases has.symm.trans same
    exact dumped
  · cases has.symm.trans hasNone

-----------------------------------------------------------------------------------------
-- Appending
-----------------------------------------------------------------------------------------

/-- The pipeline finds the codec under the name, and under its own, and logs to no file. -/
structure Uses (p : Pipeline) (encoding : Text) (codec : Codec) : Prop where
  found : p.codecs encoding = some codec
  again : p.codecs codec.name.toList = some codec
  spares : Logger.sparesFiles p.logger = true

/-- An encoding whose table is known is found under all its names. -/
theorem uses_known {encoding : Text} {e : Encoding} (known : p.codecs = .known)
    (spares : Logger.sparesFiles p.logger = true) (named : Encoding.ofName? encoding = some e)
    : p.Uses encoding e.codec where
  found := by
    rw [known]
    exact congrArg (Option.map Encoding.codec) named
  again := by
    rw [known]
    exact congrArg (Option.map Encoding.codec) e.ofName?_name
  spares := spares

example : ({} : Pipeline).Uses "U8".toList Encoding.utf8.codec :=
  uses_known rfl rfl (by decide)

variable {codec : Codec} {path encoding mode₁ mode₂ : Text} {force₁ force₂ : Bool}
  {target₁ target₂ : Path}

/-- A file that a document has been dumped to, and another one appended to, is loaded as the texts
of the two documents together are parsed, if the codec reads together what it writes in two steps.
Witness: what is appended is encoded for the end of the file, unless there is nothing in it yet.
-/
theorem load_appended (rejoins : codec.Rejoins) (uses₁ : writer₁.Uses encoding codec)
    (uses₂ : writer₂.Uses encoding codec) (uses : p.Uses encoding codec)
    (dumped₁ : writer₁.dump d₁ path mode₁ encoding false force₁ world = (.ok target₁, between))
    (dumped₂ : writer₂.dump d₂ path mode₂ encoding true force₂ between = (.ok target₂, after))
    : ∃ written₁ written₂,
        (∀ world, writer₁.dumps d₁ mode₁ world = (.ok written₁, world))
        ∧ (∀ world, writer₂.dumps d₂ mode₂ world = (.ok written₂, world))
        ∧ ∀ scope expand, p.load scope expand path encoding after
          = p.parse scope expand (written₁ ++ written₂) (p.reading path after) := by
  obtain ⟨_, written₁, bytes, found₁, has₁, ⟨_, again₁, isText, encoded₁⟩, reads₁⟩ :=
    dump_written uses₁.spares dumped₁
  cases uses₁.found.symm.trans found₁
  cases uses₁.again.symm.trans again₁
  obtain ⟨_, written₂, more, found₂, has₂, ⟨_, again₂, _, encoded₂⟩, reads₂⟩ :=
    dump_written uses₂.spares dumped₂
  cases uses₂.found.symm.trans found₂
  cases uses₂.again.symm.trans again₂
  rw [Files.content?_of_read reads₁] at encoded₂ reads₂
  refine ⟨written₁, written₂, dumps_of_text? has₁, dumps_of_text? has₂, fun scope expand => ?_⟩
  refine p.load_eq_parse scope expand ?_
    ⟨codec, uses.found, isText, rejoins _ _ _ _ encoded₁ encoded₂⟩
  rw [reading, (Logger.safeLog_alike uses.spares _ _ _).files]
  exact reads₂

/-- In a file in UTF-8, every key has the raw text that the appended document has for it, or else
the one of the first document, unless lines without a header come behind a section with a name.
-/
theorem raw?_load_appended {p₁ p₂ : Pipeline} {scope scope₁ scope₂ : Scope}
    {expand expand₁ expand₂ : Bool} {text₁ text₂ : Text} {both : Document}
    (uses₁ : writer₁.Uses encoding Encoding.utf8.codec)
    (uses₂ : writer₂.Uses encoding Encoding.utf8.codec)
    (uses : p.Uses encoding Encoding.utf8.codec)
    (parsed₁ : p₁.ParsesTo scope₁ expand₁ text₁ d₁) (isEnd₁ : writer₁.newline ∈ Text.lineEnds)
    (parsed₂ : p₂.ParsesTo scope₂ expand₂ text₂ d₂) (isEnd₂ : writer₂.newline ∈ Text.lineEnds)
    (dumped₁
      : writer₁.dump d₁ path "unexpanded".toList encoding false force₁ world
        = (.ok target₁, between))
    (dumped₂
      : writer₂.dump d₂ path "unexpanded".toList encoding true force₂ between
        = (.ok target₂, after))
    (loaded : (p.load scope expand path encoding after).1 = .ok both)
    (keeps : Sections.beginsHeaderless d₂.sections = false
      ∨ Sections.lastName d₁.sections = Document.noSection)
    (inSection key : Text)
    : both.raw? inSection key = (d₂.raw? inSection key).or (d₁.raw? inSection key) := by
  obtain ⟨written₁, written₂, has₁, has₂, loads⟩ :=
    load_appended Encoding.rejoins_utf8 uses₁ uses₂ uses dumped₁ dumped₂
  cases (has₁ {}).symm.trans (dumps_unexpanded writer₁ d₁ {})
  cases (has₂ {}).symm.trans (dumps_unexpanded writer₂ d₂ {})
  rw [loads] at loaded
  have parsed : p.ParsesTo scope expand _ both := ⟨_, _, Prod.ext loaded rfl⟩
  exact parsed₁.isOf.1.raw?_appended parsed₂.isOf.1 isEnd₁ isEnd₂ parsed.isOf.1 keeps inSection key

end LiveIni.Pipeline
