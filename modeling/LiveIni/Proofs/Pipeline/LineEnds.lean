import LiveIni.Proofs.Pipeline.Reading
import LiveIni.Proofs.Text.LineEnds

/-!
Texts that are parsed with line ends of any kind. A text and the same text with its line ends
translated have the same lines under the same numbers, so that nothing that is done with them differs;
and a file, whose line ends are translated when it is read, is parsed as the text that its bytes encode.
-/

namespace LiveIni

theorem PlacedLine.ofText_translateEnds (t : Text) : ofText (Text.translateEnds t) = ofText t := by
  simp only [ofText, Text.lines_translateEnds]

namespace Pipeline

/-- The codec of the name decodes the bytes as the text. -/
def Decodes (p : Pipeline) (encoding : Text) (bytes : Bytes) (text : Text) : Prop :=
  ∃ codec, p.codecs encoding = some codec
    ∧ codec.isText = true
    ∧ codec.decode bytes = .ok text

variable (p : Pipeline) (scope : Scope) (expand : Bool)

theorem parse_translateEnds (text : Text)
    : p.parse scope expand (Text.translateEnds text) = p.parse scope expand text := by
  simp only [parse, PlacedLine.ofText_translateEnds]

/-- The world in which a file is read: that it will be read has been logged. -/
def reading (path : Text) (world : World) : World :=
  Logger.safeLog p.logger .verbose ("Reading ".toList ++ path) none world

variable {path encoding text : Text} {bytes : Bytes} {world : World}

/-- What is read of a file is the text of its bytes with its line ends translated, and nothing else
happens.
-/
theorem readFile_eq (found : world.files.read (Path.ofText path) = .ok bytes)
    (decodes : p.Decodes encoding bytes text)
    : p.readFile path encoding world = (.ok (Text.translateEnds text), world) := by
  obtain ⟨codec, named, isText, decoded⟩ := decodes
  have bytesRead : p.readBytes path world = (.ok bytes, world) := by
    have seen : (get : Action World) world = (.ok world, world) := rfl
    rw [readBytes, Computation.bind_of_ok seen, found]
    rfl
  rw [readFile, Computation.bind_of_ok bytesRead]
  simp only [decodeFile, named, isText, decoded, Text.withLineFeeds_eq_translateEnds]
  rfl

/-- A file is loaded as the text of its bytes is parsed. -/
theorem load_eq_parse (found : (p.reading path world).files.read (Path.ofText path) = .ok bytes)
    (decodes : p.Decodes encoding bytes text)
    : p.load scope expand path encoding world
      = p.parse scope expand text (p.reading path world) := by
  have logged : p.log .verbose ("Reading ".toList ++ path) world = (.ok (), p.reading path world) :=
    rfl
  rw [load, Computation.bind_of_ok logged, Computation.bind_of_ok (p.readFile_eq found decodes),
    parse_translateEnds]

/-- The kind of its line ends makes no difference to a text. In every world the text with its line
ends translated is parsed to the same document with the same diagnostics, or rejected for the same
reason, as the text itself. So a file whose bytes encode a text is loaded just as that text is
parsed, and what comes of it is what comes of that text in any other world.
Witness: translating line ends keeps all lines, however returns and feeds follow each other.
-/
theorem parse_whatever_lineEnds
    : (∀ text, p.parse scope expand (Text.translateEnds text) = p.parse scope expand text)
      ∧ ∀ path encoding bytes text world,
        (p.reading path world).files.read (Path.ofText path) = .ok bytes
        → p.Decodes encoding bytes text
        → p.load scope expand path encoding world
            = p.parse scope expand text (p.reading path world)
          ∧ ∀ other, (p.load scope expand path encoding world).1
            = (p.parse scope expand text other).1 := by
  refine ⟨p.parse_translateEnds scope expand, ?_⟩
  intro path encoding bytes text world found decodes
  have loaded := p.load_eq_parse scope expand found decodes
  refine ⟨loaded, fun other => ?_⟩
  have settled := p.parse_settles scope expand text
  rw [loaded, (settled _).1, (settled other).1]

/-- Line ends of all kinds: a return before a pair of return and feed, and one after a feed. -/
def mixedEnds : Text :=
  "a=1\r\r\nb\n\r[s]\rc=2\n".toList

/-- A file with line ends of all kinds and a line that cannot be read, which is its third. -/
theorem parse_whatever_lineEnds_mixedEnds
    : let p : Pipeline := {}
      let world : World := { files := [("f.ini".toList, .file (Text.utf8 mixedEnds))] }
      (p.reading "f.ini".toList world).files.read (Path.ofText "f.ini".toList)
          = .ok (Text.utf8 mixedEnds)
        ∧ p.Decodes "utf-8".toList (Text.utf8 mixedEnds) mixedEnds
        ∧ p.load {} false "f.ini".toList "utf-8".toList world
          = p.parse {} false mixedEnds (p.reading "f.ini".toList world)
        ∧ (p.parse {} false mixedEnds {}).1.toOption.map
            (fun d => d.diagnostics.map (·.line)) = some [some 3] := by
  intro p world
  have found : (p.reading "f.ini".toList world).files.read (Path.ofText "f.ini".toList)
      = .ok (Text.utf8 mixedEnds) := by decide
  have utf8Named : Encoding.ofName? "utf-8".toList = some .utf8 := by decide
  have decodes : p.Decodes "utf-8".toList (Text.utf8 mixedEnds) mixedEnds :=
    ⟨Encoding.utf8.codec, congrArg (Option.map Encoding.codec) utf8Named, rfl, by decide⟩
  have loaded := (parse_whatever_lineEnds p {} false).2 _ _ _ _ world found decodes
  exact ⟨found, decodes, loaded.1, by decide +kernel⟩

end Pipeline

end LiveIni
