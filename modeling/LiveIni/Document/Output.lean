import LiveIni.Document

/-!
Writing a document as text. Values are written raw, so that reading the text gives the same
document; or expanded, as what they stand for; or in both forms. Every section begins with
its header and ends with an empty line. The section without a name needs no header at the
top, unless it is empty.
-/

namespace LiveIni

/-- In which form values are written. -/
inductive OutputMode where
  | unexpanded | expanded | all
deriving DecidableEq, Repr

namespace OutputMode

def name : OutputMode → String
  | unexpanded => "unexpanded"
  | expanded => "expanded"
  | all => "all"

def modes : List OutputMode :=
  [unexpanded, expanded, all]

def ofName? (name : Text) : Option OutputMode :=
  modes.find? (·.name.toList = name)

end OutputMode

namespace Document

def pairLine (key value : Text) : Text :=
  key ++ '=' :: value

/-- The lines of an entry; `none` if a value is an integer too long to be written. -/
def entryLines? (mode : OutputMode) : Entry → Option (List Text)
  | .comment text => some [text]
  | .keyValue kv =>
    match mode with
    | .unexpanded => some [pairLine kv.key kv.raw]
    | .expanded => kv.typed.render?.map fun value => [pairLine kv.key value]
    | .all => kv.typed.render?.map fun value =>
      [pairLine kv.key value, pairLine (kv.key ++ rawSuffix) kv.raw]

def headerLine (name : Text) : Text :=
  '[' :: name ++ [']']

/-- The lines of a section, which is the first one or not. -/
def sectionLines? (mode : OutputMode) (first : Bool) (name : Text) (entries : Entries)
    : Option (List Text) := do
  let body ← entries.mapM fun (_, entry) => entryLines? mode entry
  let header := if first ∧ name = noSection ∧ !entries.isEmpty then [] else [headerLine name]
  return header ++ body.flatten ++ [[]]

def lines? (mode : OutputMode) (d : Document) : Option (List Text) :=
  match d.sections with
  | [] => some []
  | (name, entries) :: rest => do
    let first ← sectionLines? mode true name entries
    let others ← rest.mapM fun (name, entries) => sectionLines? mode false name entries
    return first ++ others.flatten

/-- The text of a document with the given line end. -/
def text? (mode : OutputMode) (newline : Text) (d : Document) : Option Text :=
  (d.lines? mode).map fun lines => lines.flatMap (· ++ newline)

end Document

end LiveIni
