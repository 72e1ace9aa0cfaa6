import LiveIni.Table
import LiveIni.Text.Quoted
import LiveIni.TypedValue

/-!
Documents: named sections in order, each with named entries in order. An entry is a comment
line, kept as it is, or a key with its raw text and the typed value that the text stands for.
What was wrong with a document that could still be read is kept beside it as diagnostics.
-/

namespace LiveIni

/-- The kinds of problems that do not keep a document from being read. -/
inductive DiagnosticKind where
  | malformedLine | duplicateKey | invalidNumber | validationGap
deriving DecidableEq, Repr

def DiagnosticKind.name : DiagnosticKind → String
  | malformedLine => "malformed_line"
  | duplicateKey => "duplicate_key"
  | invalidNumber => "numeric_literal_invalid"
  | validationGap => "validation_gap"

/-- A problem, with the line, the section and the key that it is about, where they are known. -/
structure Diagnostic where
  kind : DiagnosticKind
  message : Text
  line : Option Nat := none
  inSection : Option Text := none
  key : Option Text := none
deriving DecidableEq, Repr

/-- The message of a problem with its line number. -/
def Diagnostic.text (d : Diagnostic) : Text :=
  match d.line with
  | some n => "line ".toList ++ Text.ofNat n ++ ": ".toList ++ d.message
  | none => d.message

/-- A key with the text after its equals sign, and what the text stands for. -/
structure KeyValue where
  key : Text
  raw : Text
  typed : TypedValue
deriving DecidableEq, Repr

inductive Entry where
  | comment (text : Text)
  | keyValue (kv : KeyValue)
deriving DecidableEq, Repr

namespace Entry

/-- The key and value of an entry that is no comment. -/
def keyValue? : Entry → Option KeyValue
  | comment _ => none
  | keyValue kv => some kv

/-- The text of an entry that is a comment. -/
def comment? : Entry → Option Text
  | comment text => some text
  | keyValue _ => none

/-- Whether two entries are equal. Typed values are equal if they are the same numbers, in
whatever form.
-/
def same : Entry → Entry → Bool
  | comment s, comment t => s = t
  | keyValue a, keyValue b => a.key = b.key && a.raw = b.raw && a.typed.same b.typed
  | _, _ => false

end Entry

/-- The entries of a section by their names: keys stand under themselves, and comments under
made-up names.
-/
abbrev Entries := Table Entry

namespace Entries

def keyValues (entries : Entries) : List KeyValue :=
  entries.filterMap (·.2.keyValue?)

def comments (entries : Entries) : List Text :=
  entries.filterMap (·.2.comment?)

/-- Whether two sections have equal entries under the same names in the same order. -/
def same : Entries → Entries → Bool
  | [], [] => true
  | (m, a) :: more, (n, b) :: rest => m = n && a.same b && same more rest
  | _, _ => false

end Entries

structure Document where
  sections : Table Entries := []
  diagnostics : List Diagnostic := []
deriving DecidableEq, Repr, Inhabited

namespace Document

/-- The section that keys belong to before the first header. -/
def noSection : Text := "No-Section".toList

/-- What is appended to a key to name its raw text. -/
def rawSuffix : Text := "unexpanded".toList

def sameSections : Table Entries → Table Entries → Bool
  | [], [] => true
  | (m, a) :: more, (n, b) :: rest => m = n && a.same b && sameSections more rest
  | _, _ => false

/-- Whether two documents have equal sections. Diagnostics do not matter. -/
def same (a b : Document) : Bool :=
  sameSections a.sections b.sections

def rawValues (d : Document) : List Text :=
  d.sections.flatMap fun (_, entries) => entries.keyValues.map (·.raw)

def entry? (d : Document) (inSection name : Text) : Option Entry :=
  (d.sections.get? inSection).bind (Table.get? name)

/-- The value of a key in a section, and `default` if there is none. -/
def valueOr (d : Document) (inSection key : Text) (default : Value) : Value :=
  match d.entry? inSection key with
  | some (.keyValue kv) => kv.typed.value
  | _ => default

/-- The entries of a section as a plain table of values. Comments stand as texts under their
names; with `withRaw` the raw text of each key stands under the key and a suffix.
-/
def flattenEntries (withRaw : Bool) (entries : Entries) : Table Value :=
  entries.foldl (fun flat (name, entry) =>
    match entry with
    | .comment text => flat.set name (.text text)
    | .keyValue kv =>
      let flat := flat.set name kv.typed.value
      if withRaw then flat.set (name ++ rawSuffix) (.text kv.raw) else flat) ([] : Table Value)

/-- The whole document as plain tables of values. -/
def flatten (d : Document) (withRaw : Bool) : Table (Table Value) :=
  d.sections.map fun (name, entries) => (name, flattenEntries withRaw entries)

def shown (d : Document) : Text :=
  "Document([".toList ++ ", ".toList.intercalate (d.sections.names.map Text.quoted) ++
    "])".toList

def shownSection (name : Text) (entries : Entries) : Text :=
  "Section(".toList ++ Text.quoted name ++ ", ".toList ++ Text.ofNat entries.length ++
    " entries)".toList

end Document

end LiveIni
