import LiveIni.Document
import LiveIni.Text.Blank
import LiveIni.Text.Lines

/-!
The lines of a document. A line is, whichever fits first: blank, a header in brackets, a
comment that begins with a semicolon or a number sign, a key and a value with the first
equals sign between them, or malformed. A key has none of the three signs in it and is not
blank; blanks around it do not belong to it. The value is everything after the equals sign.
-/

namespace LiveIni

/-- What a line is. -/
inductive Line where
  | blank
  | header (name : Text)
  | comment (text : Text)
  | keyValue (key raw : Text)
  | malformed (text : Text)
deriving DecidableEq, Repr

namespace Line

/-- The name of a header: what stands between the first bracket and the last one, with nothing
but blanks outside of them.
-/
def headerName? (t : Text) : Option Text :=
  match t.dropWhile Text.isBlank with
  | '[' :: rest =>
    match Text.cutAtLast? ']' rest with
    | some (name, after) => if !name.isEmpty && after.all Text.isBlank then some name else none
    | none => none
  | _ => none

def isComment (t : Text) : Bool :=
  match t.dropWhile Text.isBlank with
  | c :: _ => c = ';' || c = '#'
  | [] => false

/-- The key and the raw text of a line that has both. -/
def keyAndRaw? (t : Text) : Option (Text × Text) :=
  match Text.cutAt? '=' t with
  | some (before, raw) =>
    if before.any (fun c => c = ';' || c = '#') || Text.isBlankLine before then none
    else some (Text.strip before, raw)
  | none => none

def ofText (t : Text) : Line :=
  if Text.isBlankLine t then blank
  else match headerName? t with
    | some name => header name
    | none =>
      if isComment t then comment t
      else match keyAndRaw? t with
        | some (key, raw) => keyValue key raw
        | none => malformed t

end Line

/-- A line with its number, counted from one, and the section that it belongs to. -/
structure PlacedLine where
  number : Nat
  inSection : Text
  line : Line
deriving DecidableEq, Repr

namespace PlacedLine

/-- The lines from the given number on, where the given section is open. A header belongs to
the section that it opens.
-/
def place : (number : Nat) → (inSection : Text) → List Line → List PlacedLine
  | _, _, [] => []
  | number, inSection, line :: rest =>
    match line with
    | .header name => ⟨number, name, line⟩ :: place (number + 1) name rest
    | _ => ⟨number, inSection, line⟩ :: place (number + 1) inSection rest

def ofText (t : Text) : List PlacedLine :=
  place 1 Document.noSection ((Text.lines t).map Line.ofText)

/-- The raw text of a line with a value. -/
def raw? (l : PlacedLine) : Option Text :=
  match l.line with
  | .keyValue _ raw => some raw
  | _ => none

/-- The problem of a malformed line. -/
def malformed? (l : PlacedLine) : Option Diagnostic :=
  match l.line with
  | .malformed text =>
    some {
      kind := .malformedLine
      message := "Malformed line skipped: ".toList ++ Text.quoted text
      line := some l.number
      inSection := some l.inSection }
  | _ => none

end PlacedLine

end LiveIni
