import LiveIni.Document.Output
import LiveIni.Scope

/-!
The arguments of the command line: a command with its options and files. Options can stand
anywhere after the command; a value is attached with an equals sign or follows as the next
argument, whatever that is. After two hyphens everything is a file. Whatever does not fit is
a usage error.
-/

namespace LiveIni

inductive Command where
  /-- Prints a document as JSON, with the kinds of its values if `types` is set. -/
  | display (path : Text) (assignments : List Text) (expand : Option Bool)
      (encoding : Option Text) (types : Bool)
  /-- Writes a document to another file. -/
  | exportTo (source target : Text) (mode : OutputMode) (assignments : List Text)
      (encoding : Option Text) (append force : Bool)
  /-- Checks requirements on a document. -/
  | validate (path : Text) (requirements : List Text)
deriving DecidableEq, Repr

namespace Command

/-- The options of a command by name, and whether they have a value. -/
abbrev OptionTable := List (String × Bool)

/-- The options given, with their values, and the other arguments. -/
structure Given where
  options : List (Text × Text) := []
  files : List Text := []
deriving DecidableEq, Repr

/-- The given arguments with one more option in front. -/
def Given.withOption (name value : Text) (g : Given) : Given :=
  { g with options := (name, value) :: g.options }

def isOption : Text → Bool
  | '-' :: _ :: _ => true
  | _ => false

def readArguments (table : OptionTable) : List Text → Option Given
  | [] => some {}
  | arg :: rest =>
    if arg = ['-', '-'] then some { files := rest }
    else if isOption arg then
      let (name, attached) := match Text.cutAt? '=' arg with
        | some (name, value) => (name, some value)
        | none => (arg, none)
      match table.find? (·.1.toList = name), attached with
      | none, _ => none
      | some (_, true), some value => (readArguments table rest).map (·.withOption name value)
      | some (_, true), none =>
        match rest with
        | value :: more => (readArguments table more).map (·.withOption name value)
        | [] => none
      | some (_, false), none => (readArguments table rest).map (·.withOption name [])
      | some (_, false), some _ => none
    else (readArguments table rest).map fun g => { g with files := arg :: g.files }

namespace Given

def values (g : Given) (name : String) : List Text :=
  (g.options.filter (·.1 = name.toList)).map Prod.snd

/-- The last value of an option. -/
def value? (g : Given) (name : String) : Option Text :=
  (g.values name).getLast?

def has (g : Given) (name : String) : Bool :=
  !(g.values name).isEmpty

/-- What the last of two opposite options says. -/
def switch? (g : Given) (on off : String) : Option Bool :=
  ((g.options.map Prod.fst).filter fun name => name = on.toList || name = off.toList).getLast?.map
    (· = on.toList)

end Given

/-- The options of `show`. -/
def displayOptions : OptionTable :=
  [("--var", true), ("--expand-env", false), ("--no-expand-env", false), ("--encoding", true),
   ("--types", false)]

def exportOptions : OptionTable :=
  [("--mode", true), ("--var", true), ("--encoding", true), ("--append", false),
   ("--force", false)]

def validateOptions : OptionTable :=
  [("--require", true)]

/-- The command that the given name and arguments say. -/
def ofNamed? (name : Text) (args : List Text) : Option Command := do
  if name = "show".toList then
    let g ← readArguments displayOptions args
    match g.files with
    | [path] =>
      some (display path (g.values "--var") (g.switch? "--expand-env" "--no-expand-env")
        (g.value? "--encoding") (g.has "--types"))
    | _ => none
  else if name = "export".toList then
    let g ← readArguments exportOptions args
    let mode ← match g.value? "--mode" with
      | some mode => OutputMode.ofName? mode
      | none => some .unexpanded
    match g.files with
    | [source, target] =>
      some (exportTo source target mode (g.values "--var") (g.value? "--encoding")
        (g.has "--append") (g.has "--force"))
    | _ => none
  else if name = "validate".toList then
    let g ← readArguments validateOptions args
    match g.files, g.values "--require" with
    | [path], spec :: specs => some (validate path (spec :: specs))
    | _, _ => none
  else none

/-- Whether an argument before the command asks for more messages. -/
def asksVerbose (arg : Text) : Bool :=
  arg = "--verbose".toList || (isOption arg && (arg.drop 1).all (· = 'v'))

/-- The command that all arguments say. -/
def ofArguments? : List Text → Option Command
  | [] => none
  | arg :: rest =>
    if arg = ['-', '-'] then
      match rest with
      | name :: args => ofNamed? name args
      | [] => none
    else if asksVerbose arg then ofArguments? rest
    else if isOption arg then none
    else ofNamed? arg rest

def files : Command → List Text
  | display path .. => [path]
  | exportTo source target .. => [source, target]
  | validate path _ => [path]

/-- The variables that a command binds, as they are written. -/
def assignments : Command → List Text
  | display _ assignments .. => assignments
  | exportTo _ _ _ assignments .. => assignments
  | validate .. => []

/-- The bindings that `NAME=VALUE` texts write; `none` if one of them has no name. -/
def bindings? (assignments : List Text) : Option (Table Binding) :=
  assignments.foldlM (fun bindings written =>
    match Text.cutAt? '=' written with
    | some (name, value) =>
      if name.isEmpty then none else some (Table.set name (.value (.text value)) bindings)
    | none => none) ([] : Table Binding)

end Command

end LiveIni
