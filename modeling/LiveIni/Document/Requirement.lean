import LiveIni.Document

/-!
Requirements on a document: sections that must be there, and keys that must be in them. A
requirement is written `section` or `section.key`; the key stands after the last point.
-/

namespace LiveIni

/-- The required keys of each required section, in the order of their first mention. -/
abbrev Requirements := Table (List Text)

namespace Requirements

/-- The requirements with one more. -/
def add (r : Requirements) (spec : Text) : Requirements :=
  match Text.cutAtLast? '.' spec with
  | none => r.set spec ((r.get? spec).getD [])
  | some (name, key) => r.set name ((r.get? name).getD [] ++ [key])

def ofTexts (specs : List Text) : Requirements :=
  specs.foldl add ([] : Requirements)

def missingSection (name : Text) : Diagnostic where
  kind := .validationGap
  message := "Required section [".toList ++ name ++ "] is missing".toList
  inSection := some name

def missingKey (name key : Text) : Diagnostic where
  kind := .validationGap
  message := "Required key '".toList ++ key ++ "' is missing from [".toList ++ name ++ [']']
  inSection := some name
  key := some key

def hasKey (entries : Entries) (key : Text) : Bool :=
  match entries.get? key with
  | some (.keyValue _) => true
  | _ => false

/-- What a document lacks of one required section. -/
def sectionGaps (d : Document) (name : Text) (keys : List Text) : List Diagnostic :=
  let entries := d.sections.get? name
  (if entries.isNone then [missingSection name] else []) ++
    (keys.filter fun key => !hasKey (entries.getD []) key).map (missingKey name)

/-- What a document lacks: for each required section the section itself, and then its keys. -/
def gaps (d : Document) (r : Requirements) : List Diagnostic :=
  r.flatMap fun (name, keys) => sectionGaps d name keys

end Requirements

end LiveIni
