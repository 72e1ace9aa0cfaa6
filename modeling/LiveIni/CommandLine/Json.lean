import LiveIni.Document

/-!
Documents as JSON. Objects are indented by two blanks for each level, and every character
outside of printable ASCII is written as an escape of its UTF-16 units. Integers and doubles
are numbers; decimals are texts, so that they keep their form.
-/

namespace LiveIni

/-- A JSON value. A bare value is written as it is. -/
inductive Json where
  | bare (t : Text)
  | text (t : Text)
  | object (fields : List (Text × Json))
deriving Inhabited

namespace Json

/-- A UTF-16 unit as an escape. -/
def unitEscape (code : Nat) : Text :=
  '\\' :: 'u' :: Text.hex 4 code

/-- A character as it stands between quotes. -/
def escapedChar (c : Char) : Text :=
  if c = '"' then ['\\', '"']
  else if c = '\\' then ['\\', '\\']
  else if c = '\n' then ['\\', 'n']
  else if c = '\r' then ['\\', 'r']
  else if c = '\t' then ['\\', 't']
  else if c = '\x08' then ['\\', 'b']
  else if c = '\x0c' then ['\\', 'f']
  else if ' ' ≤ c ∧ c ≤ '~' then [c]
  else if c.toNat < 0x10000 then unitEscape c.toNat
  else
    let code := c.toNat - 0x10000
    unitEscape (0xd800 + code / 0x400) ++ unitEscape (0xdc00 + code % 0x400)

def quoted (t : Text) : Text :=
  '"' :: t.flatMap escapedChar ++ ['"']

/-- The start of a line inside `level` objects. -/
def lineStart (level : Nat) : Text :=
  '\n' :: List.replicate (2 * level) ' '

mutual

/-- The text of a value inside `level` objects. -/
def write (level : Nat) : Json → Text
  | bare t => t
  | text t => quoted t
  | object [] => ['\x7b', '\x7d']
  | object (field :: rest) =>
    '\x7b' :: writeField (level + 1) field ++ writeRest (level + 1) rest ++ lineStart level ++
      ['\x7d']

def writeField (level : Nat) : Text × Json → Text
  | (name, value) => lineStart level ++ quoted name ++ ':' :: ' ' :: write level value

def writeRest (level : Nat) : List (Text × Json) → Text
  | [] => []
  | field :: rest => ',' :: writeField level field ++ writeRest level rest

end

/-- A value of a document. An integer too long to be written does not occur in a document that
has been read, because reading writes all values to the log.
-/
def ofValue : Value → Json
  | .null => bare "null".toList
  | .bool b => bare (if b then "true".toList else "false".toList)
  | .int n => bare (Text.ofInt n)
  | .double x => bare x.render
  | .decimal d => text d.scientific
  | .text t => text t

def ofDocument (d : Document) : Json :=
  object ((d.flatten false).map fun (name, values) =>
    (name, object (values.map fun (key, v) => (key, ofValue v))))

/-- An entry with its kind and its raw text. -/
def ofEntry : Entry → Json
  | .comment t => object [("comment".toList, text t)]
  | .keyValue kv =>
    object [("kind".toList, text kv.typed.kindName.toList),
      ("value".toList, ofValue kv.typed.value), ("raw".toList, text kv.raw)]

/-- The entries of a document with their kinds and raw texts. -/
def ofTypedDocument (d : Document) : Json :=
  object (d.sections.map fun (name, entries) =>
    (name, object (entries.map fun (key, entry) => (key, ofEntry entry))))

end Json

end LiveIni
