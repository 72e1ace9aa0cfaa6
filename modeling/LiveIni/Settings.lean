import LiveIni.Encoding.Codec
import LiveIni.Literal.Locale
import LiveIni.Log
import LiveIni.Scope
import LiveIni.Text.Blank

/-!
Settings: what an engine can be told, by values or by the texts of environment variables.
Every field is checked by itself, and all faults are reported together: those of the known
fields in the order of the fields, and then the unknown fields. The encoding must be registered.
-/

namespace LiveIni

open Number

structure Settings where
  expandEnvironment : Bool := false
  locale : Option Text := none
  encoding : Codec := Encoding.utf8.codec
  logLevel : LogLevel := .info
  logFile : Option Text := none
  timeLimit : Double := Double.ofInt 10
  strict : Bool := false

/-- What can be wrong with the value of a field. -/
inductive SettingFault where
  | notTruthWord
  | notTruth
  | notNumber
  | notNumberText
  | notPositive
  | notAmong
  | unknownValue
  | notText
  | unknownField
  | frozen
deriving DecidableEq, Repr

def SettingFault.name : SettingFault → String
  | notTruthWord => "bool_parsing"
  | notTruth => "bool_type"
  | notNumber => "float_type"
  | notNumberText => "float_parsing"
  | notPositive => "greater_than"
  | notAmong => "enum"
  | unknownValue => "value_error"
  | notText => "string_type"
  | unknownField => "extra_forbidden"
  | frozen => "frozen_instance"

/-- A field with a fault. -/
structure InvalidSetting where
  field : Text
  fault : SettingFault
deriving DecidableEq, Repr

namespace Settings

-----------------------------------------------------------------------------------------
-- The values of fields
-----------------------------------------------------------------------------------------

/-- The words for true and those for false. -/
def truthWords : List (String × Bool) :=
  [("1", true), ("true", true), ("t", true), ("yes", true), ("y", true), ("on", true),
   ("0", false), ("false", false), ("f", false), ("no", false), ("n", false), ("off", false)]

/-- A number as a double, unless it is an integer that is too large for one. -/
def toDouble? : Numeric → Option Double
  | .int n => match Double.ofInt n with
    | .infinite _ => none
    | x => some x
  | .double x => some x
  | .decimal (.finite d) => some (Double.ofDecimal d)
  | .decimal (.infinite negative) => some (.infinite negative)
  | .decimal (.nan ..) => some .nan

/-- A truth value: one itself, a word for one in any case, or the number one or zero. -/
def readTruth (v : Value) : Except SettingFault Bool :=
  match v with
  | .bool b => .ok b
  | .text t =>
    match truthWords.find? (·.1.toList = Text.lower t) with
    | some (_, b) => .ok b
    | none => .error .notTruthWord
  | _ =>
    match v.numeric?.bind toDouble? with
    | some x =>
      if x = Double.ofInt 1 then .ok true
      else if x.isZero then .ok false
      else if x.isFinite ∧ x.floor = x then .error .notTruthWord
      else .error .notTruth
    | none => .error .notTruth

/-- Whether a character can surround a number in a text. -/
def isOuterBlank (c : Char) : Bool :=
  Text.isBlank c && !('\x1c' ≤ c && c ≤ '\x1f')

/-- A number in a text. Single underscores may stand inside of it if no blanks surround it. -/
def readNumberText? (t : Text) : Option Double :=
  (Double.ofNotation? (Text.trim isOuterBlank t)).or <|
    let parts := Text.splitAt '_' t
    if parts.any List.isEmpty then none else Double.ofNotation? parts.flatten

/-- A number greater than zero. -/
def readPositive (v : Value) : Except SettingFault Double := do
  let x ← match v with
    | .text t =>
      match readNumberText? t with
      | some x => pure x
      | none => throw .notNumberText
    | _ =>
      match v.numeric?.bind toDouble? with
      | some x => pure x
      | none => throw .notNumber
  match x.compare? (Double.zero false) with
  | some .gt => return x
  | none => return x
  | _ => throw .notPositive

def readText : Value → Except SettingFault Text
  | .text t => .ok t
  | _ => .error .notText

/-- A text or nothing. -/
def readOptionalText : Value → Except SettingFault (Option Text)
  | .null => .ok none
  | v => (readText v).map some

def readEncoding (codecs : Codecs) (v : Value) : Except SettingFault Codec := do
  match codecs (← readText v) with
  | some codec => return codec
  | none => throw .unknownValue

/-- The upper case of a letter, for the letters whose upper case is in ASCII. -/
def upperChar (c : Char) : Char :=
  if c = '\u0131' then 'I' else if c = '\u017f' then 'S' else c.toUpper

/-- The name of a log level, in any case. -/
def readLevel : Value → Except SettingFault LogLevel
  | .text t =>
    match LogLevel.ofName? (t.map upperChar) with
    | some level => .ok level
    | none => .error .notAmong
  | _ => .error .notAmong

-----------------------------------------------------------------------------------------
-- All fields
-----------------------------------------------------------------------------------------

def fieldNames : List Text :=
  ["expand_environment", "locale", "encoding", "log_level", "log_file", "sandbox_timeout",
   "strict"].map String.toList

/-- Settings that are being read, and the faults found so far. -/
abbrev Reading := Settings × List InvalidSetting

/-- Reads a field, if it is given, and notes its fault if it has one. -/
def readField {α : Type} (given : Table Value) (name : String)
    (read : Value → Except SettingFault α) (put : Settings → α → Settings) (state : Reading)
    : Reading :=
  match given.get? name.toList with
  | none => state
  | some v =>
    match read v with
    | .ok a => (put state.1 a, state.2)
    | .error fault => (state.1, state.2 ++ [⟨name.toList, fault⟩])

/-- The settings of the given values. -/
def ofValues (given : Table Value) (codecs : Codecs := Codecs.known)
    : Except (List InvalidSetting) Settings :=
  let state : Reading := ({}, [])
  let state := readField given "expand_environment" readTruth
    (fun s b => { s with expandEnvironment := b }) state
  let state := readField given "locale" readOptionalText
    (fun s t => { s with locale := t }) state
  let state := readField given "encoding" (readEncoding codecs)
    (fun s codec => { s with encoding := codec }) state
  let state := readField given "log_level" readLevel
    (fun s level => { s with logLevel := level }) state
  let state := readField given "log_file" readOptionalText
    (fun s t => { s with logFile := t }) state
  let state := readField given "sandbox_timeout" readPositive
    (fun s x => { s with timeLimit := x }) state
  let (settings, faults) := readField given "strict" readTruth
    (fun s b => { s with strict := b }) state
  let unknown := given.names.filter fun name => !fieldNames.contains name
  let faults := faults ++ unknown.map (⟨·, .unknownField⟩)
  if faults.isEmpty then .ok settings else .error faults

/-- The name of the environment variable of a field. -/
def variableName (field : Text) : Text :=
  "TYPED_INI_".toList ++ field.map Char.toUpper

/-- The settings of the environment variables. -/
def ofEnvironment (env : Environment) (codecs : Codecs := Codecs.known)
    : Except (List InvalidSetting) Settings :=
  let given := fieldNames.filterMap fun field =>
    (env.get? (variableName field)).map fun t => (field, Value.text t)
  ofValues given codecs

/-- Settings cannot be changed. -/
def assign (_ : Settings) (field : Text) : InvalidSetting :=
  ⟨field, .frozen⟩

def numberFormat (s : Settings) : Except UnknownLocale NumberFormat :=
  match s.locale with
  | none => .ok NumberFormat.invariant
  | some name =>
    if ["invariant", "c", "posix"].any (·.toList = Text.lower name) then
      .ok NumberFormat.invariant
    else NumberFormat.ofLocale (some name)

end Settings

end LiveIni
