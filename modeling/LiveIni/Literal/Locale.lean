import LiveIni.Literal.Format
import LiveIni.Text.Quoted

/-!
Number formats by locale. Only the locales without regional conventions are known; they all
write numbers in the invariant format. The codeset after the point may be spelled in several
ways.
-/

namespace LiveIni

/-- A locale that is not known. -/
structure UnknownLocale where
  name : Text
deriving DecidableEq, Repr

def UnknownLocale.message (l : UnknownLocale) : String :=
  "Unknown locale " ++ l.name.quotedString

namespace NumberFormat

/-- Whether a locale is known. The empty name is that of the current locale. -/
def isKnownLocale (name : Text) : Bool :=
  match Text.cutAt? '.' name with
  | some (language, codeset) =>
    language = ['C'] && Text.lower (codeset.filter Char.isAlphanum) = "utf8".toList
  | none => [[], ['C'], "POSIX".toList].contains name

/-- The number format of a locale; no name means the current one. -/
def ofLocale (name : Option Text) : Except UnknownLocale NumberFormat :=
  match name with
  | none => .ok invariant
  | some name => if isKnownLocale name then .ok invariant else .error ⟨name⟩

end NumberFormat

end LiveIni
