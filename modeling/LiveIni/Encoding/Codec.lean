import LiveIni.Encoding.Decode
import LiveIni.Encoding.Encode

/-!
Codecs: what the name of an encoding stands for. There are many more of them than the encodings
whose tables are here, and programs can register their own, so that whatever reads or writes
files is given a registry in which the names are looked up.
-/

namespace LiveIni

/-- Why a codec does not encode a text: it lacks some characters, or it fails for a reason of
its own.
-/
inductive EncodeFault where
  | unencodable (text : UnencodableText)
  | foreign (message : Text)
deriving DecidableEq, Repr

/-- A codec. It is registered under its own name and under others. Not every codec maps text to
bytes, and only those that do can be used for files. A file is encoded as a whole or not at all,
for its start or for its end.
-/
structure Codec where
  name : String
  isText : Bool
  encode : (atStart : Bool) → Text → Except EncodeFault Bytes
  decode : Bytes → Except DecodeFault Text

/-- The codecs by their names. -/
abbrev Codecs := Text → Option Codec

/-- The codec of an encoding whose tables are known. -/
def Encoding.codec (e : Encoding) : Codec where
  name := e.name
  isText := e.isText
  encode atStart t := (e.encode atStart t).mapError .unencodable
  decode := e.decode

/-- The registry of the encodings whose tables are known. -/
def Codecs.known : Codecs :=
  fun name => (Encoding.ofName? name).map Encoding.codec

end LiveIni
