import LiveIni.Text.Composition.Table

/-!
Compatibility composition of identifiers (normalization form NFKC). Variants of a letter, such
as ligatures and mathematical letters, are replaced by what they stand for; combining marks
are put into their canonical order and composed with the letter before them where one
character exists for the pair.
-/

namespace LiveIni.Text

/-- The entries of a table of code points: the text before `=`, and the numbers after it. -/
def readEntries (data : String) : List (Text × List Nat) :=
  (splitAt ';' (data.toList.filter (· ≠ '\n'))).filterMap fun entry =>
    (cutAt? '=' entry).map fun (key, codes) => (key, (splitAt ' ' codes).map (toNatBase 16))

/-- A run of characters that stand for the codes given for the first of them. -/
structure DecompositionRun where
  first : Nat
  last : Nat
  codes : List Nat

def decompositionRuns : List DecompositionRun :=
  (readEntries decompositionData).map fun (key, codes) =>
    match cutAt? '-' key with
    | some (first, last) => ⟨toNatBase 16 first, toNatBase 16 last, codes⟩
    | none => ⟨toNatBase 16 key, toNatBase 16 key, codes⟩

/-- The compositions: the two codes and their composition. -/
def compositionPairs : List (Nat × Nat × Nat) :=
  (readEntries compositionData).filterMap fun (key, codes) =>
    match codes with
    | [a, b] => some (a, b, toNatBase 16 key)
    | _ => none

/-- The combining class of a code point, zero for a starter. -/
def combiningClass (code : Nat) : Nat :=
  ((combiningClasses.find? fun (low, high, _) => low ≤ code && code ≤ high).map
    fun (_, _, combining) => combining).getD 0

/-- The full compatibility decomposition of a code point. Hangul syllables fall into two or
three letters by rule.
-/
def decompose (code : Nat) : List Nat :=
  if 0xac00 ≤ code ∧ code ≤ 0xd7a3 then
    let index := code - 0xac00
    let syllable := [0x1100 + index / 588, 0x1161 + index % 588 / 28]
    if index % 28 = 0 then syllable else syllable ++ [0x11a7 + index % 28]
  else
    match decompositionRuns.find? fun run => run.first ≤ code && code ≤ run.last with
    | some run => run.codes.map (· + (code - run.first))
    | none => [code]

/-- The composition of two code points, if there is one. -/
def compose? (a b : Nat) : Option Nat :=
  if 0x1100 ≤ a ∧ a < 0x1113 ∧ 0x1161 ≤ b ∧ b < 0x1176 then
    some (0xac00 + ((a - 0x1100) * 21 + (b - 0x1161)) * 28)
  else if 0xac00 ≤ a ∧ a ≤ 0xd7a3 ∧ (a - 0xac00) % 28 = 0 ∧ 0x11a7 < b ∧ b < 0x11c3 then
    some (a + (b - 0x11a7))
  else
    (compositionPairs.find? fun (x, y, _) => x = a ∧ y = b).map fun (_, _, composed) => composed

/-- Puts a mark in its place among marks in canonical order: after all whose class is not
greater. A starter stays at the end.
-/
def insertMark (code : Nat) : List Nat → List Nat
  | [] => [code]
  | other :: rest =>
    if combiningClass code ≠ 0 ∧ combiningClass code < combiningClass other then
      code :: other :: rest
    else other :: insertMark code rest

/-- Codes in canonical order: the marks after each starter are sorted by class. The marks seen
since the last starter are held back until the next one.
-/
def reorder (marks : List Nat) : List Nat → List Nat
  | [] => marks
  | code :: rest =>
    if combiningClass code = 0 then marks ++ code :: reorder [] rest
    else reorder (insertMark code marks) rest

/-- Composes codes in canonical order. A code is composed with the last starter unless a mark
of at least its own class stands between them.
-/
def composeAll (starter : Option Nat) (marks : List Nat) : List Nat → List Nat
  | [] => starter.toList ++ marks
  | code :: rest =>
    let combining := combiningClass code
    let blocked := marks.getLast?.any fun mark => combining ≤ combiningClass mark
    let composed := if blocked then none else starter.bind fun first => compose? first code
    match composed with
    | some together => composeAll (some together) marks rest
    | none =>
      if combining = 0 then starter.toList ++ marks ++ composeAll (some code) [] rest
      else composeAll starter (marks ++ [code]) rest

/-- The normal form of an identifier. Identifiers of ASCII characters are in normal form. -/
def normalForm (t : Text) : Text :=
  if t.all fun c => c.toNat < 0x80 then t
  else
    let codes := t.flatMap fun c => decompose c.toNat
    (composeAll none [] (reorder [] codes)).map Char.ofNat

end LiveIni.Text
