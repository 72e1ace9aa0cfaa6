/-!
Texts are lists of characters. Every rule of the document format is a rule about characters,
so the operations here are the list operations that the rules need: trimming, cutting at a
separator, replacing, and reading from left to right in steps of varying length.
-/

namespace LiveIni

/-- A text is the list of its characters, counted and cut by code point. -/
abbrev Text := List Char

namespace Text

/-- Lower case for the letters `A` to `Z`; every other character stays. -/
def lower (t : Text) : Text :=
  t.map Char.toLower

/-- The decimal digits of a number, without sign or leading zeros. -/
def ofNat (n : Nat) : Text :=
  Nat.toDigits 10 n

/-- The decimal digits of an integer, with `-` in front of a negative one. -/
def ofInt (n : Int) : Text :=
  if n < 0 then '-' :: ofNat n.natAbs else ofNat n.natAbs

/-- The number that a text of decimal digits writes. -/
def toNat (t : Text) : Nat :=
  t.foldl (fun n c => n * 10 + (c.toNat - '0'.toNat)) 0

def isHexDigit (c : Char) : Bool :=
  c.isDigit || ('a' ≤ c && c ≤ 'f') || ('A' ≤ c && c ≤ 'F')

def digitValue (c : Char) : Nat :=
  if c.isDigit then c.toNat - '0'.toNat else c.toLower.toNat - 'a'.toNat + 10

/-- The number that a text of digits writes in the given base. -/
def toNatBase (base : Nat) (t : Text) : Nat :=
  t.foldl (fun n c => n * base + digitValue c) 0

-----------------------------------------------------------------------------------------
-- Trimming and cutting
-----------------------------------------------------------------------------------------

/-- Drops the longest run at the end whose characters all satisfy `p`. -/
def dropEndWhile (p : Char → Bool) (t : Text) : Text :=
  (t.reverse.dropWhile p).reverse

/-- Drops the runs at both ends whose characters all satisfy `p`. -/
def trim (p : Char → Bool) (t : Text) : Text :=
  dropEndWhile p (t.dropWhile p)

/-- The parts before and after the first `c`, or `none` if `c` does not occur. -/
def cutAt? (c : Char) : Text → Option (Text × Text)
  | [] => none
  | d :: rest =>
    if d = c then some ([], rest) else (cutAt? c rest).map fun (a, b) => (d :: a, b)

/-- The parts before and after the last `c`, or `none` if `c` does not occur. -/
def cutAtLast? (c : Char) (t : Text) : Option (Text × Text) :=
  (cutAt? c t.reverse).map fun (a, b) => (b.reverse, a.reverse)

def splitAt (c : Char) (t : Text) : List Text :=
  let (part, parts) := t.foldr
    (fun d (part, parts) => if d = c then ([], part :: parts) else (d :: part, parts)) ([], [])
  part :: parts

-----------------------------------------------------------------------------------------
-- Reading from left to right
-----------------------------------------------------------------------------------------

/-- Reads on after `skip` characters. At each position reached, `step` sees the character and
the rest, and says what stands there and how many of the characters after it belong to it.
-/
def scanFrom {α : Type} (step : Char → Text → α × Nat) : Nat → Text → List α
  | _, [] => []
  | skip + 1, _ :: rest => scanFrom step skip rest
  | 0, c :: rest => (step c rest).1 :: scanFrom step (step c rest).2 rest

/-- Reads a whole text in steps. -/
def scan {α : Type} (step : Char → Text → α × Nat) (t : Text) : List α :=
  scanFrom step 0 t

/-- Skipping is the same as dropping the skipped characters first. -/
theorem scanFrom_eq_scan_drop {α : Type} (step : Char → Text → α × Nat) (skip : Nat) (t : Text)
    : scanFrom step skip t = scan step (t.drop skip) := by
  induction skip generalizing t with
  | zero => rfl
  | succ skip ih => cases t with
    | nil => simp [scanFrom, scan]
    | cons c rest => simpa [scanFrom] using ih rest

theorem scan_nil {α : Type} (step : Char → Text → α × Nat) : scan step [] = [] := rfl

/-- One step of reading, followed by reading what the step leaves. -/
theorem scan_cons {α : Type} (step : Char → Text → α × Nat) (c : Char) (rest : Text)
    : scan step (c :: rest) = (step c rest).1 :: scan step (rest.drop (step c rest).2) := by
  rw [← scanFrom_eq_scan_drop]
  rfl

/-- Replaces every occurrence of `old`, found from left to right without overlaps. An empty
`old` stands before every character and at the end.
-/
def replaceAll (old new : Text) (t : Text) : Text :=
  if old.isEmpty then
    new ++ t.flatMap fun c => c :: new
  else
    (scan (fun c rest =>
      if old.isPrefixOf (c :: rest) then (new, old.length - 1) else ([c], 0)) t).flatten

-----------------------------------------------------------------------------------------
-- Order and character ranges
-----------------------------------------------------------------------------------------

/-- The order of texts, by the code points at the first difference. -/
def compare : Text → Text → Ordering
  | [], [] => .eq
  | [], _ :: _ => .lt
  | _ :: _, [] => .gt
  | c :: s, d :: t => if c = d then compare s t else Ord.compare c.toNat d.toNat

/-- Whether the code point of `c` lies in one of the given closed ranges. -/
def inRanges (ranges : List (Nat × Nat)) (c : Char) : Bool :=
  ranges.any fun (low, high) => low ≤ c.toNat && c.toNat ≤ high

end Text

end LiveIni
