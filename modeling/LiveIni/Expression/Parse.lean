import LiveIni.Expression
import LiveIni.Expression.Token

/-!
Reading words from left to right: a reader takes words from the front of a list, or fails.
The grammar is deterministic, so a reader that has taken a word never goes back.
-/

namespace LiveIni

/-- A reader of words. -/
abbrev Parse (α : Type) := StateT (List Token) Option α

namespace Parse

variable {α : Type}

/-- The next word, which stays. -/
def peek : Parse (Option Token) := do
  return (← get).head?

/-- Takes the next word if it is the given one, and says whether it was. -/
def skip? (t : Token) : Parse Bool := fun tokens =>
  match tokens with
  | u :: rest => if u = t then some (true, rest) else some (false, tokens)
  | [] => some (false, [])

/-- Takes the given word. -/
def expect (t : Token) : Parse Unit := do
  unless ← skip? t do failure

/-- Takes the given symbol. -/
def symbol (s : Symbol) : Parse Unit :=
  expect (.symbol s)

/-- Takes any name. -/
def anyName : Parse Text := fun tokens =>
  match tokens with
  | .name id :: rest => some (id, rest)
  | _ => none

/-- Reads items for as long as one begins, at most `n` of them. -/
def manyUpTo (item : Parse (Option α)) : Nat → Parse (List α)
  | 0 => failure
  | n + 1 => do
    match ← item with
    | none => return []
    | some a => return a :: (← manyUpTo item n)

/-- Reads items for as long as one begins. An item has at least one word, so the number of
words left bounds that of the items.
-/
def many (item : Parse (Option α)) : Parse (List α) := do
  manyUpTo item ((← get).length + 1)

/-- Whether a comma that stands before these words is the last of its list. -/
def endsItems : List Token → Bool
  | [] => true
  | .symbol s :: _ => s.closes || s = .colon
  | .keyword k :: _ => k = .«in»
  | .lineEnd :: _ => true
  | _ => false

/-- Reads one or more items with commas between them, and says whether one more comma follows
the last. What `ends` tells is whether a comma before some words is the last one.
-/
def itemsUntil (ends : List Token → Bool) (item : Parse α) : Parse (List α × Bool) := do
  let first ← item
  let more ← many do
    match ← get with
    | .symbol .comma :: rest =>
      if ends rest then return none
      else do
        set rest
        return some (← item)
    | _ => return none
  return (first :: more, ← skip? (.symbol .comma))

/-- Reads one or more items of a list. -/
def items (item : Parse α) : Parse (List α × Bool) :=
  itemsUntil endsItems item

end Parse

end LiveIni
