import LiveIni.Expression.Parse
import LiveIni.Proofs.Expression.Words

/-!
What readers make of words without decimals. Each way to put readers together keeps it that the
words which are left are among those which were there.
-/

namespace LiveIni.Parse

variable {α β : Type} {good : α → Prop} {fine : β → Prop} {p q : Parse α} {f : α → Parse β}
  {tokens : List Token}

/-- From words without decimals, the reader reads something good and leaves such words. -/
def YieldsAt (good : α → Prop) (p : Parse α) (tokens : List Token) : Prop :=
  (∀ t ∈ tokens, t.NoDecimal)
    → ∀ a rest, p tokens = some (a, rest) → good a ∧ ∀ t ∈ rest, t.NoDecimal

/-- From any words without decimals, the reader reads something good and leaves such words. -/
def Yields (good : α → Prop) (p : Parse α) : Prop :=
  ∀ tokens, YieldsAt good p tokens

/-- The reader leaves no decimals behind where there were none before. -/
abbrev Keeps (p : Parse α) : Prop :=
  Yields (fun _ => True) p

namespace Yields

theorem done {a : α} (holds : good a) : Yields good (pure a : Parse α) := by
  intro tokens plain b rest read
  cases read
  exact ⟨holds, plain⟩

theorem fails : Yields good (failure : Parse α) := by
  intro tokens plain a rest read
  cases read

theorem bind (first : Yields good p) (next : ∀ a, good a → Yields fine (f a))
    : Yields fine (p >>= f) := by
  intro tokens plain b rest read
  obtain ⟨⟨a, middle⟩, here, there⟩ := Option.bind_eq_some_iff.mp read
  obtain ⟨holds, left⟩ := first tokens plain a middle here
  exact next a holds middle left b rest there

/-- What the first reader reads may have no part in what is read in the end. -/
theorem next (first : Keeps p) (second : ∀ a, Yields fine (f a)) : Yields fine (p >>= f) :=
  bind first fun a _ => second a

theorem branch {c : Prop} [Decidable c] (yes : Yields good p) (no : Yields good q)
    : Yields good (if c then p else q) := by
  split <;> assumption

theorem keeps (yields : Yields good p) : Keeps p :=
  fun tokens plain a rest read => ⟨trivial, (yields tokens plain a rest read).2⟩

theorem guarded (c : Prop) [Decidable c] : Keeps (guard c : Parse Unit) :=
  branch (done trivial) fails

theorem lifted {o : Option α} (holds : ∀ a, o = some a → good a)
    : Yields good (liftM o : Parse α) := by
  intro tokens plain a rest read
  obtain ⟨b, found, same⟩ := Option.bind_eq_some_iff.mp read
  cases same
  exact ⟨holds a found, plain⟩

/-- A reader may look at the words before it takes any. -/
theorem look {f : List Token → Parse β} (next : ∀ tokens, YieldsAt fine (f tokens) tokens)
    : Yields fine (get >>= f) :=
  fun tokens => next tokens

theorem peek : Keeps Parse.peek :=
  look fun _ => done trivial _

end Yields

/-- A reader may take several words at once. -/
theorem YieldsAt.take {before rest : List Token} {f : Unit → Parse β}
    (cut : ∃ taken, before = taken ++ rest) (next : Yields fine (f ()))
    : YieldsAt fine (set rest >>= f) before := by
  obtain ⟨taken, rfl⟩ := cut
  exact fun plain => next rest fun t member => plain t (List.mem_append_right _ member)

namespace Yields

variable {t : Token}

theorem skip? (t : Token) : Keeps (Parse.skip? t) := by
  intro tokens plain found rest read
  refine ⟨trivial, ?_⟩
  unfold Parse.skip? at read
  split at read
  · split at read
    · cases read
      exact fun u member => plain u (List.mem_cons_of_mem _ member)
    · cases read
      exact plain
  · cases read
    exact plain

/-- Where a word may be missing, both cases are read well. -/
theorem ifSkip (yes : Yields good p) (no : Yields good q)
    : Yields good (do if ← Parse.skip? t then p else q) :=
  next (skip? t) fun _ => branch yes no

theorem expect (t : Token) : Keeps (Parse.expect t) :=
  ifSkip (done trivial) fails

theorem anyName : Keeps Parse.anyName := by
  intro tokens plain id rest read
  unfold Parse.anyName at read
  split at read
  · cases read
    exact ⟨trivial, fun u member => plain u (List.mem_cons_of_mem _ member)⟩
  · cases read

/-- By induction on the greatest number of items. -/
theorem manyUpTo {item : Parse (Option α)} (each : Yields (fun found => ∀ a ∈ found, good a) item)
    (count : Nat)
    : Yields (fun all => ∀ a ∈ all, good a) (Parse.manyUpTo item count) := by
  induction count with
  | zero => exact fails
  | succ count ih =>
      refine bind each fun found holds => ?_
      cases found with
      | none => exact done (by simp)
      | some a =>
          refine bind ih fun rest others => done ?_
          exact List.forall_mem_cons.mpr ⟨holds a rfl, others⟩

theorem many {item : Parse (Option α)} (each : Yields (fun found => ∀ a ∈ found, good a) item)
    : Yields (fun all => ∀ a ∈ all, good a) (Parse.many item) :=
  look fun _ => manyUpTo each _ _

theorem itemsUntil {item : Parse α} (ends : List Token → Bool) (each : Yields good item)
    : Yields (fun read => ∀ a ∈ read.1, good a) (Parse.itemsUntil ends item) := by
  refine bind each fun first holds =>
    bind (many ?_ : Yields (fun all => ∀ a ∈ all, good a) _) fun rest others =>
      next (skip? _) fun _ => done (List.forall_mem_cons.mpr ⟨holds, others⟩)
  refine look fun tokens => ?_
  split
  · split
    · exact done nofun _
    · refine .take ⟨[_], rfl⟩ (bind each fun a holds => done ?_)
      rintro b ⟨⟩
      exact holds
  · exact done nofun _

theorem items {item : Parse α} (each : Yields good item)
    : Yields (fun read => ∀ a ∈ read.1, good a) (Parse.items item) :=
  itemsUntil endsItems each

/-- Where every item is good, only the words are left to look at. -/
theorem ofKeeps (keeps : Keeps p) (all : ∀ a, good a) : Yields good p :=
  fun tokens plain a rest read => ⟨all a, (keeps tokens plain a rest read).2⟩

theorem keepsMany {item : Parse (Option α)} (each : Keeps item) : Keeps (Parse.many item) :=
  keeps (many (ofKeeps each fun _ _ _ => trivial))

theorem keepsItems {item : Parse α} (each : Keeps item) : Keeps (Parse.items item) :=
  keeps (items each)

end Yields

end LiveIni.Parse
