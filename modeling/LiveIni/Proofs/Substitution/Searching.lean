import LiveIni.Proofs.Text.Breaks
import LiveIni.Proofs.Text.Cutting
import LiveIni.Substitution

/-!
The search for the parenthesis that closes an expression, one character at a time. It stands outside
of quotations, inside one or behind a backslash inside one, and counts the parentheses that are
open. Blanks around a text and the kind of its line ends make no difference to it.
-/

namespace LiveIni

/-- The quotes that a quotation can have. -/
inductive QuoteMark where
  | single
  | double
deriving DecidableEq, Repr

namespace QuoteMark

def char : QuoteMark → Char
  | single => '\''
  | double => '"'

def of? (c : Char) : Option QuoteMark :=
  if c = '\'' then some single else if c = '"' then some double else none

end QuoteMark

/-- Where the search stands: outside of quotations, inside of one, or behind a backslash inside of
one.
-/
inductive Place where
  | outside
  | quoted (q : QuoteMark)
  | escaped (q : QuoteMark)
deriving DecidableEq, Repr

/-- A search with the number of parentheses that are open. -/
structure Search where
  depth : Nat
  place : Place
deriving DecidableEq, Repr

namespace Search

/-- The search after one more character; `none` if it ends there. -/
def step? : Search → Char → Option Search
  | ⟨depth, .outside⟩, c =>
    match QuoteMark.of? c with
    | some q => some ⟨depth, .quoted q⟩
    | none =>
      if c = '(' then some ⟨depth + 1, .outside⟩
      else if c = ')' then
        match depth with
        | 0 => none
        | outer + 1 => some ⟨outer, .outside⟩
      else some ⟨depth, .outside⟩
  | ⟨depth, .quoted q⟩, c =>
    some ⟨depth, if c = '\\' then .escaped q else if c = q.char then .outside else .quoted q⟩
  | ⟨depth, .escaped q⟩, _ => some ⟨depth, .quoted q⟩

/-- The search after a text; `none` if it ends before the end of the text. -/
def run? (s : Search) (t : Text) : Option Search :=
  t.foldlM step? s

variable {s s' : Search} {c : Char} {t u : Text}

theorem run?_cons (s : Search) (c : Char) (t : Text)
    : s.run? (c :: t) = (s.step? c).bind fun after => after.run? t :=
  List.foldlM_cons

theorem run?_append (s : Search) (t u : Text)
    : s.run? (t ++ u) = (s.run? t).bind fun after => after.run? u :=
  List.foldlM_append

-----------------------------------------------------------------------------------------
-- Characters
-----------------------------------------------------------------------------------------

/-- The character is neither a quote nor a parenthesis. -/
def IsNeutral (c : Char) : Prop :=
  c ∉ ['\'', '"', '(', ')']

instance : DecidablePred IsNeutral :=
  fun c => inferInstanceAs (Decidable (c ∉ ['\'', '"', '(', ')']))

theorem isNeutral_iff : IsNeutral c ↔ c ≠ '\'' ∧ c ≠ '"' ∧ c ≠ '(' ∧ c ≠ ')' := by
  simp [IsNeutral]

/-- A character is a quote, a parenthesis, or neither. -/
theorem char_cases (c : Char)
    : (∃ q : QuoteMark, c = q.char) ∨ c = '(' ∨ c = ')' ∨ IsNeutral c := by
  by_cases single : c = '\''
  · exact .inl ⟨.single, single⟩
  · by_cases double : c = '"'
    · exact .inl ⟨.double, double⟩
    · rw [isNeutral_iff]
      tauto

theorem IsNeutral.step?_eq (neutral : IsNeutral c) (depth : Nat)
    : step? ⟨depth, .outside⟩ c = some ⟨depth, .outside⟩ := by
  obtain ⟨notSingle, notDouble, notOpen, notClose⟩ := isNeutral_iff.mp neutral
  simp [step?, QuoteMark.of?, notSingle, notDouble, notOpen, notClose]

theorem step?_quote (q : QuoteMark) (depth : Nat)
    : step? ⟨depth, .outside⟩ q.char = some ⟨depth, .quoted q⟩ := by
  cases q <;> rfl

-----------------------------------------------------------------------------------------
-- The length of an expression
-----------------------------------------------------------------------------------------

/-- How many characters the search still passes in a text. -/
def remaining? : Search → Text → Option Nat
  | ⟨depth, .outside⟩, t => Piece.expressionLength? depth none t
  | ⟨depth, .quoted q⟩, t => Piece.expressionLength? depth (some q.char) t
  | ⟨_, .escaped _⟩, [] => none
  | ⟨depth, .escaped q⟩, _ :: rest =>
    (Piece.expressionLength? depth (some q.char) rest).map (· + 1)

theorem remaining?_cons (stepped : s.step? c = some s') (t : Text)
    : s.remaining? (c :: t) = (s'.remaining? t).map (· + 1) := by
  obtain ⟨depth, place⟩ := s
  cases place with
  | outside =>
      rcases char_cases c with ⟨q, rfl⟩ | rfl | rfl | neutral
      · cases (step?_quote q depth).symm.trans stepped
        cases q <;> rfl
      · cases stepped
        rfl
      · cases depth with
        | zero => cases stepped
        | succ outer =>
            cases stepped
            rfl
      · cases (neutral.step?_eq depth).symm.trans stepped
        obtain ⟨notSingle, notDouble, notOpen, notClose⟩ := isNeutral_iff.mp neutral
        simp [remaining?, Piece.expressionLength?, notSingle, notDouble, notOpen, notClose]
  | quoted q =>
      cases stepped
      by_cases backslash : c = '\\'
      · subst backslash
        cases t with
        | nil => rfl
        | cons d more =>
            simp [remaining?, Piece.expressionLength?, Option.map_map, Function.comp_def]
      · have read : Piece.expressionLength? depth (some q.char) (c :: t)
            = (Piece.expressionLength? depth (if c = q.char then none else some q.char) t).map
                (· + 1) := by
          rw [Piece.expressionLength?.eq_def]
          exact if_neg backslash
        change Piece.expressionLength? depth (some q.char) (c :: t) = _
        rw [read, if_neg backslash]
        by_cases closes : c = q.char
        · rw [if_pos closes, if_pos closes]
          rfl
        · rw [if_neg closes, if_neg closes]
          rfl
  | escaped q =>
      cases stepped
      rfl

/-- By induction on the text. -/
theorem remaining?_append (passed : s.run? t = some s') (u : Text)
    : s.remaining? (t ++ u) = (s'.remaining? u).map (· + t.length) := by
  induction t generalizing s with
  | nil =>
      cases passed
      simp
  | cons c rest ih =>
      rw [run?_cons] at passed
      obtain ⟨after, stepped, passed⟩ := Option.bind_eq_some_iff.mp passed
      rw [List.cons_append, remaining?_cons stepped, ih passed, Option.map_map]
      rfl

/-- Outside of quotations and parentheses a text leads there again. -/
def Passes (t : Text) : Prop :=
  run? ⟨0, .outside⟩ t = some ⟨0, .outside⟩

instance : DecidablePred Passes :=
  fun t => inferInstanceAs (Decidable (run? ⟨0, .outside⟩ t = some ⟨0, .outside⟩))

/-- Where the search ends, it stood outside of quotations and parentheses. -/
theorem eq_of_step?_eq_none (ended : s.step? c = none) : s = ⟨0, .outside⟩ ∧ c = ')' := by
  obtain ⟨depth, place⟩ := s
  cases place with
  | outside =>
      rcases char_cases c with ⟨q, rfl⟩ | rfl | rfl | neutral
      · cases (step?_quote q depth).symm.trans ended
      · cases ended
      · cases depth with
        | zero => exact ⟨rfl, rfl⟩
        | succ outer => cases ended
      · cases (neutral.step?_eq depth).symm.trans ended
  | quoted q => cases ended
  | escaped q => cases ended

/-- A search that ends behind a text has passed it, by induction on the text. -/
theorem run?_of_remaining? {rest : Text} (found : s.remaining? (t ++ ')' :: rest) = some t.length)
    : s.run? t = some ⟨0, .outside⟩ := by
  induction t generalizing s with
  | nil =>
      cases stepped : s.step? ')' with
      | none => rw [(eq_of_step?_eq_none stepped).1]; rfl
      | some after =>
          rw [List.nil_append, remaining?_cons stepped] at found
          obtain ⟨n, _, impossible⟩ := Option.map_eq_some_iff.mp found
          exact absurd impossible (Nat.succ_ne_zero n)
  | cons c more ih =>
      cases stepped : s.step? c with
      | none =>
          obtain ⟨rfl, rfl⟩ := eq_of_step?_eq_none stepped
          cases found
      | some after =>
          rw [List.cons_append, remaining?_cons stepped] at found
          obtain ⟨n, onwards, same⟩ := Option.map_eq_some_iff.mp found
          cases same
          rw [run?_cons, stepped, Option.bind_some, ih onwards]

/-- The search passes an expression exactly if it ends at the parenthesis behind it. -/
theorem passes_iff_expressionLength? (rest : Text)
    : Passes t ↔ Piece.expressionLength? 0 none (t ++ ')' :: rest) = some t.length := by
  refine ⟨fun passes => ?_, fun found => run?_of_remaining? found⟩
  have found := remaining?_append passes (')' :: rest)
  simpa [remaining?, Piece.expressionLength?] using found

-----------------------------------------------------------------------------------------
-- Depth
-----------------------------------------------------------------------------------------

/-- With more parentheses open, the search goes on in the same way. -/
theorem step?_deeper (stepped : s.step? c = some s') (depth : Nat)
    : step? ⟨s.depth + depth, s.place⟩ c = some ⟨s'.depth + depth, s'.place⟩ := by
  obtain ⟨outer, place⟩ := s
  cases place with
  | outside =>
      rcases char_cases c with ⟨q, rfl⟩ | rfl | rfl | neutral
      · cases (step?_quote q outer).symm.trans stepped
        exact step?_quote q _
      · cases stepped
        dsimp only
        rw [Nat.add_right_comm]
        rfl
      · cases outer with
        | zero => cases stepped
        | succ outer =>
            cases stepped
            dsimp only
            rw [Nat.add_right_comm]
            rfl
      · cases (neutral.step?_eq outer).symm.trans stepped
        exact neutral.step?_eq _
  | quoted q =>
      cases stepped
      rfl
  | escaped q =>
      cases stepped
      rfl

/-- By induction on the text. -/
theorem run?_deeper (passed : s.run? t = some s') (depth : Nat)
    : run? ⟨s.depth + depth, s.place⟩ t = some ⟨s'.depth + depth, s'.place⟩ := by
  induction t generalizing s with
  | nil =>
      cases passed
      rfl
  | cons c rest ih =>
      rw [run?_cons] at passed ⊢
      obtain ⟨after, stepped, passed⟩ := Option.bind_eq_some_iff.mp passed
      rw [step?_deeper stepped, Option.bind_some, ih passed]

theorem Passes.run?_eq (passes : Passes t) (depth : Nat)
    : run? ⟨depth, .outside⟩ t = some ⟨depth, .outside⟩ := by
  simpa using run?_deeper passes depth

-----------------------------------------------------------------------------------------
-- Texts without meaning
-----------------------------------------------------------------------------------------

theorem passes_nil : Passes [] :=
  rfl

theorem Passes.append (first : Passes t) (second : Passes u) : Passes (t ++ u) := by
  rw [Passes, run?_append, first, Option.bind_some, second]

/-- By induction on the text. -/
theorem passes_of_neutral (neutral : ∀ c ∈ t, IsNeutral c) : Passes t := by
  induction t with
  | nil => rfl
  | cons c rest ih =>
      rw [Passes, run?_cons, (neutral c List.mem_cons_self).step?_eq, Option.bind_some]
      exact ih fun d member => neutral d (List.mem_cons_of_mem c member)

theorem isNeutral_of_isBlank (blank : Text.isBlank c = true) : IsNeutral c := by
  intro member
  simp only [List.mem_cons, List.not_mem_nil, or_false] at member
  rcases member with rfl | rfl | rfl | rfl <;> revert blank <;> decide

/-- Blanks around a text are passed. -/
theorem passes_of_strip (passes : Passes (Text.strip t)) : Passes t := by
  obtain ⟨lead, trail, whole, leadBlank, trailBlank⟩ := Text.exists_eq_strip t
  have neutral {blanks : Text} (blank : Text.isBlankLine blanks = true) : Passes blanks :=
    passes_of_neutral fun c member => isNeutral_of_isBlank (List.all_eq_true.mp blank c member)
  rw [whole]
  exact ((neutral leadBlank).append passes).append (neutral trailBlank)

-----------------------------------------------------------------------------------------
-- Line ends
-----------------------------------------------------------------------------------------

/-- A line end of any kind changes nothing, except that a backslash may stand before it. Behind the
first character of a line end there is none.
-/
theorem exists_after_lineEnd (s : Search) (lineEnd : c = '\n' ∨ c = '\r')
    : ∃ after, (∀ q, after.place ≠ .escaped q) ∧ ((∀ q, s.place ≠ .escaped q) → after = s)
        ∧ s.step? '\n' = some after ∧ s.step? c = some after := by
  obtain ⟨depth, place⟩ := s
  cases place with
  | outside =>
      refine ⟨⟨depth, .outside⟩, nofun, fun _ => rfl, rfl, ?_⟩
      rcases lineEnd with rfl | rfl <;> rfl
  | quoted q =>
      refine ⟨⟨depth, .quoted q⟩, nofun, fun _ => rfl, ?_, ?_⟩
      · cases q <;> rfl
      · rcases lineEnd with rfl | rfl <;> cases q <;> rfl
  | escaped q => exact ⟨⟨depth, .quoted q⟩, nofun, fun ready => absurd rfl (ready q), rfl, rfl⟩

/-- The search does not tell line ends from line feeds, by induction on the text. -/
theorem run?_linesFrom (s : Search) {pending : Bool}
    (ready : pending = true → ∀ q, s.place ≠ .escaped q) (t : Text)
    : s.run? ((Text.linesFrom pending t).1 ++ (Text.linesFrom pending t).2.flatMap ('\n' :: ·))
      = s.run? t := by
  induction t generalizing s pending with
  | nil => cases pending <;> rfl
  | cons c rest ih =>
      by_cases isFeed : c = '\n'
      · subst isFeed
        obtain ⟨after, _, same, stepped, _⟩ := s.exists_after_lineEnd (.inl rfl)
        cases pending with
        | true =>
            obtain rfl := same (ready rfl)
            rw [run?_cons, stepped, Option.bind_some]
            exact ih after nofun
        | false =>
            rw [Text.linesFrom_feed, run?_cons, stepped, List.nil_append, List.flatMap_cons,
              List.cons_append, run?_cons, stepped, Option.bind_some, Option.bind_some]
            exact ih after nofun
      · by_cases isReturn : c = '\r'
        · subst isReturn
          obtain ⟨after, afterReady, _, stepped, returned⟩ := s.exists_after_lineEnd (.inr rfl)
          rw [Text.linesFrom_return, run?_cons, returned, List.nil_append, List.flatMap_cons,
            List.cons_append, run?_cons, stepped, Option.bind_some, Option.bind_some]
          exact ih after fun _ => afterReady
        · rw [Text.linesFrom_cons ⟨isFeed, isReturn⟩, List.cons_append, run?_cons, run?_cons]
          cases s.step? c with
          | none => rfl
          | some after => exact ih after nofun

theorem passes_of_withLineFeeds (passes : Passes (Text.withLineFeeds t)) : Passes t := by
  have noReturn : false = true → ∀ q, (⟨0, .outside⟩ : Search).place ≠ .escaped q := nofun
  exact (run?_linesFrom _ noReturn t).symm.trans passes

end Search

end LiveIni
