import LiveIni.Expression.Grammar

/-!
Parentheses in expressions. Every rule of the grammar takes as many closing parentheses as opening
ones, and none before the one that it closes, so that the words of an expression are balanced.
-/

namespace LiveIni

namespace Token

/-- How many parentheses are open after a word if `depth` are open before it; `none` if it closes
one that was not open.
-/
def depthAfter? (depth : Nat) : Token → Option Nat
  | .symbol .openParen => some (depth + 1)
  | .symbol .closeParen => match depth with
    | 0 => none
    | outer + 1 => some outer
  | _ => some depth

/-- The word is no parenthesis. -/
def IsNeutral (t : Token) : Prop :=
  t ≠ .symbol .openParen ∧ t ≠ .symbol .closeParen

instance : DecidablePred IsNeutral :=
  fun t => inferInstanceAs (Decidable (t ≠ .symbol .openParen ∧ t ≠ .symbol .closeParen))

theorem IsNeutral.depthAfter?_eq {t : Token} (neutral : t.IsNeutral) (depth : Nat)
    : t.depthAfter? depth = some depth := by
  unfold depthAfter?
  split
  · exact absurd rfl neutral.1
  · exact absurd rfl neutral.2
  · rfl

/-- How many parentheses are open after some words. -/
def depthAfterAll? (depth : Nat) (tokens : List Token) : Option Nat :=
  tokens.foldlM depthAfter? depth

theorem depthAfterAll?_cons (depth : Nat) (t : Token) (rest : List Token)
    : depthAfterAll? depth (t :: rest)
      = (t.depthAfter? depth).bind fun after => depthAfterAll? after rest :=
  List.foldlM_cons

theorem IsNeutral.depthAfterAll?_eq {t : Token} (neutral : t.IsNeutral) (depth : Nat)
    (rest : List Token)
    : depthAfterAll? depth (t :: rest) = depthAfterAll? depth rest := by
  rw [depthAfterAll?_cons, neutral.depthAfter?_eq, Option.bind_some]

/-- Quotations are no parentheses, however the characters in them are written. -/
theorem depthAfterAll?_spelled (names : Text → Option Char) (depth : Nat) (tokens : List Token)
    : depthAfterAll? depth (tokens.map (spelled names)) = depthAfterAll? depth tokens := by
  have same (n : Nat) (t : Token) : (t.spelled names).depthAfter? n = t.depthAfter? n := by
    cases t <;> rfl
  simp only [depthAfterAll?, List.foldlM_map, same]

end Token

open Token (depthAfterAll?)

-----------------------------------------------------------------------------------------
-- Readers
-----------------------------------------------------------------------------------------

namespace Parse

variable {α β : Type} {m n : Nat} {p : Parse α} {f : α → Parse β} {tokens rest : List Token}

/-- If the reader takes the first of these words, they leave `n` fewer parentheses open than before.
-/
def ClosesAt (n : Nat) (p : Parse α) (tokens : List Token) : Prop :=
  ∀ a rest, p tokens = some (a, rest)
    → ∀ depth, depthAfterAll? (depth + n) tokens = depthAfterAll? depth rest

/-- The reader takes words that close what they open, and `n` parentheses that stand open before. -/
def Closes (n : Nat) (p : Parse α) : Prop :=
  ∀ tokens, ClosesAt n p tokens

namespace Closes

theorem done (a : α) : Closes 0 (pure a : Parse α) := by
  intro tokens b rest read depth
  cases read
  rfl

theorem fails : Closes n (failure : Parse α) := by
  intro tokens b rest read
  cases read

theorem both (first : Closes n p) (next : ∀ a, Closes m (f a)) : Closes (m + n) (p >>= f) := by
  intro tokens b rest read depth
  obtain ⟨⟨a, middle⟩, here, there⟩ := Option.bind_eq_some_iff.mp read
  rw [← Nat.add_assoc, first tokens a middle here, next a middle b rest there]

theorem bind (first : Closes 0 p) (next : ∀ a, Closes n (f a)) : Closes n (p >>= f) :=
  both first next

theorem branch {c : Prop} [Decidable c] {q : Parse α} (yes : Closes n p) (no : Closes n q)
    : Closes n (if c then p else q) := by
  split <;> assumption

theorem guarded (c : Prop) [Decidable c] : Closes 0 (guard c : Parse Unit) :=
  branch (done ()) fails

theorem lifted (o : Option α) : Closes 0 (liftM o : Parse α) := by
  intro tokens a rest read depth
  obtain ⟨_, _, same⟩ := Option.bind_eq_some_iff.mp read
  cases same
  rfl

/-- A reader may look at the words before it takes any. -/
theorem look {f : List Token → Parse β} (next : ∀ tokens, ClosesAt n (f tokens) tokens)
    : Closes n (get >>= f) :=
  fun tokens => next tokens

theorem peek : Closes 0 Parse.peek :=
  look fun _ => done _ _

end Closes

/-- A reader may take several words at once. -/
theorem ClosesAt.take {f : Unit → Parse β}
    (taken : ∀ depth, depthAfterAll? (depth + m) tokens = depthAfterAll? (depth + n) rest)
    (next : Closes n (f ()))
    : ClosesAt m (set rest >>= f) tokens := by
  intro b after read depth
  rw [taken, next rest b after read]

theorem ClosesAt.takeNeutral {t : Token} {f : Unit → Parse β} (neutral : t.IsNeutral)
    (next : Closes n (f ()))
    : ClosesAt n (set rest >>= f) (t :: rest) :=
  .take (fun _ => neutral.depthAfterAll?_eq _ rest) next

namespace Closes

-----------------------------------------------------------------------------------------
-- Single words
-----------------------------------------------------------------------------------------

variable {t : Token} {q : Parse α}

theorem skip? (neutral : t.IsNeutral) : Closes 0 (Parse.skip? t) := by
  intro tokens b rest read depth
  unfold Parse.skip? at read
  split at read
  · split at read
    · next same =>
        cases read
        subst same
        exact neutral.depthAfterAll?_eq depth _
    · cases read
      rfl
  · cases read
    rfl

/-- Where a word may be missing, the readers of both cases allow for what it opens or closes. -/
theorem ifTake
    (taken : ∀ depth rest, depthAfterAll? (depth + m) (t :: rest) = depthAfterAll? (depth + n) rest)
    (yes : Closes n p) (no : Closes m q)
    : Closes m (do if ← Parse.skip? t then p else q) := by
  intro tokens b rest read depth
  obtain ⟨⟨found, middle⟩, here, there⟩ := Option.bind_eq_some_iff.mp read
  unfold Parse.skip? at here
  split at here
  · split at here
    · next same =>
        cases here
        subst same
        rw [taken, yes _ _ _ there]
    · cases here
      exact no _ _ _ there depth
  · cases here
    exact no _ _ _ there depth

theorem ifSkip (neutral : t.IsNeutral) (yes : Closes n p) (no : Closes n q)
    : Closes n (do if ← Parse.skip? t then p else q) :=
  ifTake (fun _ _ => neutral.depthAfterAll?_eq _ _) yes no

theorem ifClose (yes : Closes n p) (no : Closes (n + 1) q)
    : Closes (n + 1) (do if ← Parse.skip? (.symbol .closeParen) then p else q) :=
  ifTake (fun _ _ => rfl) yes no

theorem ifOpen (yes : Closes (n + 1) p) (no : Closes n q)
    : Closes n (do if ← Parse.skip? (.symbol .openParen) then p else q) :=
  ifTake (fun _ _ => rfl) yes no

theorem expect (neutral : t.IsNeutral) : Closes 0 (Parse.expect t) :=
  ifSkip neutral (done ()) fails

theorem closeParen (next : Closes 0 p) : Closes 1 (do symbol .closeParen; p) :=
  both (ifClose (done ()) fails) fun _ => next

theorem anyName : Closes 0 Parse.anyName := by
  intro tokens a rest read depth
  unfold Parse.anyName at read
  split at read
  · cases read
    rfl
  · cases read

-----------------------------------------------------------------------------------------
-- Repetitions
-----------------------------------------------------------------------------------------

/-- By induction on the greatest number of items. -/
theorem manyUpTo {item : Parse (Option α)} (each : Closes 0 item) (count : Nat)
    : Closes 0 (Parse.manyUpTo item count) := by
  induction count with
  | zero => exact fails
  | succ count ih =>
      refine bind each fun found => ?_
      cases found with
      | none => exact done []
      | some a => exact bind ih fun _ => done _

theorem many {item : Parse (Option α)} (each : Closes 0 item) : Closes 0 (Parse.many item) :=
  look fun _ => manyUpTo each _ _

theorem itemsUntil {item : Parse α} (ends : List Token → Bool) (each : Closes 0 item)
    : Closes 0 (Parse.itemsUntil ends item) := by
  refine bind each fun _ => bind (many (look fun tokens => ?_)) fun _ =>
    bind (skip? (by decide)) fun _ => done _
  split
  · next rest =>
      split
      · exact done none _
      · exact .take (fun _ => rfl) (bind each fun _ => done _)
  · exact done none _

theorem items {item : Parse α} (each : Closes 0 item) : Closes 0 (Parse.items item) :=
  itemsUntil endsItems each

end Closes

end Parse

-----------------------------------------------------------------------------------------
-- Items of displays, calls and subscripts
-----------------------------------------------------------------------------------------

namespace Grammar

open Parse (Closes ClosesAt)

variable {sub : Level → Parse Phrase} (each : ∀ level, Closes 0 (sub level))
include each

theorem closes_named : Closes 0 (named sub) := by
  refine .look fun tokens => ?_
  split
  · exact .take (fun _ => rfl) (.bind (each _) fun _ => .done _)
  · exact each _ _

theorem closes_starredOrNamed : Closes 0 (starredOrNamed sub) :=
  .ifSkip (by decide) (.bind (each _) fun _ => .done _)
    (.bind (closes_named each) fun _ => .done _)

theorem closes_targets : Closes 0 (targets sub) := by
  refine .bind (.items ?_) fun _ => .done ()
  exact .bind (.skip? (by decide)) fun _ => .bind (each _) fun _ => .guarded _

theorem closes_clause? : Closes 0 (clause? sub) := by
  have afterFor : Closes 0 (do
      targets sub
      Parse.expect (.keyword .«in»)
      let _ ← sub .alternatives
      let _ ← Parse.many do
        if ← Parse.skip? (.keyword .«if») then return some (← sub .alternatives) else return none
      return some ()) := by
    refine .bind (closes_targets each) fun _ => .bind (.expect (by decide)) fun _ =>
      .bind (each _) fun _ => .bind (.many ?_) fun _ => .done _
    exact .ifSkip (by decide) (.bind (each _) fun _ => .done _) (.done _)
  refine .look fun tokens => ?_
  split
  · exact .take (fun _ => rfl) afterFor
  · exact .take (fun _ => rfl) afterFor
  · exact Closes.done none _

theorem closes_clauses : Closes 0 (clauses sub) :=
  .bind (.many (closes_clause? each)) fun _ => .done _

theorem closes_clausesIf (allowed : Bool) : Closes 0 (clausesIf sub allowed) :=
  .branch (closes_clauses each) (.done _)

theorem closes_yielded : Closes 0 (yielded sub) := by
  refine .ifSkip (by decide) (.bind (each _) fun _ => .done _) (.look fun _ => ?_)
  refine Closes.branch (.done _) (.bind (.items ?_) fun _ => .done _) _
  exact .ifSkip (by decide) (each _) (each _)

/-- What follows an opening parenthesis closes it. -/
theorem closes_parenthesized : Closes 1 (parenthesized sub) := by
  refine .ifClose (.done _) (.ifSkip (by decide) ?_ ?_)
  · exact .bind (closes_yielded each) fun _ => .closeParen (.done _)
  · refine .bind (.items (closes_starredOrNamed each)) fun (members, trailing) => ?_
    dsimp only
    split
    · exact .bind (closes_clauses each) fun _ => .closeParen (.done _)
    · exact .fails
    · exact .closeParen (.done _)

theorem closes_listDisplay : Closes 0 (listDisplay sub) := by
  refine .ifSkip (by decide) (.done _) (.bind (.items (closes_starredOrNamed each)) ?_)
  intro (members, trailing)
  dsimp only
  split
  · exact .bind (closes_clauses each) fun _ => .bind (.expect (by decide)) fun _ => .done _
  · exact .bind (.done _) fun _ => .bind (.expect (by decide)) fun _ => .done _

theorem closes_entry : Closes 0 (entry sub) :=
  .ifSkip (by decide) (.bind (each _) fun _ => .done _)
    (.bind (each _) fun _ => .bind (.expect (by decide)) fun _ => .bind (each _) fun _ => .done _)

theorem closes_restOfDict (isPair : Bool) : Closes 0 (restOfDict sub isPair) := by
  refine .bind (closes_clausesIf each isPair) fun _ => .branch ?_ (.ifSkip (by decide) ?_ ?_)
  · exact .bind (.expect (by decide)) fun _ => .done _
  · refine .look fun _ => Closes.branch ?_ ?_ _
    · exact .bind (.expect (by decide)) fun _ => .done _
    · exact .bind (.items (closes_entry each)) fun _ => .bind (.expect (by decide)) fun _ => .done _
  · exact .bind (.expect (by decide)) fun _ => .done _

theorem closes_restOfSet (starred : Bool) : Closes 0 (restOfSet sub starred) := by
  refine .bind (closes_clausesIf each !starred) fun _ => .branch ?_ (.ifSkip (by decide) ?_ ?_)
  · exact .bind (.expect (by decide)) fun _ => .done _
  · refine .look fun _ => Closes.branch ?_ ?_ _
    · exact .bind (.expect (by decide)) fun _ => .done _
    · exact .bind (.items (closes_starredOrNamed each)) fun _ =>
        .bind (.expect (by decide)) fun _ => .done _
  · exact .bind (.expect (by decide)) fun _ => .done _

theorem closes_braceDisplay : Closes 0 (braceDisplay sub) := by
  refine .ifSkip (by decide) (.done _) (.bind .peek fun _ => .branch ?_ (.look fun tokens => ?_))
  · exact .bind (closes_entry each) fun isPair => closes_restOfDict each isPair
  · split
    · exact Closes.bind (closes_named each) (fun _ => closes_restOfSet each false) _
    · refine Closes.bind (closes_starredOrNamed each) (fun (_, starred) => .branch ?_ ?_) _
      · exact closes_restOfSet each true
      · exact .ifSkip (by decide) (.bind (each _) fun _ => closes_restOfDict each true)
          (closes_restOfSet each false)

theorem closes_sliceBound : Closes 0 (sliceBound sub) :=
  .bind .peek fun _ => .branch (.done _) (.bind (each _) fun _ => .done _)

theorem closes_sliceRest : Closes 0 (sliceRest sub) :=
  .bind (closes_sliceBound each) fun _ => .ifSkip (by decide) (closes_sliceBound each) (.done _)

theorem closes_subscriptItem : Closes 0 (subscriptItem sub) := by
  refine .ifSkip (by decide) (.bind (each _) fun _ => .done _)
    (.ifSkip (by decide) (closes_sliceRest each) (.look fun tokens => ?_))
  split
  · exact Closes.bind (closes_named each) (fun _ => .done _) _
  · exact Closes.bind (each _)
      (fun _ => .ifSkip (by decide) (closes_sliceRest each) (.done _)) _

-----------------------------------------------------------------------------------------
-- Calls and functions
-----------------------------------------------------------------------------------------

theorem closes_argument : Closes 0 (argument sub) := by
  refine .ifSkip (by decide) (.bind (each _) fun _ => .done _)
    (.ifSkip (by decide) (.bind (each _) fun _ => .done _) (.look fun tokens => ?_))
  split
  · exact .take (fun _ => rfl) (.bind (each _) fun _ => .done _)
  · exact Closes.bind (closes_named each) (fun _ => .done _) _

/-- The arguments of a call end with the parenthesis that closes them. -/
theorem closes_arguments : Closes 1 (arguments sub) := by
  refine .ifClose (.done _) (.bind (.items (closes_argument each)) fun (args, trailing) => ?_)
  dsimp only
  split
  · exact .bind (closes_clauses each) fun _ =>
      .closeParen (.bind (.guarded _) fun _ => .done _)
  · exact .bind (.done _) fun _ => .closeParen (.bind (.guarded _) fun _ => .done _)

theorem closes_parameter : Closes 0 (parameter sub) := by
  refine .ifSkip (by decide) (.done _)
    (.ifSkip (by decide) (.bind .anyName fun _ => .done _) (.ifSkip (by decide) ?_ ?_))
  · refine .bind .peek fun next => ?_
    split
    · exact .bind .anyName fun _ => .done _
    · exact .done _
  · exact .bind .anyName fun _ =>
      .ifSkip (by decide) (.bind (each _) fun _ => .done _) (.done _)

theorem closes_function : Closes 0 (function sub) := by
  have body : Closes 0 (do
      Parse.symbol .colon
      let _ ← sub .expression
      return refused "Lambda") :=
    .bind (.expect (by decide)) fun _ => .bind (each _) fun _ => .done _
  refine .bind .peek fun _ => .branch body ?_
  exact .bind (.items (closes_parameter each)) fun _ => .bind (.guarded _) fun _ => body

-----------------------------------------------------------------------------------------
-- Atoms and operators
-----------------------------------------------------------------------------------------

theorem closes_atom : Closes 0 (atom sub) := by
  refine .look fun tokens => ?_
  split
  · exact Closes.fails _
  · split
    · exact .take (fun _ => rfl) (.done _)
    · exact .take (fun _ => rfl) (.done _)
    · exact .take (fun _ => rfl) (.done _)
    · exact .take (fun _ => rfl) (.done _)
    · exact .take (fun _ => rfl) (.done _)
    · refine .take (fun _ => rfl) (.bind (.many (.look fun tokens => ?_)) fun _ =>
        .bind (.lifted _) fun _ => .done _)
      split
      · exact .take (fun _ => rfl) (.done _)
      · exact Closes.done none _
    · exact .take (fun _ => rfl) (.done _)
    · exact .take (fun _ => rfl) (closes_parenthesized each)
    · exact .take (fun _ => rfl) (closes_listDisplay each)
    · exact .take (fun _ => rfl) (closes_braceDisplay each)
    · exact fun _ _ => nofun

theorem closes_trailer? : Closes 0 (trailer? sub) := by
  refine .ifSkip (by decide) (.bind .anyName fun _ => .done _)
    (.ifSkip (by decide) ?_ (.ifOpen ?_ (.done _)))
  · exact .bind (.itemsUntil _ (closes_subscriptItem each)) fun _ =>
      .bind (.expect (by decide)) fun _ => .done _
  · exact .both (closes_arguments each) fun _ => .done _

theorem closes_primary : Closes 0 (primary sub) :=
  .bind (.skip? (by decide)) fun _ => .bind (closes_atom each) fun _ =>
    .bind (.many (closes_trailer? each)) fun _ => .done _

omit each in
theorem closes_sign? : Closes 0 sign? :=
  .ifSkip (by decide) (.done _)
    (.ifSkip (by decide) (.done _) (.ifSkip (by decide) (.done _) (.done _)))

theorem closes_factor : Closes 0 (factor sub) := by
  refine .bind (.many closes_sign?) fun _ => .bind (closes_primary each) fun _ =>
    .bind (.many ?_) fun _ => .done _
  exact .ifSkip (by decide)
    (.bind (.many closes_sign?) fun _ => .bind (closes_primary each) fun _ => .done _) (.done _)

omit each in
/-- No parenthesis is an operator. -/
theorem closes_operator? {rank : List OperatorRule} (noOpen : rank.lookup .openParen = none)
    (noClose : rank.lookup .closeParen = none)
    : Closes 0 (operator? rank) := by
  refine .look fun tokens => ?_
  split
  · next s rest =>
      split
      · next op found =>
          have neutral : (Token.symbol s).IsNeutral := by
            constructor <;> rintro ⟨⟩
            · rw [noOpen] at found
              cases found
            · rw [noClose] at found
              cases found
          exact .takeNeutral neutral (.done _)
      · exact Closes.done none _
  · exact Closes.done none _

/-- By induction on the ranks. -/
theorem closes_binary {rules : List (List OperatorRule)}
    (operators : ∀ rank ∈ rules, rank.lookup .openParen = none ∧ rank.lookup .closeParen = none)
    : Closes 0 (binary sub rules) := by
  induction rules with
  | nil => exact closes_factor each
  | cons rank tighter ih =>
      obtain ⟨noOpen, noClose⟩ := operators rank List.mem_cons_self
      have operand := ih fun rank member => operators rank (List.mem_cons_of_mem _ member)
      refine .bind operand fun _ => .bind (.many (.bind ?_ fun found => ?_)) fun _ => .done _
      · exact closes_operator? noOpen noClose
      · split
        · exact .bind operand fun _ => .done _
        · exact .done _

theorem closes_operand : Closes 0 (binary sub ranks) :=
  closes_binary each (by decide)

omit each in
theorem closes_relation? : Closes 0 relation? := by
  refine .look fun tokens => ?_
  split
  · exact .take (fun _ => rfl) (.done _)
  · exact .take (fun _ => rfl) (.done _)
  · exact .take (fun _ => rfl) (.done _)
  · exact .take (fun _ => rfl) (.done _)
  · next s rest =>
      split
      · next op found =>
          have neutral : (Token.symbol s).IsNeutral := by
            constructor <;> rintro ⟨⟩ <;> cases found
          exact .takeNeutral neutral (.done _)
      · exact Closes.done none _
  · exact Closes.done none _

theorem closes_comparison : Closes 0 (comparison sub) := by
  refine .bind (closes_operand each) fun _ => .bind (.many (.bind closes_relation? fun found => ?_))
    fun _ => .done _
  split
  · exact .bind (closes_operand each) fun _ => .done _
  · exact .done _

theorem closes_inversion : Closes 0 (inversion sub) :=
  .bind (.many (.ifSkip (by decide) (.done _) (.done _))) fun _ =>
    .bind (closes_comparison each) fun _ => .done _

omit each in
theorem closes_connected {item : Parse Phrase} (op : Connective) (word : Keyword)
    (operand : Closes 0 item)
    : Closes 0 (connected op word item) :=
  .bind operand fun _ =>
    .bind (.many (.ifSkip ⟨nofun, nofun⟩ (.bind operand fun _ => .done _) (.done _)))
      fun _ => .done _

theorem closes_alternatives : Closes 0 (alternatives sub) :=
  closes_connected _ _ (closes_connected _ _ (closes_inversion each))

theorem closes_expression : Closes 0 (expression sub) := by
  refine .ifSkip (by decide) (closes_function each) (.bind (closes_alternatives each) fun _ =>
    .ifSkip (by decide) ?_ (.done _))
  exact .bind (closes_alternatives each) fun _ => .bind (.expect (by decide)) fun _ =>
    .bind (each _) fun _ => .done _

-----------------------------------------------------------------------------------------
-- Expressions
-----------------------------------------------------------------------------------------

omit each in
/-- The readers of all levels close what they open, by induction on the depth of nesting. -/
theorem closes_phrase (depth : Nat) (level : Level) : Closes 0 (phrase depth level) := by
  induction depth generalizing level with
  | zero => exact .fails
  | succ depth ih =>
      cases level with
      | expression => exact closes_expression ih
      | alternatives => exact closes_alternatives ih
      | operand => exact closes_operand ih

theorem closes_whole : Closes 0 (whole sub) := by
  refine .bind (.items (each _)) fun (members, trailing) => ?_
  dsimp only
  split
  · exact .done _
  · exact .done _

end Grammar

/-- The parentheses of an expression are balanced.
Witness: only line ends follow the words that the grammar takes.
-/
theorem Expr.exists_tokens_of_parse? {names : Text → Option Char} {t : Text} {e : Expr}
    (parsed : Expr.parse? names t = some e)
    : ∃ tokens, Lexeme.tokens? t = some tokens ∧ depthAfterAll? 0 tokens = some 0 := by
  obtain ⟨tokens, cut, parsed⟩ := Option.bind_eq_some_iff.mp parsed
  obtain ⟨⟨phrase, rest⟩, read, parsed⟩ := Option.bind_eq_some_iff.mp parsed
  refine ⟨tokens, cut, ?_⟩
  rw [← Token.depthAfterAll?_spelled names,
    Grammar.closes_whole (Grammar.closes_phrase _) _ phrase rest read 0]
  dsimp only at parsed
  split at parsed
  · next ends =>
      clear read
      induction rest with
      | nil => rfl
      | cons t rest ih =>
          simp only [List.all_cons, Bool.and_eq_true, decide_eq_true_eq] at ends
          obtain ⟨rfl, ends⟩ := ends
          exact ih (by simpa using ends)
  · cases parsed

end LiveIni
