import LiveIni.Expression.Grammar
import LiveIni.Proofs.Expression.Leaves
import LiveIni.Proofs.Expression.Yielding

/-!
The constants that an expression can write. Every rule of the grammar makes the leaves of its tree
from words that it has taken, none of which is a decimal, so that decimals come into an expression
by names only.
-/

namespace LiveIni

/-- No constant of the expression is a decimal. -/
def Expr.NoDecimals (e : Expr) : Prop :=
  ∀ v, .constant v ∈ e.leaves → v.isDecimal = false

namespace Expr.NoDecimals

theorem constant {v : Value} (plain : v.isDecimal = false) : NoDecimals (.constant v) := by
  intro w member
  cases List.mem_singleton.mp member
  exact plain

/-- An expression without constants among its leaves has no decimals. -/
theorem of_leaves_eq_nil {e : Expr} (empty : e.leaves = []) : NoDecimals e := by
  intro v member
  rw [empty] at member
  cases member

theorem refusedConstant (shown : Text) : NoDecimals (.refusedConstant shown) := by
  intro v member
  cases List.mem_singleton.mp member

theorem surrogates : NoDecimals .surrogates := by
  intro v member
  cases List.mem_singleton.mp member

theorem name (id : Text) : NoDecimals (.name id) := by
  intro v member
  cases List.mem_singleton.mp member

theorem refused (element : String) : NoDecimals (.refused element) :=
  of_leaves_eq_nil rfl

theorem unary {operand : Expr} (op : UnaryOp) (inner : NoDecimals operand)
    : NoDecimals (.unary op operand) :=
  inner

theorem binary {left right : Expr} (op : BinaryOp) (first : NoDecimals left)
    (second : NoDecimals right)
    : NoDecimals (.binary op left right) :=
  fun v member => (List.mem_append.mp member).elim (first v) (second v)

theorem ofAll {items : List Expr} (each : ∀ e ∈ items, NoDecimals e) {v : Value}
    (member : .constant v ∈ leavesOfAll items)
    : v.isDecimal = false := by
  rw [leavesOfAll_eq_flatMap] at member
  obtain ⟨e, within, leaf⟩ := List.mem_flatMap.mp member
  exact each e within v leaf

theorem connect {first : Expr} {rest : List Expr} (op : Connective) (head : NoDecimals first)
    (each : ∀ e ∈ rest, NoDecimals e)
    : NoDecimals (.connect op first rest) :=
  fun v member => (List.mem_append.mp member).elim (head v) (ofAll each)

theorem compare {first : Expr} {rest : List Expr} (relations : List Relation)
    (head : NoDecimals first) (each : ∀ e ∈ rest, NoDecimals e)
    : NoDecimals (.compare first relations rest) :=
  fun v member => (List.mem_append.mp member).elim (head v) (ofAll each)

theorem conditional {test body other : Expr} (first : NoDecimals test) (second : NoDecimals body)
    (third : NoDecimals other)
    : NoDecimals (.conditional test body other) :=
  fun v member => (List.mem_append.mp member).elim (first v) fun branch =>
    (List.mem_append.mp branch).elim (second v) (third v)

theorem call {args : List Expr} (operation : Text) (each : ∀ e ∈ args, NoDecimals e)
    : NoDecimals (.call operation args) :=
  fun _ => ofAll each

end Expr.NoDecimals

-----------------------------------------------------------------------------------------
-- Items of displays, calls and subscripts
-----------------------------------------------------------------------------------------

/-- The tree of the phrase has no decimals. -/
def Phrase.NoDecimals (phrase : Phrase) : Prop :=
  phrase.tree.NoDecimals

namespace Grammar

open Parse (Yields YieldsAt Keeps)

variable {sub : Level → Parse Phrase} (each : ∀ level, Yields Phrase.NoDecimals (sub level))
include each

theorem yields_named : Yields Phrase.NoDecimals (named sub) := by
  refine .look fun tokens => ?_
  split
  · exact .take ⟨[_, _], rfl⟩ (.next (each _).keeps fun _ => .done (.refused _))
  · exact each _ _

theorem yields_starredOrNamed : Yields (fun item => item.1.NoDecimals) (starredOrNamed sub) :=
  .ifSkip (.bind (each _) fun _ holds => .done holds)
    (.bind (yields_named each) fun _ holds => .done holds)

theorem keeps_targets : Keeps (targets sub) := by
  refine .next (.keepsItems ?_) fun _ => .done trivial
  exact .next (.skip? _) fun _ => .next (each _).keeps fun _ => .guarded _

theorem keeps_clause? : Keeps (clause? sub) := by
  have afterFor : Keeps (do
      targets sub
      Parse.expect (.keyword .«in»)
      let _ ← sub .alternatives
      let _ ← Parse.many do
        if ← Parse.skip? (.keyword .«if») then return some (← sub .alternatives) else return none
      return some ()) := by
    refine .next (keeps_targets each) fun _ => .next (.expect _) fun _ =>
      .next (each _).keeps fun _ => .next (.keepsMany ?_) fun _ => .done trivial
    exact .ifSkip (.next (each _).keeps fun _ => .done trivial) (.done trivial)
  refine .look fun tokens => ?_
  split
  · exact .take ⟨[_], rfl⟩ afterFor
  · exact .take ⟨[_, _], rfl⟩ afterFor
  · exact Yields.done trivial _

theorem keeps_clauses : Keeps (clauses sub) :=
  .next (.keepsMany (keeps_clause? each)) fun _ => .done trivial

theorem keeps_clausesIf (allowed : Bool) : Keeps (clausesIf sub allowed) :=
  .branch (keeps_clauses each) (.done trivial)

theorem yields_yielded : Yields Phrase.NoDecimals (yielded sub) := by
  refine .ifSkip (.next (each _).keeps fun _ => .done (.refused _)) (.look fun _ => ?_)
  refine Yields.branch (.done (.refused _)) (.next (.keepsItems ?_) fun _ => .done (.refused _)) _
  exact .ifSkip (each _).keeps (each _).keeps

theorem yields_parenthesized : Yields Phrase.NoDecimals (parenthesized sub) := by
  refine .ifSkip (.done (.refused _)) (.ifSkip ?_ ?_)
  · exact .bind (yields_yielded each) fun _ holds => .next (.expect _) fun _ => .done holds
  · refine .bind (.items (yields_starredOrNamed each)) fun (members, trailing) all => ?_
    dsimp only at all ⊢
    split
    · refine .next (keeps_clauses each) fun comprehension => .next (.expect _) fun _ => .done ?_
      split
      · exact .refused _
      · exact all _ List.mem_cons_self
    · exact .fails
    · exact .next (.expect _) fun _ => .done (.refused _)

theorem yields_listDisplay : Yields Phrase.NoDecimals (listDisplay sub) := by
  have closed (members : List (Phrase × Bool)) (comprehension : Bool)
      : Yields Phrase.NoDecimals (do
          Parse.symbol .closeBracket
          return if comprehension then refused "ListComp"
            else ⟨.refused "List", members.all (·.1.assignable)⟩) := by
    refine .next (.expect _) fun _ => .done ?_
    split
    · exact .refused _
    · exact .refused _
  refine .ifSkip (.done (.refused _)) (.next (.keepsItems (yields_starredOrNamed each).keeps) ?_)
  intro (members, trailing)
  dsimp only
  split
  · exact .next (keeps_clauses each) fun _ => closed _ _
  · exact .next (.done trivial) fun _ => closed _ _

theorem keeps_entry : Keeps (entry sub) :=
  .ifSkip (.next (each _).keeps fun _ => .done trivial)
    (.next (each _).keeps fun _ => .next (.expect _) fun _ => .next (each _).keeps fun _ =>
      .done trivial)

theorem yields_restOfDict (isPair : Bool) : Yields Phrase.NoDecimals (restOfDict sub isPair) := by
  have closed : Yields Phrase.NoDecimals (do
      Parse.symbol .closeBrace
      return refused "Dict") :=
    .next (.expect _) fun _ => .done (.refused _)
  refine .next (keeps_clausesIf each isPair) fun _ => .branch ?_ (.ifSkip (.look fun _ => ?_) closed)
  · exact .next (.expect _) fun _ => .done (.refused _)
  · exact Yields.branch closed (.next (.keepsItems (keeps_entry each)) fun _ => closed) _

theorem yields_restOfSet (starred : Bool) : Yields Phrase.NoDecimals (restOfSet sub starred) := by
  have closed : Yields Phrase.NoDecimals (do
      Parse.symbol .closeBrace
      return refused "Set") :=
    .next (.expect _) fun _ => .done (.refused _)
  refine .next (keeps_clausesIf each !starred) fun _ => .branch ?_ (.ifSkip (.look fun _ => ?_) closed)
  · exact .next (.expect _) fun _ => .done (.refused _)
  · exact Yields.branch closed
      (.next (.keepsItems (yields_starredOrNamed each).keeps) fun _ => closed) _

theorem yields_braceDisplay : Yields Phrase.NoDecimals (braceDisplay sub) := by
  refine .ifSkip (.done (.refused _)) (.next .peek fun _ => .branch ?_ (.look fun tokens => ?_))
  · exact .next (keeps_entry each) fun isPair => yields_restOfDict each isPair
  · split
    · exact Yields.next (yields_named each).keeps (fun _ => yields_restOfSet each false) _
    · refine Yields.next (yields_starredOrNamed each).keeps (fun (_, starred) => .branch ?_ ?_) _
      · exact yields_restOfSet each true
      · exact .ifSkip (.next (each _).keeps fun _ => yields_restOfDict each true)
          (yields_restOfSet each false)

theorem keeps_sliceBound : Keeps (sliceBound sub) :=
  .next .peek fun _ => .branch (.done trivial) (.next (each _).keeps fun _ => .done trivial)

theorem keeps_sliceRest : Keeps (sliceRest sub) :=
  .next (keeps_sliceBound each) fun _ => .ifSkip (keeps_sliceBound each) (.done trivial)

theorem keeps_subscriptItem : Keeps (subscriptItem sub) := by
  refine .ifSkip (.next (each _).keeps fun _ => .done trivial)
    (.ifSkip (keeps_sliceRest each) (.look fun tokens => ?_))
  split
  · exact Yields.next (yields_named each).keeps (fun _ => .done trivial) _
  · exact Yields.next (each _).keeps
      (fun _ => .ifSkip (keeps_sliceRest each) (.done trivial)) _

-----------------------------------------------------------------------------------------
-- Calls and functions
-----------------------------------------------------------------------------------------

/-- The expression of the argument, if it is a plain one, has no decimals. -/
def Argument.NoDecimals : Argument → Prop
  | .positional e => e.NoDecimals
  | _ => True

theorem yields_argument : Yields Argument.NoDecimals (argument sub) := by
  refine .ifSkip (.next (each _).keeps fun _ => .done trivial)
    (.ifSkip (.next (each _).keeps fun _ => .done trivial) (.look fun tokens => ?_))
  split
  · exact .take ⟨[_, _], rfl⟩ (.next (each _).keeps fun _ => .done trivial)
  · have positional : Yields Argument.NoDecimals (do return .positional (← named sub).tree) :=
      .bind (yields_named each) fun _ holds => .done holds
    exact positional _

omit each in
theorem noDecimals_operands? {args : List Argument} (all : ∀ a ∈ args, a.NoDecimals)
    {operands : List Expr} (plain : operands? args = some operands)
    : ∀ e ∈ operands, e.NoDecimals := by
  unfold operands? at plain
  induction args generalizing operands with
  | nil =>
      cases plain
      simp
  | cons arg args ih =>
      obtain ⟨holds, others⟩ := List.forall_mem_cons.mp all
      rw [List.mapM_cons] at plain
      obtain ⟨e, first, plain⟩ := Option.bind_eq_some_iff.mp plain
      obtain ⟨rest, more, plain⟩ := Option.bind_eq_some_iff.mp plain
      cases plain
      refine List.forall_mem_cons.mpr ⟨?_, ih others more⟩
      cases arg with
      | positional e =>
          cases first
          exact holds
      | starred =>
          cases first
          exact .refused _
      | keyword => cases first
      | doubleStarred => cases first

/-- The operands of a call, if it has any, have no decimals. -/
def operandsPlain (operands : Option (List Expr)) : Prop :=
  ∀ es ∈ operands, ∀ e ∈ es, e.NoDecimals

theorem yields_arguments : Yields operandsPlain (arguments sub) := by
  have closed {args : List Argument} (all : ∀ a ∈ args, a.NoDecimals) (comprehension : Bool)
      : Yields operandsPlain (do
          Parse.symbol .closeParen
          guard (argumentsInOrder false false args)
          return if comprehension then some [.refused "GeneratorExp"] else operands? args) := by
    refine .next (.expect _) fun _ => .next (.guarded _) fun _ => .done ?_
    split
    · rintro es ⟨⟩
      exact List.forall_mem_singleton.mpr (.refused _)
    · exact fun es plain => noDecimals_operands? all plain
  refine .ifSkip (.done ?_) (.bind (.items (yields_argument each)) fun (args, trailing) all => ?_)
  · rintro es ⟨⟩
    simp
  · dsimp only at all ⊢
    split
    · exact .next (keeps_clauses each) fun _ => closed all _
    · exact .next (.done trivial) fun _ => closed all _

theorem keeps_parameter : Keeps (parameter sub) := by
  refine .ifSkip (.done trivial)
    (.ifSkip (.next .anyName fun _ => .done trivial) (.ifSkip ?_ ?_))
  · refine .next .peek fun next => ?_
    split
    · exact .next .anyName fun _ => .done trivial
    · exact .done trivial
  · exact .next .anyName fun _ =>
      .ifSkip (.next (each _).keeps fun _ => .done trivial) (.done trivial)

theorem yields_function : Yields Phrase.NoDecimals (function sub) := by
  have body : Yields Phrase.NoDecimals (do
      Parse.symbol .colon
      let _ ← sub .expression
      return refused "Lambda") :=
    .next (.expect _) fun _ => .next (each _).keeps fun _ => .done (.refused _)
  refine .next .peek fun _ => .branch body ?_
  exact .next (.keepsItems (keeps_parameter each)) fun _ => .next (.guarded _) fun _ => body

-----------------------------------------------------------------------------------------
-- Atoms and operators
-----------------------------------------------------------------------------------------

omit each in
theorem noDecimals_ofCodes (codes : List Nat) : (ofCodes codes).NoDecimals := by
  unfold ofCodes
  split
  · exact .constant rfl
  · exact .surrogates

omit each in
/-- Adjoining quotations write a text, bytes or a formatted text. -/
theorem noDecimals_quoted? {parts : List Quotation} {e : Expr} (read : quoted? sub parts = some e)
    : e.NoDecimals := by
  unfold quoted? at read
  split at read
  · obtain ⟨_, _, read⟩ := Option.bind_eq_some_iff.mp read
    obtain ⟨_, _, read⟩ := Option.bind_eq_some_iff.mp read
    cases read
    exact .refusedConstant _
  · obtain ⟨_, _, read⟩ := Option.bind_eq_some_iff.mp read
    obtain ⟨_, _, read⟩ := Option.bind_eq_some_iff.mp read
    cases read
    split
    · exact noDecimals_ofCodes _
    · exact .refused _

theorem yields_atom : Yields Phrase.NoDecimals (atom sub) := by
  refine .look fun tokens => ?_
  split
  · exact Yields.fails _
  · next token rest =>
      intro plain
      have first : token.NoDecimal := plain token List.mem_cons_self
      have others : ∃ taken, token :: rest = taken ++ rest := ⟨[token], rfl⟩
      revert plain
      change YieldsAt _ _ _
      split
      · exact .take others (.done (.name _))
      · exact .take others (.done (.constant rfl))
      · exact .take others (.done (.constant rfl))
      · exact .take others (.done (.constant rfl))
      · next c =>
          refine .take others (.done ?_)
          cases c with
          | value v => exact .constant (first _ rfl v rfl)
          | refused shown => exact .refusedConstant shown
      · next q =>
          refine .take others (.next (.keepsMany (.look fun tokens => ?_)) fun more =>
            .bind (.lifted fun _ read => noDecimals_quoted? read) fun _ holds => .done holds)
          split
          · exact .take ⟨[_], rfl⟩ (.done trivial)
          · exact Yields.done trivial _
      · exact .take others (.done (.refusedConstant _))
      · exact .take others (yields_parenthesized each)
      · exact .take others (yields_listDisplay each)
      · exact .take others (yields_braceDisplay each)
      · exact fun _ _ _ => nofun

/-- The operands of the trailer, if it is a call with some, have no decimals. -/
def Trailer.NoDecimals : Trailer → Prop
  | .call operands => operandsPlain operands
  | _ => True

theorem yields_trailer? : Yields (fun found => ∀ t ∈ found, t.NoDecimals) (trailer? sub) := by
  refine .ifSkip (.next .anyName fun _ => .done ?_) (.ifSkip ?_ (.ifSkip ?_ (.done nofun)))
  · rintro t ⟨⟩
    trivial
  · refine .next (Yields.itemsUntil _ (keeps_subscriptItem each)).keeps fun _ =>
      .next (.expect _) fun _ => .done ?_
    rintro t ⟨⟩
    trivial
  · refine .bind (yields_arguments each) fun operands holds => .done ?_
    rintro t ⟨⟩
    exact holds

omit each in
theorem noDecimals_after {base : Phrase} {trailer : Trailer} (holds : trailer.NoDecimals)
    : (trailer.after base).NoDecimals := by
  cases trailer with
  | field => exact .refused _
  | element => exact .refused _
  | call operands =>
      unfold Trailer.after
      dsimp only
      split
      · exact .call _ (holds _ rfl)
      · exact .of_leaves_eq_nil rfl

theorem yields_primary : Yields Phrase.NoDecimals (primary sub) := by
  refine .next (.skip? _) fun awaited => .bind (yields_atom each) fun base holds =>
    .bind (.many (yields_trailer? each)) fun trailers all => .done ?_
  split
  · exact .refused _
  · exact List.foldlRecOn trailers Trailer.after holds fun _ _ t member =>
      noDecimals_after (all t member)

omit each in
theorem keeps_sign? : Keeps sign? :=
  .ifSkip (.done trivial) (.ifSkip (.done trivial) (.ifSkip (.done trivial) (.done trivial)))

theorem yields_factor : Yields Phrase.NoDecimals (factor sub) := by
  have power : Keeps (do
      if ← Parse.skip? (.symbol .power) then
        let _ ← Parse.many sign?
        return some (← primary sub)
      else return none) :=
    .ifSkip (.next (.keepsMany keeps_sign?) fun _ => .next (yields_primary each).keeps fun _ =>
      .done trivial) (.done trivial)
  refine .next (.keepsMany keeps_sign?) fun signs => .bind (yields_primary each) fun base holds =>
    .next (.keepsMany power) fun powers => .done ?_
  have inner : (if powers.isEmpty then base else plain (.refusedOperator "Pow")).NoDecimals := by
    split
    · exact holds
    · exact .of_leaves_eq_nil rfl
  split
  · exact inner
  · exact List.foldrRecOn signs Expr.unary inner fun _ inner op _ => .unary op inner

omit each in
theorem keeps_operator? (rank : List OperatorRule) : Keeps (operator? rank) := by
  refine .look fun tokens => ?_
  split
  · split
    · exact .take ⟨[_], rfl⟩ (.done trivial)
    · exact Yields.done trivial _
  · exact Yields.done trivial _

omit each in
theorem noDecimals_joined {left : Phrase} {operand : Except String BinaryOp × Phrase}
    (first : left.NoDecimals) (second : operand.2.NoDecimals)
    : (joined left operand).NoDecimals := by
  obtain ⟨op | name, right⟩ := operand
  · exact .of_leaves_eq_nil rfl
  · exact .binary _ first second

/-- By induction on the ranks. -/
theorem yields_binary (rules : List (List OperatorRule))
    : Yields Phrase.NoDecimals (binary sub rules) := by
  induction rules with
  | nil => exact yields_factor each
  | cons rank tighter ih =>
      refine .bind ih fun first holds =>
        .bind (.many ?_ : Yields (fun all => ∀ operand ∈ all, operand.2.NoDecimals) _)
          fun operands all => .done ?_
      · refine .next (keeps_operator? rank) fun found => ?_
        split
        · refine .bind ih fun right holds => .done ?_
          rintro operand ⟨⟩
          exact holds
        · exact .done nofun
      · exact List.foldlRecOn operands joined holds fun _ left operand member =>
          noDecimals_joined left (all operand member)

omit each in
theorem keeps_relation? : Keeps relation? := by
  refine .look fun tokens => ?_
  split
  · exact .take ⟨[_, _], rfl⟩ (.done trivial)
  · exact .take ⟨[_], rfl⟩ (.done trivial)
  · exact .take ⟨[_, _], rfl⟩ (.done trivial)
  · exact .take ⟨[_], rfl⟩ (.done trivial)
  · split
    · exact .take ⟨[_], rfl⟩ (.done trivial)
    · exact Yields.done trivial _
  · exact Yields.done trivial _

theorem yields_comparison : Yields Phrase.NoDecimals (comparison sub) := by
  refine .bind (yields_binary each _) fun first holds =>
    .bind (.many ?_ : Yields (fun all => ∀ operand ∈ all, operand.2.NoDecimals) _)
      fun links all => .done ?_
  · refine .next keeps_relation? fun found => ?_
    split
    · refine .bind (yields_binary each _) fun right holds => .done ?_
      rintro operand ⟨⟩
      exact holds
    · exact .done nofun
  · split
    · exact holds
    · refine .compare _ holds fun e member => ?_
      obtain ⟨operand, linked, rfl⟩ := List.mem_map.mp member
      exact all operand linked

theorem yields_inversion : Yields Phrase.NoDecimals (inversion sub) := by
  refine .next (.keepsMany (.ifSkip (.done trivial) (.done trivial))) fun nots =>
    .bind (yields_comparison each) fun inner holds => .done ?_
  split
  · exact holds
  · exact List.foldlRecOn nots _ holds fun _ operand _ _ => .unary .not operand

omit each in
theorem yields_connected {item : Parse Phrase} (op : Connective) (word : Keyword)
    (operand : Yields Phrase.NoDecimals item)
    : Yields Phrase.NoDecimals (connected op word item) := by
  have more : Yields (fun found => ∀ phrase ∈ found, phrase.NoDecimals) (do
      if ← Parse.skip? (.keyword word) then return some (← item) else return none) := by
    refine .ifSkip (.bind operand fun phrase holds => .done ?_) (.done nofun)
    rintro found ⟨⟩
    exact holds
  refine .bind operand fun first holds => .bind (.many more) fun rest all => .done ?_
  split
  · exact holds
  · refine .connect op holds fun e member => ?_
    obtain ⟨phrase, joined, rfl⟩ := List.mem_map.mp member
    exact all phrase joined

theorem yields_alternatives : Yields Phrase.NoDecimals (alternatives sub) :=
  yields_connected _ _ (yields_connected _ _ (yields_inversion each))

theorem yields_expression : Yields Phrase.NoDecimals (expression sub) := by
  refine .ifSkip (yields_function each) (.bind (yields_alternatives each) fun body inner =>
    .ifSkip ?_ (.done inner))
  exact .bind (yields_alternatives each) fun test first => .next (.expect _) fun _ =>
    .bind (each _) fun other last => .done (.conditional first inner last)

-----------------------------------------------------------------------------------------
-- Expressions
-----------------------------------------------------------------------------------------

omit each in
/-- The readers of all levels make trees without decimals, by induction on the depth of nesting. -/
theorem yields_phrase (depth : Nat) (level : Level)
    : Yields Phrase.NoDecimals (phrase depth level) := by
  induction depth generalizing level with
  | zero => exact .fails
  | succ depth ih =>
      cases level with
      | expression => exact yields_expression ih
      | alternatives => exact yields_alternatives ih
      | operand => exact yields_binary ih _

theorem yields_whole : Yields Phrase.NoDecimals (whole sub) := by
  refine .bind (.items (each _)) fun (members, trailing) all => ?_
  dsimp only at all ⊢
  split
  · exact .done (all _ List.mem_cons_self)
  · exact .done (.refused _)

end Grammar

/-- No expression writes a decimal: its constants are integers, doubles, truth values, texts and
null.
-/
theorem Expr.noDecimals_of_parse? {names : Text → Option Char} {t : Text} {e : Expr}
    (parsed : Expr.parse? names t = some e)
    : e.NoDecimals := by
  obtain ⟨tokens, cut, parsed⟩ := Option.bind_eq_some_iff.mp parsed
  obtain ⟨⟨phrase, rest⟩, read, parsed⟩ := Option.bind_eq_some_iff.mp parsed
  have plain : ∀ t ∈ tokens.map (Token.spelled names), t.NoDecimal :=
    List.forall_mem_map.mpr fun t member => (Lexeme.noDecimal_of_tokens? cut t member).spelled names
  have holds : phrase.NoDecimals :=
    (Grammar.yields_whole (Grammar.yields_phrase _) _ plain phrase rest read).1
  dsimp only at parsed
  split at parsed
  · cases parsed
    exact holds
  · cases parsed

end LiveIni
