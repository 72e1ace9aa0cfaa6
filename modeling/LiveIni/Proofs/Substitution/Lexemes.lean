import LiveIni.Proofs.Expression.Nesting
import LiveIni.Proofs.Expression.Numerals
import LiveIni.Proofs.Substitution.Searching

/-!
How the search for a closing parenthesis sees the words of an expression. It sees the parentheses of
the expression and no others, unless comments or quotations in triple quotes make it see some: these
it does not know.
-/

namespace LiveIni

namespace Text

variable {α β : Type} (step : Char → Text → α × Nat)

theorem map_scanFrom (f : α → β) (skip : Nat) (t : Text)
    : (scanFrom step skip t).map f
      = scanFrom (fun c rest => (f (step c rest).1, (step c rest).2)) skip t := by
  induction t generalizing skip with
  | nil => cases skip <;> rfl
  | cons c rest ih =>
      cases skip with
      | zero => exact congrArg (f (step c rest).1 :: ·) (ih _)
      | succ skip => exact ih skip

/-- Everything that is read is read at some place. -/
theorem exists_of_mem_scanFrom {a : α} {skip : Nat} {t : Text} (member : a ∈ scanFrom step skip t)
    : ∃ c rest, a = (step c rest).1 := by
  induction t generalizing skip with
  | nil => cases skip <;> cases member
  | cons c rest ih =>
      cases skip with
      | zero =>
          rcases List.mem_cons.mp member with rfl | later
          · exact ⟨c, rest, rfl⟩
          · exact ih later
      | succ skip => exact ih member

end Text

open Search (Passes IsNeutral)

namespace Lexeme

/-- The lexeme that begins with `c`, with its characters. -/
def readSpelt (c : Char) (rest : Text) : (Lexeme × Text) × Nat :=
  let (l, n) := read c rest
  ((l, c :: rest.take n), n)

/-- The lexemes of a text, each with its characters. -/
def spelt (t : Text) : List (Lexeme × Text) :=
  Text.scan readSpelt t

theorem map_fst_spelt (t : Text) : (spelt t).map Prod.fst = Text.scan read t :=
  Text.map_scanFrom readSpelt Prod.fst 0 t

/-- The characters of the lexemes are the text, by induction on the text. -/
theorem flatMap_snd_spelt (t : Text) : (spelt t).flatMap Prod.snd = t := by
  have cut (skip : Nat) : (Text.scanFrom readSpelt skip t).flatMap Prod.snd = t.drop skip := by
    induction t generalizing skip with
    | nil => cases skip <;> rfl
    | cons c rest ih =>
        cases skip with
        | zero =>
            rw [Text.scanFrom, List.flatMap_cons, ih]
            exact congrArg (c :: ·) (List.take_append_drop _ rest)
        | succ skip => exact ih skip
  exact cut 0

/-- How many parentheses are open after a lexeme. -/
def depthAfter? (depth : Nat) : Lexeme → Option Nat
  | token t => t.depthAfter? depth
  | _ => some depth

/-- The search sees the parentheses of the lexeme in its characters, and no others. -/
def IsSeenIn (l : Lexeme) (t : Text) : Prop :=
  ∀ depth, Search.run? ⟨depth, .outside⟩ t
    = (l.depthAfter? depth).map fun after => ⟨after, .outside⟩

/-- The quotation has triple quotes. -/
def IsTriple (t : Text) : Prop :=
  ∃ q : QuoteMark, [q.char, q.char, q.char] <+: t.dropWhile Numeral.isWordPart

instance : DecidablePred IsTriple :=
  fun t => decidable_of_iff
    (['\'', '\'', '\''] <+: t.dropWhile Numeral.isWordPart
      ∨ ['"', '"', '"'] <+: t.dropWhile Numeral.isWordPart)
    ⟨fun begun => begun.elim (⟨.single, ·⟩) (⟨.double, ·⟩), fun
      | ⟨.single, begun⟩ => .inl begun
      | ⟨.double, begun⟩ => .inr begun⟩

/-- The search does not know what the lexeme is: a comment, or a quotation in triple quotes. -/
def IsHidden (l : Lexeme) (t : Text) : Prop :=
  l = comment ∨ IsTriple t

instance (l : Lexeme) : DecidablePred l.IsHidden :=
  fun t => inferInstanceAs (Decidable (l = comment ∨ IsTriple t))

/-- The lexeme is seen in its characters, as long as it is well-formed and not hidden. -/
def SeenUnlessHidden (l : Lexeme) (t : Text) : Prop :=
  l ≠ malformed → (l.IsHidden t → Passes t) → l.IsSeenIn t

variable {l : Lexeme} {c : Char} {t rest word : Text}

/-- Where a lexeme is no parenthesis, the search has to pass its characters. -/
theorem isSeenIn_of_passes (kept : ∀ depth, l.depthAfter? depth = some depth) (passes : Passes t)
    : l.IsSeenIn t := by
  intro depth
  rw [passes.run?_eq, kept]
  rfl

-----------------------------------------------------------------------------------------
-- Quotations and words
-----------------------------------------------------------------------------------------

theorem isNeutral_of_isWordPart (part : Numeral.isWordPart c = true) : IsNeutral c := by
  intro member
  simp only [List.mem_cons, List.not_mem_nil, or_false] at member
  rcases member with rfl | rfl | rfl | rfl <;> revert part <;> decide

theorem passes_of_word (parts : ∀ c ∈ word, Numeral.isWordPart c = true) : Passes word :=
  Search.passes_of_neutral fun c member => isNeutral_of_isWordPart (parts c member)

theorem depthAfter?_ofWord (word : Text) (depth : Nat)
    : (ofWord word).depthAfter? depth = some depth := by
  unfold ofWord
  split
  · rfl
  · split_ifs <;> rfl

/-- The search goes through the body of a quotation in single quotes, and leaves it at the same
quote, by induction along the body.
-/
theorem run?_body {q : QuoteMark} {n : Nat}
    (found : Quotation.bodyLength? q.char false t = some n) (depth : Nat)
    : n < t.length
      ∧ Search.run? ⟨depth, .quoted q⟩ (t.take (n + 1)) = some ⟨depth, .outside⟩ := by
  have notBackslash : q.char ≠ '\\' := by cases q <;> decide
  induction t using Quotation.bodyLength?.induct q.char false generalizing n with
  | case1 => cases found
  | case2 d rest ih =>
      rw [Quotation.bodyLength?] at found
      obtain ⟨k, inRest, rfl⟩ := Option.map_eq_some_iff.mp found
      obtain ⟨short, passed⟩ := ih inRest
      refine ⟨Nat.add_lt_add_right short 2, ?_⟩
      rw [List.take_succ_cons, List.take_succ_cons, Search.run?_cons]
      exact passed
  | case3 c rest plain closes =>
      rw [Quotation.bodyLength?, if_pos closes] at found
      · cases found
        obtain ⟨rfl, _⟩ := closes
        refine ⟨Nat.succ_pos _, ?_⟩
        simp [Search.step?, notBackslash, Search.run?]
      · exact plain
  | case4 c rest plain open' feed =>
      rw [Quotation.bodyLength?, if_neg open', if_pos feed] at found
      · cases found
      · exact plain
  | case5 c rest plain open' noFeed ih =>
      rw [Quotation.bodyLength?, if_neg open', if_neg noFeed] at found
      · obtain ⟨k, inRest, rfl⟩ := Option.map_eq_some_iff.mp found
        obtain ⟨short, passed⟩ := ih inRest
        have ordinary : c ≠ '\\' := by
          rintro rfl
          cases rest with
          | nil => cases inRest
          | cons d more => exact plain d more rfl rfl
        have other : c ≠ q.char := fun same => open' ⟨same, .inl rfl⟩
        refine ⟨Nat.succ_lt_succ short, ?_⟩
        rw [List.take_succ_cons, Search.run?_cons]
        simpa [Search.step?, ordinary, other] using passed
      · exact plain

/-- The characters of a quotation begin with three quotes, or the search passes them. -/
theorem triple_or_passes {q : QuoteMark} {inside body after : Text}
    (read : Quotation.readBody? q.char inside = some (body, after))
    : let taken := (q.char :: inside).take ((q.char :: inside).length - after.length)
      [q.char, q.char, q.char] <+: taken ∨ Passes taken := by
  unfold Quotation.readBody? at read
  extract_lets triple body' at read
  obtain ⟨n, found, same⟩ := Option.map_eq_some_iff.mp read
  cases same
  dsimp only [body', triple] at found ⊢
  by_cases isTriple : [q.char, q.char].isPrefixOf inside = true
  · obtain ⟨more, rfl⟩ := List.isPrefixOf_iff_prefix.mp isTriple
    left
    rw [if_pos isTriple, if_pos isTriple]
    have long : (q.char :: ([q.char, q.char] ++ more)).length
          - ((([q.char, q.char] ++ more).drop 2).drop (n + 3)).length
        = more.length - (more.drop (n + 3)).length + 3 := by
      simp only [List.length_cons, List.length_append, List.length_nil, List.length_drop,
        List.drop_drop]
      omega
    rw [long]
    exact ⟨_, rfl⟩
  · rw [if_neg isTriple] at found ⊢
    right
    rw [Bool.not_eq_true] at isTriple
    rw [isTriple] at found
    obtain ⟨short, passed⟩ := run?_body found 0
    have length : (q.char :: inside).length - (inside.drop (n + 1)).length = n + 1 + 1 := by
      rw [List.length_cons, List.length_drop]
      omega
    rw [if_neg (by rw [isTriple]; decide), length, List.take_succ_cons, Passes, Search.run?_cons,
      Search.step?_quote, Option.bind_some, passed]

theorem length_after_readBody? {q : Char} {inside body after : Text}
    (read : Quotation.readBody? q inside = some (body, after))
    : after.length ≤ inside.length := by
  obtain ⟨n, _, same⟩ := Option.map_eq_some_iff.mp read
  cases same
  split <;> simp only [List.length_drop] <;> omega

/-- A word stands for itself, or a quotation follows that it is the letters of. -/
theorem ofWordBefore_cases (word rest : Text)
    : (ofWordBefore word rest = (ofWord word, 0)
        ∧ ∀ q : QuoteMark, q.char ∈ rest.head? → Quotation.ofLetters? word = none)
      ∨ (ofWordBefore word rest).1 = malformed
      ∨ ∃ (q : QuoteMark) (inside after : Text) (quotation : Quotation), rest = q.char :: inside
        ∧ Quotation.readBody? q.char inside = some (quotation.body, after)
        ∧ ofWordBefore word rest = (token (.quotation quotation), rest.length - after.length) := by
  unfold ofWordBefore
  split
  · next quote inside =>
      split
      · next isQuote =>
          obtain ⟨q, rfl⟩ : ∃ q : QuoteMark, quote = q.char := by
            rcases isQuote with rfl | rfl
            · exact ⟨.single, rfl⟩
            · exact ⟨.double, rfl⟩
          split
          · next noLetters => exact .inl ⟨rfl, fun _ _ => noLetters⟩
          · split
            · exact .inr (.inl rfl)
            · next read => exact .inr (.inr ⟨q, inside, _, ⟨_, _, _⟩, rfl, read, rfl⟩)
      · next noQuote =>
          refine .inl ⟨rfl, fun q head => absurd ?_ noQuote⟩
          cases head
          cases q <;> decide
  · exact .inl ⟨rfl, nofun⟩

/-- A word is seen, and so is a quotation with the letters before it, unless it is hidden. -/
theorem seen_ofWordBefore (parts : ∀ c ∈ word, Numeral.isWordPart c = true) (rest : Text)
    : let found := ofWordBefore word rest
      SeenUnlessHidden found.1 (word ++ rest.take found.2) := by
  intro found wellFormed visible
  dsimp only [found] at wellFormed visible ⊢
  obtain ⟨same, _⟩ | impossible | ⟨q, inside, after, quotation, rfl, read, same⟩ :=
    ofWordBefore_cases word rest
  · rw [same, List.take_zero, List.append_nil]
    exact isSeenIn_of_passes (depthAfter?_ofWord word) (passes_of_word parts)
  · exact absurd impossible wellFormed
  · rw [same] at visible ⊢
    refine isSeenIn_of_passes (fun _ => rfl) ?_
    obtain ⟨more, triple⟩ | passes := triple_or_passes read
    · have noWord : Numeral.isWordPart q.char = false := by cases q <;> decide
      refine visible (.inr ⟨q, more, ?_⟩)
      rw [List.dropWhile_append_of_pos parts, ← triple]
      simp [noWord]
    · exact (passes_of_word parts).append passes

/-- The same, for a word that is cut off a text. -/
theorem seen_word (start : Numeral.isWordPart c = true) (rest : Text)
    : let more := rest.takeWhile Numeral.isWordPart
      let found := ofWordBefore (c :: more) (rest.drop more.length)
      SeenUnlessHidden found.1 (c :: rest.take (more.length + found.2)) := by
  intro more found
  have cut : c :: rest.take (more.length + found.2)
      = c :: more ++ (rest.drop more.length).take found.2 := by
    rw [List.take_add, ← List.prefix_iff_eq_take.mp (List.takeWhile_prefix _)]
    rfl
  have parts : ∀ d ∈ c :: more, Numeral.isWordPart d = true :=
    List.forall_mem_cons.mpr ⟨start, List.all_eq_true.mp List.all_takeWhile⟩
  rw [cut]
  exact seen_ofWordBefore parts _

/-- A quotation without letters before it takes at least its quote. -/
theorem seen_quotation (q : QuoteMark) (rest : Text)
    : let found := ofWordBefore [] (q.char :: rest)
      SeenUnlessHidden found.1 (q.char :: rest.take (found.2 - 1)) := by
  intro found wellFormed
  have positive : 1 ≤ found.2 := by
    obtain ⟨_, noLetters⟩ | impossible | ⟨_, inside, after, _, whole, read, same⟩ :=
      ofWordBefore_cases [] (q.char :: rest)
    · cases noLetters q rfl
    · exact absurd impossible wellFormed
    · have shorter := length_after_readBody? read
      dsimp only [found]
      rw [same, whole, List.length_cons]
      omega
  have cut : q.char :: rest.take (found.2 - 1) = [] ++ (q.char :: rest).take found.2 := by
    obtain ⟨n, succ⟩ := Nat.exists_eq_add_of_le' positive
    rw [succ]
    rfl
  rw [cut]
  exact seen_ofWordBefore (List.forall_mem_nil _) _ wellFormed

-----------------------------------------------------------------------------------------
-- Numbers and symbols
-----------------------------------------------------------------------------------------

theorem isNeutral_of_isPart (part : Numeral.IsPart c) : IsNeutral c := by
  rcases part with part | rfl
  · have bound := part.range.1
    intro member
    simp only [List.mem_cons, List.not_mem_nil, or_false] at member
    rcases member with rfl | rfl | rfl | rfl <;> revert bound <;> decide
  · decide

/-- The search passes the characters of a number. -/
theorem passes_of_number {constant : Constant} {after : Text}
    (read : Numeral.read? (c :: rest) = some (constant, after)) (neutral : IsNeutral c)
    : Passes (c :: rest.take (rest.length - after.length)) := by
  obtain ⟨used, whole, parts⟩ := Numeral.leaves_of_read? read
  refine Search.passes_of_neutral (List.forall_mem_cons.mpr ⟨neutral, fun d member => ?_⟩)
  cases used with
  | nil =>
      rw [List.nil_append] at whole
      rw [← whole, List.length_cons, Nat.sub_eq_zero_of_le (Nat.le_succ _)] at member
      cases member
  | cons first more =>
      obtain ⟨rfl, rfl⟩ : c = first ∧ rest = more ++ after := List.cons.inj whole
      rw [List.length_append, Nat.add_sub_cancel, List.take_left] at member
      exact isNeutral_of_isPart (parts d (List.mem_cons_of_mem _ member))

/-- A symbol other than a parenthesis is spelt without parentheses and quotes. -/
theorem symbol_cases
    : ∀ entry ∈ Symbol.table, entry.1.toList ≠ []
      ∧ (entry = ("(", .openParen) ∨ entry = (")", .closeParen)
        ∨ (Token.symbol entry.2).IsNeutral ∧ ∀ c ∈ entry.1.toList, IsNeutral c) := by
  simp only [← List.all_iff_forall_prop (p := IsNeutral)]
  decide

theorem isSeenIn_symbol {symbol : Symbol} {n : Nat}
    (found : symbolAt? (c :: rest) = some (symbol, n))
    : IsSeenIn (token (.symbol symbol)) (c :: rest.take (n - 1)) := by
  obtain ⟨entry, first, same⟩ := Option.map_eq_some_iff.mp found
  cases same
  have fits := List.find?_some first
  have start : entry.1.toList <+: c :: rest := List.isPrefixOf_iff_prefix.mp fits
  obtain ⟨nonempty, cases⟩ := symbol_cases entry (List.mem_of_find?_eq_some first)
  have spelling : c :: rest.take (entry.1.length - 1) = entry.1.toList := by
    obtain ⟨d, more, spelt⟩ := List.exists_cons_of_ne_nil nonempty
    have length : entry.1.length = more.length + 1 := by
      rw [← String.length_toList, spelt, List.length_cons]
    rw [spelt] at start ⊢
    obtain ⟨rfl, onwards⟩ := List.cons_prefix_cons.mp start
    rw [length, Nat.add_sub_cancel, ← List.prefix_iff_eq_take.mp onwards]
  rw [spelling]
  rcases cases with rfl | rfl | ⟨neutral, characters⟩
  · exact fun _ => rfl
  · rintro (_ | depth)
    · rfl
    · rfl
  · exact isSeenIn_of_passes (neutral.depthAfter?_eq) (Search.passes_of_neutral characters)

-----------------------------------------------------------------------------------------
-- Lexemes
-----------------------------------------------------------------------------------------

/-- Every lexeme that is read is seen, unless it is hidden, by the cases of its first character. -/
theorem seen_read (c : Char) (rest : Text)
    : SeenUnlessHidden (read c rest).1 (c :: rest.take (read c rest).2) := by
  have single {l : Lexeme} (kept : ∀ depth, l.depthAfter? depth = some depth)
      (neutral : IsNeutral c)
      : SeenUnlessHidden l (c :: rest.take 0) :=
    fun _ _ => isSeenIn_of_passes kept (Search.passes_of_neutral (by simpa using neutral))
  unfold read
  split_ifs with blank feed lineEnd hash backslash word quote number
  · exact single (fun _ => rfl) (by rcases blank with rfl | rfl <;> decide)
  · exact single (fun _ => rfl) (feed ▸ by decide)
  · exact single (fun _ => rfl) (lineEnd ▸ by decide)
  · exact fun _ visible => isSeenIn_of_passes (fun _ => rfl) (visible (.inl rfl))
  · split
    · exact fun _ _ => isSeenIn_of_passes (fun _ => rfl)
        (Search.passes_of_neutral (by simp [backslash, Search.isNeutral_iff]))
    · exact fun wellFormed => absurd rfl wellFormed
  · exact seen_word (Bool.and_eq_true_iff.mp word).1 rest
  · obtain ⟨q, rfl⟩ : ∃ q : QuoteMark, c = q.char := by
      rcases quote with rfl | rfl
      · exact ⟨.single, rfl⟩
      · exact ⟨.double, rfl⟩
    exact seen_quotation q rest
  · split
    · next read =>
        refine fun _ _ => isSeenIn_of_passes (fun _ => rfl) (passes_of_number read ?_)
        rcases number with digit | ⟨rfl, _⟩
        · exact isNeutral_of_isPart (Numeral.isPart_of_isDigit digit)
        · decide
    · exact fun wellFormed => absurd rfl wellFormed
  · split
    · next found => exact fun _ _ => isSeenIn_symbol found
    · exact fun wellFormed => absurd rfl wellFormed

/-- The search counts the parentheses of lexemes that it sees, by induction on the lexemes. -/
theorem run?_flatMap_snd {lexemes : List (Lexeme × Text)} (seen : ∀ l ∈ lexemes, l.1.IsSeenIn l.2)
    (depth : Nat)
    : Search.run? ⟨depth, .outside⟩ (lexemes.flatMap Prod.snd)
      = ((lexemes.map Prod.fst).foldlM depthAfter? depth).map fun after => ⟨after, .outside⟩ := by
  induction lexemes generalizing depth with
  | nil => rfl
  | cons l rest ih =>
      rw [List.flatMap_cons, Search.run?_append, seen l List.mem_cons_self, List.map_cons,
        List.foldlM_cons]
      cases l.1.depthAfter? depth with
      | none => rfl
      | some after => exact ih (fun m member => seen m (List.mem_cons_of_mem l member)) after

-----------------------------------------------------------------------------------------
-- Layout
-----------------------------------------------------------------------------------------

/-- The words have the parentheses of the lexemes, none of which is malformed. -/
def Keeps (lexemes : List Lexeme) (tokens : List Token) : Prop :=
  malformed ∉ lexemes
    ∧ ∀ depth, Token.depthAfterAll? depth tokens = lexemes.foldlM depthAfter? depth

namespace Keeps

variable {lexemes : List Lexeme} {tokens : List Token}

theorem nil : Keeps [] [] :=
  ⟨List.not_mem_nil, fun _ => rfl⟩

theorem token (t : Token) (keeps : Keeps lexemes tokens)
    : Keeps (.token t :: lexemes) (t :: tokens) := by
  refine ⟨by simpa using keeps.1, fun depth => ?_⟩
  rw [Token.depthAfterAll?_cons, List.foldlM_cons]
  exact Option.bind_congr fun after _ => keeps.2 after

/-- Between words there are no parentheses. -/
theorem skip (wellFormed : l ≠ malformed) (kept : ∀ depth, l.depthAfter? depth = some depth)
    (keeps : Keeps lexemes tokens)
    : Keeps (l :: lexemes) tokens := by
  refine ⟨by simpa [wellFormed.symm] using keeps.1, fun depth => ?_⟩
  rw [List.foldlM_cons, kept]
  exact keeps.2 depth

theorem lineEnd (keeps : Keeps lexemes tokens)
    : Keeps (.lineEnd :: lexemes) (.lineEnd :: tokens) :=
  ⟨by simpa using keeps.1, fun depth => keeps.2 depth⟩

end Keeps

/-- By induction on the lexemes. -/
theorem keeps_of_tokensWithin {depth : Nat} {lexemes : List Lexeme} {tokens : List Token}
    (found : tokensWithin depth lexemes = some tokens)
    : Keeps lexemes tokens := by
  induction lexemes generalizing depth tokens with
  | nil =>
      cases found
      exact .nil
  | cons l rest ih =>
      have token {t : Token} {depth : Nat}
          (found : (tokensWithin depth rest).map (t :: ·) = some tokens)
          : Keeps (.token t :: rest) tokens := by
        obtain ⟨more, onwards, rfl⟩ := Option.map_eq_some_iff.mp found
        exact .token t (ih onwards)
      cases l with
      | token t =>
          cases t with
          | symbol s =>
              rw [tokensWithin] at found
              split_ifs at found <;> exact token found
          | _ => exact token found
      | lineEnd =>
          rw [tokensWithin] at found
          split_ifs at found
          · obtain ⟨more, onwards, rfl⟩ := Option.map_eq_some_iff.mp found
            exact .lineEnd (ih onwards)
          · exact .skip nofun (fun _ => rfl) (ih found)
      | malformed => cases found
      | _ => exact .skip nofun (fun _ => rfl) (ih found)

/-- By induction on the lexemes. -/
theorem keeps_of_tokensFrom {column joined : Nat} {lexemes : List Lexeme} {tokens : List Token}
    (found : tokensFrom column joined lexemes = some tokens)
    : Keeps lexemes tokens := by
  induction lexemes generalizing column joined with
  | nil =>
      cases found
      exact .nil
  | cons l rest ih =>
      cases l with
      | token t =>
          rw [tokensFrom] at found
          · split_ifs at found
            exact keeps_of_tokensWithin found
          all_goals nofun
      | malformed =>
          rw [tokensFrom] at found
          · split_ifs at found
            cases found
          all_goals nofun
      | _ => exact .skip nofun (fun _ => rfl) (ih found)

end Lexeme

/-- The search passes each comment and each quotation in triple quotes of an expression. -/
def Search.PassesHidden (t : Text) : Prop :=
  ∀ l ∈ Lexeme.spelt (Text.withLineFeeds t), l.1.IsHidden l.2 → Passes l.2

instance : DecidablePred Search.PassesHidden :=
  fun t => inferInstanceAs
    (Decidable (∀ l ∈ Lexeme.spelt (Text.withLineFeeds t), l.1.IsHidden l.2 → Passes l.2))

/-- The search passes an expression if it passes the comments and the quotations in triple quotes.
Witness: it then sees the parentheses that the grammar takes, and these are balanced.
-/
theorem Search.passes_of_parse? {names : Text → Option Char} {t : Text} {e : Expr}
    (parsed : Expr.parse? names t = some e) (visible : PassesHidden t)
    : Passes t := by
  obtain ⟨tokens, found, balanced⟩ := Expr.exists_tokens_of_parse? parsed
  obtain ⟨wellFormed, same⟩ := Lexeme.keeps_of_tokensFrom found
  rw [← Lexeme.map_fst_spelt] at wellFormed same
  have seen : ∀ l ∈ Lexeme.spelt (Text.withLineFeeds t), l.1.IsSeenIn l.2 := by
    intro l member
    have wellFormed : l.1 ≠ .malformed := fun same =>
      wellFormed (List.mem_map.mpr ⟨l, member, same⟩)
    have visible := visible l member
    obtain ⟨c, rest, rfl⟩ := Text.exists_of_mem_scanFrom _ member
    exact Lexeme.seen_read c rest wellFormed visible
  refine passes_of_withLineFeeds ?_
  rw [Passes, ← Lexeme.flatMap_snd_spelt (Text.withLineFeeds t), Lexeme.run?_flatMap_snd seen,
    ← same, balanced]
  rfl

end LiveIni
