import LiveIni.Proofs.Document.Exports
import LiveIni.Proofs.Pipeline.Dumping
import LiveIni.Proofs.Pipeline.Expansion

/-!
Exports of equal documents, in whatever states these have been made. The exports are the same but for
zeros at the end of decimals: equal decimals may have been inferred from texts with more places and
with fewer, and each is written as it is.
-/

namespace LiveIni

namespace Pipeline

variable {p : Pipeline} {scope : Scope} {expand : Bool} {d e next : Document}

-----------------------------------------------------------------------------------------
-- Documents that are made
-----------------------------------------------------------------------------------------

/-- In some state the document is parsed, or another one with distinct names is resolved to it. -/
inductive Makes (p : Pipeline) : Document → Prop
  | parsed {scope : Scope} {expand : Bool} {text : Text} {d : Document}
      (parsed : p.ParsesTo scope expand text d)
    : p.Makes d
  | resolved {scope : Scope} {expand : Bool} {d next : Document}
      (distinct : Sections.Distinct d.sections) (resolved : p.ResolvesTo scope expand d next)
    : p.Makes next

/-- All readings are regular, since they have been inferred. -/
theorem isRegular_readings (p : Pipeline) (scope : Scope) (expand : Bool) (raw : Text)
    : (p.readings scope expand raw).1.IsRegular := by
  cases meant : p.meaning scope expand raw with
  | error fault =>
      rw [readings, meant]
      trivial
  | ok reading =>
      obtain ⟨t, inferred⟩ := infer_of_meaning meant
      rw [readings_of_meaning meant]
      exact isRegular_of_infer inferred

theorem isRegular_reread (p : Pipeline) (scope : Scope) (expand : Bool) (entry : Entry)
    : (entry.reread (p.readings scope expand)).IsRegular := by
  intro kv found
  cases entry with
  | comment text => cases found
  | keyValue kv =>
      cases found
      exact p.isRegular_readings scope expand kv.raw

namespace Makes

theorem distinct (made : p.Makes d) : Sections.Distinct d.sections := by
  cases made with
  | parsed parsed => exact parsed.isOf.1.distinct
  | resolved distinct resolved =>
      rw [resolved.sections distinct]
      exact distinct.mapEntries _

/-- Every value of a document that is made is one that a reading has given. -/
theorem isRegular (made : p.Makes d) : d.IsRegular := by
  cases made with
  | @parsed scope expand text d parsed =>
      have added (l : PlacedLine) (entry : Entry)
          (adds : l.entry? (p.readings scope expand) = some entry)
          : entry.IsRegular := by
        rw [← (PlacedLine.of_entry? adds).2]
        exact p.isRegular_reread scope expand entry
      have each := parsed.isOf.1.each_entry fun l _ entry adds => added l entry adds
      exact fun named member => (each named member).2
  | @resolved scope expand before next distinct resolved =>
      intro named member pair inSection
      rw [resolved.sections distinct] at member
      obtain ⟨⟨name, entries⟩, _, rfl⟩ := List.mem_map.mp member
      obtain ⟨⟨key, entry⟩, _, rfl⟩ := List.mem_map.mp inSection
      exact p.isRegular_reread scope expand entry

end Makes

/-- The document comes of a text: it is parsed, or another one that comes of a text is resolved to it,
each by any pipeline in any state.
-/
inductive ComesOfText : Document → Prop
  | parsed {p : Pipeline} {scope : Scope} {expand : Bool} {text : Text} {d : Document}
      (parsed : p.ParsesTo scope expand text d)
    : ComesOfText d
  | resolved {p : Pipeline} {scope : Scope} {expand : Bool} {d next : Document}
      (comes : ComesOfText d) (resolved : p.ResolvesTo scope expand d next)
    : ComesOfText next

/-- What comes of a text is made, by induction on how it does. -/
theorem ComesOfText.made (comes : ComesOfText d) : ∃ p : Pipeline, p.Makes d := by
  induction comes with
  | parsed parsed => exact ⟨_, .parsed parsed⟩
  | resolved _ resolved ih =>
      obtain ⟨_, made⟩ := ih
      exact ⟨_, .resolved made.distinct resolved⟩

-----------------------------------------------------------------------------------------
-- Counting changes
-----------------------------------------------------------------------------------------

/-- In some world the document is resolved to another one, and so many values are counted that have
changed.
-/
def ResolvesCounting (p : Pipeline) (scope : Scope) (expand : Bool) (d : Document) (changed : Nat)
    (next : Document)
    : Prop :=
  ∃ world judged after b,
    p.approve scope d.rawValues world = (.ok (), judged)
    ∧ d.sections.foldlM (p.resolveSection scope expand) (({} : Builder), 0) judged
      = (.ok (b, changed), after)
    ∧ b.build = next

/-- A document that is resolved is so with some count. -/
theorem resolvesTo_iff_counting
    : p.ResolvesTo scope expand d next
      ↔ ∃ changed, p.ResolvesCounting scope expand d changed next := by
  constructor
  · rintro ⟨world, after, ran⟩
    unfold resolve at ran
    obtain ⟨_, judged, approved, stored⟩ := Computation.ok_of_bind ran
    obtain ⟨⟨b, changed⟩, folded, sections, ended⟩ := Computation.ok_of_bind stored
    obtain ⟨_, _, _, built⟩ := Computation.ok_of_bind ended
    cases built
    exact ⟨changed, world, judged, folded, b, approved, sections, rfl⟩
  · rintro ⟨changed, world, judged, folded, b, approved, sections, rfl⟩
    exact ⟨world, _, (Computation.bind_of_ok approved).trans (Computation.bind_of_ok sections)⟩

theorem ResolvesCounting.makes {changed : Nat}
    (counting : p.ResolvesCounting scope expand d changed next)
    (distinct : Sections.Distinct d.sections)
    : p.Makes next :=
  .resolved distinct (resolvesTo_iff_counting.mpr ⟨changed, counting⟩)

/-- A run that ends in a document and a count is a counting resolution. -/
theorem resolvesCounting_of_toOption {changed : Nat}
    (approved : (p.approve scope d.rawValues {}).1.toOption = some ())
    (stored : (d.sections.foldlM (p.resolveSection scope expand) (({} : Builder), 0)
      (p.approve scope d.rawValues {}).2).1.toOption.map (fun state => (state.1.build, state.2))
        = some (next, changed))
    : p.ResolvesCounting scope expand d changed next := by
  obtain ⟨⟨b, counted⟩, folded, ended⟩ := Option.map_eq_some_iff.mp stored
  cases ended
  exact ⟨{}, _, _, b, Computation.eq_ok_iff.mpr ⟨approved, rfl⟩,
    Computation.eq_ok_iff.mpr ⟨folded, rfl⟩, rfl⟩

/-- A value is the same as it was, or it can be written and is counted. -/
theorem counted_cases {kv : KeyValue} {typed : TypedValue} {changed now : Nat}
    (count : counted kv typed changed = .ok now)
    : typed.same kv.typed = true ∧ now = changed
      ∨ typed.render?.isSome = true ∧ now = changed + 1 := by
  unfold counted at count
  split at count
  · next same =>
      cases count
      exact .inl ⟨same, rfl⟩
  · split at count
    · next rendered =>
        cases count
        exact .inr ⟨Option.isSome_iff_exists.mpr ⟨_, rendered⟩, rfl⟩
    · cases count

/-- A key that is stored again is counted with the value that its raw text has now. -/
theorem counted_of_renewEntry {inSection name : Text} {kv : KeyValue} {state after : Builder × Nat}
    (renewed : p.renewEntry scope expand inSection state (name, .keyValue kv) = .ok after)
    : counted kv (p.readings scope expand kv.raw).1 state.2 = .ok after.2 := by
  unfold renewEntry at renewed
  obtain ⟨reading, meant, counts⟩ := Computation.bind_eq_ok_iff.mp renewed
  obtain ⟨now, count, stored⟩ := Computation.bind_eq_ok_iff.mp counts
  cases stored
  rw [readings_of_meaning meant]
  exact count

/-- An entry that is stored again is counted, unless it is the same as it was. -/
theorem same_of_renewEntry {inSection : Text} {state after : Builder × Nat} {named : Text × Entry}
    (renewed : p.renewEntry scope expand inSection state named = .ok after)
    : state.2 ≤ after.2
      ∧ (after.2 = state.2
        → (named.2.reread (p.readings scope expand)).same named.2 = true) := by
  obtain ⟨name, entry⟩ := named
  cases entry with
  | comment text =>
      cases renewed
      exact ⟨le_rfl, fun _ => decide_eq_true rfl⟩
  | keyValue kv =>
      rcases counted_cases (counted_of_renewEntry renewed) with ⟨same, unchanged⟩ | ⟨_, more⟩
      · exact ⟨unchanged.ge, fun _ => by simp [Entry.reread, Entry.same, same]⟩
      · exact ⟨by omega, fun unchanged => absurd (unchanged.symm.trans more) (by omega)⟩

/-- A section that is stored again is counted, unless all of its entries are the same as before. -/
theorem same_of_renewSection {state after : Builder × Nat} {named : Text × Entries}
    (renewed : p.renewSection scope expand state named = .ok after)
    : state.2 ≤ after.2
      ∧ (after.2 = state.2
        → ∀ entry ∈ named.2, (entry.2.reread (p.readings scope expand)).same entry.2 = true) := by
  have each (state : Builder × Nat) (entry : Text × Entry) (after : Builder × Nat)
      (ran : p.renewEntry scope expand named.1 state entry = .ok after) := same_of_renewEntry ran
  have counts := Computation.shown_of_foldlM Prod.snd each renewed
  exact counts

/-- The sections of a document that is resolved have been stored again, with its count. -/
theorem ResolvesCounting.renewed {changed : Nat}
    (counting : p.ResolvesCounting scope expand d changed next)
    : ∃ b, d.sections.foldlM (p.renewSection scope expand) ({}, 0) = .ok (b, changed) := by
  obtain ⟨world, judged, after, b, approved, sections, _⟩ := counting
  have verdict := (p.approve_settles scope d.rawValues).result_eq approved
  exact ⟨b, (p.resolveSections_settles scope expand verdict ({}, 0)).result_eq sections⟩

/-- A document with distinct names is the same as before when it is resolved and nothing is counted:
no step counts down, so that every single value is the same as it was.
-/
theorem ResolvesCounting.same (uncounted : p.ResolvesCounting scope expand d 0 next)
    (distinct : Sections.Distinct d.sections)
    : next.same d = true := by
  have resolved : p.ResolvesTo scope expand d next := resolvesTo_iff_counting.mpr ⟨0, uncounted⟩
  obtain ⟨b, renewed⟩ := uncounted.renewed
  rw [Document.same, resolved.sections distinct]
  refine Document.sameSections_mapEntries ?_
  refine (Computation.shown_of_foldlM Prod.snd (fun state named after ran => ?_) renewed).2 rfl
  exact same_of_renewSection ran

-----------------------------------------------------------------------------------------
-- Values that can be written
-----------------------------------------------------------------------------------------

/-- A value can be written if it is the same as one that can. -/
theorem isSome_render?_of_same {v w : TypedValue} (same : v.same w = true)
    (written : w.render?.isSome)
    : v.render?.isSome := by
  unfold TypedValue.same at same
  split at same
  · rfl
  · rfl
  · rw [of_decide_eq_true same]
    exact written

/-- An entry that is stored again can be written if it could be before: a value that has changed is
written for the log.
-/
theorem isWritable_of_renewEntry {inSection : Text} {state after : Builder × Nat}
    {named : Text × Entry}
    (renewed : p.renewEntry scope expand inSection state named = .ok after)
    (writable : named.2.IsWritable)
    : (named.2.reread (p.readings scope expand)).IsWritable := by
  intro kv found
  obtain ⟨name, entry⟩ := named
  cases entry with
  | comment text => cases found
  | keyValue kv =>
      cases found
      rcases counted_cases (counted_of_renewEntry renewed) with ⟨same, _⟩ | ⟨written, _⟩
      · exact isSome_render?_of_same same (writable kv rfl)
      · exact written

theorem ResolvesTo.isWritable (resolved : p.ResolvesTo scope expand d next)
    (distinct : Sections.Distinct d.sections) (writable : d.IsWritable)
    : next.IsWritable := by
  obtain ⟨changed, counting⟩ := resolvesTo_iff_counting.mp resolved
  obtain ⟨b, renewed⟩ := counting.renewed
  intro named member pair inSection
  rw [resolved.sections distinct] at member
  obtain ⟨before, inDocument, rfl⟩ := List.mem_map.mp member
  obtain ⟨entry, inEntries, rfl⟩ := List.mem_map.mp inSection
  obtain ⟨_, _, stored⟩ := Computation.succeeds_of_foldlM renewed before inDocument
  obtain ⟨_, _, storedEntry⟩ := Computation.succeeds_of_foldlM stored entry inEntries
  exact isWritable_of_renewEntry storedEntry (writable before inDocument entry inEntries)

/-- What comes of a text can be written, by induction on how it does. -/
theorem ComesOfText.isWritable (comes : ComesOfText d) : d.IsWritable := by
  induction comes with
  | parsed parsed =>
      intro named inDocument pair inSection kv found
      exact parsed.renders named inDocument kv (List.mem_filterMap.mpr ⟨pair, inSection, found⟩)
  | resolved before resolved ih =>
      obtain ⟨_, made⟩ := before.made
      exact resolved.isWritable made.distinct ih

-----------------------------------------------------------------------------------------
-- Exports
-----------------------------------------------------------------------------------------

/-- Two documents are written in the same way with raw texts. With values they are so if these have
as many places after the point, row by row, and only then if the writer ends lines with line ends.
-/
structure ExportsAlike (writer : Pipeline) (d e : Document) : Prop where
  raw : writer.dumps d "unexpanded".toList = writer.dumps e "unexpanded".toList
  valued (mode : Text) : d.places = e.places → writer.dumps d mode = writer.dumps e mode
  places {mode t : Text} {world : World}
    : mode ∈ ["expanded".toList, "all".toList] → writer.newline ∈ Text.lineEnds
    → writer.dumps d mode world = (.ok t, world) → writer.dumps e mode world = (.ok t, world)
    → d.places = e.places

/-- A document that is written has a text in the form that the name is of. -/
theorem text?_of_dumps {writer : Pipeline} {mode t : Text} {world after : World}
    (written : writer.dumps d mode world = (.ok t, after))
    : ∃ m, OutputMode.ofName? mode = some m ∧ d.text? m writer.newline = some t := by
  rcases writer.dumps_eq d mode world with ⟨text, has, dumped⟩ | ⟨_, fault, dumped⟩
  · cases written.symm.trans dumped
    exact Option.bind_eq_some_iff.mp has
  · cases written.symm.trans dumped

/-- Equal documents with regular values are exported alike. -/
theorem exportsAlike_of_same (regular : d.IsRegular) (regular' : e.IsRegular)
    (same : d.same e = true) (writer : Pipeline)
    : writer.ExportsAlike d e where
  raw := by
    have mode : OutputMode.ofName? "unexpanded".toList = some .unexpanded := by decide
    simp only [dumps, mode, Document.text?_unexpanded_of_same regular regular' same]
  valued mode places := by
    simp only [dumps, Document.text?_of_places regular regular' same places]
  places := by
    intro mode t world valued isEnd ran ran'
    obtain ⟨m, named, written⟩ := text?_of_dumps ran
    obtain ⟨_, named', written'⟩ := text?_of_dumps ran'
    cases named.symm.trans named'
    refine Document.places_of_text? regular regular' same ?_ isEnd written written'
    rintro rfl
    have expanded : OutputMode.ofName? "expanded".toList ≠ some .unexpanded := by decide
    have all : OutputMode.ofName? "all".toList ≠ some .unexpanded := by decide
    simp only [List.mem_cons, List.not_mem_nil, or_false] at valued
    rcases valued with rfl | rfl
    · exact expanded named
    · exact all named

/-- What comes of a text is written in every form, in every world. -/
theorem ComesOfText.dumps (comes : ComesOfText d) (writer : Pipeline) (mode : OutputMode)
    : ∃ t, ∀ world, writer.dumps d mode.name.toList world = (.ok t, world) := by
  obtain ⟨t, written⟩ := comes.isWritable.exists_text? mode writer.newline
  have named : OutputMode.ofName? mode.name.toList = some mode := by cases mode <;> decide
  refine ⟨t, fun world => ?_⟩
  simp only [Pipeline.dumps, named, written]
  rfl

/-- Equal documents are exported alike, by whatever pipelines, in whatever states and out of whatever
texts and documents they have been made: raw they have one text, and with values they have one
exactly if their decimals have as many places after the point. So resolving a document without a
counted change gives one that is exported like it. And what comes of a text has a text in every form.
Witness: inference makes no zero with a sign and one form only of each double, so that all equal
values but decimals are written in the same way, and equal decimals are if they end in as many zeros.
-/
theorem exportsAlike
    : (∀ (p q : Pipeline) (d e : Document), p.Makes d → q.Makes e → d.same e = true
        → ∀ writer : Pipeline, writer.ExportsAlike d e)
      ∧ (∀ (p q : Pipeline) (d : Document) (scope : Scope) (expand : Bool) (next : Document),
        p.Makes d → q.ResolvesCounting scope expand d 0 next
        → next.same d = true ∧ ∀ writer : Pipeline, writer.ExportsAlike next d)
      ∧ ∀ d, ComesOfText d → ∀ (writer : Pipeline) (mode : OutputMode),
        ∃ t, ∀ world, writer.dumps d mode.name.toList world = (.ok t, world) := by
  refine ⟨?_, ?_, fun d comes => comes.dumps⟩
  · intro p q d e made made' same writer
    exact exportsAlike_of_same made.isRegular made'.isRegular same writer
  · intro p q d scope expand next made uncounted
    have same := uncounted.same made.distinct
    have resolved := uncounted.makes made.distinct
    exact ⟨same, exportsAlike_of_same resolved.isRegular made.isRegular same⟩

/-- The document of a key that stands for a decimal. -/
def decimalKey (d : Number.Decimal) : Document where
  sections := [(Document.noSection, [(['a'], .keyValue ⟨['a'], "$x".toList, .decimal d⟩)])]

/-- A state in which a name stands for the text. -/
def standsFor (t : String) : Scope where
  bindings := [(['x'], .value (.text t.toList))]

/-- A key whose name stands for a decimal and then for the same one with one more place is resolved
without a counted change, and the two documents are exported alike: raw they have one text, and
with values each has a text of its own.
-/
theorem exportsAlike_decimalKey
    : let d := decimalKey ⟨false, 10, -1⟩
      let e := decimalKey ⟨false, 100, -2⟩
      let p : Pipeline := {}
      p.ParsesTo (standsFor "1.0") false "a=$x".toList d
        ∧ p.ResolvesCounting (standsFor "1.00") false d 0 e
        ∧ d.same e = true
        ∧ e.same d = true
        ∧ (∀ writer : Pipeline, writer.ExportsAlike d e)
        ∧ p.dumps e "unexpanded".toList = p.dumps d "unexpanded".toList
        ∧ ∃ s t, p.dumps d "all".toList {} = (.ok s, {}) ∧ p.dumps e "all".toList {} = (.ok t, {})
          ∧ s ≠ t := by
  intro d e p
  have parsed : p.ParsesTo (standsFor "1.0") false "a=$x".toList d :=
    parsesTo_of_toOption (by decide +kernel)
  have uncounted : p.ResolvesCounting (standsFor "1.00") false d 0 e :=
    resolvesCounting_of_toOption (by decide +kernel) (by decide +kernel)
  have made : p.Makes d := .parsed parsed
  have comes : ComesOfText d := .parsed parsed
  have same : d.same e = true := by decide +kernel
  obtain ⟨alike, unchanged, written⟩ := exportsAlike
  have exports := alike p p d e made (uncounted.makes made.distinct) same
  obtain ⟨same', back⟩ := unchanged p p d (standsFor "1.00") false e made uncounted
  obtain ⟨s, ran⟩ := written d comes p .all
  obtain ⟨t, ran'⟩ := written e (.resolved comes (resolvesTo_iff_counting.mpr ⟨0, uncounted⟩)) p .all
  refine ⟨parsed, uncounted, same, same', exports, (back p).raw, s, t, ran {}, ran' {}, ?_⟩
  rintro rfl
  have places := (exports p).places (by decide) (by decide) (ran {}) (ran' {})
  exact absurd places (by decide +kernel)

/-- Documents that are equal do have different texts with values, and a document that is resolved
without a counted change does have a different export then: decimals keep their zeros.
-/
theorem same_exports_differ
    : ∃ d e,
      ({} : Pipeline).ParsesTo (standsFor "1.0") false "a=$x".toList d
      ∧ ({} : Pipeline).ResolvesCounting (standsFor "1.00") false d 0 e
      ∧ d.same e = true
      ∧ ∀ world,
        ({} : Pipeline).dumps d "expanded".toList world = (.ok "a=1.0\n\n".toList, world)
        ∧ ({} : Pipeline).dumps e "expanded".toList world = (.ok "a=1.00\n\n".toList, world) := by
  refine ⟨decimalKey ⟨false, 10, -1⟩, decimalKey ⟨false, 100, -2⟩, ?_, ?_, ?_, ?_⟩
  · exact parsesTo_of_toOption (by decide +kernel)
  · exact resolvesCounting_of_toOption (by decide +kernel) (by decide +kernel)
  · decide +kernel
  · exact fun world => ⟨rfl, rfl⟩

end Pipeline

end LiveIni
