import LiveIni.Scope

/-!
Computations that can fail and change a state, taken apart at one state: what their first step
results in decides how they go on. Along a list, they are taken apart at the first item that fails.
-/

namespace LiveIni.Computation

variable {ε σ α β : Type}

/-- A computation whose first part succeeds goes on with what that part results in, from the
state that it leaves.
-/
theorem bind_of_ok {first : ExceptT ε (StateM σ) α} {next : α → ExceptT ε (StateM σ) β}
    {s t : σ} {a : α} (run : first s = (.ok a, t))
    : (first >>= next) s = next a t := by
  change ExceptT.bindCont next (first s).1 (first s).2 = _
  rw [run]
  rfl

theorem bind_of_error {first : ExceptT ε (StateM σ) α} {next : α → ExceptT ε (StateM σ) β}
    {s t : σ} {e : ε} (run : first s = (.error e, t))
    : (first >>= next) s = (.error e, t) := by
  change ExceptT.bindCont next (first s).1 (first s).2 = _
  rw [run]
  rfl

/-- A computation that succeeds has a first part that succeeds, and goes on from there. -/
theorem ok_of_bind {first : ExceptT ε (StateM σ) α} {next : α → ExceptT ε (StateM σ) β}
    {s u : σ} {b : β} (run : (first >>= next) s = (.ok b, u))
    : ∃ a t, first s = (.ok a, t) ∧ next a t = (.ok b, u) := by
  rcases ran : first s with ⟨outcome, t⟩
  cases outcome with
  | error e =>
      rw [bind_of_error ran] at run
      cases run
  | ok a => exact ⟨a, t, rfl, (bind_of_ok ran).symm.trans run⟩

/-- A computation fails if its first part does, or what follows it. -/
theorem bind_fails_iff {first : ExceptT ε (StateM σ) α} {next : α → ExceptT ε (StateM σ) β}
    {s u : σ} {e : ε}
    : (first >>= next) s = (.error e, u)
      ↔ first s = (.error e, u) ∨ ∃ a t, first s = (.ok a, t) ∧ next a t = (.error e, u) := by
  constructor
  · intro failed
    rcases ran : first s with ⟨outcome, t⟩
    cases outcome with
    | error f =>
        rw [bind_of_error ran] at failed
        cases failed
        exact .inl rfl
    | ok a =>
        rw [bind_of_ok ran] at failed
        exact .inr ⟨a, t, rfl, failed⟩
  · rintro (ran | ⟨a, t, ran, failed⟩)
    · exact bind_of_error ran
    · exact (bind_of_ok ran).trans failed

/-- A computation that can only fail comes to a value if both of its parts do. -/
theorem bind_eq_ok_iff {first : Except ε α} {next : α → Except ε β} {b : β}
    : first >>= next = .ok b ↔ ∃ a, first = .ok a ∧ next a = .ok b := by
  cases first with
  | error e => simp [bind, Except.bind]
  | ok a => simp [bind, Except.bind]

/-- It fails if one of its parts does. -/
theorem bind_eq_error_iff {first : Except ε α} {next : α → Except ε β} {e : ε}
    : first >>= next = .error e ↔ first = .error e ∨ ∃ a, first = .ok a ∧ next a = .error e := by
  cases first with
  | error f => simp [bind, Except.bind]
  | ok a => simp [bind, Except.bind]

/-- What a run succeeds with is its value and the state that it leaves. -/
theorem eq_ok_iff {outcome : Except ε α × σ} {a : α} {t : σ}
    : outcome = (.ok a, t) ↔ outcome.1.toOption = some a ∧ outcome.2 = t := by
  obtain ⟨result, state⟩ := outcome
  cases result with
  | error e => simp [Except.toOption]
  | ok b => simp [Except.toOption]

-----------------------------------------------------------------------------------------
-- Steps along a list
-----------------------------------------------------------------------------------------

variable {step : σ → α → Except ε σ} {items : List α}

/-- Steps that each succeed from every state succeed together, by induction on the list. -/
theorem foldlM_succeeds (steps : ∀ s, ∀ a ∈ items, ∃ t, step s a = .ok t) (s : σ)
    : ∃ t, items.foldlM step s = .ok t := by
  induction items generalizing s with
  | nil => exact ⟨s, rfl⟩
  | cons item rest ih =>
      obtain ⟨t, first⟩ := steps s item (by simp)
      obtain ⟨u, others⟩ := ih (fun s a member => steps s a (by simp [member])) t
      rw [List.foldlM_cons]
      exact ⟨u, bind_eq_ok_iff.mpr ⟨t, first, others⟩⟩

/-- Where steps succeed together, each of them has succeeded, by induction on the list. -/
theorem succeeds_of_foldlM {s t : σ} (ran : items.foldlM step s = .ok t)
    : ∀ a ∈ items, ∃ before after, step before a = .ok after := by
  induction items generalizing s with
  | nil => simp
  | cons item rest ih =>
      rw [List.foldlM_cons] at ran
      obtain ⟨next, first, others⟩ := bind_eq_ok_iff.mp ran
      intro a member
      rcases List.mem_cons.mp member with same | later
      · exact ⟨s, next, same ▸ first⟩
      · exact ih others a later

/-- Steps fail together where the first of them that fails does, by induction on the list. -/
theorem foldlM_eq_error_iff {s : σ} {e : ε}
    : items.foldlM step s = .error e
      ↔ ∃ before a after t, items = before ++ a :: after ∧ before.foldlM step s = .ok t
        ∧ step t a = .error e := by
  induction items generalizing s with
  | nil =>
      refine iff_of_false nofun ?_
      rintro ⟨before, a, after, t, cut, _⟩
      exact List.append_ne_nil_of_right_ne_nil before (List.cons_ne_nil a after) cut.symm
  | cons item rest ih =>
      rw [List.foldlM_cons]
      cases first : step s item with
      | error fault =>
          constructor
          · rintro ⟨⟩
            exact ⟨[], item, rest, s, rfl, rfl, first⟩
          · rintro ⟨before, a, after, t, cut, ran, fails⟩
            cases before with
            | nil =>
                cases cut
                cases ran
                exact first.symm.trans fails
            | cons b more =>
                cases cut
                rw [List.foldlM_cons, first] at ran
                cases ran
      | ok next =>
          refine (ih (s := next)).trans ⟨?_, ?_⟩
          · rintro ⟨before, a, after, t, rfl, ran, fails⟩
            refine ⟨item :: before, a, after, t, rfl, ?_, fails⟩
            rw [List.foldlM_cons, first]
            exact ran
          · rintro ⟨before, a, after, t, cut, ran, fails⟩
            cases before with
            | nil =>
                cases cut
                cases ran
                rw [first] at fails
                cases fails
            | cons b more =>
                cases cut
                rw [List.foldlM_cons, first] at ran
                exact ⟨more, a, after, t, rfl, ran, fails⟩

/-- What every successful step does to a view of the state, all of them do to it together, by
induction on the list.
-/
theorem view_of_foldlM {τ : Type} (view : σ → τ) {act : τ → α → τ}
    (steps : ∀ s a t, step s a = .ok t → view t = act (view s) a) {s t : σ}
    (ran : items.foldlM step s = .ok t)
    : view t = items.foldl act (view s) := by
  induction items generalizing s with
  | nil =>
      cases ran
      rfl
  | cons item rest ih =>
      rw [List.foldlM_cons] at ran
      obtain ⟨next, first, others⟩ := bind_eq_ok_iff.mp ran
      rw [List.foldl_cons, ← steps s item next first]
      exact ih others

/-- Where no step counts down, and a step that does not count has something to show of its item, steps
that together do not count have it to show of all items, by induction on the list.
-/
theorem shown_of_foldlM (count : σ → Nat) {shown : α → Prop}
    (steps : ∀ s a t, step s a = .ok t → count s ≤ count t ∧ (count t = count s → shown a))
    {s t : σ} (ran : items.foldlM step s = .ok t)
    : count s ≤ count t ∧ (count t = count s → ∀ a ∈ items, shown a) := by
  induction items generalizing s with
  | nil =>
      cases ran
      exact ⟨Nat.le_refl _, fun _ => nofun⟩
  | cons item rest ih =>
      rw [List.foldlM_cons] at ran
      obtain ⟨next, first, others⟩ := bind_eq_ok_iff.mp ran
      obtain ⟨grows, here⟩ := steps s item next first
      obtain ⟨grow, there⟩ := ih others
      refine ⟨Nat.le_trans grows grow, fun same => ?_⟩
      exact List.forall_mem_cons.mpr ⟨here (by omega), there (by omega)⟩

/-- Computations along a list fail where the first of them that fails does, by induction on the list. -/
theorem mapM_fails_iff {compute : α → ExceptT ε (StateM σ) β} {s u : σ} {e : ε}
    : items.mapM compute s = (.error e, u)
      ↔ ∃ before a after results t, items = before ++ a :: after
        ∧ before.mapM compute s = (.ok results, t) ∧ compute a t = (.error e, u) := by
  induction items generalizing s with
  | nil =>
      refine iff_of_false nofun ?_
      rintro ⟨before, a, after, results, t, cut, _⟩
      exact List.append_ne_nil_of_right_ne_nil before (List.cons_ne_nil a after) cut.symm
  | cons item rest ih =>
      rw [List.mapM_cons, bind_fails_iff]
      constructor
      · rintro (first | ⟨b, next, first, others⟩)
        · exact ⟨[], item, rest, [], s, rfl, rfl, first⟩
        · rcases bind_fails_iff.mp others with others | ⟨_, _, _, none⟩
          · obtain ⟨before, a, after, results, t, rfl, ran, fails⟩ := ih.mp others
            refine ⟨item :: before, a, after, b :: results, t, rfl, ?_, fails⟩
            rw [List.mapM_cons, bind_of_ok first, bind_of_ok ran]
            rfl
          · cases none
      · rintro ⟨before, a, after, results, t, cut, ran, fails⟩
        cases before with
        | nil =>
            cases cut
            cases ran
            exact .inl fails
        | cons head more =>
            cases cut
            rw [List.mapM_cons] at ran
            obtain ⟨b, next, first, ran⟩ := ok_of_bind ran
            obtain ⟨others, final, ran, same⟩ := ok_of_bind ran
            cases same
            refine .inr ⟨b, next, first, bind_fails_iff.mpr (.inl ?_)⟩
            exact ih.mpr ⟨more, a, after, others, t, rfl, ran, fails⟩

end LiveIni.Computation
