import LiveIni.Proofs.Log.Calls

/-!
Where messages arrive in a program that adds sinks and calls loggers. A file has the level of the
logger that opened it, whichever logger a message comes from; the level of a logger itself holds back
just those of its messages that are for no file.
-/

namespace LiveIni

/-- A sink of the host program. It takes messages from a severity on, as far as its filter lets them
pass, and it has taken some since it was added, which was after so many calls.
-/
structure HostSink where
  least : Nat
  filter : LogRecord → Option Path → Bool
  since : Nat := 0
  received : List LogRecord := []

namespace HostSink

def admits (sink : HostSink) (c : LogCall) : Bool :=
  decide (sink.least ≤ c.level.severity) && sink.filter c.record c.file?

/-- The sink after a call that has passed on some records. -/
def take (sink : HostSink) (c : LogCall) (passed : List LogRecord) : HostSink :=
  if sink.admits c then { sink with received := sink.received ++ passed } else sink

/-- What the sink takes of the messages of some calls. -/
def taken (sink : HostSink) (calls : List LogCall) : List LogRecord :=
  (calls.filter fun c => c.passed && sink.admits c).map (·.record)

variable (sink : HostSink) (c : LogCall)

@[simp]
theorem take_since (passed : List LogRecord) : (sink.take c passed).since = sink.since := by
  unfold take
  split <;> rfl

@[simp]
theorem take_taken (passed : List LogRecord) : (sink.take c passed).taken = sink.taken := by
  unfold take
  split <;> rfl

theorem take_received (passed : List LogRecord)
    : (sink.take c passed).received = sink.received ++ if sink.admits c then passed else [] := by
  unfold take
  split
  · rfl
  · exact (List.append_nil _).symm

theorem taken_append (calls : List LogCall)
    : sink.taken (calls ++ [c])
      = sink.taken calls ++ if sink.admits c then (if c.passed then [c.record] else []) else [] := by
  rw [taken, taken, List.filter_append, List.map_append]
  cases admits : sink.admits c <;> cases passes : c.passed <;> simp [admits, passes]

end HostSink

/-- A program that logs: its world, the sinks that it has added, and the calls that have come through
so far.
-/
structure LogStage where
  world : World
  hosts : List HostSink := []
  calls : List LogCall := []

/-- What a program does: it adds a sink of its own, or it calls a logger. Making a logger changes
nothing, so that a call comes with its logger.
-/
inductive LogMove where
  | attach (least : Nat) (filter : LogRecord → Option Path → Bool)
  | call (c : LogCall)

namespace LogStage

/-- A program starts with files, of which none is a log file yet. -/
def start (files : Files) : LogStage :=
  { world := { files := files } }

/-- A logger is called; if it fails, nothing has changed. -/
def call (s : LogStage) (c : LogCall) : LogStage :=
  match c.run s.world with
  | .error _ => s
  | .ok world =>
    let passed := world.hub.received.drop s.world.hub.received.length
    { world := world
      hosts := s.hosts.map (·.take c passed)
      calls := s.calls ++ [c] }

def move (s : LogStage) : LogMove → LogStage
  | .attach least filter =>
    { s with hosts := s.hosts ++ [{ least := least, filter := filter, since := s.calls.length }] }
  | .call c => s.call c

def run (s : LogStage) (moves : List LogMove) : LogStage :=
  moves.foldl move s

-----------------------------------------------------------------------------------------
-- What the calls explain
-----------------------------------------------------------------------------------------

/-- The calls that have come through explain the world, and each sink of the program has what it takes
of the calls since it was added.
-/
structure Explained (files : Files) (s : LogStage) : Prop where
  world : LogCall.Explain s.calls files s.world
  since : ∀ host ∈ s.hosts, host.since ≤ s.calls.length
  taken : ∀ host ∈ s.hosts, host.received = host.taken (s.calls.drop host.since)

variable {files : Files} {s : LogStage}

theorem call_explained (explained : s.Explained files) (c : LogCall)
    : (s.call c).Explained files := by
  unfold call
  split
  · exact explained
  · next world came =>
      obtain ⟨next, received⟩ := explained.world.append came
      refine ⟨next, ?_, ?_⟩
      · intro host member
        obtain ⟨before, among, rfl⟩ := List.mem_map.mp member
        rw [HostSink.take_since, List.length_append]
        exact Nat.le_add_right_of_le (explained.since before among)
      · intro host member
        obtain ⟨before, among, rfl⟩ := List.mem_map.mp member
        rw [HostSink.take_received, HostSink.take_since, HostSink.take_taken,
          List.drop_append_of_le_length (explained.since before among), HostSink.taken_append,
          explained.taken before among, received, List.drop_left]

theorem move_explained (explained : s.Explained files) (move : LogMove)
    : (s.move move).Explained files := by
  cases move with
  | call c => exact call_explained explained c
  | attach least filter =>
      refine ⟨explained.world, ?_, ?_⟩
      · intro host member
        rcases List.mem_append.mp member with before | new
        · exact explained.since host before
        · rw [List.mem_singleton.mp new]
          exact Nat.le_refl _
      · intro host member
        rcases List.mem_append.mp member with before | new
        · exact explained.taken host before
        · rw [List.mem_singleton.mp new]
          simp [HostSink.taken, LogStage.move]

/-- Any moves are explained by their calls, by induction on the moves. -/
theorem run_explained (explained : s.Explained files) (moves : List LogMove)
    : (s.run moves).Explained files := by
  induction moves generalizing s with
  | nil => exact explained
  | cons move rest ih => exact ih (move_explained explained move)

theorem start_explained (files : Files) : (start files).Explained files :=
  ⟨LogCall.explain_nil files, nofun, nofun⟩

/-- A call comes through unless its message is for a file that no call has had a message for and that
cannot be opened.
-/
theorem run_succeeds_iff (explained : s.Explained files) (c : LogCall)
    : (∃ world, c.run s.world = .ok world)
      ↔ ∀ file, c.file? = some file →
        LogCall.meant s.calls file ≠ [] ∨ ∃ opened, s.world.files.OpensLog file opened := by
  cases target : c.file? with
  | none => simp [LogCall.run_of_no_file target]
  | some file =>
      have known := explained.world.has_iff (LogCall.isResolved_of_file? target)
      simp only [LogCall.run_eq_ok_iff target, Option.some.injEq, forall_eq']
      rw [← known]
      constructor
      · rintro ⟨_, withSink, added, _⟩
        cases added with
        | known has => exact .inl has
        | opened _ opens => exact .inr ⟨_, opens⟩
      · intro opens
        cases has : s.world.hub.sinks.has file.text with
        | true => exact ⟨_, _, .known has, rfl⟩
        | false =>
            obtain ⟨opened, opening⟩ := opens.resolve_left (by simp [has])
            exact ⟨_, _, .opened has opening, rfl⟩

-----------------------------------------------------------------------------------------
-- The level of a logger
-----------------------------------------------------------------------------------------

/-- The level of each logger holds at all sinks: of the messages for it a file has got just those that
are not below the level of their logger, and no other message is in a sink of the program.
-/
def KeepsLevels (files : Files) (s : LogStage) : Prop :=
  (∀ file : Path, file.IsResolved → LogCall.meant s.calls file ≠ [] →
    s.world.files.content? file
      = some ((files.content? file).getD []
        ++ ((LogCall.meant s.calls file).filter fun c => c.reaches c.logger.level).flatMap
          LogCall.line))
  ∧ ∀ host ∈ s.hosts, ∀ r ∈ host.received,
    ∃ c ∈ s.calls, c.record = r ∧ c.reaches c.logger.level = true

/-- Every message for a file is severe enough for its logger, and just as much for the one that opened
the file.
-/
def LevelsAgree (s : LogStage) : Prop :=
  ∀ c ∈ s.calls, ∀ file ∈ c.file?,
    c.reaches c.logger.level = true
      ∧ ∀ level ∈ LogCall.openLevel? s.calls file, c.reaches level = true

instance (s : LogStage) : Decidable s.LevelsAgree :=
  inferInstanceAs (Decidable (∀ c ∈ s.calls, ∀ file ∈ c.file?,
    c.reaches c.logger.level = true
      ∧ ∀ level ∈ LogCall.openLevel? s.calls file, c.reaches level = true))

theorem keepsLevels_of_levelsAgree (explained : s.Explained files) (agree : s.LevelsAgree)
    : s.KeepsLevels files := by
  refine ⟨fun file resolved opened => ?_, fun host member r received => ?_⟩
  · have own : (LogCall.meant s.calls file).filter (fun c => c.reaches c.logger.level)
        = LogCall.written s.calls file := by
      refine List.filter_congr fun c isMeant => ?_
      obtain ⟨among, isFor⟩ := List.mem_filter.mp isMeant
      obtain ⟨ownLevel, openLevel⟩ := agree c among file (of_decide_eq_true isFor)
      cases first : LogCall.openLevel? s.calls file with
      | none => exact absurd (LogCall.openLevel?_eq_none_iff.mp first) opened
      | some level => rw [ownLevel, Option.any_some, openLevel level first]
    rw [explained.world.contents file resolved, LogCall.contentAfter, if_neg opened, own]
  · rw [explained.taken host member] at received
    obtain ⟨c, kept, rfl⟩ := List.mem_map.mp received
    obtain ⟨later, passes⟩ := List.mem_filter.mp kept
    have among := List.mem_of_mem_drop later
    refine ⟨c, among, rfl, ?_⟩
    cases target : c.file? with
    | none => simp_all [LogCall.passed]
    | some file => exact (agree c among file target).1

/-- Loggers with one log file: the first takes errors only, and the other takes everything. -/
def strictLogger : HostLogger :=
  { logFile := some "l.log".toList, level := .error }

def wordyLogger : HostLogger :=
  { logFile := some "l.log".toList, level := .debug }

/-- The strict logger opens the file that both share. -/
def sharedFile : List LogMove :=
  [.attach 10 fun _ _ => true, .call ⟨strictLogger, .info, "chatter".toList, none⟩,
   .call ⟨wordyLogger, .debug, "detail".toList, none⟩,
   .call ⟨strictLogger, .error, "broken".toList, none⟩]

/-- Each logger writes to a file of its own, and a message for no file is held back. -/
def separateFiles : List LogMove :=
  [.attach 10 fun _ _ => true, .call ⟨strictLogger, .error, "broken".toList, none⟩,
   .call ⟨wordyLogger, .debug, "detail".toList, some "d.log".toList⟩,
   .call ⟨{ level := .error }, .info, "chatter".toList, none⟩]

end LogStage

end LiveIni
