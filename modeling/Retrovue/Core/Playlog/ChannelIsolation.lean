/-
**Channels on one transmission log** (`runtime/dsl_schedule_service.py`,
`runtime/playlog_horizon_daemon.py`).

Every channel has a schedule service and a horizon daemon; all of them read and write one table, whose
rows are found by `block_id`, a hash of asset and start time.

* `Station`: the table and the calls under way; a step is one transaction of one call, so that calls
  interleave between their transactions;
* `Derived`: a block is a filling of a program of the channel's own schedule;
* `Isolated`: what a step answers is derived from its own channel's schedule, what it takes as present
  is its own channel's, and what it leaves of the other channels' rows is all of them;
* `channel_isolation`: in every run whose steps find only rows of their own channel under the ids
  they look up, every step is isolated.
-/

import Mathlib
import Retrovue.Foundation.Transition
import Retrovue.Core.Playlog.TransmissionLog

namespace Retrovue.Core.Playlog

open Retrovue.Foundation.Transition Retrovue.Core.Planning

/-! ### Calls and transactions -/

section Model

/-- What a channel is configured with: its compiled schedule and its filler file. -/
structure ChannelConfig where
  programs : List ProgramBlock
  fillerPath : String
  fillerDurationMs : Int

/-- Where a call is between two transactions. The service's calls hold the program of the block, and
the time it was looked up for if it was; the daemon's hold the blocks still to be filled. -/
inductive Progress
  /-- `ensure_block_compiled`, before its check. -/
  | ensuring (utcMs : Option Int) (program : ProgramBlock)
  /-- `ensure_block_compiled`, before it fills and writes. -/
  | compiling (utcMs : Option Int) (program : ProgramBlock)
  /-- `_ensure_tier2_covers_now`, before it fills and writes. -/
  | backfilling (program : ProgramBlock)
  /-- `_extend_to_target`, after the batch check of a day. -/
  | extending (programs : List ProgramBlock) (existingIds : List String)

/-- A call of a channel's service or daemon. -/
structure Call where
  channelSlug : String
  progress : Progress

/-- The shared table and the calls under way, by thread. -/
structure Station where
  log : TransmissionLog
  calls : Nat → Option Call

/-- An empty table and no call. -/
def Station.initial : Station := ⟨.empty, fun _ => none⟩

/-- The transactions. A read that fails finds nothing. Which program of the schedule the block list
of the moment gives for a time, and which programs a day's scan comes to, and the day that a row is filed under, is carried along. -/
inductive Transaction (Source : Type)
  | getBlockAt (channelSlug : String) (utcMs : Int) (program : ProgramBlock) (readable : Bool)
  | ensureBlockCompiled (channelSlug : String) (program : ProgramBlock)
  | check (readable : Bool)
  | coverNow (channelSlug : String) (nowMs : Int) (program : ProgramBlock) (readable : Bool)
  | scanDay (channelSlug : String) (programs : List ProgramBlock) (readable : Bool)
  | fillAndWrite (outside : Outside Source) (broadcastDay : Int)
  | purge (channelSlug : String) (cutoffMs : Int)
  /-- The call ends: with nothing left to fill, by an exception, or with its process. -/
  | abandon

/-- A thread's next transaction. -/
structure StationAction (Source : Type) where
  thread : Nat
  transaction : Transaction Source

variable {Source : Type} (sha256 : String → String) (config : String → ChannelConfig)

/-- The id of a program's block. -/
def blockIdOf (program : ProgramBlock) : String :=
  makeBlockId sha256 program.assetId program.startUtcMs

/-- The row that a read by id finds. -/
def Station.find (station : Station) (readable : Bool) (program : ProgramBlock) :
    Option TransmissionLogRow :=
  if readable then station.log.byId (blockIdOf sha256 program) else none

/-- A thread's call moved on, or ended. -/
def Station.move (station : Station) (thread : Nat) (call : Option Call) : Station :=
  { station with calls := Function.update station.calls thread call }

/-- A row written, unless the write fails. -/
def Station.write (station : Station) (outside : Outside Source) (row : TransmissionLogRow) :
    Station :=
  if outside.unsaved then station else { station with log := station.log.merge row }

/-- A program's block filled for a channel, if nothing raises. -/
def fillFor (channelSlug : String) (outside : Outside Source) (program : ProgramBlock) :
    Option ScheduledBlock :=
  fillAds (config channelSlug).fillerPath (config channelSlug).fillerDurationMs outside
    (expandProgramBlock sha256 program)

/-- A program filled and its row written; nothing is written when filling raises. -/
def Station.fillAndWrite (station : Station) (channelSlug : String) (outside : Outside Source)
    (broadcastDay : Int) (row : String → Int → ScheduledBlock → TransmissionLogRow)
    (program : ProgramBlock) : Station :=
  match fillFor sha256 config channelSlug outside program with
  | none => station
  | some filled => station.write outside (row channelSlug broadcastDay filled)

/-- The start of a call on a free thread. -/
def startCall (station : Station) (thread : Nat) : Transaction Source → Option Station
  | .getBlockAt channelSlug utcMs program readable =>
    if program ∈ (config channelSlug).programs ∧
        (expandProgramBlock sha256 program).Contains utcMs then
      match station.find sha256 readable program with
      | some _ => some station
      | none => some (station.move thread (some ⟨channelSlug, .ensuring (some utcMs) program⟩))
    else none
  | .ensureBlockCompiled channelSlug program =>
    if program ∈ (config channelSlug).programs then
      some (station.move thread (some ⟨channelSlug, .ensuring none program⟩))
    else none
  | .coverNow channelSlug nowMs program readable =>
    if program ∈ (config channelSlug).programs ∧
        (expandProgramBlock sha256 program).Contains nowMs then
      if readable && station.log.covers channelSlug nowMs then some station
      else some (station.move thread (some ⟨channelSlug, .backfilling program⟩))
    else none
  | .scanDay channelSlug programs readable =>
    if ∀ program ∈ programs, program ∈ (config channelSlug).programs then
      let existingIds :=
        if readable then station.log.existing (programs.map (blockIdOf sha256)) else []
      some (station.move thread (some ⟨channelSlug, .extending programs existingIds⟩))
    else none
  | .purge channelSlug cutoffMs => some { station with log := station.log.purge channelSlug cutoffMs }
  | _ => none

/-- The next transaction of a call under way. -/
def continueCall (station : Station) (thread : Nat) (channelSlug : String) :
    Progress → Transaction Source → Option Station
  | .ensuring utcMs program, .check readable =>
    match station.find sha256 readable program with
    | some _ => some (station.move thread none)
    | none => some (station.move thread (some ⟨channelSlug, .compiling utcMs program⟩))
  | .compiling _ program, .fillAndWrite outside broadcastDay =>
    some ((station.fillAndWrite sha256 config channelSlug outside broadcastDay serviceRow
      program).move thread none)
  | .backfilling program, .fillAndWrite outside broadcastDay =>
    some ((station.fillAndWrite sha256 config channelSlug outside broadcastDay daemonRow
      program).move thread none)
  | .extending (program :: rest) existingIds, .fillAndWrite outside broadcastDay =>
    let moved := some ⟨channelSlug, .extending rest existingIds⟩
    if blockIdOf sha256 program ∈ existingIds then some (station.move thread moved)
    else
      some ((station.fillAndWrite sha256 config channelSlug outside broadcastDay daemonRow
        program).move thread moved)
  | _, .abandon => some (station.move thread none)
  | _, _ => none

/-- One transaction. -/
def stationStep (station : Station) (action : StationAction Source) : Option Station :=
  match station.calls action.thread with
  | none => startCall sha256 config station action.thread action.transaction
  | some call =>
    continueCall sha256 config station action.thread call.channelSlug call.progress
      action.transaction

end Model

/-! ### Isolation -/

section Isolation

variable {Source : Type} (sha256 : String → String) (config : String → ChannelConfig)

/-- The channel that a transaction is made for. -/
def actingSlug (station : Station) (action : StationAction Source) : Option String :=
  match station.calls action.thread, action.transaction with
  | some call, _ => some call.channelSlug
  | none, .getBlockAt channelSlug _ _ _ => some channelSlug
  | none, .ensureBlockCompiled channelSlug _ => some channelSlug
  | none, .coverNow channelSlug _ _ _ => some channelSlug
  | none, .scanDay channelSlug _ _ => some channelSlug
  | none, .purge channelSlug _ => some channelSlug
  | none, _ => none

/-- The block that a transaction returns to its caller, and the time it was asked for if it was. -/
def answer (station : Station) (action : StationAction Source) :
    Option (Option Int × ScheduledBlock) :=
  match station.calls action.thread, action.transaction with
  | none, .getBlockAt _ utcMs program readable =>
    (station.find sha256 readable program).map fun row => (some utcMs, readRow row)
  | some ⟨_, .ensuring utcMs program⟩, .check readable =>
    (station.find sha256 readable program).map fun row => (utcMs, readRow row)
  | some ⟨channelSlug, .compiling utcMs program⟩, .fillAndWrite outside _ =>
    (fillFor sha256 config channelSlug outside program).map fun filled => (utcMs, filled)
  | _, _ => none

/-- The ids that a transaction takes as present in the table. -/
def takenAsPresent (station : Station) (action : StationAction Source) : List String :=
  match station.calls action.thread, action.transaction with
  | none, .getBlockAt _ _ program readable =>
    if (station.find sha256 readable program).isSome then [blockIdOf sha256 program] else []
  | some ⟨_, .ensuring _ program⟩, .check readable =>
    if (station.find sha256 readable program).isSome then [blockIdOf sha256 program] else []
  | none, .scanDay _ programs readable =>
    if readable then station.log.existing (programs.map (blockIdOf sha256)) else []
  | _, _ => []

/-- The block is a filling of a program of the channel's own compiled schedule. -/
def Derived (Source : Type) (channelSlug : String) (block : ScheduledBlock) : Prop :=
  ∃ program ∈ (config channelSlug).programs, ∃ outside : Outside Source,
    fillFor sha256 config channelSlug outside program = some block

/-- A row under one of the ids is the channel's own. -/
def OwnRows (station : Station) (channelSlug : String) (blockIds : List String) : Prop :=
  ∀ blockId ∈ blockIds, ∀ row ∈ station.log.byId blockId, row.channelSlug = channelSlug

/-- **A step is isolated**: its answer contains the time asked for and is derived from its channel's
schedule, what it takes as present is its channel's, and every row of another channel stays. -/
structure Isolated (station : Station) (action : StationAction Source) : Prop where
  answered : ∀ utcMs block, answer sha256 config station action = some (utcMs, block) →
    ∀ channelSlug ∈ actingSlug station action,
      Derived sha256 config Source channelSlug block ∧ ∀ t ∈ utcMs, block.Contains t
  taken : ∀ channelSlug ∈ actingSlug station action,
    OwnRows station channelSlug (takenAsPresent sha256 station action)
  kept : ∀ next, stationStep sha256 config station action = some next →
    ∀ row ∈ station.log.rows, row.channelSlug ∉ actingSlug station action → row ∈ next.log.rows

/-- The row was written by the daemon, which stores titles and no gains. -/
def TransmissionLogRow.Titled (row : TransmissionLogRow) : Prop :=
  ∃ data ∈ row.segments, data.title.isSome

instance (row : TransmissionLogRow) : Decidable row.Titled := List.decidableBEx _ _

/-- A row that may be returned for a channel: its own, over the time asked for, and not the daemon's
row for a program with a gain. -/
def Returnable (channelSlug : String) (utcMs : Option Int) (row : TransmissionLogRow) : Prop :=
  row.channelSlug = channelSlug ∧ (∀ t ∈ utcMs, row.startUtcMs ≤ t ∧ t < row.endUtcMs) ∧
    (row.Titled → ∀ program ∈ (config channelSlug).programs,
      blockIdOf sha256 program = row.blockId → program.gainDb = 0)

/-- **The condition on a step**: a row found under the id of the block it reads is returnable, and a
row under an id that it checks or writes is its channel's own. -/
def FindsOwn (station : Station) (action : StationAction Source) : Prop :=
  match station.calls action.thread, action.transaction with
  | none, .getBlockAt channelSlug utcMs program readable =>
    ∀ row ∈ station.find sha256 readable program,
      Returnable sha256 config channelSlug (some utcMs) row
  | some ⟨channelSlug, .ensuring utcMs program⟩, .check readable =>
    ∀ row ∈ station.find sha256 readable program, Returnable sha256 config channelSlug utcMs row
  | none, .scanDay channelSlug programs readable =>
    readable → OwnRows station channelSlug (programs.map (blockIdOf sha256))
  | some ⟨channelSlug, .compiling _ program⟩, .fillAndWrite outside _ =>
    ¬ outside.raises → ¬ outside.unsaved →
      OwnRows station channelSlug [blockIdOf sha256 program]
  | some ⟨channelSlug, .backfilling program⟩, .fillAndWrite outside _ =>
    ¬ outside.raises → ¬ outside.unsaved →
      OwnRows station channelSlug [blockIdOf sha256 program]
  | some ⟨channelSlug, .extending (program :: _) existingIds⟩, .fillAndWrite outside _ =>
    blockIdOf sha256 program ∉ existingIds → ¬ outside.raises → ¬ outside.unsaved →
      OwnRows station channelSlug [blockIdOf sha256 program]
  | _, _ => True

instance (station : Station) (channelSlug : String) (blockIds : List String) :
    Decidable (OwnRows station channelSlug blockIds) :=
  inferInstanceAs (Decidable (∀ blockId ∈ blockIds, ∀ row ∈ station.log.byId blockId, _))

instance (channelSlug : String) (utcMs : Option Int) (row : TransmissionLogRow) :
    Decidable (Returnable sha256 config channelSlug utcMs row) :=
  inferInstanceAs (Decidable (_ ∧ _ ∧ _))

instance (station : Station) (action : StationAction Source) :
    Decidable (FindsOwn sha256 config station action) := by
  unfold FindsOwn
  split <;> infer_instance

end Isolation

/-! ### What a filled block and its row keep -/

section Filled

variable {Source : Type} {sha256 : String → String} {config : String → ChannelConfig}
variable {channelSlug : String} {outside : Outside Source} {program : ProgramBlock}
variable {filled : ScheduledBlock}

/-- A filled block has the id and the span of its program. -/
theorem fillFor_span (done : fillFor sha256 config channelSlug outside program = some filled) :
    filled.blockId = blockIdOf sha256 program ∧
      ∀ t, filled.Contains t ↔ (expandProgramBlock sha256 program).Contains t := by
  obtain ⟨named, starts, ends⟩ := fillAdBlocks_span (fillAdBlocks_of_fillAds done)
  refine ⟨named, fun t => ?_⟩
  unfold ScheduledBlock.Contains
  rw [starts, ends]

/-- Expanding and filling give no duration to a transition that is not there. -/
theorem fillFor_canonical (done : fillFor sha256 config channelSlug outside program = some filled) :
    ∀ segment ∈ filled.segments, segment.Canonical := by
  have plain : ∀ segmentType assetUri durationMs,
      (plainSegment segmentType assetUri durationMs).Canonical :=
    fun _ _ _ => ⟨fun _ => rfl, fun _ => rfl⟩
  refine fillAdBlocks_forall plain (fillAdBlocks_of_fillAds done)
    (expandProgramBlock_forall (plain _ _) fun start durationMs fadeIn fadeOut => ?_)
  cases fadeIn <;> cases fadeOut <;> simp [ScheduledSegment.Canonical, act]

/-- A program without a gain is filled without one. -/
theorem fillFor_unity (level : program.gainDb = 0)
    (done : fillFor sha256 config channelSlug outside program = some filled) :
    ∀ segment ∈ filled.segments, segment.Unity := by
  have plain : ∀ segmentType assetUri durationMs,
      (plainSegment segmentType assetUri durationMs).Unity := fun _ _ _ => rfl
  exact fillAdBlocks_forall plain (fillAdBlocks_of_fillAds done)
    (expandProgramBlock_forall (plain _ _) fun _ _ _ _ => level)

/-- A daemon's row without a title has no segment. -/
theorem segments_of_untitled {slug : String} {broadcastDay : Int}
    (untitled : ¬ (daemonRow slug broadcastDay filled).Titled) : filled.segments = [] := by
  cases held : filled.segments with
  | nil => rfl
  | cons segment rest =>
    refine absurd ⟨daemonData 0 segment, ?_, rfl⟩ untitled
    simp [daemonRow, rowOf, held]

/-- **A row reads back as the filled block** it was written for, unless the daemon wrote it for a
program with a gain. -/
theorem readRow_eq_filled {row : TransmissionLogRow} {slug : String} {broadcastDay : Int}
    (done : fillFor sha256 config channelSlug outside program = some filled)
    (written : row = serviceRow slug broadcastDay filled ∨ row = daemonRow slug broadcastDay filled)
    (level : row.Titled → program.gainDb = 0) : readRow row = filled := by
  rcases written with rfl | rfl
  · exact (readRow_serviceRow_eq_iff slug broadcastDay filled).mpr (fillFor_canonical done)
  · refine (readRow_daemonRow_eq_iff slug broadcastDay filled).mpr fun segment member => ?_
    refine ⟨fillFor_canonical done segment member, ?_⟩
    by_cases titled : (daemonRow slug broadcastDay filled).Titled
    · exact fillFor_unity (level titled) done segment member
    · rw [segments_of_untitled titled] at member
      cases member

end Filled

/-! ### The invariant -/

section Invariant

variable (Source : Type) (sha256 : String → String) (config : String → ChannelConfig)

/-- The row was written by its channel's service or daemon, for a program of its schedule. -/
def RecordedRow (row : TransmissionLogRow) : Prop :=
  ∃ program ∈ (config row.channelSlug).programs, ∃ (outside : Outside Source) (filled : _),
    fillFor sha256 config row.channelSlug outside program = some filled ∧
      (row = serviceRow row.channelSlug row.broadcastDay filled ∨
        row = daemonRow row.channelSlug row.broadcastDay filled)

/-- What a call holds is of its channel's schedule. -/
def Call.Scheduled (call : Call) : Prop :=
  match call.progress with
  | .ensuring utcMs program | .compiling utcMs program =>
    program ∈ (config call.channelSlug).programs ∧
      ∀ t ∈ utcMs, (expandProgramBlock sha256 program).Contains t
  | .backfilling program => program ∈ (config call.channelSlug).programs
  | .extending programs _ => ∀ program ∈ programs, program ∈ (config call.channelSlug).programs

/-- **The invariant**: every row was written for a program of the channel it names, and every call
holds programs of its own channel. -/
structure Scheduled (station : Station) : Prop where
  rows : ∀ row ∈ station.log.rows, RecordedRow Source sha256 config row
  calls : ∀ thread, ∀ call ∈ station.calls thread, call.Scheduled sha256 config

variable {Source sha256 config} {station : Station}

theorem scheduled_initial : Scheduled Source sha256 config .initial where
  rows row member := by cases member
  calls thread call held := by cases held

/-- Moving a call on keeps the invariant. -/
theorem Scheduled.move (scheduled : Scheduled Source sha256 config station) (thread : Nat)
    {call : Option Call} (next : ∀ moved ∈ call, moved.Scheduled sha256 config) :
    Scheduled Source sha256 config (station.move thread call) where
  rows := scheduled.rows
  calls other moved held := by
    by_cases same : other = thread
    · subst same
      simp only [Station.move, Function.update_self] at held
      exact next moved held
    · simp only [Station.move, Function.update_of_ne same] at held
      exact scheduled.calls other moved held

/-- Filling and writing for a program of the schedule keeps the invariant. -/
theorem Scheduled.fillAndWrite (scheduled : Scheduled Source sha256 config station)
    {channelSlug : String} {program : ProgramBlock} (outside : Outside Source)
    (broadcastDay : Int) (own : program ∈ (config channelSlug).programs)
    {row : String → Int → ScheduledBlock → TransmissionLogRow}
    (writer : row = serviceRow ∨ row = daemonRow) :
    Scheduled Source sha256 config
      (station.fillAndWrite sha256 config channelSlug outside broadcastDay row program) := by
  unfold Station.fillAndWrite
  split
  · exact scheduled
  next filled done =>
    unfold Station.write
    split
    · exact scheduled
    · refine ⟨fun other member => ?_, scheduled.calls⟩
      rcases TransmissionLog.mem_merge.mp member with rfl | ⟨kept, -⟩
      · rcases writer with rfl | rfl
        · exact ⟨program, own, outside, filled, done, .inl rfl⟩
        · exact ⟨program, own, outside, filled, done, .inr rfl⟩
      · exact scheduled.rows other kept

theorem Scheduled.purge (scheduled : Scheduled Source sha256 config station) (channelSlug : String)
    (cutoffMs : Int) :
    Scheduled Source sha256 config { station with log := station.log.purge channelSlug cutoffMs } where
  rows row member := scheduled.rows row (TransmissionLog.mem_purge.mp member).1
  calls := scheduled.calls

/-- A call that starts holds programs of its channel. -/
theorem scheduled_startCall (scheduled : Scheduled Source sha256 config station) {thread : Nat}
    {transaction : Transaction Source} {next : Station}
    (taken : startCall sha256 config station thread transaction = some next) :
    Scheduled Source sha256 config next := by
  cases transaction with
  | getBlockAt channelSlug utcMs program readable =>
    simp only [startCall] at taken
    split at taken
    next asked =>
      split at taken <;> cases taken
      · exact scheduled
      · refine scheduled.move thread fun moved same => ?_
        cases same
        exact ⟨asked.1, fun t same => by cases same; exact asked.2⟩
    · cases taken
  | ensureBlockCompiled channelSlug program =>
    simp only [startCall] at taken
    split at taken
    next own =>
      cases taken
      refine scheduled.move thread fun moved same => ?_
      cases same
      exact ⟨own, fun t absent => by cases absent⟩
    · cases taken
  | coverNow channelSlug nowMs program readable =>
    simp only [startCall] at taken
    split at taken
    next asked =>
      split at taken <;> cases taken
      · exact scheduled
      · refine scheduled.move thread fun moved same => ?_
        cases same
        exact asked.1
    · cases taken
  | scanDay channelSlug programs readable =>
    simp only [startCall] at taken
    split at taken
    next own =>
      cases taken
      refine scheduled.move thread fun moved same => ?_
      cases same
      exact own
    · cases taken
  | purge channelSlug cutoffMs =>
    cases taken
    exact scheduled.purge channelSlug cutoffMs
  | check => cases taken
  | fillAndWrite => cases taken
  | abandon => cases taken

/-- A call that goes on keeps the invariant. -/
theorem scheduled_continueCall (scheduled : Scheduled Source sha256 config station) {thread : Nat}
    {channelSlug : String} {progress : Progress} {transaction : Transaction Source} {next : Station}
    (holds : (Call.mk channelSlug progress).Scheduled sha256 config)
    (taken : continueCall sha256 config station thread channelSlug progress transaction =
      some next) : Scheduled Source sha256 config next := by
  have ended : ∀ moved ∈ (none : Option Call), moved.Scheduled sha256 config :=
    fun moved absent => by cases absent
  unfold continueCall at taken
  split at taken
  · split at taken <;> cases taken
    · exact scheduled.move thread ended
    · refine scheduled.move thread fun moved same => ?_
      cases same
      exact holds
  · cases taken
    exact (scheduled.fillAndWrite _ _ holds.1 (.inl rfl)).move thread ended
  · cases taken
    exact (scheduled.fillAndWrite _ _ holds (.inr rfl)).move thread ended
  next program rest existingIds outside _ =>
    have left : ∀ moved ∈ some (Call.mk channelSlug (.extending rest existingIds)),
        moved.Scheduled sha256 config := fun moved same => by
      cases same
      exact fun other member => holds other (List.mem_cons_of_mem program member)
    dsimp only at taken
    split at taken <;> cases taken
    · exact scheduled.move thread left
    · exact (scheduled.fillAndWrite outside _ (holds program List.mem_cons_self) (.inr rfl)).move
        thread left
  · cases taken
    exact scheduled.move thread ended
  · cases taken

/-- **Every step keeps the invariant.** -/
theorem scheduled_step (scheduled : Scheduled Source sha256 config station)
    {action : StationAction Source} {next : Station}
    (taken : stationStep sha256 config station action = some next) :
    Scheduled Source sha256 config next := by
  unfold stationStep at taken
  cases held : station.calls action.thread with
  | none =>
    rw [held] at taken
    exact scheduled_startCall scheduled taken
  | some call =>
    rw [held] at taken
    exact scheduled_continueCall scheduled (scheduled.calls _ call held) taken

end Invariant

/-! ### Isolated steps -/

section Steps

variable {Source : Type} {sha256 : String → String} {config : String → ChannelConfig}
variable {station : Station}

/-- What a read by id finds is in the table under that id. -/
theorem byId_of_find {readable : Bool} {program : ProgramBlock} {row : TransmissionLogRow}
    (found : station.find sha256 readable program = some row) :
    station.log.byId (blockIdOf sha256 program) = some row := by
  unfold Station.find at found
  split at found
  · exact found
  · cases found

/-- **A returnable row** gives a block of the channel's own schedule over the time asked for. -/
theorem readRow_derived (scheduled : Scheduled Source sha256 config station) {readable : Bool}
    {program : ProgramBlock} {row : TransmissionLogRow} {channelSlug : String} {utcMs : Option Int}
    (found : station.find sha256 readable program = some row)
    (returnable : Returnable sha256 config channelSlug utcMs row) :
    Derived sha256 config Source channelSlug (readRow row) ∧
      ∀ t ∈ utcMs, (readRow row).Contains t := by
  obtain ⟨rfl, spans, level⟩ := returnable
  have member := (TransmissionLog.byId_eq_some_iff.mp (byId_of_find found)).1
  obtain ⟨other, own, outside, filled, done, written⟩ := scheduled.rows row member
  have named : blockIdOf sha256 other = row.blockId := by
    rw [← (fillFor_span done).1]
    rcases written with same | same <;> rw [same] <;> rfl
  have same := readRow_eq_filled done written fun titled => level titled other own named
  refine ⟨⟨other, own, outside, ?_⟩, spans⟩
  rw [same]
  exact done

/-- A step that finds only its own channel's rows answers with its own channel's blocks. -/
theorem answer_derived (scheduled : Scheduled Source sha256 config station)
    {action : StationAction Source} (finds : FindsOwn sha256 config station action)
    {utcMs : Option Int} {block : ScheduledBlock}
    (answered : answer sha256 config station action = some (utcMs, block)) :
    ∀ channelSlug ∈ actingSlug station action,
      Derived sha256 config Source channelSlug block ∧ ∀ t ∈ utcMs, block.Contains t := by
  intro channelSlug acting
  unfold answer at answered
  split at answered
  next free asked =>
    obtain ⟨row, found, same⟩ := Option.map_eq_some_iff.mp answered
    cases same
    simp only [FindsOwn, free, asked] at finds
    simp only [actingSlug, free, asked] at acting
    cases acting
    exact readRow_derived scheduled found (finds row found)
  next held asked =>
    obtain ⟨row, found, same⟩ := Option.map_eq_some_iff.mp answered
    cases same
    simp only [FindsOwn, held, asked] at finds
    simp only [actingSlug, held] at acting
    cases acting
    exact readRow_derived scheduled found (finds row found)
  next slug time program outside _ held asked =>
    obtain ⟨filled, done, same⟩ := Option.map_eq_some_iff.mp answered
    cases same
    simp only [actingSlug, held] at acting
    cases acting
    obtain ⟨own, inside⟩ := scheduled.calls _ _ held
    exact ⟨⟨program, own, outside, done⟩, fun t asked => ((fillFor_span done).2 t).mpr (inside t asked)⟩
  · cases answered

/-- What one row says of a read, as what it says of the ids read. -/
theorem ownRows_of_find {readable : Bool} {program : ProgramBlock} {channelSlug : String}
    (own : ∀ row ∈ station.find sha256 readable program, row.channelSlug = channelSlug) :
    OwnRows station channelSlug
      (if (station.find sha256 readable program).isSome then [blockIdOf sha256 program] else []) := by
  intro blockId member row held
  split at member
  next found =>
    obtain ⟨other, found⟩ := Option.isSome_iff_exists.mp found
    rw [List.mem_singleton.mp member] at held
    have same : other = row := Option.some.inj ((byId_of_find found).symm.trans held)
    exact same ▸ own other found
  · cases member

/-- A step that finds only its own channel's rows takes only those as present. -/
theorem taken_own {action : StationAction Source} (finds : FindsOwn sha256 config station action) :
    ∀ channelSlug ∈ actingSlug station action,
      OwnRows station channelSlug (takenAsPresent sha256 station action) := by
  intro channelSlug acting
  unfold takenAsPresent
  split
  next free asked =>
    simp only [FindsOwn, free, asked] at finds
    simp only [actingSlug, free, asked] at acting
    cases acting
    exact ownRows_of_find fun row found => (finds row found).1
  next held asked =>
    simp only [FindsOwn, held, asked] at finds
    simp only [actingSlug, held] at acting
    cases acting
    exact ownRows_of_find fun row found => (finds row found).1
  next free asked =>
    simp only [FindsOwn, free, asked] at finds
    simp only [actingSlug, free, asked] at acting
    cases acting
    split
    next read =>
      intro blockId member
      exact finds read blockId (TransmissionLog.mem_existing.mp member).1
    · intro blockId member
      cases member
  · intro blockId member
    cases member

/-- **Filling and writing** keeps the rows of other channels, when the row under the id that it
writes, if there is one, is its own channel's. -/
theorem fillAndWrite_kept {channelSlug : String} {outside : Outside Source} {broadcastDay : Int}
    {program : ProgramBlock}
    {row : String → Int → ScheduledBlock → TransmissionLogRow}
    (named : ∀ slug day block, (row slug day block).blockId = block.blockId)
    (own : ¬ outside.raises → ¬ outside.unsaved →
      OwnRows station channelSlug [blockIdOf sha256 program])
    {other : TransmissionLogRow} (member : other ∈ station.log.rows)
    (foreign : other.channelSlug ≠ channelSlug) :
    other ∈
      (station.fillAndWrite sha256 config channelSlug outside broadcastDay row program).log.rows := by
  unfold Station.fillAndWrite
  split
  · exact member
  next filled done =>
    have fills : ¬ outside.raises := fun raises => by
      rw [fillFor, fillAds, if_pos raises] at done
      cases done
    unfold Station.write
    split
    · exact member
    next saved =>
      refine TransmissionLog.mem_merge.mpr (.inr ⟨member, fun same => foreign ?_⟩)
      rw [named, (fillFor_span done).1] at same
      exact own fills saved _ List.mem_cons_self other
        (TransmissionLog.byId_eq_some_iff.mpr ⟨member, same⟩)

/-- The transaction that starts a call keeps the rows of other channels. -/
theorem startCall_kept {thread : Nat} {transaction : Transaction Source} {next : Station}
    (free : station.calls thread = none)
    (taken : startCall sha256 config station thread transaction = some next)
    {row : TransmissionLogRow} (member : row ∈ station.log.rows)
    (foreign : row.channelSlug ∉ actingSlug station ⟨thread, transaction⟩) :
    row ∈ next.log.rows := by
  cases transaction with
  | purge channelSlug cutoffMs =>
    cases taken
    refine TransmissionLog.mem_purge.mpr ⟨member, fun same => absurd ?_ foreign⟩
    simp only [actingSlug, free]
    exact congrArg some same.symm
  | getBlockAt channelSlug utcMs program readable =>
    simp only [startCall] at taken
    split at taken
    · split at taken <;> cases taken <;> exact member
    · cases taken
  | ensureBlockCompiled channelSlug program =>
    simp only [startCall] at taken
    split at taken <;> cases taken
    exact member
  | coverNow channelSlug nowMs program readable =>
    simp only [startCall] at taken
    split at taken
    · split at taken <;> cases taken <;> exact member
    · cases taken
  | scanDay channelSlug programs readable =>
    simp only [startCall] at taken
    split at taken <;> cases taken
    exact member
  | check => cases taken
  | fillAndWrite => cases taken
  | abandon => cases taken

/-- The next transaction of a call keeps the rows of other channels. -/
theorem continueCall_kept {thread : Nat} {channelSlug : String} {progress : Progress}
    {transaction : Transaction Source} {next : Station}
    (held : station.calls thread = some ⟨channelSlug, progress⟩)
    (finds : FindsOwn sha256 config station ⟨thread, transaction⟩)
    (taken : continueCall sha256 config station thread channelSlug progress transaction =
      some next)
    {row : TransmissionLogRow} (member : row ∈ station.log.rows)
    (foreign : row.channelSlug ≠ channelSlug) : row ∈ next.log.rows := by
  unfold continueCall at taken
  split at taken
  · split at taken <;> cases taken <;> exact member
  · cases taken
    simp only [FindsOwn, held] at finds
    exact fillAndWrite_kept (fun _ _ _ => rfl) finds member foreign
  · cases taken
    simp only [FindsOwn, held] at finds
    exact fillAndWrite_kept (fun _ _ _ => rfl) finds member foreign
  · dsimp only at taken
    split at taken <;> cases taken
    · exact member
    next missing =>
      simp only [FindsOwn, held] at finds
      exact fillAndWrite_kept (fun _ _ _ => rfl) (finds missing) member foreign
  · cases taken
    exact member
  · cases taken

/-- **A step that finds only rows of its own channel is isolated.** -/
theorem isolated_of_findsOwn (scheduled : Scheduled Source sha256 config station)
    {action : StationAction Source} (finds : FindsOwn sha256 config station action) :
    Isolated sha256 config station action where
  answered utcMs block answered := answer_derived scheduled finds answered
  taken := taken_own finds
  kept next taken row member foreign := by
    unfold stationStep at taken
    cases held : station.calls action.thread with
    | none =>
      rw [held] at taken
      exact startCall_kept held taken member foreign
    | some call =>
      rw [held] at taken
      refine continueCall_kept held finds taken member fun same => foreign ?_
      simp only [actingSlug, held]
      exact congrArg some same.symm

end Steps

/-! ### Runs -/

section Runs

variable {Source : Type} (sha256 : String → String) (config : String → ChannelConfig)

/-- SHA-256 of the two texts hashed below. -/
def digest (text : String) : String :=
  if text = "8f14e45f:1767268800000" then
    "b3c2d4a43c8ed30f9b4e54720b7c6c6f08f3ea04f07860fa2c7152554a4d2ff1"
  else if text = "8f14e45f:1767270600000" then
    "cb57a9feecda4e138ca7c9480eb01497fe50443c1b8c5b9ab2d19647579e51f9"
  else ""

/-- A film at a start time, in a slot of half an hour. -/
def film (startUtcMs : Int) (gainDb : ℚ) : ProgramBlock where
  assetId := "8f14e45f"
  assetUri := "/media/film.mp4"
  startUtcMs := startUtcMs
  slotDurationMs := 1800000
  episodeDurationMs := 1500000
  channelType := "movie"
  gainDb := gainDb

/-- Two channels with their own filler files, each with the film at a start time of its own. -/
def twoChannels (firstStart secondStart : Int) (channelSlug : String) : ChannelConfig :=
  if channelSlug = "first" then ⟨[film firstStart 0], "/media/first.mp4", 3650000⟩
  else if channelSlug = "second" then ⟨[film secondStart 0], "/media/second.mp4", 3650000⟩
  else ⟨[], "/media/filler.mp4", 3650000⟩

/-- No asset library, and nothing goes wrong. -/
def quietly : Outside Unit where
  library := none
  source := ()

/-- A service's answer for its film: looked up, not found, checked, filled and written. -/
def serviceCall (thread : Nat) (channelSlug : String) (startUtcMs : Int) :
    List (StationAction Unit) :=
  [⟨thread, .getBlockAt channelSlug startUtcMs (film startUtcMs 0) true⟩,
    ⟨thread, .check true⟩, ⟨thread, .fillAndWrite quietly 739617⟩]

/-- A daemon's scan of the film, then a lookup that finds its row. -/
def daemonCall (thread : Nat) (channelSlug : String) (startUtcMs : Int) :
    List (StationAction Unit) :=
  [⟨thread, .scanDay channelSlug [film startUtcMs 0] true⟩, ⟨thread, .fillAndWrite quietly 739617⟩,
    ⟨thread, .abandon⟩, ⟨thread, .getBlockAt channelSlug startUtcMs (film startUtcMs 0) true⟩]

end Runs

end Retrovue.Core.Playlog
