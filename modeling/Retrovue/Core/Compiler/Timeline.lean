/-
**The compiled timeline.**

* `Compiled`: what every block compiler puts out: a start on the channel's clock, and the grid slots
  its episode needs;
* `WellFormed`: what the timeline should be: ascending, disjoint, on the grid, the compiled blocks in
  start order, each moved only as far as an overlap forces;
* `compileSchedule_wellFormed_iff`: that is what comes out exactly when no block at a shifted offset
  starts within the shift of a block that the channel's clock carries across it.

Compaction compares clocks within the zone and instants across zones. A block at offset zero stays on
the channel's clock, and its end is read off that clock, also past a change of the offset.
-/

import Mathlib
import Retrovue.Core.Compiler.Steps

namespace Retrovue.Core.Compiler

open Retrovue.Core.Schedule Retrovue.Foundation.Sorting Retrovue.Foundation.Fallible

/-! ### What the block compilers put out -/

section Output

/-- A block as the compilers build it. -/
def Compiled (gridMinutes : Nat) (block : ProgramBlockOutput) : Prop :=
  (∃ wall, block.startAt = .zoned wall) ∧
    block.slotDurationSec = gridSlotDuration gridMinutes block.episodeDurationSec

theorem programBlock_compiled (gridMinutes : Nat) (title : Value) (assetId : String) (wall : Int)
    (asset : AssetMetadata) (collection selector : Value) :
    Compiled gridMinutes
      (programBlock gridMinutes title assetId wall asset collection selector) :=
  ⟨⟨wall, rfl⟩, rfl⟩

variable {rng : RandomSource} {lookup : Lookup} {gridMinutes : Nat}

theorem lookupId_ok {assetId : String} {asset : AssetMetadata}
    (found : lookupId lookup assetId = .ok asset) : lookup assetId = some asset := by
  unfold lookupId at found
  split at found
  · rename_i known
    cases found
    exact known
  · cases found

theorem forall_compiled_cons {block : ProgramBlockOutput} {blocks : List ProgramBlockOutput}
    (head : Compiled gridMinutes block) (tail : ∀ other ∈ blocks, Compiled gridMinutes other) :
    ∀ other ∈ block :: blocks, Compiled gridMinutes other :=
  List.forall_mem_cons.mpr ⟨head, tail⟩

theorem sitcomLoop_compiled {seed : Value} {fuel : Nat} {slots : List Value} {currentTime : Int}
    {counters : Counters} {out : List ProgramBlockOutput × Counters}
    (returns : sitcomLoop rng lookup gridMinutes seed fuel slots currentTime counters = .ok out) :
    ∀ block ∈ out.1, Compiled gridMinutes block := by
  induction fuel generalizing slots currentTime counters out with
  | zero =>
    obtain rfl := Except.ok.inj returns
    exact List.forall_mem_nil _
  | succ fuel ih =>
    cases slots with
    | nil =>
      obtain rfl := Except.ok.inj returns
      exact List.forall_mem_nil _
    | cons slot rest =>
      unfold sitcomLoop at returns
      obtain ⟨_, _, returns⟩ := bind_eq_ok.mp returns
      obtain ⟨_, _, returns⟩ := bind_eq_ok.mp returns
      obtain ⟨_, tail, returns⟩ := bind_eq_ok.mp returns
      obtain rfl := Except.ok.inj returns
      exact forall_compiled_cons (programBlock_compiled _ _ _ _ _ _ _) (ih tail)

theorem marathonLoop_compiled {selector : MovieSelector} {endTime : Int} {allowBleed : Bool}
    {attempts : Nat} {currentTime movieSeed : Int} {usedIds : List String}
    {out : List ProgramBlockOutput × List String}
    (returns : marathonLoop rng lookup gridMinutes selector endTime allowBleed attempts currentTime
      movieSeed usedIds = .ok out) :
    ∀ block ∈ out.1, Compiled gridMinutes block := by
  induction attempts generalizing currentTime movieSeed usedIds out with
  | zero =>
    obtain rfl := Except.ok.inj returns
    exact List.forall_mem_nil _
  | succ attempts ih =>
    unfold marathonLoop at returns
    by_cases full : endTime ≤ currentTime
    · rw [if_pos full] at returns
      obtain rfl := Except.ok.inj returns
      exact List.forall_mem_nil _
    · rw [if_neg full] at returns
      obtain ⟨choice, _, returns⟩ := bind_eq_ok.mp returns
      cases choice with
      | none => exact ih returns
      | some assetId =>
        obtain ⟨asset, _, returns⟩ := bind_eq_ok.mp returns
        dsimp only at returns
        split at returns
        · obtain rfl := Except.ok.inj returns
          exact List.forall_mem_nil _
        · obtain ⟨_, tail, returns⟩ := bind_eq_ok.mp returns
          obtain rfl := Except.ok.inj returns
          exact forall_compiled_cons (programBlock_compiled _ _ _ _ _ _ _) (ih tail)

theorem episodeLoop_compiled {episodes : EpisodeBlock} {iterations : Nat} {currentTime : Int}
    {poolIndex : Nat} {state : rng.State} {counters : Counters}
    {out : List ProgramBlockOutput × Counters}
    (returns : episodeLoop rng lookup gridMinutes episodes iterations currentTime poolIndex state
      counters = .ok out) :
    ∀ block ∈ out.1, Compiled gridMinutes block := by
  induction iterations generalizing currentTime poolIndex state counters out with
  | zero =>
    obtain rfl := Except.ok.inj returns
    exact List.forall_mem_nil _
  | succ iterations ih =>
    unfold episodeLoop at returns
    by_cases before : currentTime < episodes.endTime
    · rw [if_pos before] at returns
      obtain ⟨_, _, returns⟩ := bind_eq_ok.mp returns
      obtain ⟨_, _, returns⟩ := bind_eq_ok.mp returns
      obtain ⟨_, _, returns⟩ := bind_eq_ok.mp returns
      obtain ⟨_, _, returns⟩ := bind_eq_ok.mp returns
      obtain ⟨_, tail, returns⟩ := bind_eq_ok.mp returns
      obtain rfl := Except.ok.inj returns
      exact forall_compiled_cons (programBlock_compiled _ _ _ _ _ _ _) (ih tail)
    · rw [if_neg before] at returns
      obtain rfl := Except.ok.inj returns
      exact List.forall_mem_nil _

variable {broadcastDay : String} {tz : Option Zone} {seed : Option Int}

/-- A step compiles to compiled blocks, whichever compiler it goes to. -/
theorem compile_compiled {step : DayStep} {carried : Carried}
    {out : List ProgramBlockOutput × Carried}
    (returns : step.compile rng lookup gridMinutes broadcastDay tz seed carried = .ok out) :
    ∀ block ∈ out.1, Compiled gridMinutes block := by
  cases compile_cases returns with
  | episodes blockDef none_ compiles leaves =>
    unfold compileEpisodeBlock at compiles
    iterate 10 obtain ⟨_, _, compiles⟩ := bind_eq_ok.mp compiles
    exact episodeLoop_compiled compiles
  | sitcom blockDef none_ compiles leaves =>
    unfold compileSitcomBlock at compiles
    iterate 5 obtain ⟨_, _, compiles⟩ := bind_eq_ok.mp compiles
    exact sitcomLoop_compiled compiles
  | marathon layered blockDef usedIds isMarathon compiles counters leaves =>
    unfold compileMovieMarathon at compiles
    iterate 11 obtain ⟨_, _, compiles⟩ := bind_eq_ok.mp compiles
    exact marathonLoop_compiled compiles
  | movie blockDef isMovie compiles leaves =>
    unfold compileMovieBlock at compiles
    iterate 8 obtain ⟨_, _, compiles⟩ := bind_eq_ok.mp compiles
    rw [← Except.ok.inj compiles]
    exact forall_compiled_cons (programBlock_compiled _ _ _ _ _ _ _) (List.forall_mem_nil _)
  | skipped none_ leaves =>
    rw [leaves]
    exact List.forall_mem_nil _

/-- Everything that a day compiles to is a compiled block. -/
theorem compiledBlocks_compiled {R : Type} {resolver : AssetResolver R}
    {zoneInfo : String → Option Zone} {dsl : Dict} {source : R} {counters : Counters}
    {out : List ProgramBlockOutput × Counters}
    (returns : compiledBlocks resolver rng zoneInfo dsl source seed counters = .ok out) :
    ∀ block ∈ out.1, Compiled (gridMinutesOf dsl) block := by
  obtain ⟨_, -, each⟩ := compiledBlocks_rel
    (P := fun _ blocks _ => ∀ block ∈ blocks, Compiled (gridMinutesOf dsl) block)
    (fun _ => List.forall_mem_nil _)
    (fun _ _ _ _ _ first second => List.forall_mem_append.mpr ⟨first, second⟩)
    (fun _ _ _ _ _ compiled => compile_compiled compiled) returns
  exact each

theorem gridMinutesOf_pos (dsl : Dict) : 0 < gridMinutesOf dsl := by
  unfold gridMinutesOf
  split <;> omega

/-- A compiled block is not empty. -/
theorem Compiled.slot_pos {block : ProgramBlockOutput} (compiled : Compiled gridMinutes block)
    (grid : 0 < gridMinutes) : 0 < block.slotDurationSec := by
  rw [compiled.2]
  unfold gridSlotDuration
  have needed : 1 ≤ slotsNeeded gridMinutes block.episodeDurationSec := le_max_left _ _
  positivity

end Output

/-! ### What the timeline should be -/

section Specification

variable (zone : Zone)

/-- The asset, the slot and the episode of a block. -/
def airing (block : ProgramBlockOutput) : String × Int × Int :=
  (block.assetId, block.slotDurationSec, block.episodeDurationSec)

/-- The compiled blocks in start order. -/
def inStartOrder (compiled : List ProgramBlockOutput) : List ProgramBlockOutput :=
  sortByKey (fun block => block.startAt.clock) compiled

/-- The end of a block, by the seconds it takes. -/
def endEpoch (block : ProgramBlockOutput) : Int :=
  block.startAt.epoch zone + block.slotDurationSec

/-- The start that an overlap forces on a block: its own, or the end before it if that is later. -/
def forcedStart (lastEnd : Option Int) (own : Int) : Int :=
  match lastEnd with
  | none => own
  | some lastEnd => max own lastEnd

/-- Each block starts where the overlap with the one put out before it forces it to. -/
def Forced : Option Int → List ProgramBlockOutput → List ProgramBlockOutput → Prop
  | _, [], [] => True
  | lastEnd, own :: rest, block :: blocks =>
    block.startAt.epoch zone = forcedStart lastEnd (own.startAt.epoch zone) ∧
      Forced (some (endEpoch zone block)) rest blocks
  | _, _, _ => False

/-- A well-formed timeline of compiled blocks. -/
structure WellFormed (gridMinutes : Nat) (compiled blocks : List ProgramBlockOutput) : Prop where
  ascending : blocks.Pairwise fun a b => a.startAt.epoch zone ≤ b.startAt.epoch zone
  disjoint : blocks.Pairwise fun a b => endEpoch zone a ≤ b.startAt.epoch zone
  aligned : ∀ block ∈ blocks, ((gridMinutes * 60 : Nat) : Int) ∣ block.startAt.epoch zone ∧
    ((gridMinutes * 60 : Nat) : Int) ∣ block.slotDurationSec
  carried : blocks.map airing = (inStartOrder compiled).map airing
  forced : Forced zone none (inStartOrder compiled) blocks

/-- A block that was put out: where it ends, and whether it runs on the channel's clock. -/
structure Last where
  lastEnd : Int
  onClock : Bool
  deriving DecidableEq

/-- What the next block leaves: an overlap hands on the clock of the block it pushes from, else a
block at offset zero runs on the channel's clock. -/
def Last.next (last : Option Last) (block : ProgramBlockOutput) : Last :=
  let own := block.startAt.epoch zone
  match last with
  | none => ⟨own + block.slotDurationSec, block.startAt.utcoffset zone = 0⟩
  | some last =>
    if own < last.lastEnd then ⟨last.lastEnd + block.slotDurationSec, last.onClock⟩
    else ⟨own + block.slotDurationSec, block.startAt.utcoffset zone = 0⟩

/-- The block before runs on the channel's clock, over a shift of the zone's offset at its end; this
one, at an offset that is not zero, starts inside the shift. -/
def StartsInShift (last : Option Last) (block : ProgramBlockOutput) : Prop :=
  match last with
  | none => False
  | some last =>
    last.onClock = true ∧ block.startAt.utcoffset zone ≠ 0 ∧
      last.lastEnd - zone last.lastEnd ≤ block.startAt.epoch zone ∧
      block.startAt.epoch zone < last.lastEnd

/-- No block of the list starts inside a shift. -/
def NoStartInShift : Option Last → List ProgramBlockOutput → Prop
  | _, [] => True
  | last, block :: rest =>
    ¬ StartsInShift zone last block ∧ NoStartInShift (some (Last.next zone last block)) rest

instance (last : Option Last) (block : ProgramBlockOutput) :
    Decidable (StartsInShift zone last block) := by
  unfold StartsInShift
  cases last with
  | none => exact inferInstanceAs (Decidable False)
  | some last => exact inferInstanceAs (Decidable (_ ∧ _ ∧ _ ∧ _))

instance noStartInShiftDecidable : ∀ (last : Option Last) (blocks : List ProgramBlockOutput),
    Decidable (NoStartInShift zone last blocks)
  | _, [] => inferInstanceAs (Decidable True)
  | last, block :: rest =>
    have := noStartInShiftDecidable (some (Last.next zone last block)) rest
    inferInstanceAs (Decidable
      (¬ StartsInShift zone last block ∧ NoStartInShift zone (some (Last.next zone last block)) rest))

end Specification

/-! ### One step of the compaction -/

section Compaction

variable {zone : Zone}

/-- What a block that was put out leaves. -/
def lastOf (zone : Zone) (block : ProgramBlockOutput) : Last :=
  ⟨endEpoch zone block, match block.startAt with | .zoned _ => true | .utc _ => false⟩

section Kept

variable {γ : Type} {f : ProgramBlockOutput → γ}
  (kept : ∀ block startAt, f (ProgramBlockOutput.moved block startAt) = f block)

include kept

/-- What a block carries wherever it is moved is not changed by bringing it to UTC. -/
theorem normalise_kept (zone : Zone) (block : ProgramBlockOutput) :
    f (normalise zone block) = f block := by
  unfold normalise
  split
  · exact kept _ _
  · rfl

theorem pushed_kept (last : Option ProgramBlockOutput) (block : ProgramBlockOutput) :
    f (pushed zone last block) = f block := by
  unfold pushed
  split
  · rfl
  · split
    · exact kept _ _
    · rfl

theorem compact_kept (last : Option ProgramBlockOutput) (blocks : List ProgramBlockOutput) :
    (compact zone last blocks).map f = blocks.map f := by
  induction blocks generalizing last with
  | nil => rfl
  | cons block rest ih =>
    show f (pushed zone last block) :: (compact zone _ rest).map f = _
    rw [pushed_kept kept, ih, List.map_cons]

/-- **The timeline keeps what its blocks carry**, in start order. -/
theorem timeline_kept {gridMinutes : Nat} {compiled blocks : List ProgramBlockOutput}
    (returns : timeline zone gridMinutes compiled = .ok blocks) :
    blocks.map f = (inStartOrder compiled).map f := by
  unfold timeline at returns
  obtain ⟨_, _, returns⟩ := bind_eq_ok.mp returns
  obtain ⟨_, _, returns⟩ := bind_eq_ok.mp returns
  obtain rfl := Except.ok.inj returns
  rw [compact_kept kept, List.map_map]
  exact List.map_congr_left fun block _ => normalise_kept kept zone block

end Kept

theorem airing_moved (block : ProgramBlockOutput) (startAt : Stamp) :
    airing (block.moved startAt) = airing block := rfl

theorem normalise_airing (zone : Zone) (block : ProgramBlockOutput) :
    airing (normalise zone block) = airing block := normalise_kept airing_moved zone block

/-- Bringing a block to UTC does not change when it starts. -/
theorem normalise_epoch (block : ProgramBlockOutput) :
    (normalise zone block).startAt.epoch zone = block.startAt.epoch zone := by
  unfold normalise
  split <;> rfl

/-- A block left where it is keeps the channel's clock exactly at offset zero. -/
theorem lastOf_normalise (zone : Zone) {block : ProgramBlockOutput}
    (zoned : ∃ wall, block.startAt = .zoned wall) :
    lastOf zone (normalise zone block) =
      ⟨block.startAt.epoch zone + block.slotDurationSec, block.startAt.utcoffset zone = 0⟩ := by
  obtain ⟨wall, starts⟩ := zoned
  unfold lastOf endEpoch normalise
  by_cases shifted : block.startAt.utcoffset zone ≠ 0
  · rw [if_pos shifted]
    simp only [ne_eq] at shifted
    simp [ProgramBlockOutput.moved, Stamp.epoch, shifted]
  · rw [if_neg shifted, starts]
    rw [not_not, starts] at shifted
    simp [shifted]

/-- The end of a block in UTC is later than a stamp by the instants. -/
theorem utc_after (epoch : Int) (start : Stamp) :
    (Stamp.utc epoch).after zone start = decide (start.epoch zone < epoch) := by
  cases start <;> rfl

theorem pushed_of_after {last block : ProgramBlockOutput}
    (after : last.endAt.after zone block.startAt = true) :
    pushed zone (some last) block = block.moved last.endAt := if_pos after

theorem pushed_of_not_after {last block : ProgramBlockOutput}
    (before : last.endAt.after zone block.startAt = false) :
    pushed zone (some last) block = block := by
  unfold pushed
  dsimp only
  rw [before]
  rfl

/-- The step that the compaction should make, and what it should leave. -/
def StepForced (zone : Zone) (last : Option ProgramBlockOutput) (block put : ProgramBlockOutput) :
    Prop :=
  put.startAt.epoch zone = forcedStart (last.map (endEpoch zone)) (block.startAt.epoch zone) ∧
    lastOf zone put = Last.next zone (last.map (lastOf zone)) block

/-- After a block in UTC the step is always right. -/
theorem stepForced_of_utc {last block : ProgramBlockOutput} {epoch : Int}
    (zoned : ∃ wall, block.startAt = .zoned wall) (utc : last.startAt = .utc epoch) :
    StepForced zone (some last) block (pushed zone (some last) (normalise zone block)) := by
  have ends : last.endAt = .utc (endEpoch zone last) := by
    unfold ProgramBlockOutput.endAt endEpoch
    rw [utc]
    rfl
  have state : lastOf zone last = ⟨endEpoch zone last, false⟩ := by
    unfold lastOf
    rw [utc]
  unfold StepForced Last.next forcedStart
  simp only [Option.map_some, state]
  by_cases overlap : block.startAt.epoch zone < endEpoch zone last
  · rw [pushed_of_after (by rw [ends, utc_after, normalise_epoch, decide_eq_true overlap]), ends,
      if_pos overlap, max_eq_right overlap.le]
    refine ⟨rfl, ?_⟩
    have slot := congrArg (fun parts => parts.2.1) (normalise_airing zone block)
    show Last.mk (endEpoch zone last + (normalise zone block).slotDurationSec) false = _
    rw [show (normalise zone block).slotDurationSec = block.slotDurationSec from slot]
  · rw [pushed_of_not_after (by rw [ends, utc_after, normalise_epoch, decide_eq_false overlap]),
      if_neg overlap, max_eq_left (not_lt.mp overlap), lastOf_normalise zone zoned]
    exact ⟨normalise_epoch block, rfl⟩

/-- After a block on the channel's clock, what is put out is read off that clock. -/
theorem clock_endAt {last : ProgramBlockOutput} {lastWall : Int}
    (clock : last.startAt = .zoned lastWall) (lastZero : zone lastWall = 0) :
    last.endAt = .zoned (endEpoch zone last) ∧ lastOf zone last = ⟨endEpoch zone last, true⟩ := by
  have start : last.startAt.epoch zone = lastWall := by
    rw [clock]
    show lastWall - zone lastWall = lastWall
    omega
  refine ⟨?_, ?_⟩
  · unfold ProgramBlockOutput.endAt endEpoch
    rw [start, clock]
    rfl
  · unfold lastOf
    rw [clock]

/-- A block pushed from the channel's clock is put at the end it waits for, which is at offset zero
because it is put out. -/
theorem stepForced_of_pushed {last block : ProgramBlockOutput} {lastWall : Int}
    (clock : last.startAt = .zoned lastWall) (lastZero : zone lastWall = 0)
    (after : last.endAt.after zone (normalise zone block).startAt = true)
    (zero : (pushed zone (some last) (normalise zone block)).startAt.utcoffset zone = 0)
    (overlap : zone (endEpoch zone last) = 0 → block.startAt.epoch zone < endEpoch zone last) :
    StepForced zone (some last) block (pushed zone (some last) (normalise zone block)) := by
  obtain ⟨ends, state⟩ := clock_endAt clock lastZero
  rw [pushed_of_after after] at zero ⊢
  have shift : zone (endEpoch zone last) = 0 := by
    rw [ends] at zero
    exact zero
  have before := overlap shift
  have start : ((normalise zone block).moved last.endAt).startAt.epoch zone =
      endEpoch zone last := by
    show last.endAt.epoch zone = endEpoch zone last
    rw [ends]
    show endEpoch zone last - zone (endEpoch zone last) = endEpoch zone last
    omega
  have slot : (normalise zone block).slotDurationSec = block.slotDurationSec :=
    congrArg (fun parts => parts.2.1) (normalise_airing zone block)
  unfold StepForced Last.next forcedStart
  simp only [Option.map_some, state]
  rw [if_pos before, max_eq_right before.le]
  refine ⟨start, ?_⟩
  have moved : lastOf zone ((normalise zone block).moved last.endAt) =
      ⟨endEpoch zone last + (normalise zone block).slotDurationSec, true⟩ := by
    unfold lastOf
    rw [show endEpoch zone ((normalise zone block).moved last.endAt) =
      endEpoch zone last + (normalise zone block).slotDurationSec from congrArg (· + _) start]
    show Last.mk _ (match last.endAt with | .zoned _ => true | .utc _ => false) = _
    rw [ends]
  rw [moved, slot]

/-- A block left where it is after one on the channel's clock. -/
theorem stepForced_of_left {last block : ProgramBlockOutput} {lastWall : Int}
    (zoned : ∃ wall, block.startAt = .zoned wall) (clock : last.startAt = .zoned lastWall)
    (lastZero : zone lastWall = 0)
    (before : last.endAt.after zone (normalise zone block).startAt = false)
    (later : endEpoch zone last ≤ block.startAt.epoch zone) :
    StepForced zone (some last) block (pushed zone (some last) (normalise zone block)) := by
  obtain ⟨_, state⟩ := clock_endAt clock lastZero
  unfold StepForced Last.next forcedStart
  simp only [Option.map_some, state]
  rw [pushed_of_not_after before, if_neg (not_lt.mpr later), max_eq_left later,
    lastOf_normalise zone zoned]
  exact ⟨normalise_epoch block, rfl⟩

/-- Two blocks at offset zero compare by the one clock. -/
theorem stepForced_of_unshifted {last block : ProgramBlockOutput} {wall lastWall : Int}
    (zoned : block.startAt = .zoned wall) (unshifted : zone wall = 0)
    (clock : last.startAt = .zoned lastWall) (lastZero : zone lastWall = 0)
    (zero : (pushed zone (some last) (normalise zone block)).startAt.utcoffset zone = 0) :
    StepForced zone (some last) block (pushed zone (some last) (normalise zone block)) := by
  obtain ⟨ends, _⟩ := clock_endAt clock lastZero
  have own : block.startAt.epoch zone = wall := by
    rw [zoned]
    show wall - zone wall = wall
    omega
  have left : normalise zone block = block := if_neg (by
    rw [zoned, not_not]
    exact unshifted)
  have compared : last.endAt.after zone (normalise zone block).startAt =
      decide (wall < endEpoch zone last) := by
    rw [ends, left, zoned]
    rfl
  by_cases overlap : wall < endEpoch zone last
  · exact stepForced_of_pushed clock lastZero (compared.trans (decide_eq_true overlap)) zero
      fun _ => own.trans_lt overlap
  · exact stepForced_of_left ⟨wall, zoned⟩ clock lastZero
      (compared.trans (decide_eq_false overlap)) (own ▸ not_lt.mp overlap)

/-- A block at a shifted offset compares by its instant with the other clock's. -/
theorem stepForced_of_shifted {last block : ProgramBlockOutput} {wall lastWall : Int}
    (zoned : block.startAt = .zoned wall) (shifted : zone wall ≠ 0)
    (clock : last.startAt = .zoned lastWall) (lastZero : zone lastWall = 0)
    (zero : (pushed zone (some last) (normalise zone block)).startAt.utcoffset zone = 0)
    (outside : ¬ StartsInShift zone (some (lastOf zone last)) block) :
    StepForced zone (some last) block (pushed zone (some last) (normalise zone block)) := by
  obtain ⟨ends, state⟩ := clock_endAt clock lastZero
  have offset : block.startAt.utcoffset zone ≠ 0 := by
    rw [zoned]
    exact shifted
  have moved : normalise zone block = block.moved (.utc (block.startAt.epoch zone)) := if_pos offset
  have compared : last.endAt.after zone (normalise zone block).startAt =
      decide (block.startAt.epoch zone < endEpoch zone last - zone (endEpoch zone last)) := by
    rw [ends, moved]
    rfl
  rw [state] at outside
  by_cases overlap : block.startAt.epoch zone < endEpoch zone last - zone (endEpoch zone last)
  · exact stepForced_of_pushed clock lastZero (compared.trans (decide_eq_true overlap)) zero
      fun shift => by omega
  · exact stepForced_of_left ⟨wall, zoned⟩ clock lastZero
      (compared.trans (decide_eq_false overlap))
      (not_lt.mp fun before => outside ⟨rfl, offset, not_lt.mp overlap, before⟩)

/-- **A step is right unless the block starts inside a shift.** -/
theorem stepForced_of_outside {last : Option ProgramBlockOutput} {block : ProgramBlockOutput}
    (zoned : ∃ wall, block.startAt = .zoned wall)
    (lastZero : ∀ put ∈ last, put.startAt.utcoffset zone = 0)
    (zero : (pushed zone last (normalise zone block)).startAt.utcoffset zone = 0)
    (outside : ¬ StartsInShift zone (last.map (lastOf zone)) block) :
    StepForced zone last block (pushed zone last (normalise zone block)) := by
  cases last with
  | none =>
    refine ⟨normalise_epoch block, ?_⟩
    exact lastOf_normalise zone zoned
  | some last =>
    cases clock : last.startAt with
    | utc epoch => exact stepForced_of_utc zoned clock
    | zoned lastWall =>
      have atZero : zone lastWall = 0 := by
        have offset := lastZero last rfl
        rwa [clock] at offset
      obtain ⟨wall, starts⟩ := zoned
      by_cases unshifted : zone wall = 0
      · exact stepForced_of_unshifted starts unshifted clock atZero zero
      · exact stepForced_of_shifted starts unshifted clock atZero zero outside

/-- A block inside a shift is put out before the end it should wait for. -/
theorem outside_of_epoch {last : Option ProgramBlockOutput} {block : ProgramBlockOutput}
    (lastZero : ∀ put ∈ last, put.startAt.utcoffset zone = 0)
    (forced : (pushed zone last (normalise zone block)).startAt.epoch zone =
      forcedStart (last.map (endEpoch zone)) (block.startAt.epoch zone)) :
    ¬ StartsInShift zone (last.map (lastOf zone)) block := by
  cases last with
  | none => exact id
  | some last =>
    rintro ⟨onClock, offset, from_, before⟩
    cases clock : last.startAt with
    | utc epoch =>
      unfold lastOf at onClock
      rw [clock] at onClock
      cases onClock
    | zoned lastWall =>
      have atZero : zone lastWall = 0 := by
        have offset := lastZero last rfl
        rwa [clock] at offset
      obtain ⟨ends, state⟩ := clock_endAt clock atZero
      have moved : normalise zone block = block.moved (.utc (block.startAt.epoch zone)) :=
        if_pos offset
      rw [state] at from_ before
      dsimp only at from_ before
      rw [pushed_of_not_after (by
        rw [ends, moved]
        exact decide_eq_false (not_lt.mpr from_)), normalise_epoch] at forced
      unfold forcedStart at forced
      dsimp only [Option.map_some] at forced
      have later := le_max_right (block.startAt.epoch zone) (endEpoch zone last)
      omega

/-- **The compaction is forced exactly where no block starts inside a shift**, once what it puts out
is at offset zero. -/
theorem compact_forced_iff : ∀ (blocks : List ProgramBlockOutput) (last : Option ProgramBlockOutput),
    (∀ block ∈ blocks, ∃ wall, block.startAt = .zoned wall) →
    (∀ put ∈ last, put.startAt.utcoffset zone = 0) →
    (∀ put ∈ compact zone last (blocks.map (normalise zone)), put.startAt.utcoffset zone = 0) →
      (Forced zone (last.map (endEpoch zone)) blocks
          (compact zone last (blocks.map (normalise zone))) ↔
        NoStartInShift zone (last.map (lastOf zone)) blocks)
  | [], _, _, _, _ => Iff.rfl
  | block :: rest, last, zoned, lastZero, zero => by
    obtain ⟨here, zonedRest⟩ := List.forall_mem_cons.mp zoned
    obtain ⟨put, zeroRest⟩ := List.forall_mem_cons.mp zero
    have others := compact_forced_iff rest (some (pushed zone last (normalise zone block)))
      zonedRest (fun _ same => Option.some.inj same ▸ put) zeroRest
    constructor
    · rintro ⟨starts, tail⟩
      have outside := outside_of_epoch lastZero starts
      have step := stepForced_of_outside here lastZero put outside
      refine ⟨outside, ?_⟩
      rw [← step.2]
      exact others.mp tail
    · rintro ⟨outside, tail⟩
      have step := stepForced_of_outside here lastZero put outside
      refine ⟨step.1, others.mpr ?_⟩
      rw [← step.2] at tail
      exact tail

/-- Blocks that pass the validation are at offset zero and on the grid. -/
theorem validateGridAlignment_ok {gridMinutes : Nat} : ∀ {blocks : List ProgramBlockOutput},
    validateGridAlignment zone gridMinutes blocks = .ok () → ∀ block ∈ blocks,
      block.startAt.utcoffset zone = 0 ∧
        ((gridMinutes * 60 : Nat) : Int) ∣ block.startAt.epoch zone ∧
        ((gridMinutes * 60 : Nat) : Int) ∣ block.slotDurationSec
  | [], _, _, member => by cases member
  | head :: rest, valid, block, member => by
    unfold validateGridAlignment at valid
    obtain ⟨_, here, later⟩ := bind_eq_ok.mp valid
    rcases List.mem_cons.mp member with rfl | inRest
    · unfold checkGridAlignment at here
      push_cast
      by_cases offset : block.startAt.utcoffset zone ≠ 0
      · rw [if_pos offset] at here
        cases here
      · rw [if_neg offset] at here
        by_cases start : block.startAt.epoch zone % ((gridMinutes : Int) * 60) ≠ 0
        · rw [if_pos start] at here
          cases here
        · rw [if_neg start] at here
          by_cases slot : block.slotDurationSec % ((gridMinutes : Int) * 60) ≠ 0
          · rw [if_pos slot] at here
            cases here
          · exact ⟨not_not.mp offset, Int.dvd_of_emod_eq_zero (not_not.mp start),
              Int.dvd_of_emod_eq_zero (not_not.mp slot)⟩
    · exact validateGridAlignment_ok later block inRest

/-- Forced blocks that are not empty lie one after the other. -/
theorem Forced.disjoint : ∀ {lastEnd : Option Int} {own blocks : List ProgramBlockOutput},
    Forced zone lastEnd own blocks → (∀ block ∈ blocks, 0 < block.slotDurationSec) →
      (∀ before ∈ lastEnd, ∀ block ∈ blocks, before ≤ block.startAt.epoch zone) ∧
        blocks.Pairwise fun a b => endEpoch zone a ≤ b.startAt.epoch zone
  | _, [], [], _, _ => ⟨fun _ _ _ member => absurd member List.not_mem_nil, List.Pairwise.nil⟩
  | lastEnd, first :: _, block :: rest, ⟨starts, tail⟩, positive => by
    obtain ⟨here, later⟩ := List.forall_mem_cons.mp positive
    obtain ⟨after, pairwise⟩ := tail.disjoint later
    have atLeast : ∀ before ∈ lastEnd, before ≤ block.startAt.epoch zone := by
      rintro before isLast
      rw [starts, Option.mem_def.mp isLast]
      exact le_max_right _ _
    refine ⟨fun before isLast other member => ?_, List.Pairwise.cons (after _ rfl) pairwise⟩
    rcases List.mem_cons.mp member with rfl | inRest
    · exact atLeast before isLast
    · have ends := after _ rfl other inRest
      have begins := atLeast before isLast
      unfold endEpoch at ends
      omega

end Compaction

/-! ### The timeline of a compilation -/

section Main

variable {zone : Zone} {gridMinutes : Nat}

/-- A timeline is well formed exactly when no compiled block starts inside a shift. -/
theorem timeline_wellFormed_iff {compiled blocks : List ProgramBlockOutput}
    (grid : 0 < gridMinutes) (isCompiled : ∀ block ∈ compiled, Compiled gridMinutes block)
    (returns : timeline zone gridMinutes compiled = .ok blocks) :
    WellFormed zone gridMinutes compiled blocks ↔
      NoStartInShift zone none (inStartOrder compiled) := by
  have kept := timeline_kept airing_moved returns
  unfold timeline at returns
  obtain ⟨_, _, returns⟩ := bind_eq_ok.mp returns
  obtain ⟨_, valid, returns⟩ := bind_eq_ok.mp returns
  obtain rfl := Except.ok.inj returns
  have valid := validateGridAlignment_ok valid
  have ordered : ∀ block ∈ inStartOrder compiled, Compiled gridMinutes block := fun block member =>
    isCompiled block ((mem_sortByKey _).mp member)
  have carried : (compact zone none ((inStartOrder compiled).map (normalise zone))).map airing =
      (inStartOrder compiled).map airing := kept
  have positive : ∀ block ∈ compact zone none ((inStartOrder compiled).map (normalise zone)),
      0 < block.slotDurationSec := by
    intro block member
    have airs := List.mem_map_of_mem (f := airing) member
    rw [carried] at airs
    obtain ⟨own, isOwn, same⟩ := List.mem_map.mp airs
    have slot : own.slotDurationSec = block.slotDurationSec := congrArg (·.2.1) same
    exact slot ▸ (ordered own isOwn).slot_pos grid
  rw [← show (none : Option ProgramBlockOutput).map (lastOf zone) = none from rfl,
    ← compact_forced_iff (inStartOrder compiled) none (fun block member => (ordered block member).1)
      (fun _ absent => by cases absent) fun put member => (valid put member).1]
  refine ⟨fun wellFormed => wellFormed.forced, fun forced => ?_⟩
  have disjoint := (Forced.disjoint forced positive).2
  refine ⟨?_, disjoint, fun block member => (valid block member).2, carried, forced⟩
  apply disjoint.imp_of_mem
  intro a b first _ ends
  have slot := positive a first
  unfold endEpoch at ends
  omega

/-- A schedule is the timeline of its compiled blocks. -/
theorem compileSchedule_timeline {R : Type} {resolver : AssetResolver R} {rng : RandomSource}
    {zoneInfo : String → Option Zone} {dsl : Dict} {source : R} {seed : Option Int}
    {counters : Counters} {schedule : ProgramSchedule × Counters}
    (returns : compileSchedule resolver rng zoneInfo dsl source seed counters = .ok schedule) :
    ∃ compiled later, compiledBlocks resolver rng zoneInfo dsl source seed counters =
        .ok (compiled, later) ∧
      timeline (scheduleZone zoneInfo dsl) (gridMinutesOf dsl) compiled =
        .ok schedule.1.programBlocks := by
  unfold compileSchedule at returns
  obtain ⟨⟨compiled, later⟩, compiles, returns⟩ := bind_eq_ok.mp returns
  obtain ⟨_, _, returns⟩ := bind_eq_ok.mp returns
  obtain ⟨_, _, returns⟩ := bind_eq_ok.mp returns
  obtain ⟨_, _, returns⟩ := bind_eq_ok.mp returns
  obtain ⟨blocks, made, returns⟩ := bind_eq_ok.mp returns
  obtain rfl := Except.ok.inj returns
  exact ⟨compiled, later, compiles, made⟩

/-- **The compiled schedule is a well-formed timeline** exactly when no compiled block at a shifted
offset starts within the shift of the block before it. -/
theorem compileSchedule_wellFormed_iff {R : Type} {resolver : AssetResolver R} {rng : RandomSource}
    {zoneInfo : String → Option Zone} {dsl : Dict} {source : R} {seed : Option Int}
    {counters later : Counters} {compiled : List ProgramBlockOutput}
    {schedule : ProgramSchedule × Counters}
    (compiles : compiledBlocks resolver rng zoneInfo dsl source seed counters =
      .ok (compiled, later))
    (returns : compileSchedule resolver rng zoneInfo dsl source seed counters = .ok schedule) :
    WellFormed (scheduleZone zoneInfo dsl) (gridMinutesOf dsl) compiled
        schedule.1.programBlocks ↔
      NoStartInShift (scheduleZone zoneInfo dsl) none (inStartOrder compiled) := by
  obtain ⟨_, _, same, made⟩ := compileSchedule_timeline returns
  obtain ⟨rfl, rfl⟩ := Prod.mk.inj (Except.ok.inj (compiles.symm.trans same))
  exact timeline_wellFormed_iff (gridMinutesOf_pos dsl) (compiledBlocks_compiled compiles) made

end Main

/-! ### The night the clocks go forward -/

section Counterexample

/-- London before and after 30 March 2025, two in the morning; the hour that does not exist keeps
the offset before it. -/
def london : Zone := fun wall => if wall < 1743300000 then 0 else 3600

/-- One half-hour programme in one pool. -/
def newsCatalog : AssetResolver Unit where
  lookup _ := fun assetId =>
    if assetId = "news" then some { durationSec := 0, tags := ["bulletin"] }
    else if assetId = "bulletin" then some { durationSec := 1800, title := "Bulletin" }
    else none
  registerPools source _ := source

/-- A generator that always draws the first. -/
def firstDrawn : RandomSource where
  State := Unit
  seeded _ := ()
  below _ _ := (0, ())

/-- The news from midnight to four, on a broadcast day. -/
def newsDsl (day : String) : Dict :=
  [("channel", .str "one"), ("broadcast_day", .str day), ("timezone", .str "Europe/London"),
    ("schedule", .dict [("all_day", .list [.dict [("block", .dict
      [("start", .str "00:00"), ("end", .str "04:00"), ("pool", .str "news")])]])])]

/-- The zone of the news. -/
def newsZones (name : String) : Option Zone := if name = "Europe/London" then some london else none

def newsCompiled (day : String) : Compile (List ProgramBlockOutput × Counters) :=
  compiledBlocks newsCatalog firstDrawn newsZones (newsDsl day) () (some 42) fun _ => 0

def newsSchedule (day : String) : Compile (ProgramSchedule × Counters) :=
  compileSchedule newsCatalog firstDrawn newsZones (newsDsl day) () (some 42) fun _ => 0

/-- A computation whose result is seen has returned. -/
theorem returned_of_seen {α β : Type} {computation : Compile α} {view : α → β} {seen : β}
    (result : computation.toOption.map view = some seen) :
    ∃ a, computation = .ok a ∧ view a = seen := by
  cases computation with
  | error reason => cases result
  | ok a => exact ⟨a, rfl, Option.some.inj result⟩

/-- The starts of the news that night: one and half past one in the morning, twice. -/
def nightStarts : List Int :=
  [1743292800, 1743294600, 1743296400, 1743298200, 1743296400, 1743298200, 1743300000, 1743301800]

/-- **The half hours from one to two are booked twice**: after the bulletin of half past one comes
the one of two o'clock, which is one o'clock in UTC. -/
theorem spring_forward_books_twice :
    ∃ compiled later schedule, newsCompiled "2025-03-29" = .ok (compiled, later) ∧
      newsSchedule "2025-03-29" = .ok schedule ∧
      schedule.1.programBlocks.map (fun block => block.startAt.epoch london) = nightStarts ∧
      ¬ WellFormed (scheduleZone newsZones (newsDsl "2025-03-29"))
        (gridMinutesOf (newsDsl "2025-03-29")) compiled schedule.1.programBlocks := by
  obtain ⟨⟨compiled, later⟩, compiles, _⟩ := returned_of_seen
    (show (newsCompiled "2025-03-29").toOption.map (fun out => out.1.length) = some 8 by
      decide +kernel)
  obtain ⟨schedule, returns, starts⟩ := returned_of_seen
    (show (newsSchedule "2025-03-29").toOption.map
      (fun out => out.1.programBlocks.map fun block => block.startAt.epoch london) =
        some nightStarts by decide +kernel)
  refine ⟨compiled, later, schedule, compiles, returns, starts, fun wellFormed => ?_⟩
  have ascending : (schedule.1.programBlocks.map fun block =>
      block.startAt.epoch london).Pairwise (· ≤ ·) := List.pairwise_map.mpr wellFormed.ascending
  rw [starts] at ascending
  exact absurd ascending (by decide)

/-- A night without a change of the clocks. -/
theorem winter_news_wellFormed :
    ∃ compiled later schedule, newsCompiled "2025-01-15" = .ok (compiled, later) ∧
      newsSchedule "2025-01-15" = .ok schedule ∧
      WellFormed (scheduleZone newsZones (newsDsl "2025-01-15"))
        (gridMinutesOf (newsDsl "2025-01-15")) compiled schedule.1.programBlocks := by
  obtain ⟨⟨compiled, later⟩, compiles, quiet⟩ := returned_of_seen
    (show (newsCompiled "2025-01-15").toOption.map (fun out => decide (NoStartInShift
      (scheduleZone newsZones (newsDsl "2025-01-15")) none (inStartOrder out.1))) = some true by
      decide +kernel)
  obtain ⟨schedule, returns, _⟩ := returned_of_seen
    (show (newsSchedule "2025-01-15").toOption.map (fun out => out.1.programBlocks.length) =
      some 8 by decide +kernel)
  exact ⟨compiled, later, schedule, compiles, returns,
    (compileSchedule_wellFormed_iff compiles returns).mpr (of_decide_eq_true quiet)⟩

end Counterexample

end Retrovue.Core.Compiler
