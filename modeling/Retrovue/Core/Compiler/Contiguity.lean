/-
**The programs of an episode block, across a change of the clocks.**

The loop of an episode block adds up slots on the channel's clock; the timeline brings the starts to
UTC afterwards and moves a program only forward, out of an overlap. So the programs stay end to end
through a change of the offset only where it makes them overlap, and only in UTC.

* `OnClock`: programs end to end on the channel's clock, which is what the loop builds
  (`episodeLoop_onClock`);
* `Contiguous`: each program starts where the one before it ends, in UTC;
* `Steady`: the offsets at the programs' starts never fall below the first one, and stay zero where
  that is zero;
* `episodeBlock_contiguous_iff`: the programs of an episode block are contiguous exactly when the
  offsets are steady.
-/

import Mathlib
import Retrovue.Core.Compiler.Timeline

namespace Retrovue.Core.Compiler

open Retrovue.Core.Schedule Retrovue.Foundation.Sorting Retrovue.Foundation.Fallible

/-! ### Programs end to end -/

section Definitions

variable (zone : Zone)

/-- The programs lie end to end on the channel's clock, from a wall time on. -/
def OnClock : Int → List ProgramBlockOutput → Prop
  | _, [] => True
  | wall, block :: rest =>
    block.startAt = .zoned wall ∧ OnClock (wall + block.slotDurationSec) rest

/-- In UTC, each program starts where the one before it ends. -/
def Contiguous (blocks : List ProgramBlockOutput) : Prop :=
  blocks.IsChain fun before block => endEpoch zone before = block.startAt.epoch zone

instance contiguousDecidable (blocks : List ProgramBlockOutput) :
    Decidable (Contiguous zone blocks) :=
  inferInstanceAs (Decidable (blocks.IsChain fun before block =>
    endEpoch zone before = block.startAt.epoch zone))

/-- The zone's offsets at the starts of programs. -/
def offsets (blocks : List ProgramBlockOutput) : List Int :=
  blocks.map fun block => block.startAt.utcoffset zone

/-- Offsets that stay zero, or that start elsewhere and never fall below the first. -/
def Steady : List Int → Prop
  | [] => True
  | first :: rest => if first = 0 then ∀ offset ∈ rest, offset = 0 else ∀ offset ∈ rest, first ≤ offset

instance steadyDecidable : ∀ offsets : List Int, Decidable (Steady offsets)
  | [] => inferInstanceAs (Decidable True)
  | first :: rest => inferInstanceAs (Decidable
      (if first = 0 then ∀ offset ∈ rest, offset = 0 else ∀ offset ∈ rest, first ≤ offset))

end Definitions

/-! ### The loop of an episode block -/

section Loop

variable {rng : RandomSource} {lookup : Lookup} {gridMinutes : Nat}

/-- The loop puts its programs end to end on the channel's clock. -/
theorem episodeLoop_onClock {episodes : EpisodeBlock} {iterations : Nat} {currentTime : Int}
    {poolIndex : Nat} {state : rng.State} {counters : Counters}
    {out : List ProgramBlockOutput × Counters}
    (returns : episodeLoop rng lookup gridMinutes episodes iterations currentTime poolIndex state
      counters = .ok out) :
    OnClock currentTime out.1 := by
  induction iterations generalizing currentTime poolIndex state counters out with
  | zero =>
    obtain rfl := Except.ok.inj returns
    trivial
  | succ iterations ih =>
    unfold episodeLoop at returns
    by_cases before : currentTime < episodes.endTime
    · rw [if_pos before] at returns
      obtain ⟨_, _, returns⟩ := bind_eq_ok.mp returns
      obtain ⟨_, _, returns⟩ := bind_eq_ok.mp returns
      obtain ⟨_, _, returns⟩ := bind_eq_ok.mp returns
      obtain ⟨_, _, returns⟩ := bind_eq_ok.mp returns
      obtain ⟨_, tail, returns⟩ := bind_eq_ok.mp returns
      obtain rfl := Except.ok.inj returns
      exact ⟨rfl, ih tail⟩
    · rw [if_neg before] at returns
      obtain rfl := Except.ok.inj returns
      trivial

variable {blockDef : Value} {broadcastDay : String} {tz : Option Zone} {seed : Option Int}
  {counters : Counters} {out : List ProgramBlockOutput × Counters}

/-- An episode block compiles to programs end to end on the channel's clock. -/
theorem compileEpisodeBlock_onClock
    (returns : compileEpisodeBlock rng lookup gridMinutes blockDef broadcastDay tz seed counters =
      .ok out) :
    ∃ wall, OnClock wall out.1 := by
  unfold compileEpisodeBlock at returns
  iterate 10 obtain ⟨_, _, returns⟩ := bind_eq_ok.mp returns
  exact ⟨_, episodeLoop_onClock returns⟩

/-- None of them is empty. -/
theorem compileEpisodeBlock_positive (grid : 0 < gridMinutes)
    (returns : compileEpisodeBlock rng lookup gridMinutes blockDef broadcastDay tz seed counters =
      .ok out) :
    ∀ block ∈ out.1, 0 < block.slotDurationSec := by
  unfold compileEpisodeBlock at returns
  iterate 10 obtain ⟨_, _, returns⟩ := bind_eq_ok.mp returns
  exact fun block member => (episodeLoop_compiled returns block member).slot_pos grid

end Loop

/-! ### The compaction of programs end to end -/

section Compacted

variable {zone : Zone}

/-- Programs end to end on the clock are in order. -/
theorem OnClock.ascending : ∀ {wall : Int} {blocks : List ProgramBlockOutput},
    OnClock wall blocks → (∀ block ∈ blocks, 0 < block.slotDurationSec) →
      Ascending (fun block : ProgramBlockOutput => block.startAt.clock) blocks ∧
        ∀ block ∈ blocks, wall ≤ block.startAt.clock
  | _, [], _, _ => ⟨List.Pairwise.nil, List.forall_mem_nil _⟩
  | wall, block :: rest, ⟨start, others⟩, positive => by
    obtain ⟨here, later⟩ := List.forall_mem_cons.mp positive
    obtain ⟨ordered, from_⟩ := others.ascending later
    have clock : block.startAt.clock = wall := by rw [start]; rfl
    have after : ∀ other ∈ rest, wall ≤ other.startAt.clock := by
      intro other member
      have := from_ other member
      omega
    refine ⟨List.Pairwise.cons (fun other member => ?_) ordered,
      List.forall_mem_cons.mpr ⟨clock.ge, after⟩⟩
    exact clock.trans_le (after other member)

theorem contiguous_cons {before block : ProgramBlockOutput} {rest : List ProgramBlockOutput} :
    Contiguous zone (before :: block :: rest) ↔
      endEpoch zone before = block.startAt.epoch zone ∧ Contiguous zone (block :: rest) :=
  List.isChain_cons_cons

theorem pushed_slot (last : Option ProgramBlockOutput) (block : ProgramBlockOutput) :
    (pushed zone last (normalise zone block)).slotDurationSec = block.slotDurationSec :=
  congrArg (fun parts => parts.2.1)
    ((pushed_kept airing_moved _ _).trans (normalise_airing zone block))

/-- A program at an offset that is not below the one its predecessor runs at starts where that one
ends, in UTC. -/
theorem pushed_behind_utc {last block : ProgramBlockOutput} {wall epoch : Int}
    (utc : last.startAt = .utc epoch) (start : block.startAt = .zoned wall)
    (apart : wall - endEpoch zone last ≠ 0) (above : wall - endEpoch zone last ≤ zone wall) :
    (pushed zone (some last) (normalise zone block)).startAt = .utc (endEpoch zone last) := by
  have ends : last.endAt = .utc (endEpoch zone last) := by
    unfold ProgramBlockOutput.endAt endEpoch
    rw [utc]
    rfl
  have own : (normalise zone block).startAt.epoch zone = wall - zone wall := by
    rw [normalise_epoch, start]
    rfl
  by_cases overlap : wall - zone wall < endEpoch zone last
  · rw [pushed_of_after (by rw [ends, utc_after, own, decide_eq_true overlap]), ends]
    rfl
  · rw [pushed_of_not_after (by rw [ends, utc_after, own, decide_eq_false overlap])]
    have shifted : block.startAt.utcoffset zone ≠ 0 := by
      rw [start]
      show zone wall ≠ 0
      omega
    unfold normalise
    rw [if_pos shifted, start]
    show Stamp.utc (wall - zone wall) = _
    congr 1
    omega

/-- Behind a program in UTC, the others stay end to end while no offset is below the one that it
runs at. -/
theorem contiguous_behind_utc : ∀ (rest : List ProgramBlockOutput) (last : ProgramBlockOutput)
    (wall epoch offset : Int), last.startAt = .utc epoch → OnClock wall rest →
      wall - endEpoch zone last = offset → offset ≠ 0 →
      (Contiguous zone (last :: compact zone (some last) (rest.map (normalise zone))) ↔
        ∀ own ∈ offsets zone rest, offset ≤ own)
  | [], last, _, _, _, _, _, _, _ =>
    ⟨fun _ => List.forall_mem_nil _, fun _ => List.isChain_singleton last⟩
  | block :: rest, last, wall, epoch, offset, utc, ⟨start, others⟩, behind, apart => by
    have own : block.startAt.utcoffset zone = zone wall := by rw [start]; rfl
    have unfolded : offsets zone (block :: rest) = zone wall :: offsets zone rest := by
      unfold offsets
      rw [List.map_cons, own]
    rw [unfolded, List.forall_mem_cons]
    show Contiguous zone (last :: pushed zone (some last) (normalise zone block) ::
      compact zone (some (pushed zone (some last) (normalise zone block))) _) ↔ _
    rw [contiguous_cons]
    by_cases above : offset ≤ zone wall
    · have put := pushed_behind_utc utc start (behind ▸ apart) (behind ▸ above)
      have here : endEpoch zone last =
          (pushed zone (some last) (normalise zone block)).startAt.epoch zone := by
        rw [put]
        rfl
      have later : wall + block.slotDurationSec -
          endEpoch zone (pushed zone (some last) (normalise zone block)) = offset := by
        unfold endEpoch at here ⊢
        rw [← here, pushed_slot]
        unfold endEpoch at behind
        omega
      rw [contiguous_behind_utc rest _ _ _ offset put others later apart]
      exact ⟨fun both => ⟨above, both.2⟩, fun both => ⟨here, both.2⟩⟩
    · have ends : last.endAt = .utc (endEpoch zone last) := by
        unfold ProgramBlockOutput.endAt endEpoch
        rw [utc]
        rfl
      have epoch_ : (normalise zone block).startAt.epoch zone = wall - zone wall := by
        rw [normalise_epoch, start]
        rfl
      have gap : endEpoch zone last < wall - zone wall := by omega
      rw [pushed_of_not_after (by rw [ends, utc_after, epoch_, decide_eq_false (not_lt.mpr gap.le)]),
        epoch_]
      exact ⟨fun both => absurd both.1 gap.ne, fun both => absurd both.1 above⟩

/-- Behind a program on the clock at offset zero, the others stay end to end while their offsets
are zero. -/
theorem contiguous_behind_clock : ∀ (rest : List ProgramBlockOutput) (last : ProgramBlockOutput)
    (lastWall : Int), last.startAt = .zoned lastWall → zone lastWall = 0 →
      OnClock (lastWall + last.slotDurationSec) rest →
      (Contiguous zone (last :: compact zone (some last) (rest.map (normalise zone))) ↔
        ∀ own ∈ offsets zone rest, own = 0)
  | [], last, _, _, _, _ =>
    ⟨fun _ => List.forall_mem_nil _, fun _ => List.isChain_singleton last⟩
  | block :: rest, last, lastWall, clock, zero, ⟨start, others⟩ => by
    obtain ⟨ends, -⟩ := clock_endAt clock zero
    have end_ : endEpoch zone last = lastWall + last.slotDurationSec := by
      unfold endEpoch
      rw [clock]
      show lastWall - zone lastWall + _ = _
      omega
    rw [← end_] at start others
    have own : block.startAt.utcoffset zone = zone (endEpoch zone last) := by rw [start]; rfl
    have unfolded : offsets zone (block :: rest) =
        zone (endEpoch zone last) :: offsets zone rest := by
      unfold offsets
      rw [List.map_cons, own]
    have left : pushed zone (some last) (normalise zone block) = normalise zone block := by
      refine pushed_of_not_after ?_
      rw [ends]
      unfold normalise
      split_ifs with shifted
      · rw [start]
        exact decide_eq_false (lt_irrefl _)
      · rw [start]
        exact decide_eq_false (lt_irrefl _)
    have epoch_ : (normalise zone block).startAt.epoch zone =
        endEpoch zone last - zone (endEpoch zone last) := by
      rw [normalise_epoch, start]
      rfl
    rw [unfolded, List.forall_mem_cons]
    show Contiguous zone (last :: pushed zone (some last) (normalise zone block) ::
      compact zone (some (pushed zone (some last) (normalise zone block))) _) ↔ _
    rw [left, contiguous_cons, epoch_]
    by_cases unshifted : zone (endEpoch zone last) = 0
    · have same : normalise zone block = block := if_neg (by rw [own, not_not]; exact unshifted)
      rw [same, contiguous_behind_clock rest block _ start unshifted others, unshifted]
      simp
    · refine ⟨fun both => absurd both.1 (by omega), fun both => absurd both.1 unshifted⟩

end Compacted

/-! ### The timeline of an episode block -/

section Main

variable {zone : Zone} {gridMinutes : Nat}

/-- What the timeline makes of programs end to end on the clock. -/
theorem timeline_contiguous_iff {wall : Int} {compiled blocks : List ProgramBlockOutput}
    (onClock : OnClock wall compiled) (positive : ∀ block ∈ compiled, 0 < block.slotDurationSec)
    (returns : timeline zone gridMinutes compiled = .ok blocks) :
    Contiguous zone blocks ↔ Steady (offsets zone compiled) := by
  unfold timeline at returns
  rw [sortByKey_of_ascending _ (onClock.ascending positive).1] at returns
  obtain ⟨_, _, returns⟩ := bind_eq_ok.mp returns
  obtain ⟨_, _, returns⟩ := bind_eq_ok.mp returns
  obtain rfl := Except.ok.inj returns
  match compiled, onClock with
  | [], _ => exact ⟨fun _ => trivial, fun _ => List.isChain_nil⟩
  | first :: rest, ⟨start, others⟩ =>
    have own : first.startAt.utcoffset zone = zone wall := by rw [start]; rfl
    show Contiguous zone (normalise zone first ::
        compact zone (some (normalise zone first)) (rest.map (normalise zone))) ↔
      if first.startAt.utcoffset zone = 0 then ∀ offset ∈ offsets zone rest, offset = 0
      else ∀ offset ∈ offsets zone rest, first.startAt.utcoffset zone ≤ offset
    rw [own]
    split_ifs with zero
    · have same : normalise zone first = first := if_neg (by rw [own, not_not]; exact zero)
      rw [same]
      exact contiguous_behind_clock rest first wall start zero others
    · have moved : normalise zone first = first.moved (.utc (wall - zone wall)) := by
        unfold normalise
        rw [if_pos (by rw [own]; exact zero), start]
        rfl
      rw [moved]
      refine contiguous_behind_utc rest _ (wall + first.slotDurationSec) (wall - zone wall)
        (zone wall) rfl others ?_ zero
      show wall + first.slotDurationSec - (wall - zone wall + first.slotDurationSec) = zone wall
      omega

/-- **The programs of an episode block** are contiguous in UTC exactly when the offsets at their
starts are steady. -/
theorem episodeBlock_contiguous_iff {rng : RandomSource} {lookup : Lookup} (grid : 0 < gridMinutes)
    {blockDef : Value} {broadcastDay : String} {seed : Option Int} {counters later : Counters}
    {compiled blocks : List ProgramBlockOutput}
    (compiles : compileEpisodeBlock rng lookup gridMinutes blockDef broadcastDay (some zone) seed
      counters = .ok (compiled, later))
    (returns : timeline zone gridMinutes compiled = .ok blocks) :
    Contiguous zone blocks ↔ Steady (offsets zone compiled) := by
  obtain ⟨wall, onClock⟩ := compileEpisodeBlock_onClock compiles
  exact timeline_contiguous_iff onClock (compileEpisodeBlock_positive grid compiles) returns

end Main

/-! ### The nights the clocks change -/

section Nights

/-- London before and after 26 October 2025, two in the morning; the hour that is read twice is read
the first time. -/
def autumnLondon : Zone := fun wall => if wall < 1761444000 then 3600 else 0

/-- New York before and after 9 March 2025, two in the morning; the hour that does not exist keeps
the offset before it. -/
def newYork : Zone := fun wall => if wall < 1741489200 then -18000 else -14400

/-- The news from midnight to four. -/
def newsBlock : Value :=
  .dict [("block", .dict [("start", .str "00:00"), ("end", .str "04:00"), ("pool", .str "news")])]

/-- The news of a night, as the block compiles and as it is put on the timeline. -/
def newsNight (zone : Zone) (day : String) :
    Compile (List ProgramBlockOutput × List ProgramBlockOutput) := do
  let (compiled, _) ← compileEpisodeBlock firstDrawn (newsCatalog.lookup ()) 30 newsBlock day
    (some zone) (some 42) fun _ => 0
  let blocks ← timeline zone 30 compiled
  .ok (compiled, blocks)

/-- The two steps of a night. -/
theorem newsNight_ok {zone : Zone} {day : String}
    {night : List ProgramBlockOutput × List ProgramBlockOutput}
    (returns : newsNight zone day = .ok night) :
    (∃ later, compileEpisodeBlock firstDrawn (newsCatalog.lookup ()) 30 newsBlock day (some zone)
      (some 42) (fun _ => 0) = .ok (night.1, later)) ∧ timeline zone 30 night.1 = .ok night.2 := by
  unfold newsNight at returns
  obtain ⟨⟨compiled, later⟩, compiles, returns⟩ := bind_eq_ok.mp returns
  obtain ⟨blocks, made, returns⟩ := bind_eq_ok.mp returns
  obtain rfl := Except.ok.inj returns
  exact ⟨⟨later, compiles⟩, made⟩

/-- **An hour without a program**: the bulletin of half past one ends at one o'clock in UTC, the
next one starts at two. -/
theorem autumn_news_gap :
    ∃ night, newsNight autumnLondon "2025-10-25" = .ok night ∧
      night.2.map (fun block => block.startAt.epoch autumnLondon) =
        [1761433200, 1761435000, 1761436800, 1761438600, 1761444000, 1761445800, 1761447600,
          1761449400] ∧
      ¬Contiguous autumnLondon night.2 := by
  obtain ⟨night, returns, seen⟩ := returned_of_seen
    (show (newsNight autumnLondon "2025-10-25").toOption.map (fun night =>
        (night.2.map fun block => block.startAt.epoch autumnLondon,
          decide (Contiguous autumnLondon night.2))) =
      some ([1761433200, 1761435000, 1761436800, 1761438600, 1761444000, 1761445800, 1761447600,
        1761449400], false) by decide +kernel)
  obtain ⟨starts, apart⟩ := Prod.mk.inj seen
  exact ⟨night, returns, starts, of_decide_eq_false apart⟩

/-- A night on which the clocks go forward at an offset that is not zero: the programs that would
overlap are moved. -/
theorem newYork_news_contiguous :
    ∃ night, newsNight newYork "2025-03-08" = .ok night ∧ night.2.length = 8 ∧
      Contiguous newYork night.2 := by
  obtain ⟨night, returns, seen⟩ := returned_of_seen
    (show (newsNight newYork "2025-03-08").toOption.map (fun night =>
        (night.2.length, decide (Steady (offsets newYork night.1)))) = some (8, true) by
      decide +kernel)
  obtain ⟨count, steady⟩ := Prod.mk.inj seen
  obtain ⟨⟨later, compiles⟩, made⟩ := newsNight_ok returns
  exact ⟨night, returns, count,
    (episodeBlock_contiguous_iff (by decide) compiles made).mpr (of_decide_eq_true steady)⟩

end Nights

end Retrovue.Core.Compiler
