/-
**Holes in the playlog horizon** (`runtime/playlog_horizon_daemon.py`).

The daemon reports how far its rows reach and extends from there on. A block that fails is passed over
when a later one of the same evaluation succeeds, and is tried again only once it is current.

* `NoHoles`: every block of a time between the clock and the reported end has a row;
* `Solid`: the same up to everything that reaches further, with rows that are the schedule's blocks;
* `KeepsUp`: the clock does not go back over blocks without rows, and no attempt of an extension
  succeeds after one that failed;
* `horizon_without_holes`: in every run whose evaluations keep up, no evaluation leaves a hole, and the
  reported end never decreases.
-/

import Mathlib
import Retrovue.Foundation.Transition
import Retrovue.Core.Playlog.Daemon

namespace Retrovue.Core.Playlog

open Retrovue.Foundation.Tiling Retrovue.Foundation.Transition

/-! ### Time in the compiled days -/

section Days

variable {daemon : PlaylogDaemon} (tier1 : Tier1 daemon)

theorem Tier1.boundary_mono : Monotone tier1.boundary :=
  monotone_int_of_le_succ fun day => (tier1.tiles day).le

/-- A block lies between the boundaries of its day. -/
theorem Tier1.bounds {day : Int} {block : ScheduledBlock} (member : block ∈ tier1.days day) :
    tier1.boundary day ≤ block.startUtcMs ∧ block.endUtcMs ≤ tier1.boundary (day + 1) :=
  (tier1.tiles day).bounds block member

/-- The blocks of a day end before those of a later day start. -/
theorem Tier1.apart {day later : Int} (before : day < later) {first second : ScheduledBlock}
    (early : first ∈ tier1.days day) (late : second ∈ tier1.days later) :
    first.endUtcMs ≤ second.startUtcMs :=
  calc first.endUtcMs ≤ tier1.boundary (day + 1) := (tier1.bounds early).2
    _ ≤ tier1.boundary later := tier1.boundary_mono before
    _ ≤ second.startUtcMs := (tier1.bounds late).1

/-- **Two blocks of the schedule** lie one before the other. -/
theorem Tier1.clear {first second : ScheduledBlock} (early : tier1.Has first)
    (late : tier1.Has second) (different : first ≠ second) :
    Clear ScheduledBlock.startUtcMs ScheduledBlock.endUtcMs first second := by
  obtain ⟨day, early⟩ := early
  obtain ⟨other, late⟩ := late
  rcases lt_trichotomy day other with before | rfl | after
  · exact .inl (tier1.apart before early late)
  · have clear := clear_of_ordered ScheduledBlock.startUtcMs ScheduledBlock.endUtcMs
      (tier1.tiles day).pairwise
    have : Std.Symm (Clear ScheduledBlock.startUtcMs ScheduledBlock.endUtcMs) :=
      ⟨fun _ _ apart => apart.symm⟩
    exact clear.forall early late different
  · exact .inr (tier1.apart after late early)

/-- **A time lies in one block only.** -/
theorem Tier1.unique {first second : ScheduledBlock} {t : Int} (early : tier1.Has first)
    (late : tier1.Has second) (inFirst : first.Contains t) (inSecond : second.Contains t) :
    first = second := by
  by_contra different
  rcases tier1.clear early late different with before | after
  · exact absurd (inFirst.2.trans_le (before.trans inSecond.1)) (lt_irrefl t)
  · exact absurd (inSecond.2.trans_le (after.trans inFirst.1)) (lt_irrefl t)

/-- The block found for the current time is one of the schedule's and contains it. -/
theorem Tier1.blockContaining_eq_some {nowMs : Int} {block : ScheduledBlock}
    (found : tier1.blockContaining nowMs = some block) :
    tier1.Has block ∧ block.Contains nowMs := by
  have contains : block.Contains nowMs := by simpa using List.find?_some found
  rcases List.mem_append.mp (List.mem_of_find?_eq_some found) with yesterday | today
  · exact ⟨⟨_, yesterday⟩, contains⟩
  · exact ⟨⟨_, today⟩, contains⟩

/-- **The scan reaches every day** that has a block between the cursor and the target. -/
theorem Tier1.day_mem_scanDays {day cursorMs targetEndMs : Int} {block : ScheduledBlock}
    (member : block ∈ tier1.days day) (after : cursorMs < block.endUtcMs)
    (before : block.startUtcMs < targetEndMs) (ahead : cursorMs < targetEndMs) :
    day ∈ scanDays daemon cursorMs targetEndMs := by
  obtain ⟨starts, ends⟩ := tier1.bounds member
  have low : daemon.broadcastDate cursorMs - 1 ≤ day := by
    by_contra early
    have passed := tier1.boundary_mono
      (show day + 1 ≤ daemon.broadcastDate cursorMs - 1 by omega)
    exact absurd (after.trans_le (ends.trans (passed.trans (tier1.near cursorMs).1))) (lt_irrefl _)
  have high : day ≤ daemon.broadcastDate targetEndMs + 1 := by
    by_contra late
    have passed := tier1.boundary_mono
      (show daemon.broadcastDate targetEndMs + 2 ≤ day by omega)
    exact absurd (before.trans_le ((tier1.near targetEndMs).2.trans (passed.trans starts)))
      (lt_irrefl _)
  rw [scanDays, if_pos ahead, dayRange, List.mem_map]
  refine ⟨(day - (daemon.broadcastDate cursorMs - 1)).toNat, List.mem_range.mpr (by omega), ?_⟩
  show daemon.broadcastDate cursorMs - 1 + ((day - (daemon.broadcastDate cursorMs - 1)).toNat : Int) =
    day
  omega

/-- The blocks of `count` days from a day on. -/
def Tier1.span (first : Int) : Nat → List ScheduledBlock
  | 0 => []
  | count + 1 => tier1.days first ++ Tier1.span (first + 1) count

theorem Tier1.mem_span {first : Int} {block : ScheduledBlock} :
    ∀ {count : Nat}, block ∈ tier1.span first count → ∃ day, first ≤ day ∧ block ∈ tier1.days day
  | 0, member => by cases member
  | count + 1, member => by
    rcases List.mem_append.mp member with here | later
    · exact ⟨first, le_rfl, here⟩
    · obtain ⟨day, after, held⟩ := Tier1.mem_span later
      exact ⟨day, by omega, held⟩

/-- The blocks of consecutive days lie one after the other. -/
theorem Tier1.span_ordered : ∀ (count : Nat) (first : Int),
    (tier1.span first count).Pairwise fun a b => a.endUtcMs ≤ b.startUtcMs
  | 0, _ => List.Pairwise.nil
  | count + 1, first => by
    refine List.pairwise_append.mpr
      ⟨(tier1.tiles first).pairwise, Tier1.span_ordered count (first + 1), ?_⟩
    intro a early b late
    obtain ⟨day, after, held⟩ := tier1.mem_span late
    exact tier1.apart (show first < day by omega) early held

end Days

/-! ### What the extension tries -/

section Tried

variable {daemon : PlaylogDaemon} (tier1 : Tier1 daemon)

theorem candidates_sublist (cursorMs targetEndMs : Int) :
    ∀ blocks, (candidates cursorMs targetEndMs blocks).Sublist blocks
  | [] => List.Sublist.slnil
  | block :: rest => by
    rw [candidates]
    split_ifs
    · exact (candidates_sublist cursorMs targetEndMs rest).cons block
    · exact List.nil_sublist _
    · exact (candidates_sublist cursorMs targetEndMs rest).cons_cons block

/-- A candidate starts before the target. -/
theorem start_lt_of_mem_candidates {cursorMs targetEndMs : Int} {block : ScheduledBlock} :
    ∀ {blocks : List ScheduledBlock}, block ∈ candidates cursorMs targetEndMs blocks →
      block.startUtcMs < targetEndMs
  | [], member => by cases member
  | first :: rest, member => by
    rw [candidates] at member
    split_ifs at member with passed late
    · exact start_lt_of_mem_candidates member
    · cases member
    · rcases List.mem_cons.mp member with rfl | later
      · exact not_le.mp late
      · exact start_lt_of_mem_candidates later

/-- In a day that tiles, every block between cursor and target is a candidate. -/
theorem mem_candidates {cursorMs targetEndMs : Int} {block : ScheduledBlock}
    (after : cursorMs < block.endUtcMs) (before : block.startUtcMs < targetEndMs) :
    ∀ {blocks : List ScheduledBlock} {low high : Int},
      Tiles ScheduledBlock.startUtcMs ScheduledBlock.endUtcMs blocks low high → block ∈ blocks →
      block ∈ candidates cursorMs targetEndMs blocks
  | [], _, _, _, member => by cases member
  | first :: rest, _, _, ⟨_, forward, tail⟩, member => by
    rw [candidates]
    rcases List.mem_cons.mp member with rfl | later
    · rw [if_neg (not_le.mpr after), if_neg (not_le.mpr before)]
      exact List.mem_cons_self
    · have follows := (tail.bounds block later).1
      split_ifs with passed late
      · exact mem_candidates after before tail later
      · exact absurd (before.trans_le (late.trans (forward.trans follows))) (lt_irrefl _)
      · exact List.mem_cons_of_mem _ (mem_candidates after before tail later)

/-- The attempts of the extension, by day and block, in their order. -/
def tried (cursorMs targetEndMs : Int) (days : List Int) : List (Int × ScheduledBlock) :=
  days.flatMap fun day =>
    (candidates cursorMs targetEndMs (tier1.days day)).map fun block => (day, block)

theorem mem_tried {cursorMs targetEndMs : Int} {days : List Int} {day : Int}
    {block : ScheduledBlock} :
    (day, block) ∈ tried tier1 cursorMs targetEndMs days ↔
      day ∈ days ∧ block ∈ candidates cursorMs targetEndMs (tier1.days day) := by
  simp [tried]

/-- The days of a range, one by one. -/
theorem dayRange_eq (first last : Int) :
    dayRange first last = (List.range (last + 1 - first).toNat).map fun i : Nat => first + i := rfl

theorem tried_sublist (cursorMs targetEndMs : Int) : ∀ (count : Nat) (first : Int),
    ((tried tier1 cursorMs targetEndMs ((List.range count).map fun i : Nat => first + i)).map
      Prod.snd).Sublist (tier1.span first count)
  | 0, _ => List.Sublist.slnil
  | count + 1, first => by
    have days : (List.range (count + 1)).map (fun i : Nat => first + (i : Int)) =
        first :: (List.range count).map fun i : Nat => (first + 1) + (i : Int) := by
      rw [List.range_succ_eq_map, List.map_cons, List.map_map]
      refine congrArg₂ List.cons (by simp) (List.map_congr_left fun i _ => ?_)
      simp only [Function.comp_apply, Nat.succ_eq_add_one]
      push_cast
      ring
    rw [days, tried, List.flatMap_cons, List.map_append, List.map_map]
    refine List.Sublist.append ?_ (tried_sublist cursorMs targetEndMs count (first + 1))
    have plain : (Prod.snd ∘ fun block : ScheduledBlock => (first, block)) = id := by
      funext block
      rfl
    rw [plain, List.map_id]
    exact candidates_sublist _ _ _

/-- **The attempts of an extension** go forward in time. -/
theorem tried_ordered (cursorMs targetEndMs : Int) :
    (tried tier1 cursorMs targetEndMs
      (scanDays daemon cursorMs targetEndMs)).Pairwise
      fun a b => a.2.endUtcMs ≤ b.2.startUtcMs := by
  unfold scanDays
  split
  · rw [dayRange_eq]
    exact List.pairwise_map.mp ((tier1.span_ordered _ _).sublist
      (tried_sublist tier1 cursorMs targetEndMs _ _))
  · exact List.Pairwise.nil

/-- **Every block between cursor and target is tried.** -/
theorem exists_tried {cursorMs targetEndMs : Int} (ahead : cursorMs < targetEndMs)
    {block : ScheduledBlock} (has : tier1.Has block) (after : cursorMs < block.endUtcMs)
    (before : block.startUtcMs < targetEndMs) :
    ∃ day, (day, block) ∈ tried tier1 cursorMs targetEndMs
      (scanDays daemon cursorMs targetEndMs) := by
  obtain ⟨day, member⟩ := has
  exact ⟨day, (mem_tried tier1).mpr ⟨tier1.day_mem_scanDays member after before ahead,
    mem_candidates after before (tier1.tiles day) member⟩⟩

end Tried

/-! ### Coverage -/

section Coverage

variable {daemon : PlaylogDaemon} (tier1 : Tier1 daemon)

variable (daemon) in
/-- The table has a row of the channel for a block. -/
def PlaylogHorizon.HasRow (horizon : PlaylogHorizon) (block : ScheduledBlock) : Prop :=
  ∃ row ∈ horizon.log.rows, row.channelSlug = daemon.channelId ∧ row.blockId = block.blockId

instance (horizon : PlaylogHorizon) (block : ScheduledBlock) :
    Decidable (horizon.HasRow daemon block) := List.decidableBEx _ _

/-- A time before the reported end, or before the end of a row. -/
def PlaylogHorizon.Reaches (horizon : PlaylogHorizon) (t : Int) : Prop :=
  t < horizon.farthestEndUtcMs ∨ ∃ row ∈ horizon.log.rows, t < row.endUtcMs

/-- The row is the channel's, for a block of its schedule. -/
def ScheduledRow (row : TransmissionLogRow) : Prop :=
  row.channelSlug = daemon.channelId ∧
    ∃ block, tier1.Has block ∧ row.blockId = block.blockId ∧ row.endUtcMs = block.endUtcMs

/-- **No hole from a time on**: the rows are the schedule's blocks, and every block of a time that
the horizon reaches has one. -/
structure Solid (horizon : PlaylogHorizon) (fromMs : Int) : Prop where
  scheduled : ∀ row ∈ horizon.log.rows, ScheduledRow tier1 row
  covered : ∀ t, fromMs ≤ t → horizon.Reaches t → ∀ block, tier1.Has block → block.Contains t →
    horizon.HasRow daemon block

variable {tier1} {horizon : PlaylogHorizon} {fromMs : Int}

/-- A row for a block of the schedule ends when the block does. -/
theorem ScheduledRow.ends {row : TransmissionLogRow} (scheduled : ScheduledRow tier1 row)
    {block : ScheduledBlock} (has : tier1.Has block) (same : row.blockId = block.blockId) :
    row.endUtcMs = block.endUtcMs := by
  obtain ⟨-, other, ⟨day, held⟩, named, ends⟩ := scheduled
  obtain ⟨today, member⟩ := has
  rw [ends, tier1.identified day today other held block member (named.symm.trans same)]

/-- Reaching to a time that was reached already changes nothing that is reached. -/
theorem Solid.reachTo (solid : Solid tier1 horizon fromMs) {endUtcMs : Int}
    (reached : ∀ t, fromMs ≤ t → t < endUtcMs → horizon.Reaches t) :
    Solid tier1 (horizon.reachTo endUtcMs) fromMs where
  scheduled := solid.scheduled
  covered t later reaches := by
    refine solid.covered t later ?_
    rcases reaches with before | byRow
    · rcases lt_max_iff.mp before with old | new
      · exact .inl old
      · exact reached t later new
    · exact .inr byRow

/-- Rows stay when another is written. -/
theorem hasRow_merge {row : TransmissionLogRow} (own : row.channelSlug = daemon.channelId)
    {block : ScheduledBlock} (has : horizon.HasRow daemon block) {next : PlaylogHorizon}
    (log : next.log = horizon.log.merge row) : next.HasRow daemon block := by
  obtain ⟨other, member, channel, named⟩ := has
  unfold PlaylogHorizon.HasRow
  rw [log]
  by_cases same : other.blockId = row.blockId
  · exact ⟨row, TransmissionLog.mem_merge.mpr (.inl rfl), own, same.symm.trans named⟩
  · exact ⟨other, TransmissionLog.mem_merge.mpr (.inr ⟨member, same⟩), channel, named⟩

variable {Source : Type} {outside : Outside Source} {block : ScheduledBlock}

/-- The row of an attempt that succeeds has the id and the end of its block. -/
theorem span_of_attempt {filled : ScheduledBlock} (done : attempt daemon outside block = some filled) :
    filled.blockId = block.blockId ∧ filled.endUtcMs = block.endUtcMs := by
  unfold attempt at done
  split at done
  · cases done
  · obtain ⟨named, -, ends⟩ := fillAdBlocks_span (fillAdBlocks_of_fillAds done)
    exact ⟨named, ends⟩

/-- An attempt keeps the rows that are there. -/
theorem hasRow_kept {other : ScheduledBlock} (has : horizon.HasRow daemon other)
    (broadcastDay : Int) : (horizon.fillBlock daemon broadcastDay outside block).HasRow daemon other := by
  unfold PlaylogHorizon.fillBlock
  split
  · exact hasRow_merge rfl has rfl
  · exact has

/-- An attempt that succeeds leaves a row for its block. -/
theorem hasRow_fillBlock (broadcastDay : Int) (succeeds : (attempt daemon outside block).isSome) :
    (horizon.fillBlock daemon broadcastDay outside block).HasRow daemon block := by
  obtain ⟨filled, done⟩ := Option.isSome_iff_exists.mp succeeds
  unfold PlaylogHorizon.fillBlock
  rw [done]
  exact ⟨_, TransmissionLog.mem_merge.mpr (.inl rfl), rfl, (span_of_attempt done).1⟩

/-- **An attempt keeps the horizon solid**, when what it newly reaches lies in its own block or in
blocks that have a row, should it succeed. -/
theorem Solid.fillBlock (solid : Solid tier1 horizon fromMs) (has : tier1.Has block)
    (broadcastDay : Int)
    (closed : (attempt daemon outside block).isSome → ∀ t, fromMs ≤ t → ¬ horizon.Reaches t →
      t < block.endUtcMs → ∀ other, tier1.Has other → other.Contains t →
        other = block ∨ horizon.HasRow daemon other) :
    Solid tier1 (horizon.fillBlock daemon broadcastDay outside block) fromMs := by
  cases done : attempt daemon outside block with
  | none =>
    have same : (horizon.fillBlock daemon broadcastDay outside block) =
        { horizon with fillErrors := horizon.fillErrors + 1 } := by
      rw [PlaylogHorizon.fillBlock, done]
    rw [same]
    exact ⟨solid.scheduled, solid.covered⟩
  | some filled =>
    have succeeds : (attempt daemon outside block).isSome := by rw [done]; rfl
    obtain ⟨named, ends⟩ := span_of_attempt done
    refine ⟨fun row member => ?_, fun t later reaches other scheduled contains => ?_⟩
    · rw [PlaylogHorizon.fillBlock, done] at member
      rcases TransmissionLog.mem_merge.mp member with rfl | ⟨old, -⟩
      · exact ⟨rfl, block, has, named, ends⟩
      · exact solid.scheduled row old
    · by_cases reached : horizon.Reaches t
      · exact hasRow_kept (solid.covered t later reached other scheduled contains) broadcastDay
      · have within : t < block.endUtcMs := by
          rw [PlaylogHorizon.fillBlock, done] at reaches
          rcases reaches with before | ⟨row, member, before⟩
          · exact (lt_max_iff.mp before).resolve_left fun old => reached (.inl old)
          · rcases TransmissionLog.mem_merge.mp member with rfl | ⟨old, -⟩
            · exact before.trans_eq ends
            · exact absurd (.inr ⟨row, old, before⟩) reached
        rcases closed succeeds t later reached within other scheduled contains with rfl | row
        · exact hasRow_fillBlock broadcastDay succeeds
        · exact hasRow_kept row broadcastDay

end Coverage

/-! ### One extension -/

section Extension

variable {daemon : PlaylogDaemon} {tier1 : Tier1 daemon} {Source : Type}
variable {extension : Int → ScheduledBlock → Outside Source}

variable (daemon extension) in
/-- The attempt of a day's block succeeds. -/
def Succeeds (item : Int × ScheduledBlock) : Prop :=
  (attempt daemon (extension item.1 item.2) item.2).isSome

instance (item : Int × ScheduledBlock) : Decidable (Succeeds daemon extension item) :=
  inferInstanceAs (Decidable (_ = true))

/-- The extension part way through its attempts: solid, at least at its cursor, and with rows for all
that succeeded. -/
structure Extending (tier1 : Tier1 daemon) (extension : Int → ScheduledBlock → Outside Source)
    (nowMs cursorMs : Int) (finished : List (Int × ScheduledBlock)) (horizon : PlaylogHorizon) :
    Prop where
  solid : Solid tier1 horizon nowMs
  cursor : cursorMs ≤ max horizon.farthestEndUtcMs nowMs
  filled : ∀ item ∈ finished, Succeeds daemon extension item → horizon.HasRow daemon item.2

variable {nowMs cursorMs targetEndMs : Int} {horizon : PlaylogHorizon}

theorem farthest_le_fillBlock (horizon : PlaylogHorizon) (broadcastDay : Int)
    (outside : Outside Source) (block : ScheduledBlock) : horizon.farthestEndUtcMs ≤
      (horizon.fillBlock daemon broadcastDay outside block).farthestEndUtcMs := by
  unfold PlaylogHorizon.fillBlock
  split
  · exact le_max_left _ _
  · exact le_rfl

theorem farthest_le_extendBlock (day : Int) (existingIds : List String) (block : ScheduledBlock) :
    horizon.farthestEndUtcMs ≤
      (extendBlock daemon extension day existingIds horizon block).farthestEndUtcMs := by
  unfold extendBlock
  split
  · exact le_max_left _ _
  · exact farthest_le_fillBlock _ day _ block

/-- What the extension tries from some point on, once its attempts are in order of time and no
attempt succeeds after one that failed. -/
structure Attempts (tier1 : Tier1 daemon) (extension : Int → ScheduledBlock → Outside Source)
    (cursorMs targetEndMs : Int) (all : List (Int × ScheduledBlock)) : Prop where
  ordered : all.Pairwise fun a b => a.2.endUtcMs ≤ b.2.startUtcMs
  complete : ∀ block, tier1.Has block → cursorMs < block.endUtcMs →
    block.startUtcMs < targetEndMs → ∃ day, (day, block) ∈ all
  scheduled : ∀ item ∈ all, tier1.Has item.2 ∧ item.2.startUtcMs < targetEndMs
  inOrder : all.Pairwise fun a b => Succeeds daemon extension b → Succeeds daemon extension a

/-- **One attempt of the extension** keeps the horizon solid: what it newly reaches lies in its own
block, or in an earlier one, which succeeded. -/
theorem Extending.attempted {finished todo : List (Int × ScheduledBlock)} {day : Int}
    {block : ScheduledBlock}
    (attempts : Attempts tier1 extension cursorMs targetEndMs (finished ++ (day, block) :: todo))
    (extending : Extending tier1 extension nowMs cursorMs finished horizon) :
    Extending tier1 extension nowMs cursorMs (finished ++ [(day, block)])
      (horizon.fillBlock daemon day (extension day block) block) where
  solid := by
    have here : (day, block) ∈ finished ++ (day, block) :: todo := by simp
    obtain ⟨has, beforeTarget⟩ := attempts.scheduled _ here
    refine extending.solid.fillBlock has day fun succeeds t later unreached within other held inOther => ?_
    by_cases same : other = block
    · exact .inl same
    right
    -- the other block is over before this one starts, so it was tried before
    have earlier : other.endUtcMs ≤ block.startUtcMs := by
      refine (tier1.clear held has same).resolve_right fun after => ?_
      exact absurd (within.trans_le (after.trans inOther.1)) (lt_irrefl t)
    have passed : cursorMs < other.endUtcMs := by
      refine extending.cursor.trans_lt ((max_le ?_ later).trans_lt inOther.2)
      exact not_lt.mp fun before => unreached (.inl before)
    obtain ⟨otherDay, listed⟩ := attempts.complete other held passed
      (inOther.1.trans_lt (inOther.2.trans_le (earlier.trans beforeTarget.le)))
    rcases List.mem_append.mp listed with tried | untried
    · have order := (List.pairwise_append.mp attempts.inOrder).2.2 _ tried _ List.mem_cons_self
      exact extending.filled _ tried (order succeeds)
    · rcases List.mem_cons.mp untried with this | behind
      · cases this
        exact absurd rfl same
      · have after := (List.pairwise_cons.mp
          (List.pairwise_append.mp attempts.ordered).2.1).1 _ behind
        exact absurd (within.trans_le (after.trans inOther.1)) (lt_irrefl t)
  cursor := extending.cursor.trans (max_le_max_right _ (farthest_le_fillBlock _ day _ block))
  filled item member succeeds := by
    rcases List.mem_append.mp member with old | new
    · exact hasRow_kept (extending.filled item old succeeds) day
    · cases List.mem_singleton.mp new
      exact hasRow_fillBlock day succeeds

variable (horizon) in
/-- Every one of the ids is in the table. -/
def Known (blockIds : List String) : Prop :=
  ∀ blockId ∈ blockIds, ∃ row ∈ horizon.log.rows, row.blockId = blockId

theorem Known.fillBlock {blockIds : List String} (known : Known horizon blockIds) (day : Int)
    (outside : Outside Source) (block : ScheduledBlock) :
    Known (horizon.fillBlock daemon day outside block) blockIds := by
  intro blockId member
  obtain ⟨row, held, named⟩ := known blockId member
  unfold PlaylogHorizon.fillBlock
  split
  next filled done =>
    by_cases same : row.blockId = filled.blockId
    · exact ⟨_, TransmissionLog.mem_merge.mpr (.inl rfl), same.symm.trans named⟩
    · exact ⟨row, TransmissionLog.mem_merge.mpr (.inr ⟨held, same⟩), named⟩
  · exact ⟨row, held, named⟩

theorem Known.extendBlock {blockIds : List String} (known : Known horizon blockIds) (day : Int)
    (existingIds : List String) (block : ScheduledBlock) :
    Known (extendBlock daemon extension day existingIds horizon block) blockIds := by
  unfold Playlog.extendBlock
  split
  · exact known
  · exact known.fillBlock day _ block

/-- A candidate that is in the table already adds nothing to what is reached. -/
theorem Extending.present {finished : List (Int × ScheduledBlock)} {day : Int}
    {block : ScheduledBlock} (has : tier1.Has block)
    (extending : Extending tier1 extension nowMs cursorMs finished horizon)
    {row : TransmissionLogRow} (held : row ∈ horizon.log.rows) (named : row.blockId = block.blockId) :
    Extending tier1 extension nowMs cursorMs (finished ++ [(day, block)])
      (horizon.reachTo block.endUtcMs) where
  solid := extending.solid.reachTo fun t _ within => by
    have ends := (extending.solid.scheduled row held).ends has named
    exact .inr ⟨row, held, within.trans_eq ends.symm⟩
  cursor := extending.cursor.trans (max_le_max_right _ (le_max_left _ _))
  filled item member succeeds := by
    rcases List.mem_append.mp member with old | new
    · exact extending.filled item old succeeds
    · cases List.mem_singleton.mp new
      exact ⟨row, held, (extending.solid.scheduled row held).1, named⟩

/-- One candidate of the extension. -/
theorem Extending.extendBlock {finished todo : List (Int × ScheduledBlock)} {day : Int}
    {block : ScheduledBlock} {existingIds : List String}
    (attempts : Attempts tier1 extension cursorMs targetEndMs (finished ++ (day, block) :: todo))
    (extending : Extending tier1 extension nowMs cursorMs finished horizon)
    (known : Known horizon existingIds) :
    Extending tier1 extension nowMs cursorMs (finished ++ [(day, block)])
      (extendBlock daemon extension day existingIds horizon block) := by
  unfold Playlog.extendBlock
  split
  next member =>
    obtain ⟨row, held, named⟩ := known _ member
    exact extending.present (attempts.scheduled (day, block) (by simp)).1 held named
  · exact extending.attempted attempts

/-- The candidates of one day. -/
theorem Extending.blocks {day : Int} {existingIds : List String}
    {todo : List (Int × ScheduledBlock)} :
    ∀ (blocks : List ScheduledBlock) {finished : List (Int × ScheduledBlock)}
      {horizon : PlaylogHorizon},
      Attempts tier1 extension cursorMs targetEndMs
        (finished ++ (blocks.map fun block => (day, block)) ++ todo) →
      Extending tier1 extension nowMs cursorMs finished horizon → Known horizon existingIds →
      Extending tier1 extension nowMs cursorMs (finished ++ blocks.map fun block => (day, block))
        (blocks.foldl (Playlog.extendBlock daemon extension day existingIds) horizon)
  | [], finished, horizon, _, extending, _ => by simpa using extending
  | block :: rest, finished, horizon, attempts, extending, known => by
    have split : finished ++ ((block :: rest).map fun block => (day, block)) =
        finished ++ [(day, block)] ++ rest.map fun block => (day, block) := by simp
    rw [split] at attempts ⊢
    have here : Attempts tier1 extension cursorMs targetEndMs
        (finished ++ (day, block) :: ((rest.map fun block => (day, block)) ++ todo)) := by
      simpa using attempts
    exact Extending.blocks rest attempts (extending.extendBlock here known)
      (known.extendBlock day existingIds block)

/-- The ids that the batch check finds are in the table. -/
theorem known_existing (horizon : PlaylogHorizon) (blockIds : List String) :
    Known horizon (horizon.log.existing blockIds) := by
  intro blockId member
  obtain ⟨-, row, found⟩ := TransmissionLog.mem_existing.mp member
  exact ⟨row, TransmissionLog.byId_eq_some_iff.mp found⟩

/-- **The days of the scan**, one after the other. -/
theorem Extending.days : ∀ (days : List Int) {finished : List (Int × ScheduledBlock)}
    {horizon : PlaylogHorizon},
    Attempts tier1 extension cursorMs targetEndMs
      (finished ++ tried tier1 cursorMs targetEndMs days) →
    Extending tier1 extension nowMs cursorMs finished horizon →
    Extending tier1 extension nowMs cursorMs (finished ++ tried tier1 cursorMs targetEndMs days)
      (days.foldl (scanDay tier1 cursorMs targetEndMs extension) horizon)
  | [], finished, horizon, _, extending => by simpa [tried] using extending
  | day :: rest, finished, horizon, attempts, extending => by
    have split : finished ++ tried tier1 cursorMs targetEndMs (day :: rest) =
        finished ++ ((candidates cursorMs targetEndMs (tier1.days day)).map
          fun block => (day, block)) ++ tried tier1 cursorMs targetEndMs rest := by
      simp [tried]
    rw [split] at attempts ⊢
    exact Extending.days rest attempts (Extending.blocks _ attempts extending (known_existing _ _))

/-- **An extension** without a success after a failure keeps the horizon solid. -/
theorem Solid.extendToTarget (solid : Solid tier1 horizon nowMs) (targetMs : Int)
    (inOrder : (tried tier1 (max horizon.farthestEndUtcMs nowMs) (nowMs + targetMs)
      (scanDays daemon (max horizon.farthestEndUtcMs nowMs) (nowMs + targetMs))).Pairwise
        fun a b => Succeeds daemon extension b → Succeeds daemon extension a) :
    Solid tier1 (extendToTarget tier1 horizon nowMs targetMs extension) nowMs := by
  by_cases ahead : max horizon.farthestEndUtcMs nowMs < nowMs + targetMs
  · have attempts : Attempts tier1 extension (max horizon.farthestEndUtcMs nowMs)
        (nowMs + targetMs) (tried tier1 (max horizon.farthestEndUtcMs nowMs) (nowMs + targetMs)
          (scanDays daemon (max horizon.farthestEndUtcMs nowMs) (nowMs + targetMs))) :=
      { ordered := tried_ordered tier1 _ _
        complete := fun block has after before => exists_tried tier1 ahead has after before
        scheduled := fun item member => by
          obtain ⟨-, candidate⟩ := (mem_tried tier1).mp member
          exact ⟨⟨item.1, (candidates_sublist _ _ _).subset candidate⟩,
            start_lt_of_mem_candidates candidate⟩
        inOrder := inOrder }
    have start : Extending tier1 extension nowMs (max horizon.farthestEndUtcMs nowMs) [] horizon :=
      ⟨solid, le_rfl, fun item member => by cases member⟩
    exact (Extending.days _ attempts start).solid
  · simp only [Playlog.extendToTarget, scanDays, if_neg ahead, List.foldl_nil]
    exact solid

end Extension

/-! ### Evaluations -/

section Evaluations

variable {daemon : PlaylogDaemon} {Source : Type} (tier1 : Tier1 daemon)

/-- **No hole after an evaluation**: every block of a time between its clock and the reported end has
a row of the channel. -/
def NoHoles (horizon : PlaylogHorizon) (nowMs : Int) : Prop :=
  ∀ t, nowMs ≤ t → t < horizon.farthestEndUtcMs → ∀ block, tier1.Has block → block.Contains t →
    horizon.HasRow daemon block

/-- The attempts that the extension of an evaluation makes. -/
def attemptsOf (horizon : PlaylogHorizon) (nowMs : Int) (outside : EvaluationOutside Source) :
    List (Int × ScheduledBlock) :=
  let cursorMs := max (measured tier1 horizon nowMs outside).farthestEndUtcMs nowMs
  tried tier1 cursorMs (nowMs + daemon.targetMs)
    (scanDays daemon cursorMs (nowMs + daemon.targetMs))

/-- **The condition on an evaluation**: where the clock is behind that of the evaluation before, the
blocks between the two that are reached have rows; and no attempt of the extension succeeds after one
that failed. -/
structure KeepsUp (horizon : PlaylogHorizon) (nowMs : Int) (outside : EvaluationOutside Source) :
    Prop where
  clock : ∀ before ∈ horizon.clockUtcMs, ∀ t, nowMs ≤ t → t < before → horizon.Reaches t →
    ∀ block, tier1.Has block → block.Contains t → horizon.HasRow daemon block
  inOrder : (attemptsOf tier1 horizon nowMs outside).Pairwise fun a b =>
    Succeeds daemon outside.extension b → Succeeds daemon outside.extension a

/-- The condition on a step. -/
def StepKeepsUp (horizon : PlaylogHorizon) : PlaylogAction Source → Prop
  | .evaluate nowMs outside => KeepsUp tier1 horizon nowMs outside
  | .restart => True

/-- What an evaluation is to leave: no hole, and a reported end that has not decreased. -/
def StepCovers (horizon : PlaylogHorizon) : PlaylogAction Source → Prop
  | .evaluate nowMs outside => ∀ next,
    playlogStep tier1 horizon (.evaluate nowMs outside) = some next →
      NoHoles tier1 next nowMs ∧ horizon.farthestEndUtcMs ≤ next.farthestEndUtcMs
  | .restart => True

/-- **The invariant**: the horizon is solid from the last clock on; it is empty before the first. -/
structure Kept (horizon : PlaylogHorizon) : Prop where
  nonneg : 0 ≤ horizon.farthestEndUtcMs
  solid : ∀ clock ∈ horizon.clockUtcMs, 0 ≤ clock ∧ Solid tier1 horizon clock
  fresh : horizon.clockUtcMs = none → horizon.log.rows = [] ∧ horizon.farthestEndUtcMs = 0

variable {tier1} {horizon : PlaylogHorizon} {nowMs : Int}

theorem kept_initial : Kept tier1 .initial where
  nonneg := le_rfl
  solid clock absent := by cases absent
  fresh _ := ⟨rfl, rfl⟩

/-- A time before the frontier is before the end of a row. -/
theorem exists_row_of_lt_frontier {log : TransmissionLog} {channelSlug : String} {t : Int}
    (later : 0 ≤ t) (before : t < log.frontier channelSlug) :
    ∃ row ∈ log.rows, t < row.endUtcMs := by
  unfold TransmissionLog.frontier at before
  cases found : ((log.rows.filter fun row => row.channelSlug == channelSlug).map
      TransmissionLogRow.endUtcMs).max? with
  | none =>
    rw [found] at before
    exact absurd (before.trans_le later) (lt_irrefl t)
  | some farthest =>
    rw [found] at before
    obtain ⟨row, kept, ends⟩ := List.mem_map.mp (List.max?_mem found)
    exact ⟨row, (List.mem_filter.mp kept).1, ends ▸ before⟩

/-- An evaluation that keeps up starts from a solid horizon. -/
theorem solid_of_keepsUp (kept : Kept tier1 horizon) (later : 0 ≤ nowMs)
    {outside : EvaluationOutside Source} (keepsUp : KeepsUp tier1 horizon nowMs outside) :
    Solid tier1 horizon nowMs := by
  cases clock : horizon.clockUtcMs with
  | none =>
    obtain ⟨empty, unreported⟩ := kept.fresh clock
    refine ⟨fun row member => ?_, fun t after reaches => ?_⟩
    · rw [empty] at member
      cases member
    · rcases reaches with before | ⟨row, member, -⟩
      · omega
      · rw [empty] at member
        cases member
  | some before =>
    have solid := (kept.solid before clock).2
    refine ⟨solid.scheduled, fun t after reaches block has contains => ?_⟩
    by_cases back : t < before
    · exact keepsUp.clock before clock t after back reaches block has contains
    · exact solid.covered t (not_lt.mp back) reaches block has contains

/-- **Covering the current block** keeps the horizon solid. -/
theorem Solid.ensureTier2CoversNow (solid : Solid tier1 horizon nowMs) (outside : Outside Source) :
    Solid tier1 (ensureTier2CoversNow tier1 horizon nowMs outside) nowMs := by
  unfold Playlog.ensureTier2CoversNow
  split
  · exact solid
  · split
    · exact solid
    next block found =>
      obtain ⟨has, current⟩ := tier1.blockContaining_eq_some found
      refine solid.fillBlock has _ fun _ t later _ within other held contains => .inl ?_
      exact tier1.unique held has contains ⟨current.1.trans later, within⟩

theorem Solid.measured (solid : Solid tier1 horizon nowMs) (later : 0 ≤ nowMs)
    (outside : EvaluationOutside Source) :
    Solid tier1 (measured tier1 horizon nowMs outside) nowMs := by
  have restamped : Solid tier1 { horizon with clockUtcMs := some nowMs } nowMs :=
    ⟨solid.scheduled, solid.covered⟩
  refine (restamped.ensureTier2CoversNow outside.backfill).reachTo fun t after before => ?_
  exact .inr (exists_row_of_lt_frontier (later.trans after) before)

/-- **The purge** keeps every row of a block that has not ended. -/
theorem Solid.purge (solid : Solid tier1 horizon nowMs) (fails : Bool) :
    Solid tier1 (purgeExpiredTier2 daemon horizon nowMs fails) nowMs := by
  unfold purgeExpiredTier2
  split
  · exact solid
  · refine ⟨fun row member => solid.scheduled row (TransmissionLog.mem_purge.mp member).1, ?_⟩
    intro t later reaches block has contains
    have reached : horizon.Reaches t := by
      rcases reaches with before | ⟨row, member, before⟩
      · exact .inl before
      · exact .inr ⟨row, (TransmissionLog.mem_purge.mp member).1, before⟩
    obtain ⟨row, member, channel, named⟩ := solid.covered t later reached block has contains
    have ends := (solid.scheduled row member).ends has named
    have running := contains.2
    exact ⟨row, TransmissionLog.mem_purge.mpr ⟨member, fun _ => by omega⟩, channel, named⟩

/-- **An evaluation that keeps up** leaves a solid horizon. -/
theorem Solid.evaluateOnce (solid : Solid tier1 horizon nowMs) (later : 0 ≤ nowMs)
    {outside : EvaluationOutside Source} (keepsUp : KeepsUp tier1 horizon nowMs outside) :
    Solid tier1 (evaluateOnce tier1 horizon nowMs outside) nowMs := by
  have measured := solid.measured later outside
  unfold Playlog.evaluateOnce
  dsimp only
  split
  · exact measured
  · exact (measured.extendToTarget daemon.targetMs keepsUp.inOrder).purge outside.purgeFails

/-- What never lowers the reported end, repeated, never lowers it. -/
theorem farthest_le_foldl {β : Type} {next : PlaylogHorizon → β → PlaylogHorizon}
    (raises : ∀ horizon item, horizon.farthestEndUtcMs ≤ (next horizon item).farthestEndUtcMs) :
    ∀ (items : List β) (horizon : PlaylogHorizon),
      horizon.farthestEndUtcMs ≤ (items.foldl next horizon).farthestEndUtcMs
  | [], _ => le_rfl
  | item :: rest, horizon => (raises horizon item).trans (farthest_le_foldl raises rest _)

variable (tier1 horizon nowMs) in
theorem farthest_le_measured (outside : EvaluationOutside Source) :
    horizon.farthestEndUtcMs ≤ (measured tier1 horizon nowMs outside).farthestEndUtcMs := by
  refine le_trans ?_ (le_max_left _ _)
  unfold Playlog.ensureTier2CoversNow
  split
  · exact le_rfl
  · split
    · exact le_rfl
    · exact farthest_le_fillBlock { horizon with clockUtcMs := some nowMs } _ _ _

variable (tier1 horizon nowMs) in
/-- **The reported end never decreases** in an evaluation. -/
theorem farthest_le_evaluateOnce (outside : EvaluationOutside Source) :
    horizon.farthestEndUtcMs ≤ (evaluateOnce tier1 horizon nowMs outside).farthestEndUtcMs := by
  refine (farthest_le_measured tier1 horizon nowMs outside).trans ?_
  unfold Playlog.evaluateOnce
  dsimp only
  split
  · exact le_rfl
  · refine le_trans ?_ (show _ ≤ (purgeExpiredTier2 daemon _ nowMs _).farthestEndUtcMs from by
      unfold purgeExpiredTier2
      split <;> exact le_rfl)
    exact farthest_le_foldl (fun _ _ => farthest_le_foldl
      (fun _ _ => farthest_le_extendBlock _ _ _) _ _) _ _

/-- What keeps the clock, repeated, keeps it. -/
theorem clock_foldl {β : Type} {next : PlaylogHorizon → β → PlaylogHorizon}
    (keeps : ∀ horizon item, (next horizon item).clockUtcMs = horizon.clockUtcMs) :
    ∀ (items : List β) (horizon : PlaylogHorizon),
      (items.foldl next horizon).clockUtcMs = horizon.clockUtcMs
  | [], _ => rfl
  | item :: rest, horizon => (clock_foldl keeps rest _).trans (keeps horizon item)

theorem clock_fillBlock (horizon : PlaylogHorizon) (broadcastDay : Int) (outside : Outside Source)
    (block : ScheduledBlock) :
    (horizon.fillBlock daemon broadcastDay outside block).clockUtcMs = horizon.clockUtcMs := by
  unfold PlaylogHorizon.fillBlock
  split <;> rfl

theorem clock_extendBlock (extension : Int → ScheduledBlock → Outside Source) (day : Int)
    (existingIds : List String) (horizon : PlaylogHorizon) (block : ScheduledBlock) :
    (extendBlock daemon extension day existingIds horizon block).clockUtcMs =
      horizon.clockUtcMs := by
  unfold Playlog.extendBlock
  split
  · rfl
  · exact clock_fillBlock horizon day _ block

variable (tier1 horizon nowMs) in
theorem clock_measured (outside : EvaluationOutside Source) :
    (measured tier1 horizon nowMs outside).clockUtcMs = some nowMs := by
  show (Playlog.ensureTier2CoversNow tier1 { horizon with clockUtcMs := some nowMs } nowMs
    outside.backfill).clockUtcMs = some nowMs
  unfold Playlog.ensureTier2CoversNow
  split
  · rfl
  · split
    · rfl
    · exact clock_fillBlock _ _ _ _

theorem clock_purge (horizon : PlaylogHorizon) (nowMs : Int) (fails : Bool) :
    (purgeExpiredTier2 daemon horizon nowMs fails).clockUtcMs = horizon.clockUtcMs := by
  unfold purgeExpiredTier2
  split <;> rfl

theorem clock_evaluateOnce (outside : EvaluationOutside Source) :
    (evaluateOnce tier1 horizon nowMs outside).clockUtcMs = some nowMs := by
  have measured := clock_measured tier1 horizon nowMs outside
  unfold Playlog.evaluateOnce
  dsimp only
  split
  · exact measured
  · rw [clock_purge, Playlog.extendToTarget, clock_foldl, measured]
    exact fun _ _ => clock_foldl (clock_extendBlock _ _ _) _ _

/-- **Every step that keeps up keeps the invariant.** -/
theorem kept_step (kept : Kept tier1 horizon) {action : PlaylogAction Source}
    (keepsUp : StepKeepsUp tier1 horizon action) {next : PlaylogHorizon}
    (taken : playlogStep tier1 horizon action = some next) : Kept tier1 next := by
  cases action with
  | evaluate nowMs outside =>
    rw [playlogStep] at taken
    split at taken
    next later =>
      cases taken
      have solid := (solid_of_keepsUp kept later keepsUp).evaluateOnce later keepsUp
      refine ⟨kept.nonneg.trans (farthest_le_evaluateOnce tier1 horizon nowMs outside), ?_, ?_⟩
      · intro clock same
        rw [clock_evaluateOnce] at same
        cases same
        exact ⟨later, solid⟩
      · intro none
        rw [clock_evaluateOnce] at none
        cases none
    · cases taken
  | restart =>
    cases taken
    refine ⟨le_rfl, fun clock same => ?_, fun none => ⟨(kept.fresh none).1, rfl⟩⟩
    obtain ⟨later, solid⟩ := kept.solid clock same
    refine ⟨later, solid.scheduled, fun t after reaches => ?_⟩
    rcases reaches with before | byRow
    · exact absurd ((later.trans after).trans_lt before) (lt_irrefl _)
    · exact solid.covered t after (.inr byRow)

/-- **An evaluation that keeps up leaves no hole** and does not lower the reported end. -/
theorem covers_step (kept : Kept tier1 horizon) {action : PlaylogAction Source}
    (keepsUp : StepKeepsUp tier1 horizon action) : StepCovers tier1 horizon action := by
  cases action with
  | evaluate nowMs outside =>
    intro next taken
    rw [playlogStep] at taken
    split at taken
    next later =>
      cases taken
      have solid := (solid_of_keepsUp kept later keepsUp).evaluateOnce later keepsUp
      exact ⟨fun t after before => solid.covered t after (.inl before),
        farthest_le_evaluateOnce tier1 horizon nowMs outside⟩
    · cases taken
  | restart => trivial

/-- **No holes in the playlog horizon**: in every run of evaluations and restarts from an empty table,
on a schedule that tiles time, if every evaluation keeps up then none leaves a hole before the end it
reports, and none lowers that end. -/
theorem horizon_without_holes (tier1 : Tier1 daemon) (actions : List (PlaylogAction Source))
    (keepsUp : Along (playlogStep tier1) (StepKeepsUp tier1) .initial actions) :
    Along (playlogStep tier1) (StepCovers tier1) .initial actions :=
  along_of_invariant (playlogStep tier1) (Kept tier1) (StepKeepsUp tier1) (StepCovers tier1)
    (fun _ _ _ kept keepsUp taken => kept_step kept keepsUp taken)
    (fun _ _ kept keepsUp => covers_step kept keepsUp) actions kept_initial keepsUp

end Evaluations

/-! ### Hour by hour -/

section Hours

/-- A daemon on UTC. -/
def hourDaemon : PlaylogDaemon where
  channelId := "cheers-24-7"
  localTime := id

/-- The block of an hour, with a break at its end; its id counts the hours from 1970. -/
def hourBlock (hour : Int) : ScheduledBlock where
  blockId := String.ofList (List.replicate hour.natAbs (if hour < 0 then '-' else '+'))
  startUtcMs := hour * 3600000
  endUtcMs := (hour + 1) * 3600000
  segments := [plainSegment "content" "/media/episode.mp4" 3000000, placeholder 600000]

/-- Consecutive hours. -/
def hoursFrom (hour : Int) : Nat → List ScheduledBlock
  | 0 => []
  | count + 1 => hourBlock hour :: hoursFrom (hour + 1) count

theorem tiles_hoursFrom : ∀ (count : Nat) (hour : Int),
    Tiles ScheduledBlock.startUtcMs ScheduledBlock.endUtcMs (hoursFrom hour count)
      (hour * 3600000) ((hour + count) * 3600000)
  | 0, hour => by
    show hour * 3600000 = (hour + (0 : Nat)) * 3600000
    simp
  | count + 1, hour => by
    have rest := tiles_hoursFrom count (hour + 1)
    rw [show hour + 1 + (count : Int) = hour + (count + 1 : Nat) by push_cast; ring] at rest
    refine ⟨rfl, ?_, rest⟩
    show hour * 3600000 ≤ (hour + 1) * 3600000
    omega

theorem eq_hourBlock {block : ScheduledBlock} : ∀ {count : Nat} {hour : Int},
    block ∈ hoursFrom hour count → ∃ other, block = hourBlock other
  | 0, _, member => by cases member
  | count + 1, hour, member => by
    rcases List.mem_cons.mp member with rfl | later
    · exact ⟨hour, rfl⟩
    · exact eq_hourBlock later

theorem hourBlock_identified {first second : Int}
    (same : (hourBlock first).blockId = (hourBlock second).blockId) : first = second := by
  obtain ⟨counts, marks⟩ := List.replicate_inj.mp (String.ofList_injective same)
  by_cases before : first < 0 <;> by_cases after : second < 0 <;>
    simp only [before, after, if_true, if_false, Char.reduceEq, or_false, or_true] at marks <;>
    omega

/-- A day of 24 hour blocks from six in the morning. -/
def hourSchedule : Tier1 hourDaemon where
  days day := hoursFrom ((day - 719163) * 24 + 6) 24
  boundary day := ((day - 719163) * 24 + 6) * 3600000
  tiles day := by
    have tiles := tiles_hoursFrom 24 ((day - 719163) * 24 + 6)
    rwa [show (day - 719163) * 24 + 6 + ((24 : Nat) : Int) = (day + 1 - 719163) * 24 + 6 by
      push_cast; ring] at tiles
  identified day other first held second kept same := by
    obtain ⟨hour, rfl⟩ := eq_hourBlock held
    obtain ⟨later, rfl⟩ := eq_hourBlock kept
    rw [hourBlock_identified same]
  near t := by
    simp only [PlaylogDaemon.broadcastDate, hourDaemon, id]
    split_ifs <;> constructor <;> omega

/-- Everything succeeds but the extension's attempts at the blocks that start at some times. -/
def failingAt (startsUtcMs : List Int) : EvaluationOutside Unit where
  backfill := { library := none, source := () }
  extension _ block := { library := none, source := (), raises := block.startUtcMs ∈ startsUtcMs }

/-- At seven and at half past seven, the last attempt of the first evaluation failing. -/
theorem retried_hour_leaves_no_hole :
    Along (playlogStep hourSchedule) (StepCovers hourSchedule) .initial
      [.evaluate 25200000 (failingAt [32400000]), .evaluate 27000000 (failingAt [])] := by
  refine horizon_without_holes hourSchedule _ ⟨⟨fun before absent => ?_, by decide +kernel⟩, ?_⟩
  · cases absent
  · intro next taken
    cases taken
    refine ⟨⟨fun before clock t after back => ?_, by decide +kernel⟩, fun _ _ => trivial⟩
    cases clock
    omega

/-- **A failure before a success** leaves a hole: the row for nine o'clock takes the reported end past
the hour from eight, which has none. -/
theorem failed_hour_leaves_hole :
    ¬ Along (playlogStep hourSchedule) (StepCovers hourSchedule) .initial
      [.evaluate 25200000 (failingAt [28800000])] := by
  rintro ⟨covers, -⟩
  have noHoles := (covers _ rfl).1 28800000 (by decide) (by decide +kernel) (hourBlock 8)
    ⟨719163, by decide +kernel⟩ (by decide)
  exact absurd noHoles (by decide +kernel)

end Hours

end Retrovue.Core.Playlog
