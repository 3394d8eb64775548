/-
**Playout against the guide.**

* `Placed`: slots at consecutive grid positions of a programming day;
* `Laid`: what a resolution lays out, one event at a time;
* `guideOf`: the guide of a laid day, as spans that tile it;
* `projected_iff`: playout projects the guide exactly when every program but the last one that
  starts fits one grid block, and no content is shorter than nothing.

Lookup takes the first slot whose window contains the time, and every slot of an event carries the
whole occupancy of the event: the second slot of a long event reaches into its successor.
-/

import Mathlib
import Retrovue.Core.Schedule.Manager
import Retrovue.Foundation.Tiling

namespace Retrovue.Core.Schedule

open Retrovue.Foundation.Tiling

/-! ### What a block should play -/

section Specification

variable (config : Config)

/-- The start of a programming day. -/
def dayStart (date : Date) : Int :=
  date * dayMicros + config.programmingDayStartHour * hourMicros

/-- The slots lie one grid block apart, from a time on. -/
def Consecutive (date : Date) : Int → List ScheduleSlot → Prop
  | _, [] => True
  | first, slot :: rest =>
    slotToDatetime config.programmingDayStartHour date slot.slotTime = first ∧
      Consecutive date (first + config.gridMicros) rest

/-- The slots lie at consecutive grid positions inside a programming day. -/
def Placed (date : Date) (slots : List ScheduleSlot) : Prop :=
  ∃ position : Nat, Consecutive config date (dayStart config date + position * config.gridMicros) slots ∧
    position * config.gridMicros + slots.length * config.gridMicros ≤ dayMicros

/-- The start of a grid block that lies inside the programming day. -/
def GridBlock (date : Date) (b : Int) : Prop :=
  ∃ position : Nat, b = dayStart config date + position * config.gridMicros ∧
    b + config.gridMicros ≤ dayStart config date + dayMicros

/-- The event's interval contains the grid block from `b`. -/
def EPGEvent.Contains (event : EPGEvent) (b : Int) : Prop :=
  event.startTime ≤ b ∧ b + config.gridMicros ≤ event.endTime

/-- A block of the programming day at which a slot starts, or which an event of the day's guide
contains. -/
def CoveredBlock (channelId : String) (slots : List ScheduleSlot) (day : ResolvedScheduleDay)
    (b : Int) : Prop :=
  GridBlock config day.programmingDayDate b ∧
    ((∃ slot ∈ slots,
        slotToDatetime config.programmingDayStartHour day.programmingDayDate slot.slotTime = b) ∨
      ∃ guide, dayEpgEvents config channelId day = some guide ∧
        ∃ event ∈ guide, event.Contains config b)

/-- The segments play the event: first its asset, from as far in as the block starts after the
event, then nothing but filler, end to end over the block. -/
structure Plays (event : EPGEvent) (blockStart blockEnd : Int)
    (segments : List PlayoutSegment) : Prop where
  content : ∃ first rest, segments = first :: rest ∧ first.segmentType = .content ∧
    first.filePath = some event.resolvedAsset.filePath ∧
    first.seekOffsetSeconds = totalSeconds (blockStart - event.startTime) ∧
    ∀ segment ∈ rest, segment.segmentType = .filler
  tiles : Tiles PlayoutSegment.startUtc PlayoutSegment.endUtc segments blockStart blockEnd

/-- One event of the day's guide contains the block, and at every time of the block it plays. -/
def Projected (stores : Stores) (channelId : String) (day : ResolvedScheduleDay) (b : Int) :
    Prop :=
  ∃ guide, dayEpgEvents config channelId day = some guide ∧
    ∃ event ∈ guide, event.Contains config b ∧
      (∀ other ∈ guide, other.Contains config b → other = event) ∧
      ∀ t, b ≤ t → t < b + config.gridMicros →
        (getProgramAt config stores channelId t).blockStart = b ∧
        (getProgramAt config stores channelId t).blockEnd = b + config.gridMicros ∧
        Plays event b (b + config.gridMicros) (getProgramAt config stores channelId t).segments

/-- Going through the slots and resolving each: the content takes one grid block, or its blocks
reach the end of the list, and it is not shorter than nothing. -/
def FitsBlocks (seedHash : String → String → Date → TimeOfDay → Nat) (channelId : String)
    (date : Date) : Stores → List ScheduleSlot → Prop
  | _, [] => True
  | stores, slot :: rest =>
    match resolveProgramRef config seedHash stores channelId slot.programRef date slot.slotTime with
    | .error _ => True
    | .ok (asset, stores) =>
      0 ≤ timedeltaSeconds asset.contentDurationSeconds ∧
        (rest.length < blockSpan config asset.contentDurationSeconds ∨
          blockSpan config asset.contentDurationSeconds = 1 ∧
            FitsBlocks seedHash channelId date stores rest)

instance fitsBlocksDecidable (seedHash : String → String → Date → TimeOfDay → Nat)
    (channelId : String) (date : Date) : ∀ (stores : Stores) (slots : List ScheduleSlot),
      Decidable (FitsBlocks config seedHash channelId date stores slots)
  | _, [] => inferInstanceAs (Decidable True)
  | stores, slot :: rest => by
    unfold FitsBlocks
    exact match resolveProgramRef config seedHash stores channelId slot.programRef date
        slot.slotTime with
      | .error _ => inferInstanceAs (Decidable True)
      | .ok (asset, after) =>
        have := fitsBlocksDecidable seedHash channelId date after rest
        inferInstanceAs (Decidable (0 ≤ timedeltaSeconds asset.contentDurationSeconds ∧
          (rest.length < blockSpan config asset.contentDurationSeconds ∨
            blockSpan config asset.contentDurationSeconds = 1 ∧
              FitsBlocks config seedHash channelId date after rest)))

end Specification

/-! ### The grid -/

section Grid

variable (config : Config)

theorem gridSeconds_pos : 0 < config.gridSeconds := by
  have grid := config.grid_pos
  unfold Config.gridSeconds
  omega

theorem gridMicros_pos : 0 < config.gridMicros := by
  have grid := gridSeconds_pos config
  unfold Config.gridMicros
  omega

theorem blockSpan_pos (duration : ℚ) : 0 < blockSpan config duration := by
  unfold blockSpan
  split
  · rename_i positive
    have grid : (0 : ℚ) < config.gridSeconds := by exact_mod_cast gridSeconds_pos config
    have above : 0 < ⌈duration / config.gridSeconds⌉ := Int.ceil_pos.mpr (div_pos positive grid)
    omega
  · exact Nat.one_pos

/-- A time inside a programming day has that day's start. -/
theorem programmingDayStart_eq {date t : Int} (after : dayStart config date ≤ t)
    (before : t < dayStart config date + dayMicros) :
    programmingDayStart config t = dayStart config date := by
  have low := config.hour_nonneg
  have high := config.hour_lt
  unfold programmingDayStart
  dsimp only [Date, dayStart, dateOf, dayMicros, hourMicros] at *
  have split : t / (86400 * 1000000) = date ∨ t / (86400 * 1000000) = date + 1 := by omega
  rcases split with same | next
  · rw [same, if_neg (by omega)]
  · rw [next, if_pos (by omega)]
    ring

theorem dateOf_dayStart (date : Int) : dateOf (dayStart config date) = date := by
  have low := config.hour_nonneg
  have high := config.hour_lt
  dsimp only [Date, dayStart, dateOf, dayMicros, hourMicros]
  omega

/-- Every time of a grid block floors to the block's start. -/
theorem floorToGridBoundary_eq {date b t : Int} (block : GridBlock config date b)
    (after : b ≤ t) (before : t < b + config.gridMicros) : floorToGridBoundary config t = b := by
  obtain ⟨position, rfl, inside⟩ := block
  have grid := gridMicros_pos config
  have offset : 0 ≤ (position : Int) * config.gridMicros := by positivity
  have start := programmingDayStart_eq config (show dayStart config date ≤ t by omega) (by omega)
  unfold floorToGridBoundary
  dsimp only
  rw [start]
  have quotient : (t - dayStart config date) / config.gridMicros = position := by
    rw [Int.ediv_eq_iff_of_pos grid]
    constructor <;> nlinarith
  rw [quotient]

theorem consecutive_drop (date : Date) : ∀ (n : Nat) (first : Int) (slots : List ScheduleSlot),
    Consecutive config date first slots →
      Consecutive config date (first + n * config.gridMicros) (slots.drop n)
  | 0, first, slots, consecutive => by simpa using consecutive
  | _ + 1, _, [], _ => trivial
  | n + 1, first, _ :: rest, ⟨_, consecutive⟩ => by
    have later := consecutive_drop date n (first + config.gridMicros) rest consecutive
    rw [List.drop_succ_cons]
    convert later using 1
    push_cast
    ring

/-- The slot at a position starts so many blocks after the first. -/
theorem consecutive_mem (date : Date) : ∀ (first : Int) (slots : List ScheduleSlot),
    Consecutive config date first slots → ∀ slot ∈ slots, ∃ i < slots.length,
      slotToDatetime config.programmingDayStartHour date slot.slotTime =
        first + i * config.gridMicros
  | _, [], _, _, member => by cases member
  | first, head :: rest, ⟨here, consecutive⟩, slot, member => by
    rcases List.mem_cons.mp member with rfl | later
    · exact ⟨0, by simp, by simpa using here⟩
    · obtain ⟨i, bound, start⟩ := consecutive_mem date _ rest consecutive slot later
      refine ⟨i + 1, by simpa using bound, ?_⟩
      rw [start]
      push_cast
      ring

end Grid

/-! ### Contents and windows -/

section Contents

variable (config : Config)

/-- The length of what an asset plays from a slot of its event, in microseconds. -/
def playedMicros (asset : ResolvedAsset) : Int :=
  timedeltaSeconds
    (if asset.contentDurationSeconds = 0
      then ((blockSpan config asset.contentDurationSeconds * config.gridSeconds : Int) : ℚ)
      else asset.contentDurationSeconds)

theorem timedeltaSeconds_contentSeconds (slot block : ScheduleSlot) (asset : ResolvedAsset) :
    timedeltaSeconds (contentSeconds (resolvedSlot config slot asset block)) =
      playedMicros config asset := rfl

/-- Content that is not shorter than nothing reaches the start of each of its blocks. -/
theorem playedMicros_reaches {asset : ResolvedAsset}
    (content : 0 ≤ timedeltaSeconds asset.contentDurationSeconds) {k : Nat}
    (block : k < blockSpan config asset.contentDurationSeconds) :
    k * config.gridMicros ≤ playedMicros config asset := by
  have grid : (0 : ℚ) < config.gridSeconds := by exact_mod_cast gridSeconds_pos config
  unfold playedMicros
  by_cases zero : asset.contentDurationSeconds = 0
  · have span : blockSpan config asset.contentDurationSeconds = 1 := by
      unfold blockSpan
      rw [zero, if_neg (lt_irrefl _)]
    rw [if_pos zero, timedeltaSeconds_intCast, span]
    have first : k = 0 := by omega
    have positive := gridSeconds_pos config
    rw [first]
    push_cast
    omega
  · rw [if_neg zero]
    by_cases positive : asset.contentDurationSeconds > 0
    · apply le_roundHalfEven
      unfold blockSpan at block
      rw [if_pos positive] at block
      have below : (k : Int) < ⌈asset.contentDurationSeconds / config.gridSeconds⌉ := by omega
      have short : (k : ℚ) < asset.contentDurationSeconds / config.gridSeconds := by
        exact_mod_cast Int.lt_ceil.mp below
      rw [lt_div_iff₀ grid] at short
      unfold Config.gridMicros
      push_cast
      linarith
    · have span : blockSpan config asset.contentDurationSeconds = 1 := by
        unfold blockSpan
        rw [if_neg positive]
      have first : k = 0 := by omega
      rw [first]
      simpa using content

/-- An asset that plays no less than nothing has content that is not shorter than nothing. -/
theorem content_of_playedMicros {asset : ResolvedAsset} (plays : 0 ≤ playedMicros config asset) :
    0 ≤ timedeltaSeconds asset.contentDurationSeconds := by
  unfold playedMicros at plays
  by_cases zero : asset.contentDurationSeconds = 0
  · rw [zero]
    exact (timedeltaSeconds_intCast 0).ge
  · rwa [if_neg zero] at plays

/-- The window of a slot is the whole occupancy of its event, from the slot's own start. -/
theorem inWindow_resolvedSlot {date : Date} (slot block : ScheduleSlot) (asset : ResolvedAsset)
    {start t : Int}
    (begins : slotToDatetime config.programmingDayStartHour date block.slotTime = start) :
    inWindow config date t (resolvedSlot config slot asset block) = true ↔
      start ≤ t ∧
        t < start + blockSpan config asset.contentDurationSeconds * config.gridMicros := by
  have occupancy : timedeltaSeconds (resolvedSlot config slot asset block).durationSeconds =
      blockSpan config asset.contentDurationSeconds * config.gridMicros := by
    show timedeltaSeconds
      ((blockSpan config asset.contentDurationSeconds * config.gridSeconds : Int) : ℚ) = _
    rw [timedeltaSeconds_intCast]
    unfold Config.gridMicros
    ring
  unfold inWindow
  rw [decide_eq_true_iff, occupancy]
  show slotToDatetime config.programmingDayStartHour date block.slotTime ≤ t ∧
    t < slotToDatetime config.programmingDayStartHour date block.slotTime + _ ↔ _
  rw [begins]

/-- What lookup finds among a day's slots. -/
def findSlot (date : Date) (t : Int) (slots : List ResolvedSlot) : Option (ResolvedSlot × Int) :=
  (slots.find? (inWindow config date t)).map fun slot => (slot, slotStart config date slot)

theorem findSlot_of_inside {date : Date} (slot block : ScheduleSlot) (asset : ResolvedAsset)
    {start t : Int} {others : List ResolvedSlot}
    (begins : slotToDatetime config.programmingDayStartHour date block.slotTime = start)
    (inside : start ≤ t ∧
      t < start + blockSpan config asset.contentDurationSeconds * config.gridMicros) :
    findSlot config date t (resolvedSlot config slot asset block :: others) =
      some (resolvedSlot config slot asset block, start) := by
  unfold findSlot
  rw [List.find?_cons_of_pos ((inWindow_resolvedSlot config slot block asset begins).mpr inside),
    Option.map_some, ← begins]
  rfl

theorem findSlot_of_outside {date : Date} (slot block : ScheduleSlot) (asset : ResolvedAsset)
    {start t : Int} {others : List ResolvedSlot}
    (begins : slotToDatetime config.programmingDayStartHour date block.slotTime = start)
    (outside : start + blockSpan config asset.contentDurationSeconds * config.gridMicros ≤ t) :
    findSlot config date t (resolvedSlot config slot asset block :: others) =
      findSlot config date t others := by
  unfold findSlot
  rw [List.find?_cons_of_neg]
  rw [inWindow_resolvedSlot config slot block asset begins]
  omega

/-- The asset of the found slot, from its start on, plays the event that has both. -/
theorem plays_found (slot block : ScheduleSlot) {event : EPGEvent} {start b : Int}
    (begins : event.startTime = start)
    (reaches : b - start ≤ playedMicros config event.resolvedAsset) :
    Plays event b (b + config.gridMicros)
      (segmentsOf config
        (some (resolvedSlot config slot event.resolvedAsset block, start))
        b (b + config.gridMicros)) := by
  have grid := gridMicros_pos config
  unfold segmentsOf
  dsimp only
  rw [timedeltaSeconds_contentSeconds]
  by_cases short : start + playedMicros config event.resolvedAsset < b + config.gridMicros
  · rw [if_pos short, min_eq_left short.le]
    refine ⟨⟨_, _, rfl, rfl, rfl, by rw [begins]; rfl, ?_⟩, rfl, ?_, rfl, ?_, rfl⟩
    · intro segment member
      rw [List.mem_singleton.mp member]
      rfl
    · show b ≤ start + playedMicros config event.resolvedAsset
      omega
    · exact short.le
  · rw [if_neg short, min_eq_right (not_lt.mp short)]
    refine ⟨⟨_, [], rfl, rfl, rfl, by rw [begins]; rfl, ?_⟩, rfl, ?_, rfl⟩
    · intro segment member
      cases member
    · show b ≤ b + config.gridMicros
      omega

theorem totalSeconds_injective {a b : Int} (same : totalSeconds a = totalSeconds b) : a = b := by
  unfold totalSeconds at same
  have equal : (a : ℚ) = b := by linarith
  exact_mod_cast equal

/-- What the found slot plays starts where the event does, and reaches the block. -/
theorem found_of_plays {slot : ResolvedSlot} {event : EPGEvent} {start b : Int}
    (plays : Plays event b (b + config.gridMicros)
      (segmentsOf config (some (slot, start)) b (b + config.gridMicros))) :
    event.startTime = start ∧ b - start ≤ timedeltaSeconds (contentSeconds slot) := by
  obtain ⟨⟨first, rest, segments, _, _, seek, _⟩, tiles⟩ := plays
  unfold segmentsOf at segments tiles
  dsimp only at segments tiles
  have grid := gridMicros_pos config
  by_cases short : start + timedeltaSeconds (contentSeconds slot) < b + config.gridMicros
  · rw [if_pos short] at segments tiles
    obtain ⟨rfl, _⟩ := List.cons.inj segments
    obtain ⟨_, forward, _⟩ := tiles
    rw [min_eq_left short.le] at forward
    refine ⟨?_, ?_⟩
    · have same := totalSeconds_injective seek
      omega
    · have bound : b ≤ start + timedeltaSeconds (contentSeconds slot) := forward
      omega
  · rw [if_neg short] at segments tiles
    obtain ⟨rfl, _⟩ := List.cons.inj segments
    refine ⟨?_, by omega⟩
    have same := totalSeconds_injective seek
    omega

end Contents

/-! ### What a resolution lays out -/

section Layout

variable (config : Config) (seedHash : String → String → Date → TimeOfDay → Nat)
  (channelId : String) (date : Date)

/-- The slots and events of a resolution: an event takes its blocks off the slots that are left, or
all of them where they are fewer. -/
inductive Laid : Stores → List ScheduleSlot → List ResolvedSlot → List ProgramEvent → Prop
  | nil {stores : Stores} : Laid stores [] [] []
  | event {stores after : Stores} {slot : ScheduleSlot} {rest : List ScheduleSlot}
      {asset : ResolvedAsset} {n slotIdx : Nat} {slots : List ResolvedSlot}
      {events : List ProgramEvent}
      (answer : resolveProgramRef config seedHash stores channelId slot.programRef date
        slot.slotTime = .ok (asset, after))
      (span : blockSpan config asset.contentDurationSeconds = n + 1)
      (tail : Laid after (rest.drop n) slots events) :
      Laid stores (slot :: rest)
        (resolvedSlot config slot asset slot ::
          ((rest.take n).map (resolvedSlot config slot asset) ++ slots))
        (programEvent config channelId date slotIdx slot asset :: events)

/-- The guide of events laid end to end from a time. -/
def guideOf :
    Int → List ProgramEvent → List EPGEvent
  | _, [] => []
  | start, event :: rest =>
    epgEvent channelId date start (start + event.blockSpanCount * config.gridMicros)
        (event.resolvedAsset.getD { filePath := "" }) ::
      guideOf (start + event.blockSpanCount * config.gridMicros) rest

variable {config seedHash channelId date} {stores : Stores} {slots : List ScheduleSlot}
  {resolved : List ResolvedSlot} {events : List ProgramEvent}

/-- The loop lays out its slots. -/
theorem resolveLoop_laid {fuel slotIdx : Nat}
    {out : List ResolvedSlot × List ProgramEvent × Stores} (enough : slots.length ≤ fuel)
    (resolves : resolveLoop config seedHash channelId date fuel slotIdx slots stores = .ok out) :
    Laid config seedHash channelId date stores slots out.1 out.2.1 := by
  induction fuel generalizing slotIdx slots stores out with
  | zero =>
    obtain rfl : slots = [] := List.length_eq_zero_iff.mp (by omega)
    obtain rfl := Except.ok.inj resolves
    exact .nil
  | succ fuel ih =>
    cases slots with
    | nil =>
      obtain rfl := Except.ok.inj resolves
      exact .nil
    | cons slot rest =>
      unfold resolveLoop at resolves
      cases found : resolveProgramRef config seedHash stores channelId slot.programRef date
          slot.slotTime with
      | error reason =>
        rw [found] at resolves
        cases resolves
      | ok answer =>
        obtain ⟨asset, after⟩ := answer
        rw [found] at resolves
        obtain ⟨n, span⟩ : ∃ n, blockSpan config asset.contentDurationSeconds = n + 1 :=
          ⟨_, (Nat.succ_pred_eq_of_pos (blockSpan_pos config _)).symm⟩
        simp only [bind, Except.bind, span] at resolves
        have taken : (slot :: rest).take (min (n + 1) (rest.length + 1)) = slot :: rest.take n := by
          rw [← List.length_cons (a := slot), ← List.take_eq_take_min, List.take_succ_cons]
        have dropped : (slot :: rest).drop (min (n + 1) (rest.length + 1)) = rest.drop n := by
          rw [← List.length_cons (a := slot), ← List.drop_eq_drop_min, List.drop_succ_cons]
        rw [taken, dropped] at resolves
        split at resolves
        · cases resolves
        · rename_i rests tail
          obtain rfl := Except.ok.inj resolves
          have shorter : (rest.drop n).length ≤ fuel := by
            rw [List.length_drop]
            rw [List.length_cons] at enough
            omega
          exact .event found span (ih shorter tail)

theorem guideOf_cons (start : Int) (event : ProgramEvent)
    (rest : List ProgramEvent) :
    guideOf config channelId date start (event :: rest) =
      epgEvent channelId date start (start + event.blockSpanCount * config.gridMicros)
          (event.resolvedAsset.getD { filePath := "" }) ::
        guideOf config channelId date (start + event.blockSpanCount * config.gridMicros) rest := rfl

/-- The blocks of the events. -/
def totalSpan (events : List ProgramEvent) : Int := (events.map (·.blockSpanCount)).sum

/-- The guide tiles the blocks of its events. -/
theorem guideOf_tiles : ∀ {events : List ProgramEvent}
    (start : Int), (∀ event ∈ events, 0 ≤ event.blockSpanCount) →
      Tiles EPGEvent.startTime EPGEvent.endTime (guideOf config channelId date start events) start
        (start + totalSpan events * config.gridMicros)
  | [], start, _ => by
    show start = start + 0 * config.gridMicros
    ring
  | event :: rest, start, nonneg => by
    have grid := gridMicros_pos config
    have here := nonneg event List.mem_cons_self
    have forward : 0 ≤ event.blockSpanCount * config.gridMicros := by positivity
    refine ⟨rfl, ?_, ?_⟩
    · show start ≤ start + event.blockSpanCount * config.gridMicros
      omega
    · have tail := guideOf_tiles (start + event.blockSpanCount * config.gridMicros)
        fun other member => nonneg other (List.mem_cons_of_mem _ member)
      have high : start + totalSpan (event :: rest) * config.gridMicros =
          start + event.blockSpanCount * config.gridMicros + totalSpan rest * config.gridMicros := by
        unfold totalSpan
        rw [List.map_cons, List.sum_cons]
        ring
      rw [high]
      exact tail

theorem Laid.span_pos (laid : Laid config seedHash channelId date stores slots resolved events) :
    ∀ event ∈ events, 0 < event.blockSpanCount := by
  induction laid with
  | nil => intro event member; cases member
  | event answer span tail ih =>
    intro event member
    rcases List.mem_cons.mp member with rfl | later
    · exact Int.natCast_pos.mpr (blockSpan_pos config _)
    · exact ih event later

theorem Laid.totalSpan_nonneg
    (laid : Laid config seedHash channelId date stores slots resolved events) :
    0 ≤ totalSpan events := by
  apply List.sum_nonneg
  intro count member
  obtain ⟨event, isEvent, rfl⟩ := List.mem_map.mp member
  exact (laid.span_pos event isEvent).le

/-- A day takes at least as many blocks as it has slots. -/
theorem Laid.length_le_totalSpan
    (laid : Laid config seedHash channelId date stores slots resolved events) :
    (slots.length : Int) ≤ totalSpan events := by
  induction laid with
  | nil => exact le_rfl
  | @event stores after slot rest asset n slotIdx others events answer span tail ih =>
    have head : (programEvent config channelId date slotIdx slot asset).blockSpanCount =
        ((n + 1 : Nat) : Int) := by
      rw [programEvent_blockSpanCount, span]
    unfold totalSpan at ih ⊢
    rw [List.map_cons, List.sum_cons, head, List.length_cons]
    rw [List.length_drop] at ih
    push_cast
    omega

/-- The guide of a laid day is computed from its slots. -/
theorem Laid.epgLoop (laid : Laid config seedHash channelId date stores slots resolved events)
    {start : Int} (consecutive : Consecutive config date start slots)
    (before : List ResolvedSlot) :
    Schedule.epgLoop config channelId date (before ++ resolved) before.length events =
      some (guideOf config channelId date start events) := by
  induction laid generalizing start before with
  | nil => rfl
  | @event stores after slot rest asset n slotIdx others events answer span tail ih =>
    obtain ⟨here, later⟩ := consecutive
    unfold Schedule.epgLoop
    rw [List.getElem?_append_right le_rfl, Nat.sub_self, List.getElem?_cons_zero]
    have count : (programEvent config channelId date slotIdx slot asset).blockSpanCount.toNat =
        n + 1 := by
      rw [programEvent_blockSpanCount, Int.toNat_natCast, span]
    have spanMicros : (programEvent config channelId date slotIdx slot asset).blockSpanCount =
        ((n + 1 : Nat) : Int) := by
      rw [programEvent_blockSpanCount, span]
    have starts : slotStart config date (resolvedSlot config slot asset slot) = start := here
    simp only [bind, Option.bind, count, starts]
    have rests := consecutive_drop config date n _ rest later
    by_cases enough : n ≤ rest.length
    · have tailGuide := ih rests (before ++ resolvedSlot config slot asset slot ::
        (rest.take n).map (resolvedSlot config slot asset))
      have length : (before ++ resolvedSlot config slot asset slot ::
          (rest.take n).map (resolvedSlot config slot asset)).length = before.length + (n + 1) := by
        simp [enough]
      rw [length, List.append_assoc, List.cons_append] at tailGuide
      rw [tailGuide, guideOf_cons, spanMicros]
      have next : start + config.gridMicros + (n : Int) * config.gridMicros =
          start + ((n + 1 : Nat) : Int) * config.gridMicros := by
        push_cast
        ring
      rw [next]
      rfl
    · have empty : rest.drop n = [] := List.drop_eq_nil_of_le (by omega)
      rw [empty] at tail
      cases tail
      rfl

end Layout

/-! ### Block by block -/

section Blocks

variable (config : Config) (date : Date)

/-- A block is answered from a list of slots: some event of the guide contains it and plays. -/
def Answered (resolved : List ResolvedSlot) (guide : List EPGEvent) (b : Int) : Prop :=
  ∃ event ∈ guide, event.Contains config b ∧
    Plays event b (b + config.gridMicros)
      (segmentsOf config (findSlot config date b resolved) b (b + config.gridMicros))

variable {config date} {seedHash : String → String → Date → TimeOfDay → Nat} {channelId : String}
  {stores : Stores} {slots : List ScheduleSlot} {resolved : List ResolvedSlot}
  {events : List ProgramEvent}

/-- The blocks of the first event are answered when its content is not shorter than nothing. -/
theorem answered_first {slot : ScheduleSlot} {asset : ResolvedAsset} {slotIdx : Nat} {start : Int}
    {others : List ResolvedSlot}
    (begins : slotToDatetime config.programmingDayStartHour date slot.slotTime = start)
    (content : 0 ≤ timedeltaSeconds asset.contentDurationSeconds) {k : Nat}
    (block : k < blockSpan config asset.contentDurationSeconds) :
    Answered config date (resolvedSlot config slot asset slot :: others)
      (guideOf config channelId date start
        (programEvent config channelId date slotIdx slot asset :: events))
      (start + k * config.gridMicros) := by
  have grid := gridMicros_pos config
  have reaches := playedMicros_reaches config content block
  have below : ((k : Int) + 1) * config.gridMicros ≤
      blockSpan config asset.contentDurationSeconds * config.gridMicros :=
    mul_le_mul_of_nonneg_right (by omega) grid.le
  have offset : 0 ≤ (k : Int) * config.gridMicros := by positivity
  have inside : start + k * config.gridMicros <
      start + blockSpan config asset.contentDurationSeconds * config.gridMicros := by linarith
  refine ⟨_, List.mem_cons_self, ⟨?_, ?_⟩, ?_⟩
  · show start ≤ start + k * config.gridMicros
    omega
  · show start + k * config.gridMicros + config.gridMicros ≤
      start + blockSpan config asset.contentDurationSeconds * config.gridMicros
    linarith
  · rw [findSlot_of_inside config slot slot asset begins ⟨by omega, inside⟩]
    apply plays_found config slot slot rfl
    show start + k * config.gridMicros - start ≤ playedMicros config asset
    omega

/-- The first block of an event is answered only by content that is not shorter than nothing. -/
theorem content_of_answered {slot : ScheduleSlot} {asset : ResolvedAsset} {slotIdx : Nat}
    {start : Int} {others : List ResolvedSlot}
    (begins : slotToDatetime config.programmingDayStartHour date slot.slotTime = start)
    (answered : Answered config date (resolvedSlot config slot asset slot :: others)
      (guideOf config channelId date start
        (programEvent config channelId date slotIdx slot asset :: events)) start) :
    0 ≤ timedeltaSeconds asset.contentDurationSeconds := by
  have grid := gridMicros_pos config
  obtain ⟨event, _, _, plays⟩ := answered
  have span := blockSpan_pos config asset.contentDurationSeconds
  have occupied : 0 < (blockSpan config asset.contentDurationSeconds : Int) * config.gridMicros := by
    positivity
  rw [findSlot_of_inside config slot slot asset begins ⟨le_rfl, by omega⟩] at plays
  have reaches := (found_of_plays config plays).2
  rw [timedeltaSeconds_contentSeconds] at reaches
  exact content_of_playedMicros config (by omega)

/-- A block lies in one event of a tiling only. -/
theorem event_of_contains {guide : List EPGEvent} {low high b : Int}
    (tiles : Tiles EPGEvent.startTime EPGEvent.endTime guide low high) {event other : EPGEvent}
    (member : event ∈ guide) (otherMember : other ∈ guide) (contains : event.Contains config b)
    (otherContains : other.Contains config b) : other = event := by
  have grid := gridMicros_pos config
  unfold EPGEvent.Contains at contains otherContains
  exact tiles.unique otherMember member ⟨otherContains.1, by omega⟩ ⟨contains.1, by omega⟩

/-- Past the blocks of the first event, its first slot and its guide entry do not matter. -/
theorem answered_skip {slot : ScheduleSlot} {asset : ResolvedAsset} {slotIdx : Nat} {start b : Int}
    {others : List ResolvedSlot}
    (begins : slotToDatetime config.programmingDayStartHour date slot.slotTime = start)
    (past : start + blockSpan config asset.contentDurationSeconds * config.gridMicros ≤ b) :
    Answered config date (resolvedSlot config slot asset slot :: others)
        (guideOf config channelId date start
          (programEvent config channelId date slotIdx slot asset :: events)) b ↔
      Answered config date others
        (guideOf config channelId date
          (start + blockSpan config asset.contentDurationSeconds * config.gridMicros) events) b := by
  have grid := gridMicros_pos config
  unfold Answered
  rw [findSlot_of_outside config slot slot asset begins past, guideOf_cons]
  constructor
  · rintro ⟨event, member, contains, plays⟩
    rcases List.mem_cons.mp member with rfl | later
    · have ends : b + config.gridMicros ≤
          start + blockSpan config asset.contentDurationSeconds * config.gridMicros := contains.2
      omega
    · exact ⟨event, later, contains, plays⟩
  · rintro ⟨event, member, answers⟩
    exact ⟨event, List.mem_cons_of_mem _ member, answers⟩

/-- The second slot of an event that has one answers the block after the event, from the second
slot's own start: nothing that starts there plays so. -/
theorem not_answered_of_second {slot second : ScheduleSlot} {asset : ResolvedAsset} {start : Int}
    {others : List ResolvedSlot} {n : Nat}
    (span : blockSpan config asset.contentDurationSeconds = n + 2)
    (begins : slotToDatetime config.programmingDayStartHour date second.slotTime =
      start + config.gridMicros)
    (nonneg : ∀ event ∈ events, 0 ≤ event.blockSpanCount) :
    ¬ Answered config date (resolvedSlot config slot asset second :: others)
      (guideOf config channelId date (start + ((n + 2 : Nat) : Int) * config.gridMicros) events)
      (start + ((n + 2 : Nat) : Int) * config.gridMicros) := by
  have grid := gridMicros_pos config
  have offset : 0 ≤ (n : Int) * config.gridMicros := by positivity
  rintro ⟨event, member, _, plays⟩
  rw [findSlot_of_inside config slot second asset begins
    ⟨by push_cast; linarith, by rw [span]; push_cast; linarith⟩] at plays
  have starts := (found_of_plays config plays).1
  have bounds := ((guideOf_tiles _ nonneg).bounds event member).1
  push_cast at bounds
  linarith

theorem fitsBlocks_cons {after : Stores} {slot : ScheduleSlot} {rest : List ScheduleSlot}
    {asset : ResolvedAsset}
    (answer : resolveProgramRef config seedHash stores channelId slot.programRef date
      slot.slotTime = .ok (asset, after)) :
    FitsBlocks config seedHash channelId date stores (slot :: rest) ↔
      0 ≤ timedeltaSeconds asset.contentDurationSeconds ∧
        (rest.length < blockSpan config asset.contentDurationSeconds ∨
          blockSpan config asset.contentDurationSeconds = 1 ∧
            FitsBlocks config seedHash channelId date after rest) := by
  rw [FitsBlocks, answer]

/-- **Every block of a laid day is answered exactly when each content fits its blocks.** The first
event is always answered. Where it has a successor, its second slot, if it has one, would answer the
successor's first block. -/
theorem Laid.answered_iff (laid : Laid config seedHash channelId date stores slots resolved events)
    {start limit : Int} (consecutive : Consecutive config date start slots)
    (inside : slots ≠ [] → start + slots.length * config.gridMicros ≤ limit) :
    (∀ j : Nat, (j : Int) < totalSpan events →
        start + j * config.gridMicros + config.gridMicros ≤ limit →
        Answered config date resolved (guideOf config channelId date start events)
          (start + j * config.gridMicros)) ↔
      FitsBlocks config seedHash channelId date stores slots := by
  have grid := gridMicros_pos config
  induction laid generalizing start with
  | nil =>
    refine iff_of_true (fun j below => ?_) trivial
    have none : (j : Int) < 0 := below
    omega
  | @event stores after slot rest asset n slotIdx others events answer span tail ih =>
    obtain ⟨here, later⟩ := consecutive
    have room := inside (List.cons_ne_nil _ _)
    rw [List.length_cons] at room
    push_cast at room
    have lengthNonneg : 0 ≤ (rest.length : Int) * config.gridMicros := by positivity
    have rests := consecutive_drop config date n _ rest later
    have total : totalSpan (programEvent config channelId date slotIdx slot asset :: events) =
        (n + 1) + totalSpan events := by
      unfold totalSpan
      rw [List.map_cons, List.sum_cons]
      show ((blockSpan config asset.contentDurationSeconds : Nat) : Int) + _ = _
      rw [span]
      push_cast
      ring
    have tailNonneg := tail.totalSpan_nonneg
    rw [fitsBlocks_cons answer, span, total]
    have first (answered : ∀ j : Nat, (j : Int) < n + 1 + totalSpan events →
        start + j * config.gridMicros + config.gridMicros ≤ limit → Answered config date
          (resolvedSlot config slot asset slot ::
            ((rest.take n).map (resolvedSlot config slot asset) ++ others))
          (guideOf config channelId date start
            (programEvent config channelId date slotIdx slot asset :: events))
          (start + j * config.gridMicros)) :
        0 ≤ timedeltaSeconds asset.contentDurationSeconds := by
      have atStart := answered 0 (by push_cast; omega) (by push_cast; linarith)
      simp only [Nat.cast_zero, zero_mul, add_zero] at atStart
      exact content_of_answered here atStart
    by_cases last : rest.length < n + 1
    · have empty : rest.drop n = [] := List.drop_eq_nil_of_le (by omega)
      rw [empty] at tail
      cases tail
      refine ⟨fun answered => ⟨first answered, .inl last⟩, ?_⟩
      rintro ⟨content, _⟩ j below _
      have block : (j : Int) < n + 1 + 0 := below
      exact answered_first here content (by omega)
    · have tailLength : (rest.drop n).length = rest.length - n := List.length_drop
      have tailStart : start + config.gridMicros + n * config.gridMicros =
          start + ((n + 1 : Nat) : Int) * config.gridMicros := by
        push_cast
        ring
      rw [tailStart] at rests
      have tailIff := ih rests fun _ => by
        rw [tailLength]
        push_cast [Nat.cast_sub (show n ≤ rest.length by omega)]
        linarith
      have skip (j : Nat) : Answered config date (resolvedSlot config slot asset slot ::
            ((rest.take n).map (resolvedSlot config slot asset) ++ others))
          (guideOf config channelId date start
            (programEvent config channelId date slotIdx slot asset :: events))
          (start + ((j + (n + 1) : Nat) : Int) * config.gridMicros) ↔
        Answered config date ((rest.take n).map (resolvedSlot config slot asset) ++ others)
          (guideOf config channelId date (start + ((n + 1 : Nat) : Int) * config.gridMicros) events)
          (start + ((n + 1 : Nat) : Int) * config.gridMicros + j * config.gridMicros) := by
        have later : start + ((j + (n + 1) : Nat) : Int) * config.gridMicros =
            start + ((n + 1 : Nat) : Int) * config.gridMicros + j * config.gridMicros := by
          push_cast
          ring
        have offset : 0 ≤ (j : Int) * config.gridMicros := by positivity
        rw [later, ← span]
        exact answered_skip here (by omega)
      have successor := tail.length_le_totalSpan
      constructor
      · intro answered
        have single : n = 0 := by
          by_contra several
          obtain ⟨m, rfl⟩ := Nat.exists_eq_succ_of_ne_zero several
          obtain ⟨second, more, rfl⟩ := List.exists_cons_of_length_pos (l := rest) (by omega)
          have restRoom : ((m : Int) + 1) * config.gridMicros ≤
              ((second :: more).length - 1 : Int) * config.gridMicros :=
            mul_le_mul_of_nonneg_right (by omega) grid.le
          have shadowed := (skip 0).mp (answered _ (by push_cast; omega) (by push_cast; linarith))
          rw [List.take_succ_cons, Nat.cast_zero, zero_mul, add_zero] at shadowed
          exact not_answered_of_second span later.1 (fun event member =>
            (tail.span_pos event member).le) shadowed
        subst single
        refine ⟨first answered, .inr ⟨rfl, tailIff.mp fun j below room => ?_⟩⟩
        refine (skip j).mp (answered _ (by push_cast; omega) ?_)
        push_cast at room ⊢
        linarith
      · rintro ⟨content, few | ⟨single, fits⟩⟩ j below room
        · omega
        · obtain rfl : n = 0 := by omega
          cases j with
          | zero => exact answered_first here content (by omega)
          | succ j =>
            refine (skip j).mpr (tailIff.mpr fits j (by push_cast at below; omega) ?_)
            push_cast at room ⊢
            linarith

end Blocks

/-! ### The day -/

section Day

variable {config : Config} {seedHash : String → String → Date → TimeOfDay → Nat}
  {channelId : String} {date : Date} {stores : Stores} {slots : List ScheduleSlot}
  {resolved : List ResolvedSlot} {events : List ProgramEvent}

/-- Every block of a laid day is inside an event and inside the window of a slot. -/
theorem Laid.contains (laid : Laid config seedHash channelId date stores slots resolved events)
    {start : Int} (consecutive : Consecutive config date start slots) {j : Nat}
    (block : (j : Int) < totalSpan events) :
    (∃ event ∈ guideOf config channelId date start events,
        event.Contains config (start + j * config.gridMicros)) ∧
      ∃ slot ∈ resolved, inWindow config date (start + j * config.gridMicros) slot = true := by
  have grid := gridMicros_pos config
  induction laid generalizing start j with
  | nil =>
    have none : (j : Int) < 0 := block
    omega
  | @event stores after slot rest asset n slotIdx others events answer span tail ih =>
    obtain ⟨here, later⟩ := consecutive
    have spanCount : (programEvent config channelId date slotIdx slot asset).blockSpanCount =
        ((n + 1 : Nat) : Int) := by
      rw [programEvent_blockSpanCount, span]
    unfold totalSpan at block
    rw [List.map_cons, List.sum_cons, spanCount] at block
    rw [guideOf_cons, spanCount]
    by_cases first : j < n + 1
    · have offset : 0 ≤ (j : Int) * config.gridMicros := by positivity
      have below : ((j : Int) + 1) * config.gridMicros ≤ ((n + 1 : Nat) : Int) * config.gridMicros :=
        mul_le_mul_of_nonneg_right (by omega) grid.le
      refine ⟨⟨_, List.mem_cons_self, ?_, ?_⟩, _, List.mem_cons_self, ?_⟩
      · show start ≤ start + j * config.gridMicros
        omega
      · show start + j * config.gridMicros + config.gridMicros ≤
          start + ((n + 1 : Nat) : Int) * config.gridMicros
        linarith
      · rw [inWindow_resolvedSlot config slot slot asset here, span]
        exact ⟨by omega, by linarith⟩
    · obtain ⟨i, rfl⟩ : ∃ i, j = n + 1 + i := ⟨j - (n + 1), by omega⟩
      have rests := consecutive_drop config date n _ rest later
      obtain ⟨⟨event, member, contains⟩, found, isSlot, inside⟩ :=
        ih rests (j := i) (by unfold totalSpan; push_cast at block; omega)
      have tailStart : start + config.gridMicros + n * config.gridMicros =
          start + ((n + 1 : Nat) : Int) * config.gridMicros := by
        push_cast
        ring
      have sameBlock : start + config.gridMicros + n * config.gridMicros + i * config.gridMicros =
          start + ((n + 1 + i : Nat) : Int) * config.gridMicros := by
        push_cast
        ring
      rw [sameBlock] at contains inside
      rw [tailStart] at member
      exact ⟨⟨event, List.mem_cons_of_mem _ member, contains⟩, found,
        List.mem_cons_of_mem _ (List.mem_append_right _ isSlot), inside⟩

/-- The guide of the laid day. -/
theorem Laid.dayEpgEvents (laid : Laid config seedHash channelId date stores slots resolved events)
    {start : Int} (consecutive : Consecutive config date start slots) (resolutionTime : Int) :
    Schedule.dayEpgEvents config channelId ⟨date, resolved, resolutionTime, events⟩ =
      some (guideOf config channelId date start events) := by
  have guide := laid.epgLoop consecutive []
  cases laid with
  | nil => rfl
  | event => exact guide

/-- A fresh day's resolution lays out its slots and stores them. -/
theorem resolveScheduleDay_laid {resolutionTime : Int} {day : ResolvedScheduleDay} {after : Stores}
    (fresh : stores.resolved channelId date = none)
    (resolves : resolveScheduleDay config seedHash stores channelId date slots resolutionTime =
      .ok (day, after)) :
    ∃ resolved events, day = ⟨date, resolved, resolutionTime, events⟩ ∧
      Laid config seedHash channelId date stores slots resolved events ∧
      after.resolved channelId date = some day := by
  unfold resolveScheduleDay at resolves
  rw [fresh] at resolves
  cases loop : resolveLoop config seedHash channelId date slots.length 0 slots stores with
  | error reason =>
    rw [loop] at resolves
    cases resolves
  | ok out =>
    rw [loop] at resolves
    obtain ⟨rfl, rfl⟩ := Prod.mk.inj (Except.ok.inj resolves)
    exact ⟨_, _, rfl, resolveLoop_laid le_rfl loop, if_pos ⟨rfl, rfl⟩⟩

/-- A block inside the day that some slot's window contains is played from the day's slots. -/
theorem getProgramAt_segments {day : ResolvedScheduleDay} {b t : Int}
    (stored : stores.resolved channelId date = some day) (isBlock : GridBlock config date b)
    (covered : ∃ slot ∈ day.resolvedSlots, inWindow config date b slot = true) (after : b ≤ t)
    (before : t < b + config.gridMicros) :
    getProgramAt config stores channelId t =
      ⟨b, b + config.gridMicros,
        segmentsOf config (findSlot config date b day.resolvedSlots) b (b + config.gridMicros)⟩ := by
  obtain ⟨found, isFound⟩ := Option.isSome_iff_exists.mp (List.find?_isSome.mpr covered)
  have position := isBlock
  obtain ⟨k, begins, inside⟩ := position
  have grid := gridMicros_pos config
  have offset : 0 ≤ (k : Int) * config.gridMicros := by positivity
  have today := programmingDayStart_eq config (show dayStart config date ≤ b by omega) (by omega)
  have inDay : findInDay config (stores.resolved channelId date) date b =
      findSlot config date b day.resolvedSlots := by
    rw [stored]
    rfl
  have answer : findResolvedSlotAt config stores channelId b =
      findSlot config date b day.resolvedSlots := by
    unfold findResolvedSlotAt
    dsimp only
    rw [today, dateOf_dayStart, inDay]
    unfold findSlot
    rw [isFound]
    rfl
  unfold getProgramAt buildSegments
  dsimp only
  rw [floorToGridBoundary_eq config isBlock after before, answer]

/-- The covered blocks of a laid day are the blocks of its events. -/
theorem Laid.coveredBlock_iff
    (laid : Laid config seedHash channelId date stores slots resolved events) {position : Nat}
    (consecutive : Consecutive config date (dayStart config date + position * config.gridMicros)
      slots) (resolutionTime b : Int) :
    CoveredBlock config channelId slots ⟨date, resolved, resolutionTime, events⟩ b ↔
      ∃ j : Nat, b = dayStart config date + position * config.gridMicros + j * config.gridMicros ∧
        (j : Int) < totalSpan events ∧ b + config.gridMicros ≤ dayStart config date + dayMicros := by
  have grid := gridMicros_pos config
  have guide := laid.dayEpgEvents consecutive resolutionTime
  constructor
  · rintro ⟨⟨k, begins, inside⟩, ⟨slot, member, starts⟩ | ⟨_, isGuide, event, member, contains⟩⟩ <;>
      change b = dayStart config date + k * config.gridMicros at begins
    · obtain ⟨i, bound, slotStarts⟩ := consecutive_mem config date _ slots consecutive slot member
      refine ⟨i, starts.symm.trans slotStarts, ?_, inside⟩
      have fits := laid.length_le_totalSpan
      omega
    · obtain rfl := Option.some.inj (guide.symm.trans isGuide)
      have tiles : Tiles EPGEvent.startTime EPGEvent.endTime
          (guideOf config channelId date (dayStart config date + position * config.gridMicros) events)
          (dayStart config date + position * config.gridMicros) _ :=
        guideOf_tiles _ fun event isEvent => (laid.span_pos event isEvent).le
      have bounds := tiles.bounds event member
      unfold EPGEvent.Contains at contains
      have low : (position : Int) * config.gridMicros ≤ k * config.gridMicros := by omega
      have above : (position : Int) ≤ k := le_of_mul_le_mul_right low grid
      refine ⟨k - position, ?_, ?_, inside⟩
      · rw [begins]
        push_cast [Nat.cast_sub (show position ≤ k by omega)]
        ring
      · have high : ((k : Int) - position + 1) * config.gridMicros ≤
            totalSpan events * config.gridMicros := by linarith
        have below := le_of_mul_le_mul_right high grid
        push_cast [Nat.cast_sub (show position ≤ k by omega)]
        omega
  · rintro ⟨j, begins, block, inside⟩
    refine ⟨⟨position + j, ?_, inside⟩, .inr ⟨_, guide, ?_⟩⟩
    · rw [begins]
      push_cast
      ring
    · rw [begins]
      exact (laid.contains consecutive block).1

/-- A covered block of a laid day is projected exactly when it is answered. -/
theorem Laid.projected_iff_answered
    (laid : Laid config seedHash channelId date stores slots resolved events) {position : Nat}
    (consecutive : Consecutive config date (dayStart config date + position * config.gridMicros)
      slots) {resolutionTime : Int} {after : Stores}
    (stored : after.resolved channelId date = some ⟨date, resolved, resolutionTime, events⟩) {j : Nat}
    (block : (j : Int) < totalSpan events)
    (isBlock : GridBlock config date
      (dayStart config date + position * config.gridMicros + j * config.gridMicros)) :
    Projected config after channelId ⟨date, resolved, resolutionTime, events⟩
        (dayStart config date + position * config.gridMicros + j * config.gridMicros) ↔
      Answered config date resolved
        (guideOf config channelId date (dayStart config date + position * config.gridMicros) events)
        (dayStart config date + position * config.gridMicros + j * config.gridMicros) := by
  have grid := gridMicros_pos config
  have guide := laid.dayEpgEvents consecutive resolutionTime
  have covered := (laid.contains consecutive block).2
  have played {t : Int} := getProgramAt_segments (t := t) stored isBlock covered
  constructor
  · rintro ⟨_, isGuide, event, member, contains, _, plays⟩
    obtain rfl := Option.some.inj (guide.symm.trans isGuide)
    obtain ⟨_, _, atStart⟩ := plays _ le_rfl (by omega)
    rw [played le_rfl (by omega)] at atStart
    exact ⟨event, member, contains, atStart⟩
  · rintro ⟨event, member, contains, plays⟩
    refine ⟨_, guide, event, member, contains, ?_, ?_⟩
    · intro other otherMember otherContains
      exact event_of_contains (guideOf_tiles _ fun event isEvent => (laid.span_pos event isEvent).le)
        member otherMember contains otherContains
    · intro t low high
      rw [played low high]
      exact ⟨rfl, rfl, plays⟩

/-- **Playout projects the guide.** After a day's resolution every covered block plays, at each of
its times, the one event that contains it, exactly when the contents fit their blocks: every program
but the last one that starts takes one grid block, and none is shorter than nothing. -/
theorem projected_iff {resolutionTime : Int} {day : ResolvedScheduleDay} {after : Stores}
    (placed : Placed config date slots) (fresh : stores.resolved channelId date = none)
    (resolves : resolveScheduleDay config seedHash stores channelId date slots resolutionTime =
      .ok (day, after)) :
    (∀ b, CoveredBlock config channelId slots day b → Projected config after channelId day b) ↔
      FitsBlocks config seedHash channelId date stores slots := by
  obtain ⟨position, consecutive, inside⟩ := placed
  obtain ⟨resolved, events, rfl, laid, stored⟩ := resolveScheduleDay_laid fresh resolves
  have room : slots ≠ [] → dayStart config date + position * config.gridMicros +
      slots.length * config.gridMicros ≤ dayStart config date + dayMicros := fun _ => by omega
  rw [← laid.answered_iff consecutive room]
  constructor
  · intro projected j block within
    have isCovered := (laid.coveredBlock_iff consecutive resolutionTime _).mpr
      ⟨j, rfl, block, within⟩
    exact (laid.projected_iff_answered consecutive stored block isCovered.1).mp (projected _ isCovered)
  · intro answered b isCovered
    obtain ⟨j, rfl, block, within⟩ :=
      (laid.coveredBlock_iff consecutive resolutionTime b).mp isCovered
    exact (laid.projected_iff_answered consecutive stored block isCovered.1).mpr (answered j block within)

end Day

/-! ### A film before an episode -/

section Counterexample

/-- An hour's film and a show of twenty-two minutes, on a half-hour grid from six. -/
def filmConfig : Config :=
  { gridMinutes := 30
    grid_pos := by decide
    getProgram := fun name =>
      if name = "film" then some ⟨"film", "Film", "manual", [⟨"f1", "Film", "/film.mp4", 3600⟩]⟩
      else if name = "show" then some ⟨"show", "Show", "manual", [⟨"s1", "One", "/show.mp4", 1320⟩]⟩
      else none
    fillerPath := "/filler.mp4"
    programmingDayStartHour := 6
    hour_nonneg := by decide
    hour_lt := by decide }

/-- Nothing resolved yet. -/
def freshStores : Stores := ⟨fun _ _ => 0, fun _ _ => none⟩

/-- A slot at so many half hours after midnight. -/
def halfHourSlot (position : Fin 48) (program : String) : ScheduleSlot :=
  { slotTime := ⟨position * 1800000000, by omega, by unfold dayMicros; omega⟩
    programRef := ⟨.program, program⟩
    durationSeconds := 1800 }

/-- Half past five. -/
def halfPastFive : Fin 48 := 11

/-- Six o'clock. -/
def sixOClock : Fin 48 := 12

/-- Half past six. -/
def halfPastSix : Fin 48 := 13

/-- The film at six, the show at seven. -/
def filmSlots : List ScheduleSlot :=
  [halfHourSlot 12 "film", halfHourSlot 13 "film", halfHourSlot 14 "show"]

/-- The show at six, the film at half past. -/
def showSlots : List ScheduleSlot :=
  [halfHourSlot 12 "show", halfHourSlot 13 "film", halfHourSlot 14 "film"]

/-- What resolving a day's slots gives. -/
def filmResolution (slots : List ScheduleSlot) : ResolvedScheduleDay × Stores :=
  ((resolveScheduleDay filmConfig (fun _ _ _ _ => 0) freshStores "ch" 739000 slots 0).toOption).getD
    (⟨739000, [], 0, []⟩, freshStores)

theorem filmResolution_eq (slots : List ScheduleSlot)
    (succeeds : (resolveScheduleDay filmConfig (fun _ _ _ _ => 0) freshStores "ch" 739000 slots
      0).toOption.isSome = true) :
    resolveScheduleDay filmConfig (fun _ _ _ _ => 0) freshStores "ch" 739000 slots 0 =
      .ok ((filmResolution slots).1, (filmResolution slots).2) := by
  unfold filmResolution
  cases answer : resolveScheduleDay filmConfig (fun _ _ _ _ => 0) freshStores "ch" 739000 slots 0 with
  | error reason =>
    rw [answer] at succeeds
    cases succeeds
  | ok resolution => rfl

/-- Seven o'clock. -/
def sevenOClock : Int := 739000 * dayMicros + 7 * hourMicros

/-- **The second half of the film plays where the show should start**, from half an hour in. -/
theorem second_slot_shadows_next :
    resolveScheduleDay filmConfig (fun _ _ _ _ => 0) freshStores "ch" 739000 filmSlots 0 =
      .ok ((filmResolution filmSlots).1, (filmResolution filmSlots).2) ∧
    CoveredBlock filmConfig "ch" filmSlots (filmResolution filmSlots).1 sevenOClock ∧
    (getProgramAt filmConfig (filmResolution filmSlots).2 "ch" sevenOClock).segments.map
        (fun segment => (segment.filePath, segment.seekOffsetSeconds)) = [(some "/film.mp4", 1800)] ∧
    ¬ Projected filmConfig (filmResolution filmSlots).2 "ch" (filmResolution filmSlots).1
      sevenOClock := by
  have played : (getProgramAt filmConfig (filmResolution filmSlots).2 "ch"
      sevenOClock).segments.map (fun segment => (segment.filePath, segment.seekOffsetSeconds)) =
        [(some "/film.mp4", 1800)] := by decide +kernel
  have listed : (dayEpgEvents filmConfig "ch" (filmResolution filmSlots).1).map (fun guide =>
      guide.map fun event => (event.startTime, event.endTime, event.resolvedAsset.filePath)) =
        some [(739000 * dayMicros + 6 * hourMicros, sevenOClock, "/film.mp4"),
          (sevenOClock, sevenOClock + 1800000000, "/show.mp4")] := by decide +kernel
  have dayDate : (filmResolution filmSlots).1.programmingDayDate = 739000 := by decide +kernel
  refine ⟨filmResolution_eq _ (by decide +kernel), ⟨?_, ?_⟩, played, ?_⟩
  · rw [dayDate]
    exact ⟨2, by decide, by decide⟩
  · rw [dayDate]
    exact .inl ⟨halfHourSlot 14 "show", by decide, by decide⟩
  · rintro ⟨guide, isGuide, event, member, contains, _, plays⟩
    obtain ⟨_, _, ⟨first, rest, segments, _, path, _⟩, _⟩ := plays sevenOClock le_rfl (by decide)
    rw [segments] at played
    rw [isGuide, Option.map_some] at listed
    have entry := List.mem_map_of_mem (f := fun event : EPGEvent =>
      (event.startTime, event.endTime, event.resolvedAsset.filePath)) member
    rw [Option.some.inj listed] at entry
    have firstPath : first.filePath = some "/film.mp4" :=
      congrArg Prod.fst (List.cons.inj played).1
    have ends : sevenOClock + filmConfig.gridMicros ≤ event.endTime := contains.2
    have grid : filmConfig.gridMicros = 1800000000 := by decide
    rcases List.mem_cons.mp entry with isFilm | later
    · have filmEnds : event.endTime = sevenOClock := congrArg (·.2.1) isFilm
      omega
    · have isShow := List.mem_singleton.mp later
      have showPath : event.resolvedAsset.filePath = "/show.mp4" := congrArg (·.2.2) isShow
      rw [firstPath, showPath] at path
      exact absurd path (by decide)

theorem showSlots_placed : Placed filmConfig 739000 showSlots :=
  ⟨0, And.intro (by decide) (And.intro (by decide) (And.intro (by decide) trivial)), by decide⟩

/-- Before the film, the show does not reach into it. -/
theorem projected_showSlots :
    FitsBlocks filmConfig (fun _ _ _ _ => 0) "ch" 739000 freshStores showSlots ∧
      ∀ b, CoveredBlock filmConfig "ch" showSlots (filmResolution showSlots).1 b →
        Projected filmConfig (filmResolution showSlots).2 "ch" (filmResolution showSlots).1 b := by
  have fits : FitsBlocks filmConfig (fun _ _ _ _ => 0) "ch" 739000 freshStores showSlots := by
    decide +kernel
  have resolves := filmResolution_eq showSlots (by decide +kernel)
  exact ⟨fits, (projected_iff showSlots_placed rfl resolves).mpr fits⟩

end Counterexample

end Retrovue.Core.Schedule
