/-
**The seams between compiled days.**

* `daySpan`: from a day's first program to the end of its last, as overlaps force it;
* `compileFresh_seams`: the blocks of one day, where the clocks stay quiet, lie one after the other
  inside its span;
* `Fits`: a call compiles only quiet days, whose spans are apart from those compiled before;
* `horizon_ordered`: along such calls `_blocks` is sorted and nothing is booked twice.

Overlaps are resolved within one compilation only: nothing looks at the end of the day before.
-/

import Mathlib
import Retrovue.Core.Compiler.Timeline
import Retrovue.Core.Horizon.DslScheduleService
import Retrovue.Foundation.Fallible
import Retrovue.Foundation.Tiling

namespace Retrovue.Core.Horizon

open Retrovue.Core.Schedule Retrovue.Core.Compiler Retrovue.Foundation.Fallible
open Retrovue.Foundation.Sorting Retrovue.Foundation.Tiling Retrovue.Foundation.Transition

/-! ### The span of a day -/

section Span

/-- The end that overlaps force on the last of a list of blocks. -/
def forcedEnd (zone : Zone) : Option Int → List ProgramBlockOutput → Option Int
  | lastEnd, [] => lastEnd
  | lastEnd, block :: rest =>
    forcedEnd zone
      (some (forcedStart lastEnd (block.startAt.epoch zone) + block.slotDurationSec)) rest

/-- From the first start to the last end, where there is a block. -/
def blocksSpan (zone : Zone) (blocks : List ProgramBlockOutput) : Option (Int × Int) :=
  match blocks.head?, forcedEnd zone none blocks with
  | some first, some last => some (first.startAt.epoch zone, last)
  | _, _ => none

variable {R : Type} (service : DslService R)

/-- The zone of a day's stamps. -/
def dayZone (day : Date) : Zone := scheduleZone service.zoneInfo (dayDsl service day)

/-- The span of a day's compiled blocks. -/
def daySpan (day : Date) : Option (Int × Int) :=
  match dayCompiled service day with
  | .error _ => none
  | .ok out => blocksSpan (dayZone service day) (inStartOrder out.1)

/-- What a day compiles to has no block that starts inside a shift of the clocks. -/
def QuietBlocks (zone : Zone) : Compile (List ProgramBlockOutput × Counters) → Prop
  | .error _ => True
  | .ok out => NoStartInShift zone none (inStartOrder out.1)

/-- No block of the day starts inside a shift. -/
def Quiet (day : Date) : Prop := QuietBlocks (dayZone service day) (dayCompiled service day)

/-- One of two spans ends before the other starts, where there are both. -/
def SpansApart : Option (Int × Int) → Option (Int × Int) → Prop
  | some span, some other => Clear Prod.fst Prod.snd span other
  | _, _ => True

/-- One of two days ends before the other starts. -/
def Apart (day other : Date) : Prop := SpansApart (daySpan service day) (daySpan service other)

instance (zone : Zone) : ∀ compiled, Decidable (QuietBlocks zone compiled)
  | .error _ => inferInstanceAs (Decidable True)
  | .ok _ => inferInstanceAs (Decidable (NoStartInShift _ _ _))

instance : ∀ span other, Decidable (SpansApart span other)
  | some _, some _ => inferInstanceAs (Decidable (_ ∨ _))
  | none, _ => inferInstanceAs (Decidable True)
  | some _, none => inferInstanceAs (Decidable True)

instance (day : Date) : Decidable (Quiet service day) :=
  inferInstanceAs (Decidable (QuietBlocks _ _))

instance (day other : Date) : Decidable (Apart service day other) :=
  inferInstanceAs (Decidable (SpansApart _ _))

variable {zone : Zone}

theorem le_forcedEnd : ∀ {blocks : List ProgramBlockOutput} {lastEnd stop : Int},
    (∀ block ∈ blocks, 0 < block.slotDurationSec) →
      forcedEnd zone (some lastEnd) blocks = some stop → lastEnd ≤ stop
  | [], _, _, _, ends => (Option.some.inj ends).le
  | block :: rest, lastEnd, stop, positive, ends => by
    obtain ⟨here, later⟩ := List.forall_mem_cons.mp positive
    have tail := le_forcedEnd later ends
    have start : lastEnd ≤ forcedStart (some lastEnd) (block.startAt.epoch zone) := le_max_right _ _
    omega

/-- Forced blocks end by the forced end. -/
theorem endEpoch_le_of_forced : ∀ {own blocks : List ProgramBlockOutput} {lastEnd : Option Int}
    {stop : Int}, Forced zone lastEnd own blocks → (∀ block ∈ own, 0 < block.slotDurationSec) →
      blocks.map airing = own.map airing → forcedEnd zone lastEnd own = some stop →
        ∀ block ∈ blocks, endEpoch zone block ≤ stop
  | [], [], _, _, _, _, _, _, _, member => by cases member
  | own :: rest, head :: blocks, lastEnd, stop, ⟨starts, tail⟩, positive, same, ends, block,
      member => by
    obtain ⟨sameHead, sameRest⟩ := List.cons.inj same
    obtain ⟨_, later⟩ := List.forall_mem_cons.mp positive
    have slot : head.slotDurationSec = own.slotDurationSec := congrArg (·.2.1) sameHead
    have ends : forcedEnd zone (some (endEpoch zone head)) rest = some stop := by
      unfold endEpoch
      rw [starts, slot]
      exact ends
    rcases List.mem_cons.mp member with rfl | inRest
    · exact le_forcedEnd later ends
    · exact endEpoch_le_of_forced tail later sameRest ends block inRest

/-- Blocks that start nothing before them are not put before their first start. -/
theorem head_le_of_forced {own blocks : List ProgramBlockOutput} {first : ProgramBlockOutput}
    (forced : Forced zone none own blocks) (isFirst : own.head? = some first)
    (ascending : blocks.Pairwise fun a b => a.startAt.epoch zone ≤ b.startAt.epoch zone) :
    ∀ block ∈ blocks, first.startAt.epoch zone ≤ block.startAt.epoch zone := by
  intro block member
  cases own with
  | nil => cases isFirst
  | cons head rest =>
    obtain rfl := Option.some.inj isFirst
    cases blocks with
    | nil => cases member
    | cons put others =>
      have starts : put.startAt.epoch zone = head.startAt.epoch zone := forced.1
      rcases List.mem_cons.mp member with rfl | inRest
      · exact starts.ge
      · exact starts.ge.trans ((List.pairwise_cons.mp ascending).1 block inRest)

theorem forcedEnd_isSome (zone : Zone) : ∀ (blocks : List ProgramBlockOutput) (lastEnd : Int),
    ∃ stop, forcedEnd zone (some lastEnd) blocks = some stop
  | [], lastEnd => ⟨lastEnd, rfl⟩
  | _ :: rest, _ => forcedEnd_isSome zone rest _

/-- The blocks of a well-formed timeline take time. -/
theorem slot_pos_of_wellFormed {gridMinutes : Nat} {compiled blocks : List ProgramBlockOutput}
    (wellFormed : WellFormed zone gridMinutes compiled blocks)
    (positive : ∀ own ∈ inStartOrder compiled, 0 < own.slotDurationSec) :
    ∀ block ∈ blocks, 0 < block.slotDurationSec := by
  intro block member
  have airs := List.mem_map_of_mem (f := airing) member
  rw [wellFormed.carried] at airs
  obtain ⟨own, isOwn, same⟩ := List.mem_map.mp airs
  have slot : own.slotDurationSec = block.slotDurationSec := congrArg (·.2.1) same
  exact slot ▸ positive own isOwn

/-- **A well-formed timeline lies inside the span** of its compiled blocks. -/
theorem inSpan_of_wellFormed {gridMinutes : Nat} {compiled blocks : List ProgramBlockOutput}
    (wellFormed : WellFormed zone gridMinutes compiled blocks)
    (positive : ∀ own ∈ inStartOrder compiled, 0 < own.slotDurationSec) :
    ∀ block ∈ blocks, ∃ span, blocksSpan zone (inStartOrder compiled) = some span ∧
      span.1 ≤ block.startAt.epoch zone ∧ endEpoch zone block ≤ span.2 := by
  intro block member
  have forced := wellFormed.forced
  have carried := wellFormed.carried
  cases own : inStartOrder compiled with
  | nil =>
    rw [own] at carried
    rw [List.map_eq_nil_iff.mp carried] at member
    cases member
  | cons first rest =>
    rw [own] at positive forced carried
    obtain ⟨stop, ends⟩ := forcedEnd_isSome zone rest
      (first.startAt.epoch zone + first.slotDurationSec)
    have ends : forcedEnd zone none (first :: rest) = some stop := ends
    refine ⟨(first.startAt.epoch zone, stop), ?_, ?_, ?_⟩
    · unfold blocksSpan
      rw [List.head?_cons, ends]
    · exact head_le_of_forced forced rfl wellFormed.ascending block member
    · exact endEpoch_le_of_forced forced positive carried ends block member

end Span

/-! ### The blocks of one day -/

section OneDay

variable {R : Type} (service : DslService R)

/-- The start and the end of a program block in milliseconds. -/
def blockTimes (zone : Zone) (block : ProgramBlockOutput) : Int × Int :=
  (block.startAt.epoch zone * 1000, endEpoch zone block * 1000)

/-- Expansion keeps the times of the program blocks. -/
theorem expandBlocks_times {zone : Zone} {lookup : Lookup} : ∀ {programBlocks : List ProgramBlockOutput}
    {blocks : List ScheduledBlock},
    programBlocks.mapM (expandBlock service zone lookup) = .ok blocks →
      blocks.map (fun block => (block.startUtcMs, block.endUtcMs)) =
        programBlocks.map (blockTimes zone)
  | [], _, returns => by
    obtain rfl := Except.ok.inj returns
    rfl
  | programBlock :: rest, _, returns => by
    rw [List.mapM_cons] at returns
    obtain ⟨block, expands, returns⟩ := bind_eq_ok.mp returns
    obtain ⟨others, tail, returns⟩ := bind_eq_ok.mp returns
    obtain rfl := Except.ok.inj returns
    unfold expandBlock at expands
    obtain ⟨_, _, expands⟩ := bind_eq_ok.mp expands
    obtain rfl := Except.ok.inj expands
    rw [List.map_cons, List.map_cons, expandBlocks_times tail]
    congr 2
    unfold endEpoch
    ring

/-- A block inside the span of a day. -/
def InSpan (day : Date) (block : ScheduledBlock) : Prop :=
  ∃ span, daySpan service day = some span ∧
    span.1 * 1000 ≤ block.startUtcMs ∧ block.endUtcMs ≤ span.2 * 1000

/-- Blocks of the given days, none empty, pairwise apart. -/
structure Seams (days : List Date) (blocks : List ScheduledBlock) : Prop where
  proper : ∀ block ∈ blocks, block.startUtcMs < block.endUtcMs
  placed : ∀ block ∈ blocks, ∃ day ∈ days, InSpan service day block
  clear : blocks.Pairwise (Clear ScheduledBlock.startUtcMs ScheduledBlock.endUtcMs)

variable {service}

/-- **The blocks of a quiet day** lie one after the other inside its span. -/
theorem compileFresh_seams {day : Date} {blocks : List ScheduledBlock} (quiet : Quiet service day)
    (returns : compileFresh service day = .ok blocks) : Seams service [day] blocks := by
  unfold compileFresh at returns
  obtain ⟨counters, starting, returns⟩ := bind_eq_ok.mp returns
  obtain ⟨⟨schedule, _⟩, compiles, returns⟩ := bind_eq_ok.mp returns
  obtain ⟨compiled, later, isCompiled, made⟩ := compileSchedule_timeline compiles
  have compiledDay : dayCompiled service day = .ok (compiled, later) := by
    unfold dayCompiled
    rw [starting]
    exact isCompiled
  unfold Quiet at quiet
  rw [compiledDay] at quiet
  have isBlock := compiledBlocks_compiled isCompiled
  have positive : ∀ block ∈ inStartOrder compiled, 0 < block.slotDurationSec := fun block member =>
    (isBlock block ((mem_sortByKey _).mp member)).slot_pos (gridMinutesOf_pos _)
  have wellFormed : WellFormed (dayZone service day) _ compiled schedule.programBlocks :=
    (timeline_wellFormed_iff (gridMinutesOf_pos _) isBlock made).mpr quiet
  have times : _ = schedule.programBlocks.map (blockTimes (dayZone service day)) :=
    expandBlocks_times service returns
  have timesOf : ∀ block ∈ blocks, ∃ programBlock ∈ schedule.programBlocks,
      block.startUtcMs = programBlock.startAt.epoch (dayZone service day) * 1000 ∧
        block.endUtcMs = endEpoch (dayZone service day) programBlock * 1000 := by
    intro block member
    have inTimes := List.mem_map_of_mem
      (f := fun block : ScheduledBlock => (block.startUtcMs, block.endUtcMs)) member
    rw [times] at inTimes
    obtain ⟨programBlock, isProgram, same⟩ := List.mem_map.mp inTimes
    exact ⟨programBlock, isProgram, (congrArg Prod.fst same).symm, (congrArg Prod.snd same).symm⟩
  refine ⟨?_, ?_, ?_⟩
  · intro block member
    obtain ⟨programBlock, isProgram, starts, ends⟩ := timesOf block member
    have slot := slot_pos_of_wellFormed wellFormed positive programBlock isProgram
    rw [starts, ends]
    unfold endEpoch
    omega
  · intro block member
    obtain ⟨programBlock, isProgram, starts, ends⟩ := timesOf block member
    obtain ⟨span, isSpan, begins, finishes⟩ := inSpan_of_wellFormed wellFormed positive programBlock isProgram
    refine ⟨day, List.mem_singleton_self day, span, ?_, ?_, ?_⟩
    · unfold daySpan
      rw [compiledDay]
      exact isSpan
    · rw [starts]
      omega
    · rw [ends]
      omega
  · have ordered : (blocks.map fun block => (block.startUtcMs, block.endUtcMs)).Pairwise
        fun a b => a.2 ≤ b.1 := by
      rw [times]
      refine List.pairwise_map.mpr (wellFormed.disjoint.imp ?_)
      intro a b ends
      exact mul_le_mul_of_nonneg_right ends (by decide)
    exact clear_of_ordered _ _ (List.pairwise_map.mp ordered)

end OneDay

/-! ### The service over its calls -/

section Calls

variable {R : Type} {service : DslService R}

/-- The blocks of a further day, apart from the days before, join the others. -/
theorem Seams.append {days : List Date} {day : Date} {blocks more : List ScheduledBlock}
    (seams : Seams service days blocks) (joining : Seams service [day] more)
    (apart : ∀ other ∈ days, Apart service other day) :
    Seams service (days ++ [day]) (blocks ++ more) := by
  refine ⟨?_, ?_, ?_⟩
  · exact List.forall_mem_append.mpr ⟨seams.proper, joining.proper⟩
  · refine List.forall_mem_append.mpr ⟨fun block member => ?_, fun block member => ?_⟩
    · obtain ⟨other, isDay, inSpan⟩ := seams.placed block member
      exact ⟨other, List.mem_append_left _ isDay, inSpan⟩
    · obtain ⟨other, isDay, inSpan⟩ := joining.placed block member
      exact ⟨other, List.mem_append_right _ isDay, inSpan⟩
  · refine List.pairwise_append.mpr ⟨seams.clear, joining.clear, ?_⟩
    intro a first b second
    obtain ⟨other, isDay, span, isSpan, begins, ends⟩ := seams.placed a first
    obtain ⟨_, same, span', isSpan', begins', ends'⟩ := joining.placed b second
    obtain rfl := List.mem_singleton.mp same
    have clear := apart other isDay
    unfold Apart at clear
    rw [isSpan, isSpan'] at clear
    rcases clear with before | after
    · left
      have bound : span.2 ≤ span'.1 := before
      omega
    · right
      have bound : span'.2 ≤ span.1 := after
      omega

theorem Seams.mono {days more : List Date} {blocks : List ScheduledBlock}
    (seams : Seams service days blocks) (subset : ∀ day ∈ days, day ∈ more) :
    Seams service more blocks :=
  ⟨seams.proper, fun block member => by
    obtain ⟨day, isDay, inSpan⟩ := seams.placed block member
    exact ⟨day, subset day isDay, inSpan⟩, seams.clear⟩

/-- Sorting lays pairwise apart blocks one after the other. -/
theorem Seams.sorted {days : List Date} {blocks : List ScheduledBlock}
    (seams : Seams service days blocks) :
    Seams service days (sortByKey ScheduledBlock.startUtcMs blocks) ∧
      (sortByKey ScheduledBlock.startUtcMs blocks).Pairwise
        fun a b => a.endUtcMs ≤ b.startUtcMs := by
  have ordered := ordered_of_clear _ _ seams.proper seams.clear
  refine ⟨⟨?_, ?_, clear_of_ordered _ _ ordered⟩, ordered⟩
  · exact fun block member => seams.proper block ((mem_sortByKey _).mp member)
  · exact fun block member => seams.placed block ((mem_sortByKey _).mp member)

/-- What the database holds for a day is what the day compiles to. -/
def Faithful (service : DslService R) (cache : Date → Option (List ScheduledBlock)) : Prop :=
  ∀ day blocks, cache day = some blocks → compileFresh service day = .ok blocks

/-- A compiled day is a fresh compilation, read back or made. -/
theorem compileDay_fresh {state : HorizonState} {outside : Outside} {day : Date}
    {blocks : List ScheduledBlock} (faithful : Faithful service state.cache)
    (compiles : compileDay service state outside day = some blocks) :
    compileFresh service day = .ok blocks := by
  unfold compileDay at compiles
  split at compiles
  · rename_i held isHeld
    split at compiles
    · cases compiles
    · obtain rfl := Option.some.inj compiles
      unfold cached at isHeld
      split at isHeld
      · cases isHeld
      · exact faithful day _ isHeld
  · split at compiles
    · cases compiles
    · cases fresh : compileFresh service day with
      | error reason =>
        rw [fresh] at compiles
        cases compiles
      | ok out =>
        rw [fresh] at compiles
        rw [Option.some.inj compiles]

/-- Saving a compiled day keeps the database faithful and touches nothing else. -/
theorem saved_faithful {state : HorizonState} (outside : Outside) {day : Date}
    {blocks : List ScheduledBlock} (faithful : Faithful service state.cache)
    (fresh : compileFresh service day = .ok blocks) :
    Faithful service (state.saved outside day blocks).cache ∧
      (state.saved outside day blocks).blocks = state.blocks ∧
      (state.saved outside day blocks).compiledDays = state.compiledDays := by
  unfold HorizonState.saved
  split
  · refine ⟨fun other held isHeld => ?_, rfl, rfl⟩
    dsimp only at isHeld
    split at isHeld
    · rename_i same
      obtain rfl := Option.some.inj isHeld
      rw [same]
      exact fresh
    · exact faithful other held isHeld
  · exact ⟨faithful, rfl, rfl⟩

/-- The horizon between two calls: nothing is booked twice. -/
structure SeamFree (service : DslService R) (state : HorizonState) : Prop where
  faithful : Faithful service state.cache
  seams : Seams service state.compiledDays state.blocks
  ordered : state.blocks.Pairwise fun a b => a.endUtcMs ≤ b.startUtcMs

/-- The day of an extension, if there is one, is quiet and apart from the days compiled before. -/
def ExtensionFits (service : DslService R) (state : HorizonState) : Option Date → Prop
  | none => True
  | some day => Quiet service day ∧ ∀ other ∈ state.compiledDays, Apart service other day

/-- A call compiles only quiet days that are apart from one another and, where blocks are held, from
the days compiled before. -/
def Fits (service : DslService R) (state : HorizonState) : HorizonAction → Prop
  | .loadSchedule nowSec _ => state.blocks = [] →
      (∀ day ∈ initialDays service nowSec, Quiet service day) ∧
        (initialDays service nowSec).Pairwise (Apart service)
  | .getBlockAt utcMs _ => ExtensionFits service state (extensionDay state utcMs)
  | .purge _ => True

instance (state : HorizonState) : ∀ day, Decidable (ExtensionFits service state day)
  | none => inferInstanceAs (Decidable True)
  | some _ => inferInstanceAs (Decidable (_ ∧ _))

instance (state : HorizonState) : ∀ action, Decidable (Fits service state action)
  | .loadSchedule _ _ => inferInstanceAs (Decidable (_ → _ ∧ _))
  | .getBlockAt _ _ => inferInstanceAs (Decidable (ExtensionFits _ _ _))
  | .purge _ => inferInstanceAs (Decidable True)

/-- Building the initial horizon, day by day. -/
theorem initialDay_fold (outside : Outside) : ∀ {days done : List Date} {building : HorizonState},
    Faithful service building.cache → Seams service done building.blocks →
    (∀ day ∈ done, day ∈ building.compiledDays) →
    (∀ day ∈ days, Quiet service day) → (done ++ days).Pairwise (Apart service) →
      Faithful service (days.foldl (initialDay service outside) building).cache ∧
        Seams service (days.foldl (initialDay service outside) building).compiledDays
          (days.foldl (initialDay service outside) building).blocks
  | [], _, _, faithful, seams, compiled, _, _ => ⟨faithful, seams.mono compiled⟩
  | day :: rest, done, building, faithful, seams, compiled, quiet, apart => by
    obtain ⟨quietDay, quietRest⟩ := List.forall_mem_cons.mp quiet
    rw [List.foldl_cons]
    cases compiles : compileDay service building outside day with
    | none =>
      have same : initialDay service outside building day = building := by
        unfold initialDay
        rw [compiles]
      rw [same]
      refine initialDay_fold outside faithful seams compiled quietRest (apart.sublist ?_)
      exact List.Sublist.append_left (List.sublist_cons_self _ _) _
    | some blocks =>
      have fresh := compileDay_fresh faithful compiles
      obtain ⟨kept, _, _⟩ := saved_faithful outside faithful fresh
      have joined : initialDay service outside building day =
          { building.saved outside day blocks with
            blocks := building.blocks ++ blocks
            compiledDays := if day ∈ building.compiledDays then building.compiledDays
              else building.compiledDays ++ [day] } := by
        unfold initialDay
        rw [compiles]
      rw [joined]
      have before : ∀ other ∈ done, Apart service other day := fun other member =>
        (List.pairwise_append.mp apart).2.2 other member day List.mem_cons_self
      refine initialDay_fold outside kept (seams.append (compileFresh_seams quietDay fresh) before) ?_
        quietRest ?_
      · intro other member
        dsimp only
        rcases List.mem_append.mp member with isDone | isDay
        · split
          · exact compiled other isDone
          · exact List.mem_append_left _ (compiled other isDone)
        · obtain rfl := List.mem_singleton.mp isDay
          split
          · assumption
          · exact List.mem_append_right _ (List.mem_singleton_self _)
      · rw [List.append_assoc]
        exact apart

/-- Before the first load there is nothing. -/
theorem seamFree_initial : SeamFree service .initial where
  faithful _ _ held := by cases held
  seams := ⟨List.forall_mem_nil _, List.forall_mem_nil _, List.Pairwise.nil⟩
  ordered := List.Pairwise.nil

theorem buildInitial_seamFree {state : HorizonState} {nowSec : Int} {outside : Outside}
    (seamFree : SeamFree service state) (fits : Fits service state (.loadSchedule nowSec outside)) :
    SeamFree service (buildInitial service state nowSec outside) := by
  unfold buildInitial
  by_cases loaded : state.blocks ≠ []
  · rw [if_pos loaded]
    exact seamFree
  · rw [if_neg loaded]
    have empty := not_not.mp loaded
    obtain ⟨quiet, apart⟩ := fits empty
    have none : Seams service [] state.blocks := by
      rw [empty]
      exact ⟨List.forall_mem_nil _, List.forall_mem_nil _, List.Pairwise.nil⟩
    obtain ⟨faithful, seams⟩ := initialDay_fold outside seamFree.faithful none
      (List.forall_mem_nil _) quiet apart
    obtain ⟨sorted, ordered⟩ := seams.sorted
    exact ⟨faithful, sorted, ordered⟩

/-- Extension by a day that is apart from the days compiled before. -/
theorem extended_seamFree {state : HorizonState} {day : Date} {blocks : List ScheduledBlock}
    (seamFree : SeamFree service state) (joining : Seams service [day] blocks)
    (apart : ∀ other ∈ state.compiledDays, Apart service other day) :
    SeamFree service (state.extended day blocks) := by
  unfold HorizonState.extended
  split
  · exact seamFree
  · obtain ⟨sorted, ordered⟩ := (seamFree.seams.append joining apart).sorted
    exact ⟨seamFree.faithful, sorted, ordered⟩

/-- Pruning takes blocks away. -/
theorem pruneOldBlocks_seamFree {state : HorizonState} {nowUtcMs : Int}
    (seamFree : SeamFree service state) : SeamFree service (pruneOldBlocks state nowUtcMs) where
  faithful := seamFree.faithful
  seams := ⟨fun block member => seamFree.seams.proper block (List.mem_of_mem_filter member),
    fun block member => seamFree.seams.placed block (List.mem_of_mem_filter member),
    seamFree.seams.clear.filter _⟩
  ordered := seamFree.ordered.filter _

theorem maybeExtendHorizon_seamFree {state : HorizonState} {utcMs : Int} {outside : Outside}
    (seamFree : SeamFree service state) (fits : Fits service state (.getBlockAt utcMs outside)) :
    SeamFree service (maybeExtendHorizon service state utcMs outside) := by
  have fits : ExtensionFits service state (extensionDay state utcMs) := fits
  unfold maybeExtendHorizon
  cases extension : extensionDay state utcMs with
  | none => exact seamFree
  | some day =>
    rw [extension] at fits
    obtain ⟨quiet, apart⟩ := fits
    dsimp only
    cases compiles : compileDay service state outside day with
    | none => exact seamFree
    | some blocks =>
      have fresh := compileDay_fresh seamFree.faithful compiles
      obtain ⟨faithful, sameBlocks, sameDays⟩ :=
        saved_faithful outside seamFree.faithful fresh
      have saved : SeamFree service (state.saved outside day blocks) := by
        refine ⟨faithful, ?_, ?_⟩
        · rw [sameBlocks, sameDays]
          exact seamFree.seams
        · rw [sameBlocks]
          exact seamFree.ordered
      refine pruneOldBlocks_seamFree (extended_seamFree saved (compileFresh_seams quiet fresh) ?_)
      rw [sameDays]
      exact apart

/-- Every fitting call keeps the horizon free of double bookings. -/
theorem horizonStep_seamFree {state next : HorizonState} {action : HorizonAction}
    (seamFree : SeamFree service state) (fits : Fits service state action)
    (taken : horizonStep service state action = some next) : SeamFree service next := by
  cases action with
  | loadSchedule nowSec outside =>
    obtain rfl := Option.some.inj taken
    exact buildInitial_seamFree seamFree fits
  | getBlockAt utcMs outside =>
    obtain rfl := Option.some.inj taken
    exact maybeExtendHorizon_seamFree seamFree fits
  | purge keeps =>
    obtain rfl := Option.some.inj taken
    refine ⟨fun day blocks held => ?_, seamFree.seams, seamFree.ordered⟩
    dsimp only at held
    split at held
    · exact seamFree.faithful day blocks held
    · cases held

theorem seamFree_run {actions : List HorizonAction} {final : HorizonState}
    (fits : Along (horizonStep service) (Fits service) .initial actions)
    (ran : runActions (horizonStep service) .initial actions = some final) :
    SeamFree service final :=
  invariant_along (horizonStep service) (SeamFree service) (Fits service)
    (fun _ _ _ seamFree fits taken => horizonStep_seamFree seamFree fits taken) actions
    seamFree_initial fits ran

/-- **No time is booked twice** along calls that compile quiet days apart from those compiled
before: the blocks are sorted by start and do not overlap. -/
theorem horizon_ordered {actions : List HorizonAction} {final : HorizonState}
    (fits : Along (horizonStep service) (Fits service) .initial actions)
    (ran : runActions (horizonStep service) .initial actions = some final) :
    Ascending ScheduledBlock.startUtcMs final.blocks ∧
      final.blocks.Pairwise fun a b => a.endUtcMs ≤ b.startUtcMs := by
  have seamFree := seamFree_run fits ran
  refine ⟨seamFree.ordered.imp_of_mem ?_, seamFree.ordered⟩
  intro a b first _ ends
  have proper := seamFree.seams.proper a first
  omega

end Calls

/-! ### A day that runs past its end -/

section Counterexample

/-- One programme of so many seconds, all day from six. -/
def loopCatalog (durationSec : Int) : AssetResolver Unit where
  lookup _ := fun assetId =>
    if assetId = "loop" then some { durationSec := 0, tags := ["tape"] }
    else if assetId = "tape" then some { durationSec := durationSec, title := "Tape" }
    else none
  registerPools source _ := source

/-- The service of a channel in UTC that plays the one programme over and over. -/
def loopService (durationSec : Int) : DslService Unit where
  dsl := [("channel", .str "one"), ("timezone", .str "UTC"), ("pools", .dict [("loop", .dict [])]),
    ("schedule", .dict [("all_day", .list [.dict [("block", .dict
      [("start", .str "06:00"), ("pool", .str "loop")])]])])]
  resolver := loopCatalog durationSec
  source := ()
  rng := firstDrawn
  zoneInfo name := if name = "UTC" then some fun _ => 0 else none
  channelSeed := 7
  makeBlockId assetId _ := assetId
  localTime nowSec := nowSec
  dayStartHour := 6
  broadcastDayOverride := none

/-- Nothing goes wrong. -/
def fair : Outside := ⟨fun _ => false, fun _ => false, fun _ => false⟩

/-- Noon of 1 January 2026, in seconds. -/
def newYearNoon : Int := 1767268800

/-- A load, and a call five hours before the third day ends. -/
def loadAndExtend : List HorizonAction :=
  [.loadSchedule newYearNoon fair, .getBlockAt ((newYearNoon + 61 * 3600) * 1000) fair]

/-- **With five-hour programmes each day runs an hour into the next**: after one load the hour from
six to seven is booked twice. -/
theorem overrun_books_twice : ∃ final,
    runActions (horizonStep (loopService 18000)) .initial [.loadSchedule newYearNoon fair] =
      some final ∧
    (final.blocks.map fun block => (block.startUtcMs / 1000 - newYearNoon) / 3600) =
      [-6, -1, 4, 9, 14, 18, 23, 28, 33, 38, 42, 47, 52, 57, 62] ∧
    ¬ final.blocks.Pairwise fun a b => a.endUtcMs ≤ b.startUtcMs :=
  ⟨_, rfl, by decide +kernel, by decide +kernel⟩

/-- With six-hour programmes a load and an extension leave nine programmes after the prune, one
after the other. -/
theorem sixHours_ordered : ∃ final,
    runActions (horizonStep (loopService 21600)) .initial loadAndExtend = some final ∧
    final.blocks.length = 9 ∧
    Ascending ScheduledBlock.startUtcMs final.blocks ∧
      final.blocks.Pairwise fun a b => a.endUtcMs ≤ b.startUtcMs := by
  have fits : Along (horizonStep (loopService 21600)) (Fits (loopService 21600)) .initial
      loadAndExtend := by decide +kernel
  exact ⟨_, rfl, by decide +kernel, horizon_ordered fits rfl⟩

end Counterexample

end Retrovue.Core.Horizon
