/-
**Scheduled blocks and how their breaks are placed and filled**
(`runtime/schedule_types.py`, `runtime/playout_log_expander.py`, `runtime/traffic_manager.py`).

* `ScheduledSegment`, `ScheduledBlock`: what every stage after the compiler hands on;
* `expandProgramBlock`: one program of the schedule as content segments with empty filler
  placeholders in its breaks;
* `fillAdBlocks`: the placeholders replaced by interstitials of the asset library and black pads, or
  by the channel's filler file.

Durations are in milliseconds. The floating-point division that places computed breaks is read
exactly.
-/

import Mathlib
import Retrovue.Foundation.Apportion
import Retrovue.Foundation.Fallible
import Retrovue.Core.Planning.Pipeline

namespace Retrovue.Core.Playlog

open Retrovue.Foundation.Sorting Retrovue.Foundation.Apportion Retrovue.Foundation.Fallible
open Retrovue.Core.Planning

/-! ### Segments and blocks -/

section Blocks

/-- `ScheduledSegment`. -/
structure ScheduledSegment where
  segmentType : String
  assetUri : String
  assetStartOffsetMs : Int
  segmentDurationMs : Int
  transitionIn : String := "TRANSITION_NONE"
  transitionInDurationMs : Int := 0
  transitionOut : String := "TRANSITION_NONE"
  transitionOutDurationMs : Int := 0
  gainDb : ℚ := 0
  deriving DecidableEq

/-- A segment from the start of its file, cut in and out, at unity gain. -/
def plainSegment (segmentType assetUri : String) (durationMs : Int) : ScheduledSegment where
  segmentType := segmentType
  assetUri := assetUri
  assetStartOffsetMs := 0
  segmentDurationMs := durationMs

/-- `ScheduledBlock`. -/
structure ScheduledBlock where
  blockId : String
  startUtcMs : Int
  endUtcMs : Int
  segments : List ScheduledSegment
  deriving DecidableEq

/-- `duration_ms`. -/
def ScheduledBlock.durationMs (block : ScheduledBlock) : Int := block.endUtcMs - block.startUtcMs

/-- `start_utc_ms <= utc_ms < end_utc_ms`. -/
def ScheduledBlock.Contains (block : ScheduledBlock) (utcMs : Int) : Prop :=
  block.startUtcMs ≤ utcMs ∧ utcMs < block.endUtcMs

instance (block : ScheduledBlock) (utcMs : Int) : Decidable (block.Contains utcMs) :=
  inferInstanceAs (Decidable (_ ∧ _))

/-- The durations of segments, added up. -/
def totalMs (segments : List ScheduledSegment) : Int :=
  (segments.map ScheduledSegment.segmentDurationMs).sum

@[simp] theorem totalMs_nil : totalMs [] = 0 := rfl

@[simp] theorem totalMs_cons (segment : ScheduledSegment) (rest : List ScheduledSegment) :
    totalMs (segment :: rest) = segment.segmentDurationMs + totalMs rest := by
  simp [totalMs]

@[simp] theorem totalMs_append (first second : List ScheduledSegment) :
    totalMs (first ++ second) = totalMs first + totalMs second := by
  simp [totalMs]

end Blocks

/-! ### Expansion -/

section Expansion

/-- What `expand_program_block` is given about one program. -/
structure ProgramBlock where
  assetId : String
  assetUri : String
  startUtcMs : Int
  slotDurationMs : Int
  episodeDurationMs : Int
  chapterMarkersMs : Option (List Int) := none
  numBreaks : Int := 3
  fadeDurationMs : Int := 500
  channelType : String := "network"
  gainDb : ℚ := 0
  deriving DecidableEq

/-- `_make_block_id`; `sha256` is the hex digest. -/
def makeBlockId (sha256 : String → String) (assetId : String) (startUtcMs : Int) : String :=
  "blk-" ++ String.ofList ((sha256 (assetId ++ ":" ++ toString startUtcMs)).toList.take 12)

/-- An empty filler placeholder. -/
def placeholder (durationMs : Int) : ScheduledSegment := plainSegment "filler" "" durationMs

/-- The segments of `_expand_movie`. -/
def movieSegments (program : ProgramBlock) : List ScheduledSegment :=
  let remainingMs := max 0 (program.slotDurationMs - program.episodeDurationMs)
  { plainSegment "content" program.assetUri program.episodeDurationMs with
    gainDb := program.gainDb } ::
  if remainingMs > 0 then [placeholder remainingMs] else []

/-- `chapter_markers_ms and len(chapter_markers_ms) > 0`. -/
def ProgramBlock.hasChapters (program : ProgramBlock) : Bool :=
  !(program.chapterMarkersMs.getD []).isEmpty

/-- `break_points`: the chapter markers inside the episode in order, or equal parts of it. -/
def ProgramBlock.breakPoints (program : ProgramBlock) : List Int :=
  if program.hasChapters then
    sortByKey id ((program.chapterMarkersMs.getD []).filter fun bp =>
      0 < bp ∧ bp < program.episodeDurationMs)
  else if program.numBreaks ≤ 0 then []
  else
    (List.range program.numBreaks.toNat).map fun i : Nat =>
      (program.episodeDurationMs * (i + 1)).tdiv (program.numBreaks + 1)

/-- `is_second_class`: the breaks that were computed, not marked. -/
def ProgramBlock.secondClass (program : ProgramBlock) : Bool := !program.hasChapters

/-- `total_ad_ms`. -/
def ProgramBlock.totalAdMs (program : ProgramBlock) : Int :=
  max 0 (program.slotDurationMs - program.episodeDurationMs)

/-- One act of the program, from one break point to the next. -/
def act (program : ProgramBlock) (start durationMs : Int) (fadeIn fadeOut : Bool) :
    ScheduledSegment :=
  { segmentType := "content"
    assetUri := program.assetUri
    assetStartOffsetMs := start
    segmentDurationMs := durationMs
    transitionIn := if fadeIn then "TRANSITION_FADE" else "TRANSITION_NONE"
    transitionInDurationMs := if fadeIn then program.fadeDurationMs else 0
    transitionOut := if fadeOut then "TRANSITION_FADE" else "TRANSITION_NONE"
    transitionOutDurationMs := if fadeOut then program.fadeDurationMs else 0
    gainDb := program.gainDb }

/-- The acts and breaks from a break point on, each break point with the length of its break. -/
def actsFrom (program : ProgramBlock) : Int → Bool → List (Int × Int) → List ScheduledSegment
  | prevBreak, pendingFadeIn, [] =>
    let finalActMs := program.episodeDurationMs - prevBreak
    if finalActMs > 0 then [act program prevBreak finalActMs pendingFadeIn false] else []
  | prevBreak, pendingFadeIn, (bp, thisAd) :: rest =>
    act program prevBreak (bp - prevBreak) pendingFadeIn program.secondClass ::
      ((if thisAd > 0 then [placeholder thisAd] else []) ++
        actsFrom program bp (program.secondClass && decide (thisAd > 0)) rest)

/-- The segments of `_expand_network`. -/
def networkSegments (program : ProgramBlock) : List ScheduledSegment :=
  actsFrom program 0 false
    (program.breakPoints.zip (shares program.totalAdMs program.breakPoints.length))

/-- `expand_program_block`. -/
def expandProgramBlock (sha256 : String → String) (program : ProgramBlock) : ScheduledBlock where
  blockId := makeBlockId sha256 program.assetId program.startUtcMs
  startUtcMs := program.startUtcMs
  endUtcMs := program.startUtcMs + program.slotDurationMs
  segments :=
    if program.channelType = "movie" then movieSegments program else networkSegments program

/-- What holds of placeholders and of acts holds of the acts and breaks of a program. -/
theorem actsFrom_forall {program : ProgramBlock} {holds : ScheduledSegment → Prop}
    (breaks : ∀ durationMs, holds (placeholder durationMs))
    (acts : ∀ start durationMs fadeIn fadeOut,
      holds (act program start durationMs fadeIn fadeOut)) :
    ∀ (points : List (Int × Int)) (prevBreak : Int) (pendingFadeIn : Bool),
      ∀ segment ∈ actsFrom program prevBreak pendingFadeIn points, holds segment
  | [], prevBreak, pendingFadeIn => by
    intro segment member
    simp only [actsFrom] at member
    split at member
    · rw [List.mem_singleton.mp member]
      exact acts ..
    · cases member
  | (bp, thisAd) :: rest, prevBreak, pendingFadeIn => by
    intro segment member
    rw [actsFrom, List.mem_cons, List.mem_append] at member
    rcases member with rfl | placed | later
    · exact acts ..
    · split at placed
      · rw [List.mem_singleton.mp placed]
        exact breaks _
      · cases placed
    · exact actsFrom_forall breaks acts rest _ _ segment later

/-- **What holds of placeholders and of acts** holds of every segment of an expanded program. -/
theorem expandProgramBlock_forall {sha256 : String → String} {program : ProgramBlock}
    {holds : ScheduledSegment → Prop} (breaks : ∀ durationMs, holds (placeholder durationMs))
    (acts : ∀ start durationMs fadeIn fadeOut,
      holds (act program start durationMs fadeIn fadeOut)) :
    ∀ segment ∈ (expandProgramBlock sha256 program).segments, holds segment := by
  intro segment member
  simp only [expandProgramBlock] at member
  split at member
  · rcases List.mem_cons.mp member with rfl | placed
    · exact acts 0 program.episodeDurationMs false false
    · split at placed
      · rw [List.mem_singleton.mp placed]
        exact breaks _
      · cases placed
  · exact actsFrom_forall breaks acts _ _ _ segment member

end Expansion

/-! ### Filling the breaks -/

section Filling

/-- What `fill_ad_blocks` raises. -/
inductive FillError
  | fillerDurationNotPositive
  | breakExceedsFiller (breakMs fillerMs : Int)
  | breakPadExact (totalMs breakMs : Int)
  deriving DecidableEq, Repr

variable {Source : Type} (assetLibrary : AssetLibrary Source)

/-- The `while` loop of `_fill_break_with_interstitials`. Every filler is at least a millisecond
long, so the break's duration is enough fuel. -/
def pickLoop : Nat → Source → Int → List FillerAsset × Source
  | 0, source, _ => ([], source)
  | fuel + 1, source, remainingMs =>
    if remainingMs > 0 then
      let answer := assetLibrary.getFillerAssets source remainingMs 5
      match answer.1 with
      | [] => ([], answer.2)
      | pick :: _ =>
        let rest := pickLoop fuel answer.2 (remainingMs - pick.durationMs)
        (pick :: rest.1, rest.2)
    else ([], source)

/-- The segment type of a spot. -/
def spotType (assetType : String) : String :=
  if assetType ∈ ["filler", "promo", "ad", "commercial"] then assetType else "filler"

/-- The spots, each followed by its black pad if it has one. -/
def spotSegments : List FillerAsset → List Int → List ScheduledSegment
  | pick :: picks, padMs :: pads =>
    plainSegment (spotType pick.assetType) pick.assetUri pick.durationMs ::
      ((if padMs > 0 then [plainSegment "pad" "" padMs] else []) ++ spotSegments picks pads)
  | _, _ => []

/-- `pad_sizes`: the gap shared out, the last pads one larger for the remainder. -/
def padSizes (gapMs : Int) (numItems : Nat) : List Int :=
  if gapMs > 0 ∧ numItems > 0 then lateShares gapMs numItems else List.replicate numItems 0

/-- `_fill_break_with_interstitials`; `none` without a single spot. -/
def fillBreakWithInterstitials (source : Source) (breakMs : Int) :
    Except FillError (Option (List ScheduledSegment)) × Source :=
  let (picks, source) := pickLoop assetLibrary breakMs.toNat source breakMs
  if picks.isEmpty then (.ok none, source)
  else
    let filledMs := (picks.map FillerAsset.durationMs).sum
    let segments := spotSegments picks (padSizes (breakMs - filledMs) picks.length)
    if totalMs segments = breakMs then (.ok (some segments), source)
    else (.error (.breakPadExact (totalMs segments) breakMs), source)

/-- The channel's filler file for a break. -/
def staticFiller (fillerUri : String) (fillerDurationMs breakMs : Int) :
    Except FillError (List ScheduledSegment) :=
  if breakMs > fillerDurationMs then .error (.breakExceedsFiller breakMs fillerDurationMs)
  else .ok [plainSegment "filler" fillerUri breakMs]

/-- `seg.segment_type == "filler" and seg.asset_uri == ""`. -/
def ScheduledSegment.isPlaceholder (segment : ScheduledSegment) : Bool :=
  segment.segmentType == "filler" && segment.assetUri == ""

/-- What a placeholder is replaced by; `none` is a library that could not be made. -/
def fillBreak (library : Option (AssetLibrary Source)) (fillerUri : String) (fillerDurationMs : Int)
    (source : Source) (breakMs : Int) : Except FillError (List ScheduledSegment) × Source :=
  match library with
  | none => (staticFiller fillerUri fillerDurationMs breakMs, source)
  | some assetLibrary =>
    match fillBreakWithInterstitials assetLibrary source breakMs with
    | (.error error, source) => (.error error, source)
    | (.ok (some segments), source) => (.ok segments, source)
    | (.ok none, source) => (staticFiller fillerUri fillerDurationMs breakMs, source)

/-- The loop of `fill_ad_blocks`. -/
def fillSegments (library : Option (AssetLibrary Source)) (fillerUri : String)
    (fillerDurationMs : Int) :
    Source → List ScheduledSegment → Except FillError (List ScheduledSegment)
  | _, [] => .ok []
  | source, segment :: rest =>
    if segment.isPlaceholder then do
      let (filled, source) :=
        fillBreak library fillerUri fillerDurationMs source segment.segmentDurationMs
      let segments ← filled
      let others ← fillSegments library fillerUri fillerDurationMs source rest
      .ok (segments ++ others)
    else do
      let others ← fillSegments library fillerUri fillerDurationMs source rest
      .ok (segment :: others)

/-- `fill_ad_blocks`. -/
def fillAdBlocks (library : Option (AssetLibrary Source)) (fillerUri : String)
    (fillerDurationMs : Int) (source : Source) (block : ScheduledBlock) :
    Except FillError ScheduledBlock :=
  if fillerDurationMs ≤ 0 then .error .fillerDurationNotPositive
  else do
    let segments ← fillSegments library fillerUri fillerDurationMs source block.segments
    .ok { block with segments := segments }

/-- What holds of plain segments holds of spots and pads. -/
theorem spotSegments_forall {holds : ScheduledSegment → Prop}
    (plain : ∀ segmentType assetUri durationMs,
      holds (plainSegment segmentType assetUri durationMs)) :
    ∀ (picks : List FillerAsset) (pads : List Int),
      ∀ segment ∈ spotSegments picks pads, holds segment
  | [], _ => by
    intro segment member
    cases member
  | _ :: _, [] => by
    intro segment member
    cases member
  | pick :: picks, padMs :: pads => by
    intro segment member
    rw [spotSegments, List.mem_cons, List.mem_append] at member
    rcases member with rfl | placed | later
    · exact plain ..
    · split at placed
      · rw [List.mem_singleton.mp placed]
        exact plain ..
      · cases placed
    · exact spotSegments_forall plain picks pads segment later

theorem staticFiller_forall {holds : ScheduledSegment → Prop}
    (plain : ∀ segmentType assetUri durationMs,
      holds (plainSegment segmentType assetUri durationMs))
    {fillerUri : String} {fillerDurationMs breakMs : Int} {filled : List ScheduledSegment}
    (done : staticFiller fillerUri fillerDurationMs breakMs = .ok filled) :
    ∀ segment ∈ filled, holds segment := by
  unfold staticFiller at done
  split at done
  · cases done
  · cases done
    intro segment member
    rw [List.mem_singleton.mp member]
    exact plain ..

/-- What holds of plain segments holds of whatever a break is filled with. -/
theorem fillBreak_forall {holds : ScheduledSegment → Prop}
    (plain : ∀ segmentType assetUri durationMs,
      holds (plainSegment segmentType assetUri durationMs))
    {library : Option (AssetLibrary Source)} {fillerUri : String} {fillerDurationMs : Int}
    {source : Source} {breakMs : Int} {filled : List ScheduledSegment}
    (done : (fillBreak library fillerUri fillerDurationMs source breakMs).1 = .ok filled) :
    ∀ segment ∈ filled, holds segment := by
  cases library with
  | none => exact staticFiller_forall plain done
  | some assetLibrary =>
    simp only [fillBreak, fillBreakWithInterstitials] at done
    by_cases unanswered :
        (pickLoop assetLibrary breakMs.toNat source breakMs).1.isEmpty = true
    · rw [if_pos unanswered] at done
      exact staticFiller_forall plain done
    · rw [if_neg unanswered] at done
      split_ifs at done
      cases done
      exact spotSegments_forall plain _ _

theorem fillSegments_forall {holds : ScheduledSegment → Prop}
    (plain : ∀ segmentType assetUri durationMs,
      holds (plainSegment segmentType assetUri durationMs))
    {library : Option (AssetLibrary Source)} {fillerUri : String} {fillerDurationMs : Int} :
    ∀ {segments : List ScheduledSegment} {source : Source} {filled : List ScheduledSegment},
      fillSegments library fillerUri fillerDurationMs source segments = .ok filled →
      (∀ segment ∈ segments, holds segment) → ∀ segment ∈ filled, holds segment
  | [], source, filled, done, _ => by
    cases done
    intro segment member
    cases member
  | first :: rest, source, filled, done, all => by
    have restAll := fun segment member => all segment (List.mem_cons_of_mem first member)
    rw [fillSegments] at done
    split at done
    · obtain ⟨placed, broke, done⟩ := bind_eq_ok.mp done
      obtain ⟨others, filledRest, done⟩ := bind_eq_ok.mp done
      cases done
      intro segment member
      rcases List.mem_append.mp member with here | later
      · exact fillBreak_forall plain broke segment here
      · exact fillSegments_forall plain filledRest restAll segment later
    · obtain ⟨others, filledRest, done⟩ := bind_eq_ok.mp done
      cases done
      intro segment member
      rcases List.mem_cons.mp member with rfl | later
      · exact all _ List.mem_cons_self
      · exact fillSegments_forall plain filledRest restAll segment later

/-- **A filled block** keeps its id and its span. -/
theorem fillAdBlocks_span {library : Option (AssetLibrary Source)} {fillerUri : String}
    {fillerDurationMs : Int} {source : Source} {block filled : ScheduledBlock}
    (done : fillAdBlocks library fillerUri fillerDurationMs source block = .ok filled) :
    filled.blockId = block.blockId ∧ filled.startUtcMs = block.startUtcMs ∧
      filled.endUtcMs = block.endUtcMs := by
  unfold fillAdBlocks at done
  split at done
  · cases done
  · cases placed : fillSegments library fillerUri fillerDurationMs source block.segments with
    | error error =>
      rw [placed] at done
      cases done
    | ok segments =>
      rw [placed] at done
      cases done
      exact ⟨rfl, rfl, rfl⟩

/-- **What holds of plain segments and of a block's segments** holds of the filled block's. -/
theorem fillAdBlocks_forall {holds : ScheduledSegment → Prop}
    (plain : ∀ segmentType assetUri durationMs,
      holds (plainSegment segmentType assetUri durationMs))
    {library : Option (AssetLibrary Source)} {fillerUri : String} {fillerDurationMs : Int}
    {source : Source} {block filled : ScheduledBlock}
    (done : fillAdBlocks library fillerUri fillerDurationMs source block = .ok filled)
    (all : ∀ segment ∈ block.segments, holds segment) :
    ∀ segment ∈ filled.segments, holds segment := by
  unfold fillAdBlocks at done
  split at done
  · cases done
  · obtain ⟨segments, placed, done⟩ := bind_eq_ok.mp done
    cases done
    exact fillSegments_forall plain placed all

end Filling

end Retrovue.Core.Playlog
