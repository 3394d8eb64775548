/-
**The time of a block, expanded and filled.**

* `Partitions`: the segments of a program fill its slot, each lasts, the acts lay the episode out from
  its start to its end, and the fillers take the rest;
* `expandProgramBlock_partitions_iff`: that is what the expander makes exactly when the breaks fit;
* `Replaced`, `InPlace`: a placeholder replaced where it stands, by segments that add up to it;
* `fillAdBlocks_inPlace`: the filled block replaces every placeholder, exactly, and touches nothing
  else.

The acts tile the episode whatever the break points are. What goes wrong is their lengths and the
time of the fillers: two markers at one place make an act that does not last, and without a break
point the ad time is nobody's.
-/

import Mathlib
import Retrovue.Foundation.Tiling
import Retrovue.Core.Handoff.Acceptance

namespace Retrovue.Core.Handoff

open Retrovue.Foundation.Apportion Retrovue.Foundation.Fallible Retrovue.Foundation.Tiling
open Retrovue.Core.Planning Retrovue.Core.Playlog

/-! ### Acts and fillers -/

section Kinds

/-- A segment of the episode. -/
def isContent (segment : ScheduledSegment) : Bool := segment.segmentType == "content"

/-- A segment for ads. -/
def isFiller (segment : ScheduledSegment) : Bool := segment.segmentType == "filler"

/-- The end of a segment in its file. -/
def assetEndMs (segment : ScheduledSegment) : Int :=
  segment.assetStartOffsetMs + segment.segmentDurationMs

/-- **The segments of a program partition its slot.** -/
structure Partitions (program : ProgramBlock) (segments : List ScheduledSegment) : Prop where
  total : totalMs segments = program.slotDurationMs
  lasting : ∀ segment ∈ segments, 0 < segment.segmentDurationMs
  kinds : ∀ segment ∈ segments,
    isContent segment = true ∧ segment.assetUri = program.assetUri ∨ isFiller segment = true
  acts : Tiles ScheduledSegment.assetStartOffsetMs assetEndMs (segments.filter isContent) 0
    program.episodeDurationMs
  ads : totalMs (segments.filter isFiller) = program.slotDurationMs - program.episodeDurationMs

variable {program : ProgramBlock}

@[simp] theorem isContent_act (start durationMs : Int) (fadeIn fadeOut : Bool) :
    isContent (act program start durationMs fadeIn fadeOut) = true := beq_self_eq_true "content"

@[simp] theorem isFiller_act (start durationMs : Int) (fadeIn fadeOut : Bool) :
    isFiller (act program start durationMs fadeIn fadeOut) = false := by
  show ("content" == "filler") = false
  decide

@[simp] theorem isContent_placeholder (durationMs : Int) :
    isContent (placeholder durationMs) = false := by
  show ("filler" == "content") = false
  decide

@[simp] theorem isFiller_placeholder (durationMs : Int) :
    isFiller (placeholder durationMs) = true := beq_self_eq_true "filler"

/-- A break, if it lasts, is no act. -/
theorem acts_break (thisAd : Int) :
    (if thisAd > 0 then [placeholder thisAd] else []).filter isContent = [] := by
  split_ifs
  · rw [List.filter_cons_of_neg (by simp)]
    rfl
  · rfl

/-- The acts from a break point on tile the rest of the episode. -/
theorem tiles_actsFrom : ∀ (points : List (Int × Int)) (prevBreak : Int) (pendingFadeIn : Bool),
    List.IsChain (· ≤ ·) (prevBreak :: points.map Prod.fst) →
    (∀ point ∈ points, point.1 ≤ program.episodeDurationMs) →
    prevBreak ≤ program.episodeDurationMs →
    Tiles ScheduledSegment.assetStartOffsetMs assetEndMs
      ((actsFrom program prevBreak pendingFadeIn points).filter isContent) prevBreak
      program.episodeDurationMs
  | [], prevBreak, pendingFadeIn, _, _, inside => by
    simp only [actsFrom]
    split_ifs with lasts
    · rw [List.filter_cons_of_pos (isContent_act ..)]
      have ends : assetEndMs (act program prevBreak (program.episodeDurationMs - prevBreak)
          pendingFadeIn false) = program.episodeDurationMs := add_sub_cancel _ _
      refine ⟨rfl, ?_, ends⟩
      rw [ends]
      exact inside
    · exact le_antisymm inside (by omega)
  | (bp, thisAd) :: rest, prevBreak, pendingFadeIn, ordered, points, _ => by
    rw [List.map_cons, List.isChain_cons_cons] at ordered
    obtain ⟨bpInside, later⟩ := List.forall_mem_cons.mp points
    have tail := tiles_actsFrom rest bp (program.secondClass && decide (thisAd > 0)) ordered.2
      later bpInside
    rw [actsFrom, List.filter_cons_of_pos (isContent_act ..), List.filter_append, acts_break,
      List.nil_append]
    have ends : assetEndMs (act program prevBreak (bp - prevBreak) pendingFadeIn
        program.secondClass) = bp := add_sub_cancel _ _
    refine ⟨rfl, ?_, ?_⟩
    · rw [ends]
      exact ordered.1
    · rw [ends]
      exact tail

/-- The acts of a program tile its episode. -/
theorem tiles_expandProgramBlock (sha256 : String → String)
    (lasts : 0 < program.episodeDurationMs) :
    Tiles ScheduledSegment.assetStartOffsetMs assetEndMs
      ((expandProgramBlock sha256 program).segments.filter isContent) 0
      program.episodeDurationMs := by
  simp only [expandProgramBlock]
  split_ifs
  · have whole : (movieSegments program).filter isContent =
        [{ plainSegment "content" program.assetUri program.episodeDurationMs with
          gainDb := program.gainDb }] := by
      simp only [movieSegments]
      rw [List.filter_cons_of_pos, acts_break]
      exact beq_self_eq_true "content"
    rw [whole]
    refine ⟨rfl, ?_, zero_add _⟩
    exact lasts.le.trans (zero_add _).ge
  · obtain ⟨points, -⟩ := zipped_breaks program
    refine tiles_actsFrom _ 0 false ?_ ?_ lasts.le
    · rw [points]
      exact (breakPoints_ordered lasts).isChain
    · intro point member
      refine (breakPoints_inside lasts point.1 ?_).2
      rw [← points]
      exact List.mem_map_of_mem member

/-- Every segment of a program is an act of its asset or a filler, and not both. -/
theorem kinds_expandProgramBlock (sha256 : String → String) (program : ProgramBlock) :
    ∀ segment ∈ (expandProgramBlock sha256 program).segments,
      isContent segment = true ∧ isFiller segment = false ∧ segment.assetUri = program.assetUri ∨
        isContent segment = false ∧ isFiller segment = true :=
  expandProgramBlock_forall (fun _ => .inr ⟨isContent_placeholder _, isFiller_placeholder _⟩)
    fun _ _ _ _ => .inl ⟨isContent_act .., isFiller_act .., rfl⟩

/-- The length of a tiling is the sum of its spans. -/
theorem totalMs_of_tiles : ∀ {segments : List ScheduledSegment} {low high : Int},
    Tiles ScheduledSegment.assetStartOffsetMs assetEndMs segments low high →
      totalMs segments = high - low
  | [], low, high, same => by
    have same : low = high := same
    rw [totalMs_nil, same, sub_self]
  | segment :: rest, low, high, ⟨begins, _, tail⟩ => by
    rw [totalMs_cons, totalMs_of_tiles tail, ← begins, assetEndMs]
    ring

/-- Acts and fillers together are all there is. -/
theorem totalMs_kinds : ∀ {segments : List ScheduledSegment},
    (∀ segment ∈ segments, isFiller segment = !isContent segment) →
      totalMs segments = totalMs (segments.filter isContent) + totalMs (segments.filter isFiller)
  | [], _ => rfl
  | segment :: rest, kinds => by
    obtain ⟨here, later⟩ := List.forall_mem_cons.mp kinds
    rw [totalMs_cons, totalMs_kinds later]
    cases content : isContent segment with
    | true =>
      rw [content] at here
      rw [List.filter_cons_of_pos content, List.filter_cons_of_neg (by simp [here]), totalMs_cons]
      ring
    | false =>
      rw [content] at here
      rw [List.filter_cons_of_neg (by simp [content]), List.filter_cons_of_pos here, totalMs_cons]
      ring

end Kinds

/-! ### The expanded program -/

section Expanded

/-- **The expander partitions the slot** exactly when every step between break points lasts and
there is a break for what the episode leaves. -/
theorem expandProgramBlock_partitions_iff (sha256 : String → String) {program : ProgramBlock}
    (lasts : 0 < program.episodeDurationMs)
    (fits : program.episodeDurationMs ≤ program.slotDurationMs) :
    Partitions program (expandProgramBlock sha256 program).segments ↔ BreaksFit program := by
  obtain ⟨-, -, exactly⟩ := expandProgramBlock_lengths sha256 lasts fits
  rw [← exactly]
  constructor
  · intro partitions
    exact ⟨partitions.lasting, partitions.total⟩
  · rintro ⟨lasting, total⟩
    have acts := tiles_expandProgramBlock sha256 lasts
    have kinds := kinds_expandProgramBlock sha256 program
    refine ⟨total, lasting, fun segment member => ?_, acts, ?_⟩
    · rcases kinds segment member with ⟨content, -, asset⟩ | ⟨-, filler⟩
      · exact .inl ⟨content, asset⟩
      · exact .inr filler
    · have both := totalMs_kinds fun segment member => by
        rcases kinds segment member with ⟨content, filler, -⟩ | ⟨content, filler⟩
        · rw [content, filler]
          rfl
        · rw [content, filler]
          rfl
      rw [total, totalMs_of_tiles acts] at both
      omega

/-- An episode of 22 minutes in a half-hour slot, its one chapter marker at its very start. -/
def markedAtStart : ProgramBlock where
  assetId := "pilot"
  assetUri := "/media/pilot.mp4"
  startUtcMs := 0
  slotDurationMs := 1800000
  episodeDurationMs := 1320000
  chapterMarkersMs := some [0]

/-- **The ad time is lost**: the marker is no break point, and no computed one takes its place. -/
theorem markedAtStart_loses_ads :
    0 < markedAtStart.episodeDurationMs ∧
      markedAtStart.episodeDurationMs ≤ markedAtStart.slotDurationMs ∧
      totalMs (expandProgramBlock id markedAtStart).segments = 1320000 ∧
      ¬ Partitions markedAtStart (expandProgramBlock id markedAtStart).segments := by
  have total : totalMs (expandProgramBlock id markedAtStart).segments = 1320000 := by
    show totalMs (networkSegments markedAtStart) = 1320000
    decide
  refine ⟨by decide, by decide, total, fun partitions => ?_⟩
  have slot := partitions.total
  rw [total] at slot
  exact absurd slot (by decide)

/-- The same episode with two markers inside. -/
def markedInside : ProgramBlock :=
  { markedAtStart with chapterMarkersMs := some [880000, 440000] }

theorem markedInside_partitions :
    Partitions markedInside (expandProgramBlock id markedInside).segments :=
  (expandProgramBlock_partitions_iff id (by decide) (by decide)).mpr (by decide)

end Expanded

/-! ### The filled block -/

section FilledBlock

/-- A placeholder is replaced exactly: by segments that last and add up to it. -/
def Replaced (segment : ScheduledSegment) (part : List ScheduledSegment) : Prop :=
  (∀ piece ∈ part, 0 < piece.segmentDurationMs) ∧ totalMs part = segment.segmentDurationMs

/-- What a placeholder becomes: it is replaced exactly if it lasts, else by the filler file at its
own length. -/
def ReplacedOrStatic (fillerUri : String) (segment : ScheduledSegment)
    (part : List ScheduledSegment) : Prop :=
  if 0 < segment.segmentDurationMs then Replaced segment part
  else part = [plainSegment "filler" fillerUri segment.segmentDurationMs]

/-- The segments with every placeholder replaced where it stands, and nothing else touched. -/
def InPlace (replaces : ScheduledSegment → List ScheduledSegment → Prop)
    (segments filled : List ScheduledSegment) : Prop :=
  ∃ parts, filled = parts.flatten ∧ List.Forall₂ (fun segment part =>
    if segment.isPlaceholder then replaces segment part else part = [segment]) segments parts

variable {Source : Type} {library : Option (AssetLibrary Source)} {fillerUri : String}
  {fillerDurationMs : Int}

/-- A break of no length asks the library for nothing. -/
theorem fillBreak_of_nonpos {source : Source} {breakMs : Int} (empty : breakMs ≤ 0) :
    (fillBreak library fillerUri fillerDurationMs source breakMs).1 =
      staticFiller fillerUri fillerDurationMs breakMs := by
  cases library with
  | none => rfl
  | some assetLibrary =>
    have unfueled : breakMs.toNat = 0 := Int.toNat_of_nonpos empty
    simp [fillBreak, fillBreakWithInterstitials, unfueled, pickLoop]

/-- **A filled break** replaces its placeholder. -/
theorem fillBreak_replaces {source : Source} {segment : ScheduledSegment}
    {part : List ScheduledSegment}
    (done : (fillBreak library fillerUri fillerDurationMs source segment.segmentDurationMs).1 =
      .ok part) :
    ReplacedOrStatic fillerUri segment part := by
  unfold ReplacedOrStatic
  split_ifs with lasts
  · obtain ⟨total, lasting⟩ := fillBreak_lengths lasts done
    exact ⟨lasting, total⟩
  · rw [fillBreak_of_nonpos (not_lt.mp lasts)] at done
    exact staticFiller_lengths done

/-- **The loop replaces the placeholders in place.** -/
theorem fillSegments_inPlace :
    ∀ {segments : List ScheduledSegment} {source : Source} {filled : List ScheduledSegment},
      fillSegments library fillerUri fillerDurationMs source segments = .ok filled →
        InPlace (ReplacedOrStatic fillerUri) segments filled
  | [], source, filled, done => by
    cases done
    exact ⟨[], rfl, .nil⟩
  | first :: rest, source, filled, done => by
    rw [fillSegments] at done
    split at done
    · rename_i empty
      obtain ⟨placed, broke, done⟩ := bind_eq_ok.mp done
      obtain ⟨others, filledRest, done⟩ := bind_eq_ok.mp done
      cases done
      obtain ⟨parts, rfl, replaced⟩ := fillSegments_inPlace filledRest
      refine ⟨placed :: parts, rfl, .cons ?_ replaced⟩
      rw [if_pos empty]
      exact fillBreak_replaces broke
    · rename_i kept
      obtain ⟨others, filledRest, done⟩ := bind_eq_ok.mp done
      cases done
      obtain ⟨parts, rfl, replaced⟩ := fillSegments_inPlace filledRest
      refine ⟨[first] :: parts, rfl, .cons ?_ replaced⟩
      rw [if_neg kept]

/-- **Filling the breaks is exact and local**: it raises, or the block keeps its id and its span,
every placeholder that lasts is replaced by segments that last and add up to it, one that does not by
the filler file at its own length, and every other segment stays as it is. -/
theorem fillAdBlocks_inPlace {Source : Type} (library : Option (AssetLibrary Source))
    (fillerUri : String) (fillerDurationMs : Int) (source : Source) (block : ScheduledBlock) :
    (∃ error, fillAdBlocks library fillerUri fillerDurationMs source block = .error error) ∨
      ∃ filled, fillAdBlocks library fillerUri fillerDurationMs source block = .ok filled ∧
        filled.blockId = block.blockId ∧ filled.startUtcMs = block.startUtcMs ∧
        filled.endUtcMs = block.endUtcMs ∧
        InPlace (ReplacedOrStatic fillerUri) block.segments filled.segments := by
  cases outcome : fillAdBlocks library fillerUri fillerDurationMs source block with
  | error error => exact .inl ⟨error, rfl⟩
  | ok filled =>
    obtain ⟨sameId, starts, ends⟩ := fillAdBlocks_span outcome
    refine .inr ⟨filled, rfl, sameId, starts, ends, ?_⟩
    unfold fillAdBlocks at outcome
    split at outcome
    · cases outcome
    · obtain ⟨segments, placed, done⟩ := bind_eq_ok.mp outcome
      cases done
      exact fillSegments_inPlace placed

/-- A block that is one placeholder of no length. -/
def emptyBreak : ScheduledBlock := ⟨"blk-empty", 0, 0, [placeholder 0]⟩

/-- **A placeholder of no length** becomes a filler of no length: no segments that last add up to
nothing but none at all. -/
theorem emptyBreak_not_exact :
    ∃ filled, fillAdBlocks (none : Option (AssetLibrary Unit)) "/media/filler.mp4" 60000 ()
        emptyBreak = .ok filled ∧
      ¬ InPlace Replaced emptyBreak.segments filled.segments := by
  refine ⟨⟨"blk-empty", 0, 0, [plainSegment "filler" "/media/filler.mp4" 0]⟩, rfl, ?_⟩
  rintro ⟨parts, whole, replaced⟩
  obtain ⟨part, others, first, rest, rfl⟩ := List.forall₂_cons_left_iff.mp replaced
  obtain rfl := List.forall₂_nil_left_iff.mp rest
  have whole : [plainSegment "filler" "/media/filler.mp4" 0] = part := by
    simpa [emptyBreak] using whole
  rw [if_pos (by decide), ← whole] at first
  exact absurd (first.1 _ List.mem_cons_self) (by decide)

end FilledBlock

end Retrovue.Core.Handoff
