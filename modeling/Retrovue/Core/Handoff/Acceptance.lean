/-
**Whether AIR accepts the blocks that Core builds**: a program expanded, its breaks filled, turned
into a plan, joined in progress or not.

* `fillSegments_lengths`: filling the breaks keeps the total, and no length goes bad;
* `ProgramBlock.BreaksFit`: every act of a program has a length, and there is a break for what the
  episode leaves of its slot;
* `handedOver_valid_iff_breaksFit`: AIR accepts a block that is not joined exactly when its breaks fit,
  and a joined one always.
-/

import Mathlib
import Retrovue.Core.Handoff.Joining

namespace Retrovue.Core.Handoff

open Retrovue.Foundation.Sorting Retrovue.Foundation.Apportion Retrovue.Foundation.Offsets
open Retrovue.Foundation.Fallible Retrovue.Core.Planning Retrovue.Core.Playlog

/-! ### Filled breaks -/

section Filled

variable {Source : Type} {assetLibrary : AssetLibrary Source}
  {library : Option (AssetLibrary Source)} {fillerUri : String} {fillerDurationMs : Int}

/-- Every spot that is picked lasts. -/
theorem pickLoop_pos : ∀ (fuel : Nat) (source : Source) (remainingMs : Int),
    ∀ pick ∈ (pickLoop assetLibrary fuel source remainingMs).1, 0 < pick.durationMs
  | 0, source, remainingMs => by
    intro pick member
    cases member
  | fuel + 1, source, remainingMs => by
    intro pick member
    simp only [pickLoop] at member
    split at member
    · split at member
      · cases member
      · rename_i first others answered
        rcases List.mem_cons.mp member with rfl | later
        · refine assetLibrary.filler_pos source remainingMs 5 pick ?_
          rw [answered]
          exact List.mem_cons_self
        · exact pickLoop_pos fuel _ _ pick later
    · cases member

/-- Spots last, and so do the pads between them. -/
theorem spotSegments_pos : ∀ (picks : List FillerAsset) (pads : List Int),
    (∀ pick ∈ picks, 0 < pick.durationMs) →
    ∀ segment ∈ spotSegments picks pads, 0 < segment.segmentDurationMs
  | [], _, _ => by
    intro segment member
    cases member
  | _ :: _, [], _ => by
    intro segment member
    cases member
  | pick :: picks, padMs :: pads, lasting => by
    intro segment member
    rw [spotSegments, List.mem_cons, List.mem_append] at member
    rcases member with rfl | placed | later
    · exact lasting pick List.mem_cons_self
    · split at placed
      · rename_i padded
        rw [List.mem_singleton.mp placed]
        exact padded
      · cases placed
    · exact spotSegments_pos picks pads
        (fun other among => lasting other (List.mem_cons_of_mem pick among)) segment later

theorem staticFiller_lengths {breakMs : Int} {filled : List ScheduledSegment}
    (done : staticFiller fillerUri fillerDurationMs breakMs = .ok filled) :
    filled = [plainSegment "filler" fillerUri breakMs] := by
  unfold staticFiller at done
  split at done
  · cases done
  · cases done
    rfl

/-- **A filled break** lasts as long as the break, and so does everything in it. -/
theorem fillBreak_lengths {source : Source} {breakMs : Int} (lasts : 0 < breakMs)
    {filled : List ScheduledSegment}
    (done : (fillBreak library fillerUri fillerDurationMs source breakMs).1 = .ok filled) :
    totalMs filled = breakMs ∧ ∀ segment ∈ filled, 0 < segment.segmentDurationMs := by
  have static : staticFiller fillerUri fillerDurationMs breakMs = .ok filled →
      totalMs filled = breakMs ∧ ∀ segment ∈ filled, 0 < segment.segmentDurationMs := by
    intro placed
    rw [staticFiller_lengths placed, List.forall_mem_singleton]
    exact ⟨by simp [plainSegment], lasts⟩
  cases library with
  | none => exact static done
  | some assetLibrary =>
    simp only [fillBreak, fillBreakWithInterstitials] at done
    by_cases unanswered :
        (pickLoop assetLibrary breakMs.toNat source breakMs).1.isEmpty = true
    · rw [if_pos unanswered] at done
      exact static done
    · rw [if_neg unanswered] at done
      split_ifs at done with exactly
      cases done
      exact ⟨exactly, spotSegments_pos _ _ (pickLoop_pos _ _ _)⟩

/-- **Filled segments**: as long together as before, and no shorter each, as every placeholder
lasts. -/
theorem fillSegments_lengths :
    ∀ {segments : List ScheduledSegment} {source : Source} {filled : List ScheduledSegment},
      fillSegments library fillerUri fillerDurationMs source segments = .ok filled →
      (∀ segment ∈ segments, segment.isPlaceholder = true → 0 < segment.segmentDurationMs) →
      totalMs filled = totalMs segments ∧ ∀ low ≤ (1 : Int),
        ((∀ segment ∈ filled, low ≤ segment.segmentDurationMs) ↔
          ∀ segment ∈ segments, low ≤ segment.segmentDurationMs)
  | [], source, filled, done, _ => by
    cases done
    exact ⟨rfl, fun _ _ => Iff.rfl⟩
  | first :: rest, source, filled, done, lasting => by
    have lastingRest := fun segment member => lasting segment (List.mem_cons_of_mem first member)
    rw [fillSegments] at done
    split at done
    · rename_i empty
      have lasts := lasting first List.mem_cons_self empty
      obtain ⟨placed, broke, done⟩ := bind_eq_ok.mp done
      obtain ⟨others, filledRest, done⟩ := bind_eq_ok.mp done
      cases done
      obtain ⟨spans, positive⟩ := fillBreak_lengths lasts broke
      obtain ⟨spansRest, low⟩ := fillSegments_lengths filledRest lastingRest
      refine ⟨by rw [totalMs_append, totalMs_cons, spans, spansRest], fun bound small => ?_⟩
      rw [List.forall_mem_append, List.forall_mem_cons, low bound small]
      have here : ∀ segment ∈ placed, bound ≤ segment.segmentDurationMs := by
        intro segment member
        have := positive segment member
        omega
      constructor
      · rintro ⟨-, later⟩
        exact ⟨by omega, later⟩
      · rintro ⟨-, later⟩
        exact ⟨here, later⟩
    · obtain ⟨others, filledRest, done⟩ := bind_eq_ok.mp done
      cases done
      obtain ⟨spansRest, low⟩ := fillSegments_lengths filledRest lastingRest
      refine ⟨by rw [totalMs_cons, totalMs_cons, spansRest], fun bound small => ?_⟩
      rw [List.forall_mem_cons, List.forall_mem_cons, low bound small]

end Filled

/-! ### Acts and breaks -/

section Acts

variable {program : ProgramBlock}

@[simp] theorem act_durationMs (start durationMs : Int) (fadeIn fadeOut : Bool) :
    (act program start durationMs fadeIn fadeOut).segmentDurationMs = durationMs := rfl

@[simp] theorem placeholder_durationMs (durationMs : Int) :
    (placeholder durationMs).segmentDurationMs = durationMs := rfl

/-- The acts and breaks together, from a break point on. -/
theorem totalMs_actsFrom :
    ∀ (points : List (Int × Int)) (prevBreak : Int) (pendingFadeIn : Bool),
      prevBreak ≤ program.episodeDurationMs →
      (∀ point ∈ points, point.1 ≤ program.episodeDurationMs ∧ 0 ≤ point.2) →
      totalMs (actsFrom program prevBreak pendingFadeIn points) =
        program.episodeDurationMs - prevBreak + (points.map Prod.snd).sum
  | [], prevBreak, pendingFadeIn, inside, _ => by
    simp only [actsFrom, List.map_nil, List.sum_nil, add_zero]
    split_ifs with lasts
    · simp
    · rw [totalMs_nil]
      omega
  | (bp, thisAd) :: rest, prevBreak, pendingFadeIn, inside, points => by
    obtain ⟨⟨bpInside, adNonneg⟩, later⟩ := List.forall_mem_cons.mp points
    rw [actsFrom, totalMs_cons, totalMs_append, totalMs_actsFrom rest bp _ bpInside later,
      List.map_cons, List.sum_cons]
    have placed : totalMs (if thisAd > 0 then [placeholder thisAd] else []) = thisAd := by
      split_ifs with lasts
      · simp
      · rw [totalMs_nil]
        omega
    rw [placed, act_durationMs]
    ring

/-- The acts and breaks last at least `low`, where every step between break points does. -/
theorem lengths_actsFrom {low : Int} (small : low ≤ 1) :
    ∀ (points : List (Int × Int)) (prevBreak : Int) (pendingFadeIn : Bool),
      (∀ segment ∈ actsFrom program prevBreak pendingFadeIn points,
          low ≤ segment.segmentDurationMs) ↔
        List.IsChain (fun a b => low ≤ b - a) (prevBreak :: points.map Prod.fst)
  | [], prevBreak, pendingFadeIn => by
    simp only [actsFrom, List.map_nil, List.isChain_singleton, iff_true]
    split_ifs with lasts
    · rw [List.forall_mem_singleton, act_durationMs]
      omega
    · intro segment member
      cases member
  | (bp, thisAd) :: rest, prevBreak, pendingFadeIn => by
    rw [actsFrom, List.forall_mem_cons, List.forall_mem_append, lengths_actsFrom small rest,
      List.map_cons, List.isChain_cons_cons]
    have placed : ∀ segment ∈ if thisAd > 0 then [placeholder thisAd] else [],
        low ≤ segment.segmentDurationMs := by
      split_ifs with lasts
      · rw [List.forall_mem_singleton, placeholder_durationMs]
        omega
      · intro segment member
        cases member
    rw [act_durationMs]
    constructor
    · rintro ⟨here, -, later⟩
      exact ⟨here, later⟩
    · rintro ⟨here, later⟩
      exact ⟨here, placed, later⟩

/-- The placeholders of a program last. -/
theorem placeholders_actsFrom :
    ∀ (points : List (Int × Int)) (prevBreak : Int) (pendingFadeIn : Bool),
      ∀ segment ∈ actsFrom program prevBreak pendingFadeIn points,
        segment.isPlaceholder = true → 0 < segment.segmentDurationMs
  | [], prevBreak, pendingFadeIn => by
    intro segment member empty
    simp only [actsFrom] at member
    split at member
    · rw [List.mem_singleton.mp member] at empty
      simp [ScheduledSegment.isPlaceholder, act] at empty
    · cases member
  | (bp, thisAd) :: rest, prevBreak, pendingFadeIn => by
    intro segment member empty
    rw [actsFrom, List.mem_cons, List.mem_append] at member
    rcases member with rfl | placed | later
    · simp [ScheduledSegment.isPlaceholder, act] at empty
    · split at placed
      · rename_i lasts
        rw [List.mem_singleton.mp placed]
        exact lasts
      · cases placed
    · exact placeholders_actsFrom rest _ _ segment later empty

/-- The placeholders of an expanded program last. -/
theorem placeholders_expandProgramBlock (sha256 : String → String) (program : ProgramBlock) :
    ∀ segment ∈ (expandProgramBlock sha256 program).segments,
      segment.isPlaceholder = true → 0 < segment.segmentDurationMs := by
  intro segment member empty
  simp only [expandProgramBlock] at member
  split at member
  · simp only [movieSegments, List.mem_cons] at member
    rcases member with rfl | placed
    · simp [ScheduledSegment.isPlaceholder, plainSegment] at empty
    · split at placed
      · rename_i lasts
        rw [List.mem_singleton.mp placed]
        exact lasts
      · cases placed
  · exact placeholders_actsFrom _ _ _ segment member empty

end Acts

/-! ### Break points -/

section BreakPoints

/-- The chapter markers inside the episode. -/
def insideMarkers (program : ProgramBlock) : List Int :=
  (program.chapterMarkersMs.getD []).filter fun bp => 0 < bp ∧ bp < program.episodeDurationMs

variable {program : ProgramBlock}

/-- **Marked breaks ascend** when no two markers are the same. -/
theorem sorted_ascend_iff {points : List Int} (positive : ∀ bp ∈ points, 0 < bp) :
    List.Pairwise (· < ·) (0 :: sortByKey id points) ↔ points.Nodup := by
  rw [List.pairwise_cons, ← (sortByKey_perm id points).nodup_iff]
  constructor
  · rintro ⟨-, strict⟩
    exact strict.imp ne_of_lt
  · intro distinct
    refine ⟨fun bp member => positive bp ((mem_sortByKey id).mp member), ?_⟩
    have both := (sortByKey_pairwise id points).and distinct
    exact both.imp fun ⟨le, ne⟩ => lt_of_le_of_ne le ne

/-- Break `i` of `numBreaks` equal parts. -/
theorem parts_eq {episodeMs : Int} (lasts : 0 < episodeMs) (numBreaks : Int) (i : Nat) :
    (episodeMs * ((i : Int) + 1)).tdiv (numBreaks + 1) =
      episodeMs * ((i : Int) + 1) / (numBreaks + 1) :=
  Int.tdiv_eq_ediv_of_nonneg (by positivity)

/-- **Computed breaks ascend** when the episode is longer than their number. -/
theorem parts_ascend_iff {episodeMs : Int} (lasts : 0 < episodeMs) {numBreaks : Int}
    (some_ : 0 < numBreaks) :
    List.Pairwise (· < ·) (0 :: (List.range numBreaks.toNat).map fun i : Nat =>
        (episodeMs * (i + 1)).tdiv (numBreaks + 1)) ↔ numBreaks < episodeMs := by
  have parts : 0 < numBreaks + 1 := by omega
  simp only [parts_eq lasts]
  rw [List.pairwise_cons, List.forall_mem_map, List.pairwise_map]
  constructor
  · rintro ⟨first, -⟩
    have step := first 0 (List.mem_range.mpr (by omega))
    have one := (Int.le_ediv_iff_mul_le parts).mp (Int.add_one_le_of_lt step)
    push_cast at one
    omega
  · intro long
    constructor
    · intro i _
      refine Int.lt_of_add_one_le ((Int.le_ediv_iff_mul_le parts).mpr ?_)
      have grows : episodeMs ≤ episodeMs * ((i : Int) + 1) :=
        le_mul_of_one_le_right lasts.le (by omega)
      omega
    · refine List.pairwise_lt_range.imp fun {i j} earlier => ?_
      refine Int.lt_of_add_one_le ((Int.le_ediv_iff_mul_le parts).mpr ?_)
      have below := Int.ediv_mul_le (episodeMs * ((i : Int) + 1)) parts.ne'
      have step : episodeMs * ((i : Int) + 1) + episodeMs ≤ episodeMs * ((j : Int) + 1) := by
        have later : (i : Int) + 1 ≤ j := by omega
        nlinarith
      rw [add_mul]
      omega

/-- What the episode leaves of its slot has a break, and every step between breaks lasts. -/
def BreaksFit (program : ProgramBlock) : Prop :=
  if program.channelType = "movie" then True
  else if program.hasChapters then
    (insideMarkers program).Nodup ∧
      (insideMarkers program ≠ [] ∨ program.slotDurationMs = program.episodeDurationMs)
  else if program.numBreaks ≤ 0 then program.slotDurationMs = program.episodeDurationMs
  else program.numBreaks < program.episodeDurationMs

instance (program : ProgramBlock) : Decidable (BreaksFit program) := by
  unfold BreaksFit
  infer_instance

/-- The break points, case by case. -/
theorem breakPoints_eq (program : ProgramBlock) :
    program.breakPoints =
      if program.hasChapters then sortByKey id (insideMarkers program)
      else if program.numBreaks ≤ 0 then []
      else (List.range program.numBreaks.toNat).map fun i : Nat =>
        (program.episodeDurationMs * (i + 1)).tdiv (program.numBreaks + 1) := rfl

theorem mem_insideMarkers {bp : Int} (member : bp ∈ insideMarkers program) :
    0 < bp ∧ bp < program.episodeDurationMs := by
  simpa using (List.mem_filter.mp member).2

/-- Break points lie inside the episode. -/
theorem breakPoints_inside (lasts : 0 < program.episodeDurationMs) :
    ∀ bp ∈ program.breakPoints, 0 ≤ bp ∧ bp ≤ program.episodeDurationMs := by
  intro bp member
  rw [breakPoints_eq] at member
  split_ifs at member with marked none_
  · have inside := mem_insideMarkers ((mem_sortByKey id).mp member)
    omega
  · cases member
  · obtain ⟨i, among, rfl⟩ := List.mem_map.mp member
    have counted := List.mem_range.mp among
    rw [parts_eq lasts]
    constructor
    · exact Int.ediv_nonneg (by positivity) (by omega)
    · refine Int.ediv_le_of_le_mul (by omega) ?_
      exact mul_le_mul_of_nonneg_left (by omega) lasts.le

/-- Break points are in order. -/
theorem breakPoints_ordered (lasts : 0 < program.episodeDurationMs) :
    List.Pairwise (· ≤ ·) (0 :: program.breakPoints) := by
  refine List.pairwise_cons.mpr ⟨fun bp member => (breakPoints_inside lasts bp member).1, ?_⟩
  rw [breakPoints_eq]
  split_ifs with marked none_
  · exact sortByKey_pairwise id _
  · exact List.Pairwise.nil
  · rw [List.pairwise_map]
    refine List.pairwise_lt_range.imp fun {i j} earlier => ?_
    rw [parts_eq lasts, parts_eq lasts]
    refine Int.ediv_le_ediv (by omega) (mul_le_mul_of_nonneg_left ?_ lasts.le)
    omega

/-- **When the breaks fit**: the break points ascend, and there is one for what is left. -/
theorem breaksFit_iff (lasts : 0 < program.episodeDurationMs)
    (network : program.channelType ≠ "movie") :
    BreaksFit program ↔
      List.Pairwise (· < ·) (0 :: program.breakPoints) ∧
        (program.breakPoints ≠ [] ∨ program.slotDurationMs = program.episodeDurationMs) := by
  rw [BreaksFit, if_neg network, breakPoints_eq]
  split_ifs with marked none_
  · have positive : ∀ bp ∈ insideMarkers program, 0 < bp :=
      fun bp member => (mem_insideMarkers member).1
    have empty : sortByKey id (insideMarkers program) = [] ↔ insideMarkers program = [] := by
      rw [← List.length_eq_zero_iff, (sortByKey_perm id _).length_eq, List.length_eq_zero_iff]
    rw [sorted_ascend_iff positive, ne_eq, ne_eq, empty]
  · simp
  · rw [parts_ascend_iff lasts (by omega)]
    have some_ : (List.range program.numBreaks.toNat).map (fun i : Nat =>
        (program.episodeDurationMs * ((i : Int) + 1)).tdiv (program.numBreaks + 1)) ≠ [] := by
      rw [ne_eq, List.map_eq_nil_iff, List.range_eq_nil]
      omega
    exact ⟨fun long => ⟨long, .inl some_⟩, fun both => both.1⟩

end BreakPoints

/-! ### Expanded programs -/

section Expanded

variable {program : ProgramBlock}

/-- Break points with the breaks shared out over them. -/
theorem zipped_breaks (program : ProgramBlock) :
    (program.breakPoints.zip (shares program.totalAdMs program.breakPoints.length)).map Prod.fst =
        program.breakPoints ∧
      (program.breakPoints.zip (shares program.totalAdMs program.breakPoints.length)).map Prod.snd =
        shares program.totalAdMs program.breakPoints.length :=
  ⟨List.map_fst_zip (by simp), List.map_snd_zip (by simp)⟩

/-- **The length of a network program**: the episode, and what it leaves of its slot when there is
a break for it. -/
theorem totalMs_networkSegments (lasts : 0 < program.episodeDurationMs) :
    totalMs (networkSegments program) =
      program.episodeDurationMs + if program.breakPoints = [] then 0 else program.totalAdMs := by
  obtain ⟨points, breaks⟩ := zipped_breaks program
  have ads : 0 ≤ program.totalAdMs := le_max_left _ _
  rw [networkSegments, totalMs_actsFrom _ 0 false lasts.le, breaks, sub_zero]
  · congr 1
    split_ifs with none_
    · simp [none_, shares]
    · exact sum_shares _ (List.length_pos_iff.mpr none_)
  · intro point member
    constructor
    · refine (breakPoints_inside lasts point.1 ?_).2
      rw [← points]
      exact List.mem_map_of_mem member
    · refine shares_nonneg ads program.breakPoints.length point.2 ?_
      rw [← breaks]
      exact List.mem_map_of_mem member

/-- The lengths of a network program are the steps between its break points. -/
theorem lengths_networkSegments {low : Int} (small : low ≤ 1) :
    (∀ segment ∈ networkSegments program, low ≤ segment.segmentDurationMs) ↔
      List.IsChain (fun a b => low ≤ b - a) (0 :: program.breakPoints) := by
  rw [networkSegments, lengths_actsFrom small, (zipped_breaks program).1]

theorem nonneg_networkSegments (lasts : 0 < program.episodeDurationMs) :
    ∀ segment ∈ networkSegments program, 0 ≤ segment.segmentDurationMs := by
  rw [lengths_networkSegments (by omega)]
  exact (breakPoints_ordered lasts).isChain.imp fun a b le => by omega

theorem positive_networkSegments_iff :
    (∀ segment ∈ networkSegments program, 1 ≤ segment.segmentDurationMs) ↔
      List.Pairwise (· < ·) (0 :: program.breakPoints) := by
  rw [lengths_networkSegments le_rfl, ← List.isChain_iff_pairwise]
  have step : ∀ a b : Int, 1 ≤ b - a ↔ a < b := fun a b => by omega
  simp only [step]

/-- A movie program is as long as its slot, with positive lengths. -/
theorem movieSegments_lengths (lasts : 0 < program.episodeDurationMs)
    (fits : program.episodeDurationMs ≤ program.slotDurationMs) :
    (∀ segment ∈ movieSegments program, 1 ≤ segment.segmentDurationMs) ∧
      totalMs (movieSegments program) = program.slotDurationMs := by
  simp only [movieSegments]
  split_ifs with left
  · constructor
    · rw [List.forall_mem_cons, List.forall_mem_singleton]
      exact ⟨lasts, left⟩
    · simp only [totalMs_cons, totalMs_nil, placeholder_durationMs, plainSegment]
      omega
  · constructor
    · rw [List.forall_mem_singleton]
      exact lasts
    · simp only [totalMs_cons, totalMs_nil, plainSegment]
      omega

/-- **An expanded program**: no negative length, no longer than its slot, and as long as its slot
with positive lengths exactly when its breaks fit. -/
theorem expandProgramBlock_lengths (sha256 : String → String)
    (lasts : 0 < program.episodeDurationMs)
    (fits : program.episodeDurationMs ≤ program.slotDurationMs) :
    (∀ segment ∈ (expandProgramBlock sha256 program).segments, 0 ≤ segment.segmentDurationMs) ∧
      totalMs (expandProgramBlock sha256 program).segments ≤ program.slotDurationMs ∧
      ((∀ segment ∈ (expandProgramBlock sha256 program).segments,
            1 ≤ segment.segmentDurationMs) ∧
          totalMs (expandProgramBlock sha256 program).segments = program.slotDurationMs ↔
        BreaksFit program) := by
  have left : program.totalAdMs = program.slotDurationMs - program.episodeDurationMs := by
    rw [ProgramBlock.totalAdMs]
    omega
  by_cases movie : program.channelType = "movie"
  · obtain ⟨positive, spans⟩ := movieSegments_lengths lasts fits
    simp only [expandProgramBlock, BreaksFit, if_pos movie]
    refine ⟨fun segment member => ?_, spans.le, fun _ => trivial, fun _ => ⟨positive, spans⟩⟩
    have := positive segment member
    omega
  · have fit := breaksFit_iff lasts movie
    have spans := totalMs_networkSegments lasts
    simp only [expandProgramBlock, if_neg movie]
    refine ⟨nonneg_networkSegments lasts, ?_, ?_⟩
    · rw [spans]
      split_ifs <;> omega
    · rw [fit, positive_networkSegments_iff, spans]
      refine and_congr_right fun _ => ?_
      split_ifs with none_
      · simp only [none_, ne_eq, not_true_eq_false, false_or]
        omega
      · simp only [none_, ne_eq, not_false_eq_true, true_or, iff_true]
        omega

end Expanded

/-! ### Acceptance -/

section Acceptance

variable {Source : Type} {library : Option (AssetLibrary Source)} {fillerUri : String}
  {fillerDurationMs : Int} {source : Source} {sha256 : String → String} {program : ProgramBlock}
  {filled : ScheduledBlock}

/-- What a filled program hands to the plan: its span, its total and its lengths. -/
theorem filled_lengths
    (done : fillAdBlocks library fillerUri fillerDurationMs source
      (expandProgramBlock sha256 program) = .ok filled) :
    filled.startUtcMs = program.startUtcMs ∧
      filled.endUtcMs = program.startUtcMs + program.slotDurationMs ∧
      totalMs filled.segments = totalMs (expandProgramBlock sha256 program).segments ∧
      ∀ low ≤ (1 : Int), ((∀ segment ∈ filled.segments, low ≤ segment.segmentDurationMs) ↔
        ∀ segment ∈ (expandProgramBlock sha256 program).segments,
          low ≤ segment.segmentDurationMs) := by
  obtain ⟨-, starts, ends⟩ := fillAdBlocks_span done
  unfold fillAdBlocks at done
  split at done
  · cases done
  · obtain ⟨segments, placed, done⟩ := bind_eq_ok.mp done
    cases done
    obtain ⟨spans, lengths⟩ :=
      fillSegments_lengths placed (placeholders_expandProgramBlock sha256 program)
    exact ⟨starts, ends, spans, lengths⟩

/-- A whole block as a plan: its total and its lengths are those of its segments. -/
theorem planSegments_lengths (scheduled : ScheduledBlock) :
    total planLength (planSegments scheduled) = totalMs scheduled.segments ∧
      (Positive planLength (planSegments scheduled) ↔
        ∀ segment ∈ scheduled.segments, 1 ≤ segment.segmentDurationMs) := by
  refine ⟨congrArg List.sum (map_planSegments_length scheduled), ?_⟩
  exact positive_congr (map_planSegments_length scheduled)

/-- **AIR accepts a joined block always**: the walk drops what has no length, and the pad at the
end makes up the rest. -/
theorem joined_fills {scheduled : ScheduledBlock}
    (nonneg : ∀ segment ∈ scheduled.segments, 0 ≤ segment.segmentDurationMs)
    (fits : totalMs scheduled.segments ≤ scheduled.endUtcMs - scheduled.startUtcMs)
    {nowUtcMs : Int} (started : scheduled.startUtcMs < nowUtcMs)
    (runs : nowUtcMs < scheduled.endUtcMs) :
    Positive planLength (applyJipToSegments (planSegments scheduled)
        (nowUtcMs - scheduled.startUtcMs) (scheduled.endUtcMs - nowUtcMs)) ∧
      total planLength (applyJipToSegments (planSegments scheduled)
        (nowUtcMs - scheduled.startUtcMs) (scheduled.endUtcMs - nowUtcMs)) =
        scheduled.endUtcMs - nowUtcMs := by
  have offset : 0 ≤ nowUtcMs - scheduled.startUtcMs := by omega
  have lengths : ∀ seg ∈ planSegments scheduled, 0 ≤ planLength seg := by
    intro seg member
    have length := List.mem_map_of_mem (f := planLength) member
    rw [map_planSegments_length] at length
    obtain ⟨segment, among, same⟩ := List.mem_map.mp length
    rw [← same]
    exact nonneg segment among
  refine extendPad_fills (skipElapsed_positive _ offset) ?_
  rw [total_skipElapsed lengths offset, (planSegments_lengths scheduled).1]
  omega

/-- A program's plan passes when it is joined in progress, or when the program's breaks fit. -/
theorem plan_valid_iff
    (lasts : 0 < program.episodeDurationMs)
    (fits : program.episodeDurationMs ≤ program.slotDurationMs)
    (filledBlock : fillAdBlocks library fillerUri fillerDurationMs source
      (expandProgramBlock sha256 program) = .ok filled)
    {channelIdInt jipOffsetMs nowUtcMs : Int} {plan : BlockPlan}
    (inside : 0 < jipOffsetMs → nowUtcMs < filled.endUtcMs)
    (generated : generateNextBlock channelIdInt filled jipOffsetMs nowUtcMs = .ok plan)
    {sent : Retrovue.Air.Blockplan.BlockPlan} (message : plan.toProto = .ok sent) :
    sent.fed.segmentsValid = true ↔
      (0 < jipOffsetMs ∧ filled.startUtcMs < nowUtcMs) ∨ BreaksFit program := by
  obtain ⟨starts, ends, spans, lengths⟩ := filled_lengths filledBlock
  obtain ⟨nonneg, short, exactly⟩ := expandProgramBlock_lengths sha256 lasts fits
  obtain ⟨planEnds, shape⟩ := generateNextBlock_ok inside generated
  have slot : filled.endUtcMs - filled.startUtcMs = program.slotDurationMs := by omega
  by_cases joined : 0 < jipOffsetMs ∧ filled.startUtcMs < nowUtcMs
  · rw [if_pos joined] at shape
    obtain ⟨planStarts, renumbered⟩ := shape
    have runs := inside joined.1
    obtain ⟨positive, made⟩ := joined_fills ((lengths 0 (by omega)).mpr nonneg)
      (by rw [spans, slot]; exact short) joined.2 runs
    have numbered : Numbered plan.segments := by
      rw [renumbered]
      exact numbered_renumber _
    have same : plan.segments.map planLength =
        (applyJipToSegments (planSegments filled) (nowUtcMs - filled.startUtcMs)
          (filled.endUtcMs - nowUtcMs)).map planLength := by
      rw [renumbered, map_renumber_length]
    have planTotal : total planLength plan.segments = plan.endUtcMs - plan.startUtcMs := by
      rw [planEnds, planStarts, ← made, total, total, same]
    have some_ : plan.segments ≠ [] := by
      intro none_
      rw [none_, total_nil] at planTotal
      omega
    rw [segmentsValid_toProto message numbered]
    exact ⟨fun _ => .inl joined, fun _ => ⟨some_, (positive_congr same).mpr positive, planTotal⟩⟩
  · rw [if_neg joined] at shape
    obtain ⟨planStarts, whole⟩ := shape
    have numbered : Numbered plan.segments := by
      rw [whole]
      exact numbered_planSegments filled
    obtain ⟨wholeTotal, wholePositive⟩ := planSegments_lengths filled
    rw [segmentsValid_toProto message numbered, whole, wholeTotal, wholePositive,
      lengths 1 le_rfl, spans, planEnds, planStarts, slot, exactly]
    constructor
    · rintro ⟨-, fit⟩
      exact .inr fit
    · rintro (now | fit)
      · exact absurd now joined
      · refine ⟨fun none_ => ?_, fit⟩
        rw [none_, total_nil, spans] at wholeTotal
        have full := (exactly.mpr fit).2
        omega

/-- A program expanded, filled, turned into a plan and sent; `none` where a step raises. -/
def handOver (library : Option (AssetLibrary Source)) (fillerUri : String) (fillerDurationMs : Int)
    (source : Source) (sha256 : String → String) (program : ProgramBlock)
    (channelIdInt jipOffsetMs nowUtcMs : Int) : Option Retrovue.Air.Blockplan.BlockPlan := do
  let filled ← (fillAdBlocks library fillerUri fillerDurationMs source
    (expandProgramBlock sha256 program)).toOption
  let plan ← (generateNextBlock channelIdInt filled jipOffsetMs nowUtcMs).toOption
  plan.toProto.toOption

/-- **AIR accepts the segments of a program's block** when it is joined in progress, and otherwise
exactly when the program's breaks fit. -/
theorem handedOver_valid_iff_breaksFit
    (lasts : 0 < program.episodeDurationMs)
    (fits : program.episodeDurationMs ≤ program.slotDurationMs)
    {channelIdInt jipOffsetMs nowUtcMs : Int}
    (inside : 0 < jipOffsetMs → nowUtcMs < program.startUtcMs + program.slotDurationMs)
    {sent : Retrovue.Air.Blockplan.BlockPlan}
    (handed : handOver library fillerUri fillerDurationMs source sha256 program channelIdInt
      jipOffsetMs nowUtcMs = some sent) :
    sent.fed.segmentsValid = true ↔
      (0 < jipOffsetMs ∧ program.startUtcMs < nowUtcMs) ∨ BreaksFit program := by
  obtain ⟨filled, filledBlock, handed⟩ := Option.bind_eq_some_iff.mp handed
  obtain ⟨plan, generated, message⟩ := Option.bind_eq_some_iff.mp handed
  have filledBlock := toOption_eq_some filledBlock
  obtain ⟨starts, ends, -⟩ := filled_lengths filledBlock
  rw [← ends] at inside
  rw [plan_valid_iff lasts fits filledBlock inside (toOption_eq_some generated)
    (toOption_eq_some message), starts]

/-- A 22 minute episode in a half hour. -/
def halfHour (chapterMarkersMs : Option (List Int)) : ProgramBlock where
  assetId := "ep04"
  assetUri := "/media/ep04.mkv"
  startUtcMs := 1800000
  slotDurationMs := 1800000
  episodeDurationMs := 1320000
  chapterMarkersMs := chapterMarkersMs

/-- The half hour handed over to AIR, without an asset library. -/
def handOverHalfHour (chapterMarkersMs : Option (List Int)) (jipOffsetMs nowUtcMs : Int) :
    Option Retrovue.Air.Blockplan.BlockPlan :=
  handOver (none : Option (AssetLibrary Unit)) "/media/filler.mp4" 600000 () (fun text => text)
    (halfHour chapterMarkersMs) 1 jipOffsetMs nowUtcMs

/-- Three computed breaks. -/
theorem computed_breaks_accepted :
    ∃ sent, handOverHalfHour none 0 0 = some sent ∧ sent.fed.segmentsValid = true := by
  obtain ⟨sent, handed⟩ := Option.isSome_iff_exists.mp
    (show (handOverHalfHour none 0 0).isSome = true by decide +kernel)
  refine ⟨sent, handed, ?_⟩
  exact (handedOver_valid_iff_breaksFit (by decide) (by decide) (by decide) handed).mpr
    (.inr (by decide +kernel))

/-- The only chapter marker of an episode is at its end: it is no break, and nothing fills the rest
of the half hour. -/
theorem marker_at_end_rejected :
    0 < (halfHour (some [1320000])).episodeDurationMs ∧
      (halfHour (some [1320000])).episodeDurationMs ≤ (halfHour (some [1320000])).slotDurationMs ∧
      (handOverHalfHour (some [1320000]) 0 0).map (fun sent => sent.fed.segmentsValid) =
        some false := by
  decide +kernel

end Acceptance

end Retrovue.Core.Handoff
