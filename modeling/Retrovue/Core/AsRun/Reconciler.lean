/-
**As-run reconciliation** (`asrun_reconciler.py`).

* `reconcileTransmissionLog`: what a plan and an as-run log differ in, as findings; the report;
* `Follows`: a log that follows some plan entries, up to empty asset uris; `Reconciled`: they have
  distinct block ids as well;
* `success_iff`: a clean report means that the log follows the last entry of each block id, and that no
  segment but a recovery has an empty uri;
* `Reconciled.of_copied`: a faithful copy follows its plan;
* `success_iff_reconciled_iff`: exactly when a clean report means that plan and log are reconciled.

The plan is read into a dict, and its keys take an empty uri for none. The keys of the log do not.
-/

import Mathlib
import Retrovue.Foundation.Overlay

namespace Retrovue.Core.AsRun

open Retrovue.Foundation

/-! ### Plans and logs -/

section Logs

/-- A segment of a plan: a dict, as far as it is read. -/
structure PlannedSegment where
  segmentType : Option String := none
  assetUri : Option (Option String) := none
  assetStartOffsetMs : Option (Option ℤ) := none
  segmentDurationMs : Option ℤ := none
  deriving DecidableEq, Repr

/-- A `TransmissionLogEntry`, as far as it is read. -/
structure PlannedEntry where
  blockId : String
  startUtcMs : ℤ
  endUtcMs : ℤ
  segments : List PlannedSegment
  deriving DecidableEq, Repr

/-- `AsRunSegment`. -/
structure AsRunSegment where
  segmentType : String
  assetUri : Option String
  assetStartOffsetMs : Option ℤ
  segmentDurationMs : ℤ
  runtimeRecovery : Bool := false
  runwayDegradation : Bool := false
  deriving DecidableEq, Repr

/-- `AsRunBlock`. -/
structure AsRunBlock where
  blockId : String
  startUtcMs : ℤ
  endUtcMs : ℤ
  segments : List AsRunSegment
  deriving DecidableEq, Repr

/-- The tuple that two segments are compared by. -/
structure SegmentKey where
  segmentType : String
  assetUri : Option String
  assetStartOffsetMs : Option ℤ
  segmentDurationMs : ℤ
  deriving DecidableEq, Repr

/-- A uri, with an empty one as none. -/
def namedUri (uri : Option String) : Option String := uri.filter (· ≠ "")

/-- `_planned_segment_key`. -/
def plannedSegmentKey (seg : PlannedSegment) : SegmentKey where
  segmentType := seg.segmentType.getD ""
  assetUri := namedUri seg.assetUri.join
  assetStartOffsetMs := seg.assetStartOffsetMs.join
  segmentDurationMs := seg.segmentDurationMs.getD 0

/-- `_asrun_segment_key`. -/
def asrunSegmentKey (seg : AsRunSegment) : SegmentKey where
  segmentType := seg.segmentType
  assetUri := seg.assetUri
  assetStartOffsetMs := seg.assetStartOffsetMs
  segmentDurationMs := seg.segmentDurationMs

/-- The segments that are not marked as recovery. -/
def AsRunBlock.nonRecovery (block : AsRunBlock) : List AsRunSegment :=
  block.segments.filter fun seg => !seg.runtimeRecovery

end Logs

/-! ### The report -/

section Report

/-- The tags of a report. -/
inductive Classification
  | missingBlock
  | extraBlock
  | blockTimeMismatch
  | segmentSequenceMismatch
  | phantomSegment
  | runtimeRecovery
  | runwayDegradation
  deriving DecidableEq, Repr

/-- A tag with its error, if it comes with one. -/
structure Finding where
  error : Option String
  tag : Classification
  deriving DecidableEq, Repr

/-- `ReconciliationReport`. -/
structure ReconciliationReport where
  success : Bool
  errors : List String
  classification : List Classification
  deriving DecidableEq, Repr

/-- The report of some findings; a tag is listed once. -/
def report (findings : List Finding) : ReconciliationReport where
  success := (findings.filterMap Finding.error).isEmpty
  errors := findings.filterMap Finding.error
  classification := findings.foldl
    (fun tags finding => if finding.tag ∈ tags then tags else tags ++ [finding.tag]) []

/-- `plan_by_id`: the last entry of each block id. -/
def planById (plan : List PlannedEntry) : List (String × PlannedEntry) :=
  Overlay.overlay (· == ·) [] (plan.map fun entry => (entry.blockId, entry))

/-- `asrun_id_to_blocks`: the blocks of each id, by the first of each. -/
def blocksById (log : List AsRunBlock) : List (String × List AsRunBlock) :=
  ((log.map AsRunBlock.blockId).eraseDups).map fun blockId =>
    (blockId, log.filter fun block => block.blockId == blockId)

/-- `matched`: the planned blocks with a single as-run block. -/
def matched (plan : List (String × PlannedEntry)) (blocks : List (String × List AsRunBlock)) :
    List (PlannedEntry × AsRunBlock) :=
  plan.filterMap fun (blockId, entry) =>
    match (Overlay.get (· == ·) blocks blockId).getD [] with
    | [block] => some (entry, block)
    | _ => none

variable (repr : String → String)

/-- `repr` of a segment key, with the one of texts. -/
def SegmentKey.shown (key : SegmentKey) : String :=
  "(" ++ repr key.segmentType ++ ", " ++ key.assetUri.elim "None" repr ++ ", " ++
    key.assetStartOffsetMs.elim "None" toString ++ ", " ++ toString key.segmentDurationMs ++ ")"

/-- Planned blocks without an as-run block. -/
def missingFindings (plan : List (String × PlannedEntry))
    (blocks : List (String × List AsRunBlock)) : List Finding :=
  plan.filterMap fun (planId, _) =>
    if blocks.any (·.1 == planId) then none
    else some ⟨some ("Missing as-run block for planned block_id=" ++ repr planId), .missingBlock⟩

/-- As-run blocks that are not planned, or not once. -/
def extraFindings (plan : List (String × PlannedEntry))
    (blocks : List (String × List AsRunBlock)) : List Finding :=
  blocks.filterMap fun (blockId, blks) =>
    if !plan.any (·.1 == blockId) then
      some ⟨some ("Extra as-run block not in plan: block_id=" ++ repr blockId), .extraBlock⟩
    else if blks.length > 1 then
      some ⟨some ("Duplicate block_id in as-run: block_id=" ++ repr blockId), .extraBlock⟩
    else none

/-- A time of a block that differs. -/
def timeFinding (blockId field : String) (planned asRun : ℤ) : List Finding :=
  if asRun ≠ planned then
    [⟨some ("Block " ++ repr blockId ++ ": " ++ field ++ " mismatch (planned=" ++ toString planned ++
      ", as_run=" ++ toString asRun ++ ")"), .blockTimeMismatch⟩]
  else []

/-- The times of a matched block. -/
def timingFindings (pair : PlannedEntry × AsRunBlock) : List Finding :=
  timeFinding repr pair.1.blockId "start_utc_ms" pair.1.startUtcMs pair.2.startUtcMs ++
    timeFinding repr pair.1.blockId "end_utc_ms" pair.1.endUtcMs pair.2.endUtcMs

/-- The loop over the as-run segments, with the planned ones from `plan_idx` on. -/
def compareSegments (blockId : String) : ℕ → List SegmentKey → List AsRunSegment → List Finding
  | _, [], [] => []
  | _, left, [] =>
    [⟨some ("Block " ++ repr blockId ++ ": missing " ++ toString left.length ++
      " planned segment(s) in as-run"), .segmentSequenceMismatch⟩]
  | planIdx, [], aseg :: rest =>
    ⟨some ("Block " ++ repr blockId ++ ": phantom segment (segment_type=" ++ repr aseg.segmentType ++
      ", no matching planned segment)"), .phantomSegment⟩ :: compareSegments blockId planIdx [] rest
  | planIdx, plannedKey :: left, aseg :: rest =>
    (if asrunSegmentKey aseg ≠ plannedKey then
      [⟨some ("Block " ++ repr blockId ++ ": segment sequence mismatch at index " ++
        toString planIdx ++ " (planned=" ++ plannedKey.shown repr ++ ", as_run=" ++
        (asrunSegmentKey aseg).shown repr ++ ")"), .segmentSequenceMismatch⟩]
    else []) ++ compareSegments blockId (planIdx + 1) left rest

/-- The segments of a matched block. -/
def segmentFindings (pair : PlannedEntry × AsRunBlock) : List Finding :=
  (if pair.2.segments.any AsRunSegment.runtimeRecovery then [⟨none, .runtimeRecovery⟩] else []) ++
    (if pair.2.segments.any fun seg => seg.runtimeRecovery && seg.runwayDegradation then
      [⟨none, .runwayDegradation⟩] else []) ++
    compareSegments repr pair.1.blockId 0 (pair.1.segments.map plannedSegmentKey) pair.2.nonRecovery

/-- **`reconcile_transmission_log`**, with `repr` of texts. -/
def reconcileTransmissionLog (plan : List PlannedEntry) (log : List AsRunBlock) :
    ReconciliationReport :=
  let byId := planById plan
  let blocks := blocksById log
  report
    (missingFindings repr byId blocks ++ extraFindings repr byId blocks ++
      (matched byId blocks).flatMap (timingFindings repr) ++
      (matched byId blocks).flatMap (segmentFindings repr))

end Report

/-! ### Following a plan -/

section Following

/-- The key of an as-run segment, with an empty uri as none. -/
def normalSegmentKey (seg : AsRunSegment) : SegmentKey :=
  { asrunSegmentKey seg with assetUri := namedUri seg.assetUri }

/-- **A log follows plan entries**: it has one block for each of them and no other, with their times and
their segments but for recoveries. -/
structure Follows (plan : List PlannedEntry) (log : List AsRunBlock) : Prop where
  once : ∀ entry ∈ plan, ∃ block,
    (log.filter fun block => block.blockId == entry.blockId) = [block]
  planned : ∀ block ∈ log, ∃ entry ∈ plan, entry.blockId = block.blockId
  timed : ∀ entry ∈ plan, ∀ block ∈ log, block.blockId = entry.blockId →
    block.startUtcMs = entry.startUtcMs ∧ block.endUtcMs = entry.endUtcMs
  segments : ∀ entry ∈ plan, ∀ block ∈ log, block.blockId = entry.blockId →
    block.nonRecovery.map normalSegmentKey = entry.segments.map plannedSegmentKey

/-- **Plan and log are reconciled**: the plan's block ids are distinct, and the log follows it. -/
def Reconciled (plan : List PlannedEntry) (log : List AsRunBlock) : Prop :=
  (plan.map PlannedEntry.blockId).Nodup ∧ Follows plan log

/-- The last entry of each block id. -/
def lastEntries (plan : List PlannedEntry) : List PlannedEntry := (planById plan).map Prod.snd

/-- No segment but a recovery has an empty uri. -/
def UrisNamed (log : List AsRunBlock) : Prop :=
  ∀ block ∈ log, ∀ seg ∈ block.nonRecovery, seg.assetUri ≠ some ""

/-- A segment as it was planned. -/
def PlannedSegment.copied (seg : PlannedSegment) : AsRunSegment where
  segmentType := seg.segmentType.getD ""
  assetUri := seg.assetUri.join
  assetStartOffsetMs := seg.assetStartOffsetMs.join
  segmentDurationMs := seg.segmentDurationMs.getD 0

/-- A block as it was planned, with recoveries. -/
structure CopiedBlock (entry : PlannedEntry) (block : AsRunBlock) : Prop where
  blockId : block.blockId = entry.blockId
  startUtcMs : block.startUtcMs = entry.startUtcMs
  endUtcMs : block.endUtcMs = entry.endUtcMs
  segments : block.nonRecovery = entry.segments.map PlannedSegment.copied

end Following

/-! ### The dicts -/

section Dicts

theorem sameKeys_beq : Overlay.SameKeys fun a b : String => a == b where
  symm := fun same => beq_iff_eq.mpr (beq_iff_eq.mp same).symm
  trans := fun first second => beq_iff_eq.mpr ((beq_iff_eq.mp first).trans (beq_iff_eq.mp second))

/-- An entry of the dict stands under its own block id. -/
theorem planById_key (plan : List PlannedEntry) :
    ∀ pair ∈ planById plan, pair.1 = pair.2.blockId := by
  refine @Overlay.forall_overlay _ _ _ (fun key (entry : PlannedEntry) => key = entry.blockId) ?_
    _ _ (by simp) ?_
  · intro key other entry same own
    exact (beq_iff_eq.mp same).trans own
  · exact List.forall_mem_map.mpr fun _ _ => rfl

theorem planById_eq (plan : List PlannedEntry) :
    planById plan = (lastEntries plan).map fun entry => (entry.blockId, entry) := by
  rw [lastEntries, List.map_map]
  refine (List.map_id _).symm.trans (List.map_congr_left fun pair mem => ?_)
  exact Prod.ext (planById_key plan pair mem) rfl

/-- **With distinct block ids the dict has the entries of the plan.** -/
theorem mem_lastEntries {plan : List PlannedEntry}
    (distinct : (plan.map PlannedEntry.blockId).Nodup) (entry : PlannedEntry) :
    entry ∈ lastEntries plan ↔ entry ∈ plan := by
  constructor
  · intro mem
    obtain ⟨pair, inside, rfl⟩ := List.mem_map.mp mem
    have planned : ∀ new ∈ plan.map fun entry => (entry.blockId, entry), new.2 ∈ plan :=
      List.forall_mem_map.mpr fun _ mem => mem
    exact @Overlay.forall_overlay _ _ _ (fun _ (entry : PlannedEntry) => entry ∈ plan)
      (fun _ _ _ _ kept => kept) [] _ (by simp) planned pair inside
  · intro mem
    have apart : Overlay.Distinct (fun a b : String => a == b)
        (plan.map fun entry => (entry.blockId, entry)) := by
      refine List.pairwise_map.mpr ((List.pairwise_map.mp distinct).imp fun differ => ?_)
      exact beq_eq_false_iff_ne.mpr differ
    have read : Overlay.get (fun a b : String => a == b) (planById plan) entry.blockId =
        Overlay.get (fun a b : String => a == b) (plan.map fun entry => (entry.blockId, entry))
          entry.blockId := by
      rw [planById, Overlay.get_overlay sameKeys_beq _ _ (by simp),
        Overlay.latest_of_distinct sameKeys_beq apart]
      simp
    have selected := Overlay.filter_of_distinct sameKeys_beq apart entry.blockId
    have own : entry ∈ ((plan.map fun entry => (entry.blockId, entry)).filter
        fun pair => pair.1 == entry.blockId).map Prod.snd :=
      List.mem_map.mpr ⟨(entry.blockId, entry), by simp [mem], rfl⟩
    rw [selected, Option.mem_toList, ← read] at own
    obtain ⟨pair, found, same⟩ := Option.map_eq_some_iff.mp own
    exact List.mem_map.mpr ⟨pair, List.mem_of_find?_eq_some found, same⟩

/-- A check of the blocks of each id is one of each block with those of its id. -/
theorem forall_blocksById {holds : String → List AsRunBlock → Prop} (log : List AsRunBlock) :
    (∀ pair ∈ blocksById log, holds pair.1 pair.2) ↔
      ∀ block ∈ log, holds block.blockId (log.filter fun other => other.blockId == block.blockId) := by
  simp [blocksById]

theorem any_blocksById (log : List AsRunBlock) (blockId : String) :
    ((blocksById log).any fun pair => pair.1 == blockId) = true ↔
      ∃ block ∈ log, block.blockId = blockId := by
  simp [blocksById]

/-- The as-run blocks of an id, or none. -/
theorem get_blocksById (log : List AsRunBlock) (blockId : String) :
    (Overlay.get (fun a b : String => a == b) (blocksById log) blockId).getD [] =
      log.filter fun block => block.blockId == blockId := by
  show (((blocksById log).find? fun pair => pair.1 == blockId).map Prod.snd).getD [] = _
  rcases found : (blocksById log).find? fun pair => pair.1 == blockId with _ | pair
  · rw [found]
    refine (List.filter_eq_nil_iff.mpr fun block mem same => ?_).symm
    have absent := (any_blocksById log blockId).mpr ⟨block, mem, beq_iff_eq.mp same⟩
    obtain ⟨pair, inside, here⟩ := List.any_eq_true.mp absent
    exact List.find?_eq_none.mp found pair inside here
  · rw [found]
    obtain ⟨other, -, rfl⟩ := List.mem_map.mp (List.mem_of_find?_eq_some found)
    have same := List.find?_some found
    rw [beq_iff_eq] at same
    rw [← same]
    rfl

/-- A planned block is matched when it has a single as-run block. -/
theorem mem_matched (plan : List PlannedEntry) (log : List AsRunBlock) (entry : PlannedEntry)
    (block : AsRunBlock) :
    (entry, block) ∈ matched (planById plan) (blocksById log) ↔
      entry ∈ lastEntries plan ∧
        (log.filter fun other => other.blockId == entry.blockId) = [block] := by
  rw [planById_eq, matched, List.filterMap_map, List.mem_filterMap]
  simp only [Function.comp_def, get_blocksById]
  constructor
  · rintro ⟨other, mem, single⟩
    split at single
    · next only alone =>
      obtain ⟨rfl, rfl⟩ := Prod.mk.inj (Option.some.inj single)
      exact ⟨mem, alone⟩
    · cases single
  · rintro ⟨mem, alone⟩
    exact ⟨entry, mem, by rw [alone]⟩

end Dicts

/-! ### Reports without errors -/

section Clean

variable (repr : String → String)

/-- Findings without an error. -/
def Clean (findings : List Finding) : Prop := ∀ finding ∈ findings, finding.error = none

theorem clean_append (first second : List Finding) :
    Clean (first ++ second) ↔ Clean first ∧ Clean second := List.forall_mem_append

theorem clean_flatMap {α : Type} (items : List α) (find : α → List Finding) :
    Clean (items.flatMap find) ↔ ∀ item ∈ items, Clean (find item) := by
  simp only [Clean, List.mem_flatMap]
  exact ⟨fun clean item mem finding inside => clean finding ⟨item, mem, inside⟩,
    fun clean finding ⟨item, mem, inside⟩ => clean item mem finding inside⟩

/-- A report is a success when its findings have no error. -/
theorem report_success (findings : List Finding) :
    (report findings).success = true ↔ Clean findings := by
  simp [report, Clean]

theorem missing_clean (plan log : List _) :
    Clean (missingFindings repr (planById plan) (blocksById log)) ↔
      ∀ entry ∈ lastEntries plan, ∃ block ∈ log, block.blockId = entry.blockId := by
  unfold missingFindings
  rw [planById_eq]
  simp only [Clean, List.mem_filterMap, List.mem_map, Prod.exists]
  constructor
  · intro clean entry mem
    by_contra absent
    rw [← any_blocksById] at absent
    have error := clean _ ⟨entry.blockId, entry, ⟨entry, mem, rfl⟩, if_neg absent⟩
    cases error
  · rintro present finding ⟨planId, entry, ⟨entry', mem, same⟩, missing⟩
    obtain ⟨rfl, rfl⟩ := Prod.mk.inj same
    rw [if_pos ((any_blocksById log _).mpr (present entry' mem))] at missing
    cases missing

theorem extra_clean (plan : List PlannedEntry) (log : List AsRunBlock) :
    Clean (extraFindings repr (planById plan) (blocksById log)) ↔
      ∀ block ∈ log, (∃ entry ∈ lastEntries plan, entry.blockId = block.blockId) ∧
        (log.filter fun other => other.blockId == block.blockId).length ≤ 1 := by
  rw [← @forall_blocksById (fun blockId blocks =>
    (∃ entry ∈ lastEntries plan, entry.blockId = blockId) ∧ blocks.length ≤ 1) log]
  have known (blockId : String) : ((planById plan).any fun pair => pair.1 == blockId) = true ↔
      ∃ entry ∈ lastEntries plan, entry.blockId = blockId := by
    rw [planById_eq]
    simp
  unfold extraFindings Clean
  simp only [List.mem_filterMap]
  constructor
  · intro clean pair mem
    constructor
    · by_contra unknown
      rw [← known, Bool.not_eq_true] at unknown
      have error := clean _ ⟨pair, mem, if_pos (by rw [unknown]; rfl)⟩
      cases error
    · by_contra many
      by_cases listed : ((planById plan).any fun other => other.1 == pair.1) = true
      · have error := clean _ ⟨pair, mem, (if_neg (by rw [listed]; simp)).trans
          (if_pos (not_le.mp many))⟩
        cases error
      · rw [Bool.not_eq_true] at listed
        have error := clean _ ⟨pair, mem, if_pos (by rw [listed]; rfl)⟩
        cases error
  · rintro single finding ⟨pair, mem, extra⟩
    obtain ⟨listed, few⟩ := single pair mem
    rw [if_neg (by rw [(known pair.1).mpr listed]; simp), if_neg (not_lt.mpr few)] at extra
    cases extra

theorem time_clean (blockId field : String) (planned asRun : ℤ) :
    Clean (timeFinding repr blockId field planned asRun) ↔ asRun = planned := by
  unfold timeFinding Clean
  split_ifs with differ
  · simpa using differ
  · simpa using differ

theorem timing_clean (pair : PlannedEntry × AsRunBlock) :
    Clean (timingFindings repr pair) ↔
      pair.2.startUtcMs = pair.1.startUtcMs ∧ pair.2.endUtcMs = pair.1.endUtcMs := by
  rw [timingFindings, clean_append, time_clean, time_clean]

/-- **The loop over the segments finds no error when they are the planned ones, in order.** -/
theorem compare_clean (blockId : String) (asegs : List AsRunSegment) :
    ∀ (planIdx : ℕ) (left : List SegmentKey),
      Clean (compareSegments repr blockId planIdx left asegs) ↔ asegs.map asrunSegmentKey = left := by
  induction asegs with
  | nil =>
    intro planIdx left
    cases left <;> simp [compareSegments, Clean]
  | cons aseg rest ih =>
    intro planIdx left
    cases left with
    | nil => simp [compareSegments, Clean]
    | cons plannedKey left =>
      rw [compareSegments, clean_append, ih, List.map_cons, List.cons.injEq]
      refine and_congr_left' ?_
      split_ifs with differ
      · simpa [Clean] using differ
      · simpa [Clean] using differ

theorem segments_clean (pair : PlannedEntry × AsRunBlock) :
    Clean (segmentFindings repr pair) ↔
      pair.2.nonRecovery.map asrunSegmentKey = pair.1.segments.map plannedSegmentKey := by
  rw [segmentFindings, clean_append, clean_append, compare_clean]
  refine and_iff_right ⟨?_, ?_⟩ <;> split_ifs <;> simp [Clean]

end Clean

/-! ### What a clean report means -/

section Success

variable (repr : String → String)

/-- The key of a segment whose uri is not empty. -/
theorem normalSegmentKey_of_named {seg : AsRunSegment} (named : seg.assetUri ≠ some "") :
    normalSegmentKey seg = asrunSegmentKey seg := by
  have kept : namedUri seg.assetUri = seg.assetUri := by
    cases uri : seg.assetUri with
    | none => rfl
    | some text => simpa [namedUri, uri] using named
  rw [normalSegmentKey, kept]
  rfl

/-- A key that was planned has no empty uri. -/
theorem named_of_planned {seg : AsRunSegment} {planned : PlannedSegment}
    (same : asrunSegmentKey seg = plannedSegmentKey planned) : seg.assetUri ≠ some "" := by
  have uri : seg.assetUri = namedUri planned.assetUri.join := congrArg SegmentKey.assetUri same
  rw [uri]
  intro empty
  exact absurd (Option.filter_eq_some_iff.mp empty).2 (by simp)

/-- Segments have the planned keys when they have them up to empty uris, and none is empty. -/
theorem map_asrunSegmentKey_iff (kept : List AsRunSegment) (planned : List PlannedSegment) :
    kept.map asrunSegmentKey = planned.map plannedSegmentKey ↔
      kept.map normalSegmentKey = planned.map plannedSegmentKey ∧
        ∀ seg ∈ kept, seg.assetUri ≠ some "" := by
  constructor
  · intro same
    have named : ∀ seg ∈ kept, seg.assetUri ≠ some "" := by
      intro seg mem
      have key : asrunSegmentKey seg ∈ planned.map plannedSegmentKey :=
        same ▸ List.mem_map_of_mem mem
      obtain ⟨other, -, equal⟩ := List.mem_map.mp key
      exact named_of_planned equal.symm
    refine ⟨(List.map_congr_left fun seg mem => ?_).trans same, named⟩
    exact normalSegmentKey_of_named (named seg mem)
  · rintro ⟨same, named⟩
    rw [← same]
    exact (List.map_congr_left fun seg mem => normalSegmentKey_of_named (named seg mem)).symm

/-- The single block of an id. -/
theorem eq_of_single {log : List AsRunBlock} {block single : AsRunBlock} {blockId : String}
    (alone : (log.filter fun other => other.blockId == blockId) = [single]) (mem : block ∈ log)
    (here : block.blockId = blockId) : block = single := by
  have inside : block ∈ log.filter fun other => other.blockId == blockId :=
    List.mem_filter.mpr ⟨mem, beq_iff_eq.mpr here⟩
  rw [alone] at inside
  exact List.mem_singleton.mp inside

/-- **A clean report** means that the log follows the last entry of each block id, and that its segments
but for recoveries have no empty uri. -/
theorem success_iff (plan : List PlannedEntry) (log : List AsRunBlock) :
    (reconcileTransmissionLog repr plan log).success = true ↔
      Follows (lastEntries plan) log ∧ UrisNamed log := by
  unfold reconcileTransmissionLog
  rw [report_success, clean_append, clean_append, clean_append, missing_clean, extra_clean,
    clean_flatMap, clean_flatMap, Prod.forall, Prod.forall]
  simp only [timing_clean, segments_clean, mem_matched, map_asrunSegmentKey_iff, and_imp]
  constructor
  · rintro ⟨⟨⟨missing, extra⟩, timing⟩, segments⟩
    have once : ∀ entry ∈ lastEntries plan, ∃ block,
        (log.filter fun block => block.blockId == entry.blockId) = [block] := by
      intro entry mem
      obtain ⟨block, inside, here⟩ := missing entry mem
      have few := (extra block inside).2
      rw [here] at few
      have some_ : block ∈ log.filter fun other => other.blockId == entry.blockId :=
        List.mem_filter.mpr ⟨inside, beq_iff_eq.mpr here⟩
      exact List.length_eq_one_iff.mp (le_antisymm few (List.length_pos_of_mem some_))
    have each {holds : PlannedEntry → AsRunBlock → Prop}
        (alone : ∀ entry block, entry ∈ lastEntries plan →
          (log.filter fun other => other.blockId == entry.blockId) = [block] → holds entry block) :
        ∀ entry ∈ lastEntries plan, ∀ block ∈ log, block.blockId = entry.blockId →
          holds entry block := by
      intro entry mem block inside here
      obtain ⟨single, only⟩ := once entry mem
      obtain rfl := eq_of_single only inside here
      exact alone entry block mem only
    refine ⟨⟨once, fun block inside => (extra block inside).1, each timing,
      each fun entry block mem only => (segments entry block mem only).1⟩, fun block inside => ?_⟩
    obtain ⟨entry, mem, here⟩ := (extra block inside).1
    exact each (fun entry block mem only => (segments entry block mem only).2) entry mem block inside
      here.symm
  · rintro ⟨follows, named⟩
    have single {entry : PlannedEntry} {block : AsRunBlock}
        (only : (log.filter fun other => other.blockId == entry.blockId) = [block]) :
        block ∈ log ∧ block.blockId = entry.blockId := by
      have inside : block ∈ log.filter fun other => other.blockId == entry.blockId :=
        only ▸ List.mem_singleton_self block
      exact ⟨(List.mem_filter.mp inside).1, beq_iff_eq.mp (List.mem_filter.mp inside).2⟩
    refine ⟨⟨⟨fun entry mem => ?_, fun block inside => ?_⟩, fun entry block mem only => ?_⟩,
      fun entry block mem only => ?_⟩
    · obtain ⟨block, only⟩ := follows.once entry mem
      exact ⟨block, single only⟩
    · obtain ⟨entry, mem, here⟩ := follows.planned block inside
      obtain ⟨other, only⟩ := follows.once entry mem
      refine ⟨⟨entry, mem, here⟩, ?_⟩
      rw [← here, only]
      exact le_rfl
    · exact follows.timed entry mem block (single only).1 (single only).2
    · exact ⟨follows.segments entry mem block (single only).1 (single only).2,
        named block (single only).1⟩

/-- Following depends on which entries there are. -/
theorem Follows.congr {first second : List PlannedEntry} {log : List AsRunBlock}
    (same : ∀ entry, entry ∈ first ↔ entry ∈ second) : Follows first log ↔ Follows second log := by
  suffices half : ∀ {first second : List PlannedEntry},
      (∀ entry, entry ∈ first ↔ entry ∈ second) → Follows first log → Follows second log from
    ⟨half same, half fun entry => (same entry).symm⟩
  intro first second same follows
  refine ⟨fun entry mem => follows.once entry ((same entry).mpr mem), fun block inside => ?_,
    fun entry mem => follows.timed entry ((same entry).mpr mem),
    fun entry mem => follows.segments entry ((same entry).mpr mem)⟩
  obtain ⟨entry, mem, here⟩ := follows.planned block inside
  exact ⟨entry, (same entry).mp mem, here⟩

/-- **What a clean report is worth**: it means that plan and log are reconciled exactly when, for a log
that follows the last entry of each block id, the plan's block ids are distinct just when no segment but
a recovery has an empty uri. -/
theorem success_iff_reconciled_iff (plan : List PlannedEntry) (log : List AsRunBlock) :
    ((reconcileTransmissionLog repr plan log).success = true ↔ Reconciled plan log) ↔
      (Follows (lastEntries plan) log →
        ((plan.map PlannedEntry.blockId).Nodup ↔ UrisNamed log)) := by
  have reconciled : Reconciled plan log ↔
      (plan.map PlannedEntry.blockId).Nodup ∧ Follows (lastEntries plan) log :=
    and_congr_right fun distinct => Follows.congr fun entry => (mem_lastEntries distinct entry).symm
  rw [success_iff, reconciled]
  tauto

/-- With distinct ids a block is the single one of its id. -/
theorem filter_single {log : List AsRunBlock} (distinct : (log.map AsRunBlock.blockId).Nodup)
    {block : AsRunBlock} (mem : block ∈ log) :
    (log.filter fun other => other.blockId == block.blockId) = [block] := by
  induction log with
  | nil => cases mem
  | cons first rest ih =>
    obtain ⟨apart, later⟩ := List.nodup_cons.mp distinct
    rcases List.mem_cons.mp mem with rfl | inside
    · rw [List.filter_cons_of_pos (by simp), List.filter_eq_nil_iff.mpr]
      intro other among same
      exact apart (beq_iff_eq.mp same ▸ List.mem_map_of_mem among)
    · rw [List.filter_cons_of_neg, ih later inside]
      intro same
      exact apart (beq_iff_eq.mp same ▸ List.mem_map_of_mem inside)

/-- **A faithful copy follows its plan**, with recoveries anywhere. -/
theorem Reconciled.of_copied {plan : List PlannedEntry} {log : List AsRunBlock}
    (distinct : (plan.map PlannedEntry.blockId).Nodup) (copied : List.Forall₂ CopiedBlock plan log) :
    Reconciled plan log := by
  have ids : log.map AsRunBlock.blockId = plan.map PlannedEntry.blockId := by
    clear distinct
    induction copied with
    | nil => rfl
    | cons copy _ ih => rw [List.map_cons, List.map_cons, copy.blockId, ih]
  have distinctLog : (log.map AsRunBlock.blockId).Nodup := ids ▸ distinct
  have copyOf : ∀ entry ∈ plan, ∃ block ∈ log, CopiedBlock entry block := by
    intro entry mem
    obtain ⟨i, bound, rfl⟩ := List.getElem_of_mem mem
    have bound' : i < log.length := copied.length_eq ▸ bound
    exact ⟨log[i], List.getElem_mem bound', copied.get bound bound'⟩
  have single {entry : PlannedEntry} (mem : entry ∈ plan) {block : AsRunBlock} (inside : block ∈ log)
      (here : block.blockId = entry.blockId) : CopiedBlock entry block := by
    obtain ⟨other, among, copy⟩ := copyOf entry mem
    have alone := filter_single distinctLog among
    rw [copy.blockId] at alone
    exact eq_of_single alone inside here ▸ copy
  refine ⟨distinct, fun entry mem => ?_, fun block inside => ?_, fun entry mem block inside here => ?_,
    fun entry mem block inside here => ?_⟩
  · obtain ⟨block, inside, copy⟩ := copyOf entry mem
    exact ⟨block, copy.blockId ▸ filter_single distinctLog inside⟩
  · have id_ : block.blockId ∈ plan.map PlannedEntry.blockId := ids ▸ List.mem_map_of_mem inside
    exact List.mem_map.mp id_
  · have copy := single mem inside here
    exact ⟨copy.startUtcMs, copy.endUtcMs⟩
  · rw [(single mem inside here).segments, List.map_map]
    rfl

/-- A planned break that is filled late. -/
def unfilledBreak : PlannedSegment where
  segmentType := some "filler"
  assetUri := some (some "")
  assetStartOffsetMs := some (some 0)
  segmentDurationMs := some 120000

/-- **A faithful copy that is reported**: plan and log are reconciled, but the log's empty uri is not
taken for none as the plan's is. -/
theorem copied_break_is_mismatch :
    reconcileTransmissionLog (fun text => "'" ++ text ++ "'")
        [⟨"B1", 0, 120000, [unfilledBreak]⟩] [⟨"B1", 0, 120000, [unfilledBreak.copied]⟩] =
      { success := false
        errors := ["Block 'B1': segment sequence mismatch at index 0 (planned=('filler', None, 0, " ++
          "120000), as_run=('filler', '', 0, 120000))"]
        classification := [.segmentSequenceMismatch] } ∧
      Reconciled [⟨"B1", 0, 120000, [unfilledBreak]⟩] [⟨"B1", 0, 120000, [unfilledBreak.copied]⟩] := by
  refine ⟨by decide, Reconciled.of_copied (by simp) ?_⟩
  exact .cons ⟨rfl, rfl, rfl, rfl⟩ .nil

end Success

end Retrovue.Core.AsRun
