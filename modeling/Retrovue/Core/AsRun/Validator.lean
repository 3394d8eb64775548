/-
**The as-run artifact validator** (`runtime/asrun_artifact_validator.py`): each check of the rows, with
the message of its error. The notes are read by searching them, as the regular expressions do.
-/

import Retrovue.Core.AsRun.Writer

namespace Retrovue.Core.AsRun

open Retrovue.Foundation.FlatJson Retrovue.Foundation.TextSearch
open Retrovue.Air.Evidence (decimal)

/-! ### Reading rows -/

section Reading

/-- A check of an artifact: it raises `AsRunArtifactError` with a message. -/
abbrev Check := Except Text Unit

/-- `TERMINAL_STATUSES`. -/
def terminalStatuses : List Text :=
  ["AIRED".toList, "TRUNCATED".toList, "SHORT".toList, "SKIPPED".toList, "SUBSTITUTED".toList,
   "ERROR".toList]

/-- The row is about a block. -/
def Row.isBlock (row : Row) : Bool := row.type == "BLOCK".toList

/-- The row is about a block's fence. -/
def Row.isFence (row : Row) : Bool := row.status == "FENCE".toList && row.isBlock

/-- The row ends an event. -/
def Row.isTerminal (row : Row) : Bool := terminalStatuses.contains row.status

/-- The row starts a segment of an event. -/
def Row.isSegStart (row : Row) : Bool := row.status == "SEG_START".toList

/-- `events_by_id`: the rows of each event, without those of blocks, by the first of each event. -/
def eventsById (rows : List Row) : List (Text × List Row) :=
  let events := rows.filter fun row => !row.isBlock
  ((events.map Row.eventId).eraseDups).map fun eventId =>
    (eventId, events.filter fun row => row.eventId = eventId)

/-- The number a run of digits shows. -/
def numeral (shown : Text) : Nat := Nat.ofDigitChars 10 shown 0

/-- `re.search(label + r"(\d+)", notes)`. -/
def searchDigits (label : String) (notes : Text) : Option Text :=
  search (labelled label.toList digits) notes

end Reading

/-! ### The checks -/

section Checks

/-- A check that fails with a message. -/
def refuse (message : Text) : Check := .error message

/-- **`validate_single_terminal_event`.** -/
def validateSingleTerminalEvent (rows : List Row) : Check :=
  (eventsById rows).forM fun event =>
    let terminals := event.2.filter Row.isTerminal
    if 1 < terminals.length then
      refuse ("AR-ART-008 violated: EVENT_ID ".toList ++ event.1 ++ " has ".toList ++
        decimal terminals.length ++ " terminal events (must be exactly 1)".toList)
    else if event.2.any Row.isSegStart && terminals.isEmpty then
      refuse ("AR-ART-008 violated: EVENT_ID ".toList ++ event.1 ++
        " has SEG_START but no terminal status".toList)
    else .ok ()

/-- An `AIRED` or `TRUNCATED` row shows frames. -/
def Row.checkFrames (row : Row) : Check :=
  if row.isBlock then .ok ()
  else if row.status ≠ "AIRED".toList ∧ row.status ≠ "TRUNCATED".toList then .ok ()
  else
    match searchDigits "frames=" row.notes with
    | none => .ok ()
    | some frames =>
      if numeral frames = 0 then
        refuse ("AR-ART-008 violated: EVENT_ID ".toList ++ row.eventId ++ " has ".toList ++
          row.status ++ " with frames=0 (zero-frame terminal forbidden)".toList)
      else .ok ()

/-- **`validate_no_zero_frame_terminal`.** -/
def validateNoZeroFrameTerminal (rows : List Row) : Check := rows.forM Row.checkFrames

/-- **`validate_seg_start_requires_terminal`.** -/
def validateSegStartRequiresTerminal (rows : List Row) : Check :=
  (eventsById rows).forM fun event =>
    if event.2.any Row.isSegStart && !event.2.any Row.isTerminal then
      refuse ("SEG_START without terminal: EVENT_ID ".toList ++ event.1 ++ " has ".toList ++
        decimal (event.2.filter Row.isSegStart).length ++
        " SEG_START(s) but no terminal status".toList)
    else .ok ()

/-- The beginning of the messages about a fence. -/
def fenceViolated (row : Row) : Text := "AR-ART-003 violated: FENCE ".toList ++ row.eventId

/-- The two ticks of a fence, as far as they are there. -/
def validateTicks (row : Row) : Option Text → Option Text → Check
  | none, none => .ok ()
  | some _, none => refuse (fenceViolated row ++ ": swap_tick present but fence_tick missing".toList)
  | none, some _ => refuse (fenceViolated row ++ ": fence_tick present but swap_tick missing".toList)
  | some swap, some fence =>
    if numeral swap = 0 then
      refuse (fenceViolated row ++ ": swap_tick (".toList ++ decimal (numeral swap) ++
        ") must be > 0".toList)
    else if numeral fence = 0 then
      refuse (fenceViolated row ++ ": fence_tick (".toList ++ decimal (numeral fence) ++
        ") must be > 0".toList)
    else if numeral swap ≠ numeral fence then
      refuse (fenceViolated row ++ ": swap_tick (".toList ++ decimal (numeral swap) ++
        ") != fence_tick (".toList ++ decimal (numeral fence) ++ ")".toList)
    else .ok ()

/-- The frame budget of a fence. -/
def validateBudget (row : Row) : Check :=
  match searchDigits "frame_budget_remaining=" row.notes with
  | none => refuse (fenceViolated row ++ " missing frame_budget_remaining".toList)
  | some budget =>
    if numeral budget ≠ 0 then
      refuse (fenceViolated row ++ ": frame_budget_remaining (".toList ++
        decimal (numeral budget) ++ ") must be 0".toList)
    else .ok ()

/-- A fence shows equal positive ticks, or none, and no frame budget. -/
def Row.checkTicks (row : Row) : Check :=
  if row.isFence then do
    validateTicks row (searchDigits "swap_tick=" row.notes) (searchDigits "fence_tick=" row.notes)
    validateBudget row
  else .ok ()

/-- **`validate_fence_absolute_ticks`.** -/
def validateFenceAbsoluteTicks (rows : List Row) : Check := rows.forM Row.checkTicks

/-- An `AIRED` row shows its segment index. -/
def Row.checkIndex (row : Row) : Check :=
  if row.status = "AIRED".toList ∧
      search (labelled "segment_index=".toList signedDigits) row.notes = none then
    refuse ("AIRED missing segment_index: EVENT_ID ".toList ++ row.eventId)
  else .ok ()

/-- **`validate_aired_includes_segment_index`.** -/
def validateAiredIncludesSegmentIndex (rows : List Row) : Check := rows.forM Row.checkIndex

/-- A fence shows no tick as zero. -/
def Row.checkNoZeroTicks (row : Row) : Check :=
  if row.isFence then
    if search (labelled "swap_tick=".toList loneZero) row.notes ≠ none then
      refuse ("FENCE contains swap_tick=0: ".toList ++ row.eventId)
    else if search (labelled "fence_tick=".toList loneZero) row.notes ≠ none then
      refuse ("FENCE contains fence_tick=0: ".toList ++ row.eventId)
    else .ok ()
  else .ok ()

/-- **`validate_fence_no_zero_ticks`.** -/
def validateFenceNoZeroTicks (rows : List Row) : Check := rows.forM Row.checkNoZeroTicks

/-- `^(\d{2}):(\d{2}):(\d{2})$`: the minutes and the seconds. -/
def matchTime : Text → Option (Nat × Nat)
  | [h₁, h₂, ':', m₁, m₂, ':', s₁, s₂] =>
    if [h₁, h₂, m₁, m₂, s₁, s₂].all Char.isDigit then some (numeral [m₁, m₂], numeral [s₁, s₂])
    else none
  | _ => none

/-- The time has the format. -/
def Row.checkTime (row : Row) : Check :=
  if row.actual = [] then .ok ()
  else
    match matchTime row.actual with
    | none =>
      refuse ("Invalid ACTUAL time format: '".toList ++ row.actual ++ "' for EVENT_ID ".toList ++
        row.eventId)
    | some (minutes, seconds) =>
      if 59 < minutes ∨ 59 < seconds then
        refuse ("Invalid ACTUAL time: minutes/seconds out of range: '".toList ++ row.actual ++
          "'".toList)
      else .ok ()

/-- **`validate_broadcast_day_time_format`.** -/
def validateBroadcastDayTimeFormat (rows : List Row) : Check := rows.forM Row.checkTime

/-- **The artifact validator**, on rows. -/
def validateRows (rows : List Row) : Check := do
  validateSingleTerminalEvent rows
  validateNoZeroFrameTerminal rows
  validateSegStartRequiresTerminal rows
  validateFenceAbsoluteTicks rows
  validateAiredIncludesSegmentIndex rows
  validateFenceNoZeroTicks rows
  validateBroadcastDayTimeFormat rows

end Checks

end Retrovue.Core.AsRun
