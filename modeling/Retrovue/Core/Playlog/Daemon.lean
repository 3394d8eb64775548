/-
**The playlog horizon daemon** (`runtime/playlog_horizon_daemon.py`).

* `PlaylogDaemon`: a channel's daemon as it is configured; `Tier1`: the channel's compiled days, whose
  blocks tile time;
* `ensureTier2CoversNow`, `extendToTarget`, `purgeExpiredTier2`: the parts of an evaluation;
* `evaluateOnce`: one evaluation, and `playlogStep`: evaluations and restarts of the daemon.

Reads of the database succeed, and a compiled day's blocks read back as they were stored; filling and
writing may fail at every attempt. The counters that only log lines read are left out.
-/

import Mathlib
import Retrovue.Foundation.Tiling
import Retrovue.Core.Playlog.TransmissionLog

namespace Retrovue.Core.Playlog

open Retrovue.Foundation.Tiling

/-! ### A channel and its days -/

section Channel

/-- A `PlaylogHorizonDaemon`, as it is constructed. -/
structure PlaylogDaemon where
  channelId : String
  minHours : Int := 3
  dayStartHour : Int := 6
  fillerPath : String := "/opt/retrovue/assets/filler.mp4"
  fillerDurationMs : Int := 3650000
  /-- The channel's wall clock at a UTC time, both in seconds from 1970. -/
  localTime : Int → Int

/-- `_broadcast_date_for` a UTC time in milliseconds; days count from 1 January of year 1. -/
def PlaylogDaemon.broadcastDate (daemon : PlaylogDaemon) (utcMs : Int) : Int :=
  let wall := daemon.localTime (utcMs / 1000)
  let day := wall / 86400 + 719163
  if wall % 86400 / 3600 < daemon.dayStartHour then day - 1 else day

/-- The compiled program log of a channel: the segmented blocks of each broadcast day, a day without
a row having none. The blocks tile time, a block is known by its id, and no day's blocks start a day
away from where the daemon sees its broadcast day. -/
structure Tier1 (daemon : PlaylogDaemon) where
  days : Int → List ScheduledBlock
  boundary : Int → Int
  tiles : ∀ day, Tiles ScheduledBlock.startUtcMs ScheduledBlock.endUtcMs (days day) (boundary day)
    (boundary (day + 1))
  identified : ∀ day other, ∀ first ∈ days day, ∀ second ∈ days other,
    first.blockId = second.blockId → first = second
  near : ∀ t, boundary (daemon.broadcastDate t - 1) ≤ t ∧ t ≤ boundary (daemon.broadcastDate t + 2)

variable {daemon : PlaylogDaemon} (tier1 : Tier1 daemon)

/-- A block of some day. -/
def Tier1.Has (block : ScheduledBlock) : Prop := ∃ day, block ∈ tier1.days day

/-- `_get_tier1_block_containing`. -/
def Tier1.blockContaining (nowMs : Int) : Option ScheduledBlock :=
  (tier1.days (daemon.broadcastDate nowMs - 1) ++ tier1.days (daemon.broadcastDate nowMs)).find?
    fun block => decide (block.Contains nowMs)

end Channel

/-! ### An evaluation -/

section Evaluation

/-- The daemon's counters and the table. -/
structure PlaylogHorizon where
  log : TransmissionLog
  farthestEndUtcMs : Int
  lastTier2PurgeUtcMs : Int
  lastFillBlockId : Option String
  fillErrors : Nat
  /-- The clock of the last evaluation, by this daemon or by one before a restart. -/
  clockUtcMs : Option Int

/-- A new daemon on an empty table. -/
def PlaylogHorizon.initial : PlaylogHorizon := ⟨.empty, 0, 0, none, 0, none⟩

/-- `if block_end > self._farthest_end_utc_ms`. -/
def PlaylogHorizon.reachTo (horizon : PlaylogHorizon) (endUtcMs : Int) : PlaylogHorizon :=
  { horizon with farthestEndUtcMs := max horizon.farthestEndUtcMs endUtcMs }

/-- What an evaluation meets outside: the attempt to fill and write the current block, the attempts
of the extension by day and block, and the purge. -/
structure EvaluationOutside (Source : Type) where
  backfill : Outside Source
  extension : Int → ScheduledBlock → Outside Source
  purgeFails : Bool := false

variable {Source : Type} {daemon : PlaylogDaemon} (tier1 : Tier1 daemon)

variable (daemon) in
/-- The filled block of an attempt that succeeds. -/
def attempt (outside : Outside Source) (block : ScheduledBlock) : Option ScheduledBlock :=
  if outside.unsaved then none
  else fillAds daemon.fillerPath daemon.fillerDurationMs outside block

variable (daemon) in
/-- One block filled and written, or an error counted. -/
def PlaylogHorizon.fillBlock (horizon : PlaylogHorizon) (broadcastDay : Int)
    (outside : Outside Source) (block : ScheduledBlock) : PlaylogHorizon :=
  match attempt daemon outside block with
  | some filled =>
    { horizon with
      log := horizon.log.merge (daemonRow daemon.channelId broadcastDay filled)
      lastFillBlockId := some block.blockId }.reachTo block.endUtcMs
  | none => { horizon with fillErrors := horizon.fillErrors + 1 }

/-- `_ensure_tier2_covers_now`. -/
def ensureTier2CoversNow (horizon : PlaylogHorizon) (nowMs : Int) (outside : Outside Source) :
    PlaylogHorizon :=
  if horizon.log.covers daemon.channelId nowMs then horizon
  else match tier1.blockContaining nowMs with
  | none => horizon
  | some block =>
    horizon.fillBlock daemon (daemon.broadcastDate block.startUtcMs) outside block

/-- The blocks of a day that the extension tries: past the cursor, up to the first at the target. -/
def candidates (cursorMs targetEndMs : Int) : List ScheduledBlock → List ScheduledBlock
  | [] => []
  | block :: rest =>
    if block.endUtcMs ≤ cursorMs then candidates cursorMs targetEndMs rest
    else if block.startUtcMs ≥ targetEndMs then []
    else block :: candidates cursorMs targetEndMs rest

/-- `range(first, last + 1)` of days. -/
def dayRange (first last : Int) : List Int :=
  (List.range (last + 1 - first).toNat).map fun offset : Nat => first + offset

variable (daemon) in
/-- The days that `_extend_to_target` scans: one more on either side. -/
def scanDays (cursorMs targetEndMs : Int) : List Int :=
  if cursorMs < targetEndMs then
    dayRange (daemon.broadcastDate cursorMs - 1) (daemon.broadcastDate targetEndMs + 1)
  else []

variable (daemon) in
/-- One candidate: present in the table already, or filled and written. -/
def extendBlock (extension : Int → ScheduledBlock → Outside Source) (day : Int)
    (existingIds : List String) (horizon : PlaylogHorizon) (block : ScheduledBlock) :
    PlaylogHorizon :=
  if block.blockId ∈ existingIds then horizon.reachTo block.endUtcMs
  else horizon.fillBlock daemon day (extension day block) block

/-- One day of the scan. -/
def scanDay (cursorMs targetEndMs : Int) (extension : Int → ScheduledBlock → Outside Source)
    (horizon : PlaylogHorizon) (day : Int) : PlaylogHorizon :=
  let blocks := candidates cursorMs targetEndMs (tier1.days day)
  blocks.foldl
    (extendBlock daemon extension day
      (horizon.log.existing (blocks.map ScheduledBlock.blockId))) horizon

/-- `_extend_to_target`. -/
def extendToTarget (horizon : PlaylogHorizon) (nowMs targetMs : Int)
    (extension : Int → ScheduledBlock → Outside Source) : PlaylogHorizon :=
  let cursorMs := max horizon.farthestEndUtcMs nowMs
  (scanDays daemon cursorMs (nowMs + targetMs)).foldl
    (scanDay tier1 cursorMs (nowMs + targetMs) extension) horizon

variable (daemon) in
/-- `_purge_expired_tier2`, at most once an hour. -/
def purgeExpiredTier2 (horizon : PlaylogHorizon) (nowMs : Int) (fails : Bool) : PlaylogHorizon :=
  if nowMs - horizon.lastTier2PurgeUtcMs < 3600000 ∨ fails then horizon
  else
    { horizon with
      log := horizon.log.purge daemon.channelId (nowMs - 4 * 3600000)
      lastTier2PurgeUtcMs := nowMs }

/-- `target_ms`. -/
def PlaylogDaemon.targetMs (daemon : PlaylogDaemon) : Int := daemon.minHours * 3600000

/-- The current block covered and the frontier read, before any extension. -/
def measured (horizon : PlaylogHorizon) (nowMs : Int) (outside : EvaluationOutside Source) :
    PlaylogHorizon :=
  let covered := ensureTier2CoversNow tier1 { horizon with clockUtcMs := some nowMs } nowMs
    outside.backfill
  covered.reachTo (covered.log.frontier daemon.channelId)

/-- `evaluate_once`. -/
def evaluateOnce (horizon : PlaylogHorizon) (nowMs : Int) (outside : EvaluationOutside Source) :
    PlaylogHorizon :=
  let measured := measured tier1 horizon nowMs outside
  if max 0 (measured.farthestEndUtcMs - nowMs) ≥ daemon.targetMs then measured
  else
    purgeExpiredTier2 daemon
      (extendToTarget tier1 measured nowMs daemon.targetMs outside.extension) nowMs
      outside.purgeFails

/-- Evaluations at times from 1970 on, and restarts of the daemon. -/
inductive PlaylogAction (Source : Type)
  | evaluate (nowMs : Int) (outside : EvaluationOutside Source)
  | restart

/-- One evaluation or restart. -/
def playlogStep (horizon : PlaylogHorizon) : PlaylogAction Source → Option PlaylogHorizon
  | .evaluate nowMs outside =>
    if 0 ≤ nowMs then some (evaluateOnce tier1 horizon nowMs outside) else none
  | .restart =>
    some { PlaylogHorizon.initial with
      log := horizon.log, clockUtcMs := horizon.clockUtcMs }

end Evaluation

end Retrovue.Core.Playlog
