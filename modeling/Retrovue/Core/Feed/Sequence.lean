/-
**What AIR's queue receives: each block once, in order, end to start.**

* `Tiles`: the schedule service tiles time;
* `FedInOrder`: block ids distinct, ascending and contiguous;
* `LedgerStep`, `step_ledger`: the protocol on cursor, pending slot and queue alone, and every step
  of the two parties is one of its steps;
* `Sequenced.step`, `sequenced_run`, `appended_fedInOrder`: the sequence is right after every run
  in which no feed that AIR applies is reported to Core as an error;
* `unacknowledged_feed_duplicates`: one such report and the block is appended a second time.
-/

import Retrovue.Foundation.Transition
import Retrovue.Core.Feed.Frame

namespace Retrovue.Core.Feed

open Retrovue.Foundation.Transition

/-! ### Tilings and fed sequences -/

section Sequences

/-- **The schedule service tiles time**: every time has a block around it, consecutive blocks meet
and an id names one block. -/
structure Tiles (schedule : ScheduleService) : Prop where
  covers : ∀ t, ∃ block, schedule t = some block ∧ block.startUtcMs ≤ t ∧ t < block.endUtcMs
  meet : ∀ {t block next}, schedule t = some block → schedule block.endUtcMs = some next →
    next.startUtcMs = block.endUtcMs
  distinct : ∀ {t u block other}, schedule t = some block → schedule u = some other →
    block.blockId = other.blockId → block = other

/-- **Each block id at most once, in order, and each block starts at the end of the one before.** -/
structure FedInOrder (appended : List BlockPlan) : Prop where
  once : (appended.map BlockPlan.blockId).Nodup
  ordered : appended.Pairwise fun earlier later => earlier.endUtcMs ≤ later.startUtcMs
  contiguous : appended.IsChain fun previous next => next.startUtcMs = previous.endUtcMs

/-- A block of the schedule, possibly joined in progress: its id and its end are the schedule's. -/
def Scheduled (schedule : ScheduleService) (block : BlockPlan) : Prop :=
  ∃ t scheduled, schedule t = some scheduled ∧ scheduled.blockId = block.blockId ∧
    scheduled.endUtcMs = block.endUtcMs

/-- A fed sequence that ends at `cursor`. -/
structure FedUpTo (schedule : ScheduleService) (appended : List BlockPlan) (cursor : Int) :
    Prop where
  inOrder : FedInOrder appended
  scheduled : ∀ block ∈ appended, Scheduled schedule block
  ends : appended.getLast?.map BlockPlan.endUtcMs = some cursor
  before : ∀ block ∈ appended, block.endUtcMs ≤ cursor

@[simp] theorem generateNextBlock_plain (scheduled : ScheduledBlock) :
    generateNextBlock scheduled 0 0 =
      ⟨scheduled.blockId, scheduled.startUtcMs, scheduled.endUtcMs⟩ := by
  simp [generateNextBlock]

@[simp] theorem generateNextBlock_endUtcMs (scheduled : ScheduledBlock) (jip now : Int) :
    (generateNextBlock scheduled jip now).endUtcMs = scheduled.endUtcMs := rfl

variable {schedule : ScheduleService}

theorem Tiles.positive (tiles : Tiles schedule) {t : Int} {block : ScheduledBlock}
    (here : schedule t = some block) : block.startUtcMs ≤ t ∧ t < block.endUtcMs := by
  obtain ⟨covering, found, around⟩ := tiles.covers t
  rw [here] at found
  cases found
  exact around

/-- The first block of a session alone. -/
theorem fedUpTo_single {t : Int} {scheduled : ScheduledBlock} (here : schedule t = some scheduled)
    (jip now : Int) :
    FedUpTo schedule [generateNextBlock scheduled jip now] scheduled.endUtcMs where
  inOrder := ⟨by simp, by simp, by simp⟩
  scheduled block member := by
    cases List.mem_singleton.mp member
    exact ⟨t, scheduled, here, rfl, rfl⟩
  ends := rfl
  before block member := by
    cases List.mem_singleton.mp member
    exact le_rfl

/-- The block that the schedule holds at the cursor starts there. -/
theorem FedUpTo.next_start (tiles : Tiles schedule) {appended : List BlockPlan} {cursor : Int}
    (fed : FedUpTo schedule appended cursor) {next : ScheduledBlock}
    (found : schedule cursor = some next) : next.startUtcMs = cursor := by
  cases final : appended.getLast? with
  | none =>
    have ends := fed.ends
    rw [final] at ends
    cases ends
  | some last =>
    have ends := fed.ends
    rw [final] at ends
    cases ends
    obtain ⟨t, scheduled, here, _, sameEnd⟩ := fed.scheduled last (List.mem_of_getLast? final)
    rw [← sameEnd] at found ⊢
    exact tiles.meet here found

/-- **Appending the schedule's block at the cursor keeps the sequence.** -/
theorem FedUpTo.append (tiles : Tiles schedule) {appended : List BlockPlan} {cursor : Int}
    (fed : FedUpTo schedule appended cursor) {next : ScheduledBlock}
    (found : schedule cursor = some next) :
    FedUpTo schedule (appended ++ [generateNextBlock next 0 0]) next.endUtcMs := by
  have starts : next.startUtcMs = cursor := fed.next_start tiles found
  have longer : cursor < next.endUtcMs := (tiles.positive found).2
  have fresh : ∀ block ∈ appended, block.blockId ≠ next.blockId := by
    intro block member same
    obtain ⟨t, scheduled, here, sameId, sameEnd⟩ := fed.scheduled block member
    have equal := tiles.distinct here found (sameId.trans same)
    have atMost := fed.before block member
    rw [← sameEnd, equal] at atMost
    omega
  refine ⟨⟨?_, ?_, ?_⟩, ?_, ?_, ?_⟩
  · rw [List.map_append, List.nodup_append]
    refine ⟨fed.inOrder.once, by simp, ?_⟩
    intro id member other single
    obtain ⟨block, blockMember, rfl⟩ := List.mem_map.mp member
    simp only [generateNextBlock_plain, List.map_cons, List.map_nil, List.mem_singleton] at single
    rw [single]
    exact fresh block blockMember
  · rw [List.pairwise_append]
    refine ⟨fed.inOrder.ordered, by simp, ?_⟩
    intro block member other single
    cases List.mem_singleton.mp single
    rw [generateNextBlock_plain, starts]
    exact fed.before block member
  · rw [List.isChain_append]
    refine ⟨fed.inOrder.contiguous, by simp, ?_⟩
    intro last final other single
    cases single
    have ends := fed.ends
    rw [Option.mem_def] at final
    rw [final] at ends
    cases ends
    rw [generateNextBlock_plain, starts]
  · intro block member
    rcases List.mem_append.mp member with member | single
    · exact fed.scheduled block member
    · cases List.mem_singleton.mp single
      exact ⟨cursor, next, found, rfl, rfl⟩
  · simp
  · intro block member
    rcases List.mem_append.mp member with member | single
    · exact (fed.before block member).trans longer.le
    · cases List.mem_singleton.mp single
      exact le_rfl

end Sequences

/-! ### The feed ledger: what the protocol does to cursor, pending slot and queue -/

section Ledger

/-- The part of the two parties that decides which block is appended next. -/
structure Ledger where
  alive : Bool
  cursor : Int
  pending : Option BlockPlan
  appended : List BlockPlan

/-- The ledger of a state. -/
def World.ledger (w : World) : Ledger :=
  ⟨w.producer.session.isSome, w.producer.nextBlockStartMs, w.producer.pendingBlock,
    w.air.appended⟩

/-- The block that a feed tries. -/
def Ledger.candidate (schedule : ScheduleService) (ledger : Ledger) : Option BlockPlan :=
  match ledger.pending with
  | some block => some block
  | none => (schedule ledger.cursor).map fun scheduled => generateNextBlock scheduled 0 0

/-- **The feed protocol on the ledger.** `lost` says that the step's feed reached AIR and its reply
did not come back. -/
inductive LedgerStep (schedule : ScheduleService) (lost : Prop) : Ledger → Ledger → Prop
  | quiet (ledger : Ledger) : LedgerStep schedule lost ledger ledger
  | stopped (ledger : Ledger) (cursor : Int) (pending : Option BlockPlan) :
      LedgerStep schedule lost ledger ⟨false, cursor, pending, ledger.appended⟩
  | accepted (ledger : Ledger) (block : BlockPlan) :
      ledger.alive = true → ledger.candidate schedule = some block →
      LedgerStep schedule lost ledger
        ⟨ledger.alive, block.endUtcMs, none, ledger.appended ++ [block]⟩
  | refused (ledger : Ledger) (block : BlockPlan) :
      ledger.alive = true → ledger.candidate schedule = some block →
      LedgerStep schedule lost ledger { ledger with pending := some block }
  | unacknowledged (ledger : Ledger) (block : BlockPlan) :
      lost → ledger.candidate schedule = some block →
      LedgerStep schedule lost ledger
        { ledger with pending := some block, appended := ledger.appended ++ [block] }

/-- AIR appends a block that Core sends in this state. -/
def World.appends (w : World) : Bool :=
  match w.producer.session with
  | none => false
  | some session => session.appends w.air

/-- A feed that AIR applies and whose reply is lost: the RPC error comes after the append. -/
def Unacknowledged (w : World) (action : Action) : Prop :=
  match action with
  | .feed _ .replyLost => w.appends = true
  | _ => False

instance unacknowledgedDecidable (w : World) (action : Action) :
    Decidable (Unacknowledged w action) := by
  unfold Unacknowledged
  split <;> infer_instance

/-- Two producers agree on session, cursor and pending slot. -/
structure SameCursor (p q : Producer) : Prop where
  session : q.session = p.session
  cursor : q.nextBlockStartMs = p.nextBlockStartMs
  pending : q.pendingBlock = p.pendingBlock

theorem SameControl.sameCursor {p q : Producer} (same : SameControl p q) : SameCursor p q :=
  ⟨same.session, same.cursor, same.pending⟩

namespace SameCursor

variable (settings : Settings) (p : Producer)

theorem refl : SameCursor p p := ⟨rfl, rfl, rfl⟩

theorem trans {p q r : Producer} (first : SameCursor p q) (second : SameCursor q r) :
    SameCursor p r :=
  ⟨second.session.trans first.session, second.cursor.trans first.cursor,
    second.pending.trans first.pending⟩

theorem onBlockStarted (now : Int) : SameCursor p (p.onBlockStarted settings now).1 := by
  unfold Producer.onBlockStarted
  split
  · exact refl p
  · have credited : SameCursor p (p.markBlockStartedSupported.grantCredit settings) :=
      ⟨rfl, rfl, rfl⟩
    exact credited.trans
      ((SameControl.enterRunning _).trans (.feedAhead settings _ now)).sameCursor

theorem grantFallbackCredit : SameCursor p (p.grantFallbackCredit settings) := by
  unfold Producer.grantFallbackCredit
  split
  · exact refl p
  · exact ⟨rfl, rfl, rfl⟩

theorem onBlockComplete (blockId : String) (now : Int) :
    SameCursor p (p.onBlockComplete settings blockId now).1 := by
  unfold Producer.onBlockComplete
  split
  · exact refl p
  · split
    · exact refl p
    · split
      · exact refl p
      · split
        · exact refl p
        · have completed : SameCursor p (p.recordCompleted blockId) := ⟨rfl, rfl, rfl⟩
          have running := completed.trans (SameControl.enterRunning _).sameCursor
          exact (running.trans (grantFallbackCredit settings _)).trans
            ((SameControl.clearFeedErrors _).trans (.feedAhead settings _ now)).sameCursor

end SameCursor

variable {schedule : ScheduleService} {settings : Settings} {lost : Prop}

/-- A callback that keeps session, cursor and pending slot is quiet. -/
theorem ledgerStep_callback {w next : World} {result : Producer × Option Producer.FeedLoop}
    (same : SameCursor w.producer result.1) (taken : w.callback result = some next) :
    LedgerStep schedule lost w.ledger next.ledger := by
  unfold World.callback at taken
  split at taken
  · cases taken
  · cases taken
    have equal : World.ledger { w with producer := result.1, feeding := result.2 } = w.ledger := by
      simp only [World.ledger, same.session, same.cursor, same.pending]
    rw [equal]
    exact .quiet _

/-- **One loop iteration on the ledger.** -/
theorem ledgerStep_iterated {clock : Int} {delivery : Delivery} {loop : Producer.FeedLoop}
    {w next : World} (iterated : World.Iterated schedule clock delivery loop w next) :
    LedgerStep schedule (delivery = .replyLost ∧ w.appends = true) w.ledger next.ledger := by
  cases iterated with
  | idle => exact .quiet _
  | unsent block _ =>
    have noted := SameControl.recordMiss w.producer loop.nowUtcMs clock block
    have equal : World.ledger { w.noteMiss loop.nowUtcMs clock block with feeding := none } =
        w.ledger := by
      simp only [World.ledger, World.noteMiss, noted.session, noted.cursor, noted.pending]
    rw [equal]
    exact .quiet _
  | accepted block live found _ =>
    have noted := SameControl.recordMiss w.producer loop.nowUtcMs clock block
    have goal : LedgerStep schedule (delivery = .replyLost ∧ w.appends = true) w.ledger _ :=
      .accepted w.ledger block live found
    simpa [World.ledger, World.continueLoop, Producer.recordFeedResult, Producer.advanceCursor,
      Producer.recordDelivered, Air.push, noted.session] using goal
  | queueFull block live found _ =>
    have noted := SameControl.recordMiss w.producer loop.nowUtcMs clock block
    have goal : LedgerStep schedule (delivery = .replyLost ∧ w.appends = true) w.ledger _ :=
      .refused w.ledger block live found
    simpa [World.ledger, Producer.recordFeedResult, noted.session, noted.cursor] using goal
  | error block live found =>
    have noted := SameControl.recordMiss w.producer loop.nowUtcMs clock block
    have goal : LedgerStep schedule (delivery = .replyLost ∧ w.appends = true) w.ledger _ :=
      .refused w.ledger block live found
    simpa [World.ledger, Producer.recordFeedResult, noted.session, noted.cursor] using goal
  | unacknowledged block session found alive lostReply appends =>
    have noted := SameControl.recordMiss w.producer loop.nowUtcMs clock block
    have applied : w.appends = true := by simp only [World.appends, alive, appends]
    have goal : LedgerStep schedule (delivery = .replyLost ∧ w.appends = true) w.ledger _ :=
      .unacknowledged w.ledger block ⟨lostReply, applied⟩ found
    simpa [World.ledger, Producer.recordFeedResult, Air.push, noted.session, noted.cursor]
      using goal

/-- **Every step of the two parties is a step of the ledger.** -/
theorem step_ledger {w next : World} {action : Action}
    (taken : w.step schedule settings action = some next) :
    LedgerStep schedule (Unacknowledged w action) w.ledger next.ledger := by
  cases action with
  | blockStarted blockId now => exact ledgerStep_callback (.onBlockStarted settings _ now) taken
  | blockCompleted blockId now =>
    exact ledgerStep_callback (.onBlockComplete settings _ blockId now) taken
  | sessionEnd reason => exact ledgerStep_callback ⟨rfl, rfl, rfl⟩ taken
  | pacedTick tornDown now =>
    exact ledgerStep_callback (SameControl.onPacedTick settings _ tornDown now).sameCursor taken
  | stop =>
    simp only [World.step, World.callback, Producer.stop] at taken
    split at taken
    · cases taken
    · cases taken
      split
      · exact .quiet _
      · exact .stopped _ _ _
  | feed clock delivery =>
    simp only [World.step, Option.map_eq_some_iff] at taken
    obtain ⟨loop, _, rfl⟩ := taken
    have ran := ledgerStep_iterated
      (World.feedIteration_cases schedule settings clock delivery loop w)
    cases delivery <;> simpa [Unacknowledged] using ran
  | sessionFlags sessionEnded isRunning =>
    cases taken
    have equal : World.ledger { w with producer.session := w.producer.session.map fun session =>
        { session with sessionEnded := sessionEnded, isRunning := isRunning } } = w.ledger := by
      simp [World.ledger]
    rw [equal]
    exact .quiet _
  | airPop =>
    simp only [World.step, Option.map_eq_some_iff] at taken
    obtain ⟨⟨block, air⟩, popped, rfl⟩ := taken
    unfold Air.pop at popped
    split at popped
    · cases popped
    · cases popped
      exact .quiet _
  | airStop =>
    cases taken
    exact .quiet _

end Ledger

/-! ### Every run -/

section Runs

variable {schedule : ScheduleService} {settings : Settings}

/-- The appended blocks are in order and, while the session lives, end at the cursor; a pending
block is the schedule's block there. -/
structure Sequenced (schedule : ScheduleService) (ledger : Ledger) : Prop where
  inOrder : FedInOrder ledger.appended
  upTo : ledger.alive = true → FedUpTo schedule ledger.appended ledger.cursor
  pending : ledger.alive = true → ∀ block, ledger.pending = some block →
    ∃ next, schedule ledger.cursor = some next ∧ block = generateNextBlock next 0 0

/-- A candidate is the schedule's block at the cursor. -/
theorem Sequenced.candidate {ledger : Ledger} (sequenced : Sequenced schedule ledger)
    (alive : ledger.alive = true) {block : BlockPlan}
    (found : ledger.candidate schedule = some block) :
    ∃ next, schedule ledger.cursor = some next ∧ block = generateNextBlock next 0 0 := by
  unfold Ledger.candidate at found
  cases waiting : ledger.pending with
  | some held =>
    rw [waiting] at found
    cases found
    exact sequenced.pending alive block waiting
  | none =>
    rw [waiting] at found
    obtain ⟨next, here, generated⟩ := Option.map_eq_some_iff.mp found
    exact ⟨next, here, generated.symm⟩

/-- **An acknowledged ledger step keeps the sequence.** -/
theorem Sequenced.step (tiles : Tiles schedule) {ledger next : Ledger} {lost : Prop}
    (sequenced : Sequenced schedule ledger) (acknowledged : ¬ lost)
    (stepped : LedgerStep schedule lost ledger next) : Sequenced schedule next := by
  cases stepped with
  | quiet => exact sequenced
  | stopped cursor pending =>
    exact ⟨sequenced.inOrder, fun live => absurd live (by simp), fun live => absurd live (by simp)⟩
  | accepted block live found =>
    obtain ⟨scheduled, here, rfl⟩ := sequenced.candidate live found
    have longer := (sequenced.upTo live).append tiles here
    exact ⟨longer.inOrder, fun _ => longer, fun _ block waiting => absurd waiting (by simp)⟩
  | refused block live found =>
    refine ⟨sequenced.inOrder, sequenced.upTo, ?_⟩
    intro _ waitingBlock waiting
    cases waiting
    exact sequenced.candidate live found
  | unacknowledged block replyLost _ => exact absurd replyLost acknowledged

/-- **A successful start is in sequence**: the seeded blocks are the schedule's two around and after
the join time. -/
theorem sequenced_start (tiles : Tiles schedule) {session : PlayoutSession} {join jip : Int}
    {w : World} (started : start schedule settings session join jip = some w) :
    Sequenced schedule w.ledger := by
  simp only [start, Option.bind_eq_bind, Option.bind_eq_some_iff] at started
  obtain ⟨current, found, following, foundNext, air, seeded, built⟩ := started
  cases built
  have appended : air.appended =
      [generateNextBlock current jip join] ++ [generateNextBlock following 0 0] := by
    unfold PlayoutSession.seed Air.startBlockPlanSession at seeded
    split at seeded
    · cases seeded
    · cases seeded
      rfl
  have first := fedUpTo_single found jip join
  rw [generateNextBlock_endUtcMs] at foundNext
  have both := first.append tiles foundNext
  rw [← appended] at both
  refine ⟨both.inOrder, fun _ => both, ?_⟩
  intro _ block waiting
  cases waiting

/-- Every run that loses no reply of an applied feed stays in sequence. -/
theorem sequenced_run (tiles : Tiles schedule) {session : PlayoutSession} {join jip : Int}
    {seeded final : World} (started : start schedule settings session join jip = some seeded)
    {actions : List Action}
    (acknowledged : Along (World.step schedule settings)
      (fun w action => ¬ Unacknowledged w action) seeded actions)
    (ran : runActions (World.step schedule settings) seeded actions = some final) :
    Sequenced schedule final.ledger :=
  invariant_along (World.step schedule settings) (fun w => Sequenced schedule w.ledger)
    (fun w action => ¬ Unacknowledged w action)
    (fun _ _ _ here acknowledged taken => Sequenced.step tiles here acknowledged (step_ledger taken))
    actions (sequenced_start tiles started) acknowledged ran

/-- **The appended sequence is right in every run that loses no reply of an applied feed**: from a
successful seed, under any interleaving of callbacks, ticks, pops, `QUEUE_FULL` and `ERROR` answers,
AIR appends each block at most once, in order, and each starts where the one before ended. -/
theorem appended_fedInOrder (tiles : Tiles schedule) {session : PlayoutSession} {join jip : Int}
    {seeded final : World} (started : start schedule settings session join jip = some seeded)
    {actions : List Action}
    (acknowledged : Along (World.step schedule settings)
      (fun w action => ¬ Unacknowledged w action) seeded actions)
    (ran : runActions (World.step schedule settings) seeded actions = some final) :
    FedInOrder final.air.appended :=
  (sequenced_run tiles started acknowledged ran).inOrder

/-- The half-hour grid as a schedule: block `n` covers the `n`-th half hour since the epoch. -/
def halfHourSchedule : ScheduleService := fun t =>
  some ⟨Int.repr (t / 1800000), t / 1800000 * 1800000, t / 1800000 * 1800000 + 1800000⟩

theorem halfHourSchedule_tiles : Tiles halfHourSchedule where
  covers t := ⟨_, rfl, by dsimp only; omega, by dsimp only; omega⟩
  meet here following := by
    cases here
    cases following
    dsimp only
    omega
  distinct here there same := by
    cases here
    cases there
    have index := Int.repr_injective same
    rw [index]

/-- A session as AIR's process leaves it running. -/
def runningSession : PlayoutSession := ⟨1, false, true⟩

/-- The default configuration: queue depth 3. -/
def defaultSettings : Settings := Settings.ofConfiguration none none none

/-- A start on the half-hour grid, one second into the epoch. -/
def halfHourStart : Option World := start halfHourSchedule defaultSettings runningSession 1000 0

/-- The world after that start. -/
def halfHourSeeded : World := halfHourStart.get rfl

/-- The join block starts, a block is fed, one request is lost, the join block completes. -/
def acknowledgedRun : List Action :=
  [.airPop, .blockStarted "0" 1000, .feed 1000 .answered, .feed 1000 .requestLost,
    .blockCompleted "0" 1800000, .feed 1800000 .answered]

theorem appended_fedInOrder_halfHour : ∃ final,
    runActions (World.step halfHourSchedule defaultSettings) halfHourSeeded acknowledgedRun =
      some final ∧
    final.air.appended.map BlockPlan.blockId = ["0", "1", "2", "3"] ∧
    FedInOrder final.air.appended := by
  have started : halfHourStart = some halfHourSeeded := rfl
  refine ⟨_, rfl, rfl, ?_⟩
  refine appended_fedInOrder halfHourSchedule_tiles started ?_
    (rfl : runActions (World.step halfHourSchedule defaultSettings) halfHourSeeded
      acknowledgedRun = _)
  decide

/-- The same run with the reply of the first feed lost: the deadline expires after AIR has appended
the block, Core keeps it pending and feeds it again when the join block completes. -/
def unacknowledgedRun : List Action :=
  [.airPop, .blockStarted "0" 1000, .feed 1000 .replyLost, .blockCompleted "0" 1800000,
    .feed 1800000 .answered]

/-- **An error after the append duplicates the block.** -/
theorem unacknowledged_feed_duplicates : ∃ final,
    Tiles halfHourSchedule ∧ halfHourStart = some halfHourSeeded ∧
    runActions (World.step halfHourSchedule defaultSettings) halfHourSeeded unacknowledgedRun =
      some final ∧
    final.air.appended.map BlockPlan.blockId = ["0", "1", "2", "2"] ∧
    ¬ FedInOrder final.air.appended := by
  refine ⟨_, halfHourSchedule_tiles, rfl, rfl, rfl, ?_⟩
  intro inOrder
  exact absurd inOrder.once (by decide)

end Runs

end Retrovue.Core.Feed
