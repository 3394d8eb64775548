/-
**Credit safety: a feed never meets a full queue.**

* `Wire`: the two parties with AIR's event stream: BlockStarted once for each popped block, in pop
  order and after the pop, BlockCompleted after it, both delivered in order or lost;
* `Credited`: credits, queued blocks and undelivered BlockStarted events together fit the queue
  depth. Until the first BlockStarted is seen, lost BlockStarted events not yet made good by a
  BlockCompleted fit as well: the fallback credit spends exactly that reserve;
* `credited_step`, `credit_safety`: the bound holds in every reachable state, and no loop of
  `_feed_ahead` is ever open on a full queue;
* `wire_fedInOrder`: truthful answers are acknowledged ones, so the fed sequence is right as well.
-/

import Retrovue.Core.Feed.Sequence

namespace Retrovue.Core.Feed

open Retrovue.Foundation.Transition

/-! ### The event stream -/

section Stream

/-- The events on the stream from AIR to Core. -/
inductive AirEvent
  | blockStarted (blockId : String)
  | blockCompleted (blockId : String)
  deriving DecidableEq, Repr

/-- A BlockStarted event. -/
def AirEvent.isStarted : AirEvent → Bool
  | .blockStarted _ => true
  | .blockCompleted _ => false

/-- BlockStarted events under way: owed or on the stream. -/
def pendingStarts (owed : List String) (stream : List AirEvent) : Nat :=
  owed.length + stream.countP AirEvent.isStarted

/-- The two parties and what is between them. -/
structure Wire where
  world : World
  /-- Popped blocks whose BlockStarted is still to be emitted, in pop order. -/
  owed : List String
  /-- Blocks whose BlockStarted has been emitted. -/
  opened : List String
  /-- Emitted events, oldest first, neither delivered nor lost yet. -/
  stream : List AirEvent
  /-- Blocks whose BlockStarted was lost. -/
  lost : List String

/-- What can happen next: AIR pops and emits, the stream delivers or loses its oldest event, or Core
acts on its own. -/
inductive WireAction
  | pop
  | emitStarted
  | emitCompleted (blockId : String)
  | deliver (nowUtcMs : Int)
  | lose
  | core (action : Action)
  deriving DecidableEq, Repr

/-- Steps of Core without an event, and feeds answered truthfully: an error means that AIR has not
applied the feed. -/
def Action.isTruthful : Action → Bool
  | .blockStarted _ _ => false
  | .blockCompleted _ _ => false
  | .airPop => false
  | .feed _ .replyLost => false
  | _ => true

/-- The callback of an event. -/
def AirEvent.callback (nowUtcMs : Int) : AirEvent → Action
  | .blockStarted blockId => .blockStarted blockId nowUtcMs
  | .blockCompleted blockId => .blockCompleted blockId nowUtcMs

/-- The blocks whose BlockStarted is lost when this event is. -/
def AirEvent.lostStart : AirEvent → List String
  | .blockStarted blockId => [blockId]
  | .blockCompleted _ => []

namespace Wire

variable (schedule : ScheduleService) (settings : Settings)

/-- After a successful start nothing is in flight. -/
def seeded (world : World) : Wire := ⟨world, [], [], [], []⟩

/-- BlockStarted events not yet delivered. -/
def undelivered (wire : Wire) : Nat := pendingStarts wire.owed wire.stream

/-- One step. -/
def step (wire : Wire) : WireAction → Option Wire
  | .pop => wire.world.air.pop.map fun (block, air) =>
    { wire with world.air := air, owed := wire.owed ++ [block.blockId] }
  | .emitStarted =>
    match wire.owed with
    | [] => none
    | blockId :: owed => some { wire with
        owed := owed
        opened := blockId :: wire.opened
        stream := wire.stream ++ [.blockStarted blockId] }
  | .emitCompleted blockId =>
    if blockId ∈ wire.opened then
      some { wire with stream := wire.stream ++ [.blockCompleted blockId] }
    else none
  | .deliver nowUtcMs =>
    match wire.stream with
    | [] => none
    | event :: stream =>
      (wire.world.step schedule settings (event.callback nowUtcMs)).map fun world =>
        { wire with world := world, stream := stream }
  | .lose =>
    match wire.stream with
    | [] => none
    | event :: stream => some { wire with
        stream := stream
        lost := event.lostStart ++ wire.lost }
  | .core action =>
    if action.isTruthful then
      (wire.world.step schedule settings action).map fun world => { wire with world := world }
    else none

/-- Lost BlockStarted events that no BlockCompleted has made good. -/
def uncompensated (wire : Wire) : Nat :=
  wire.lost.countP fun blockId => decide (blockId ∉ wire.world.producer.fedBlockIds)

end Wire

/-- Core listens and has seen no BlockStarted yet. -/
def Producer.Unseen (p : Producer) : Prop :=
  p.started = true ∧ p.sessionEnded = false ∧ p.blockStartedSupported = false

end Stream

/-! ### The invariant -/

section Invariant

/-- Every BlockCompleted on the stream comes after its BlockStarted, or that one was lost. -/
def StartsFirst (lost : List String) (stream : List AirEvent) : Prop :=
  ∀ before blockId after, stream = before ++ .blockCompleted blockId :: after →
    .blockStarted blockId ∈ before ∨ blockId ∈ lost

theorem pendingStarts_pop (owed : List String) (stream : List AirEvent) (blockId : String) :
    pendingStarts (owed ++ [blockId]) stream = pendingStarts owed stream + 1 := by
  unfold pendingStarts
  rw [List.length_append, List.length_singleton]
  omega

theorem pendingStarts_emitStarted (owed : List String) (stream : List AirEvent)
    (blockId : String) :
    pendingStarts owed (stream ++ [.blockStarted blockId]) =
      pendingStarts (blockId :: owed) stream := by
  unfold pendingStarts
  rw [List.countP_append, List.countP_singleton, List.length_cons]
  simp only [AirEvent.isStarted, if_true]
  omega

theorem pendingStarts_emitCompleted (owed : List String) (stream : List AirEvent)
    (blockId : String) :
    pendingStarts owed (stream ++ [.blockCompleted blockId]) = pendingStarts owed stream := by
  unfold pendingStarts
  rw [List.countP_append, List.countP_singleton]
  simp [AirEvent.isStarted]

/-- The oldest event leaves the stream, delivered or lost. -/
theorem pendingStarts_cons (owed : List String) (stream : List AirEvent) (event : AirEvent) :
    pendingStarts owed (event :: stream) = pendingStarts owed stream + event.lostStart.length := by
  unfold pendingStarts
  rw [List.countP_cons]
  cases event with
  | blockStarted blockId => simp only [AirEvent.isStarted, AirEvent.lostStart, if_true,
      List.length_singleton]; omega
  | blockCompleted blockId => simp [AirEvent.isStarted, AirEvent.lostStart]

/-- **Credits, queued blocks and BlockStarted events under way fit the queue depth.** -/
structure Credited (settings : Settings) (wire : Wire) : Prop where
  depth : wire.world.air.maxQueueDepth = settings.queueDepth
  nonneg : 0 ≤ wire.world.producer.feedCredits
  bound : wire.world.producer.feedCredits + wire.world.air.blockQueue.length + wire.undelivered ≤
    settings.queueDepth
  loop : wire.world.feeding.isSome → 0 < wire.world.producer.feedCredits
  /-- The reserve of the fallback credit. -/
  reserve : wire.world.producer.Unseen →
    wire.world.producer.feedCredits + wire.world.air.blockQueue.length + wire.undelivered +
      wire.uncompensated ≤ settings.queueDepth
  emitted : wire.world.producer.Unseen → ∀ blockId ∈ wire.opened,
    .blockStarted blockId ∈ wire.stream ∨ blockId ∈ wire.lost
  startsFirst : wire.world.producer.Unseen → StartsFirst wire.lost wire.stream

theorem startsFirst_started {lost : List String} {stream : List AirEvent} {blockId : String}
    (first : StartsFirst lost stream) :
    StartsFirst lost (stream ++ [.blockStarted blockId]) := by
  intro before other after split
  rcases List.append_eq_append_iff.mp split with ⟨middle, rfl, tail⟩ | ⟨middle, whole, tail⟩
  · cases middle with
    | nil => simp at tail
    | cons head rest => simp at tail
  · cases middle with
    | nil => simp at tail
    | cons head rest =>
      simp only [List.cons_append, List.cons.injEq] at tail
      obtain ⟨rfl, _⟩ := tail
      exact first before other rest whole

theorem startsFirst_completed {lost : List String} {stream : List AirEvent} {blockId : String}
    (first : StartsFirst lost stream)
    (known : .blockStarted blockId ∈ stream ∨ blockId ∈ lost) :
    StartsFirst lost (stream ++ [.blockCompleted blockId]) := by
  intro before other after split
  rcases List.append_eq_append_iff.mp split with ⟨middle, rfl, tail⟩ | ⟨middle, whole, tail⟩
  · cases middle with
    | nil =>
      simp only [List.nil_append, List.cons.injEq, AirEvent.blockCompleted.injEq] at tail
      obtain ⟨rfl, _⟩ := tail
      simpa using known
    | cons head rest => simp at tail
  · cases middle with
    | nil =>
      simp only [List.nil_append, List.cons.injEq, AirEvent.blockCompleted.injEq] at tail
      obtain ⟨rfl, _⟩ := tail
      simpa [whole] using known
    | cons head rest =>
      simp only [List.cons_append, List.cons.injEq] at tail
      obtain ⟨rfl, _⟩ := tail
      exact first before other rest whole

/-- Losing the oldest event. -/
theorem startsFirst_lose {lost : List String} {stream : List AirEvent} {event : AirEvent}
    (first : StartsFirst lost (event :: stream)) :
    StartsFirst (event.lostStart ++ lost) stream := by
  intro before other after split
  rcases first (event :: before) other after (by rw [split, List.cons_append]) with member | gone
  · rcases List.mem_cons.mp member with rfl | member
    · exact .inr (by simp [AirEvent.lostStart])
    · exact .inl member
  · exact .inr (List.mem_append_right _ gone)

/-- Delivering a BlockCompleted leaves the order of the rest. -/
theorem startsFirst_tail {lost : List String} {stream : List AirEvent} {blockId : String}
    (first : StartsFirst lost (.blockCompleted blockId :: stream)) : StartsFirst lost stream := by
  intro before other after split
  rcases first (_ :: before) other after (by rw [split, List.cons_append]) with member | gone
  · exact .inl (by simpa using member)
  · exact .inr gone

/-- The BlockStarted of a BlockCompleted at the head was lost. -/
theorem startsFirst_head {lost : List String} {stream : List AirEvent} {blockId : String}
    (first : StartsFirst lost (.blockCompleted blockId :: stream)) : blockId ∈ lost := by
  rcases first [] blockId stream rfl with member | gone
  · cases member
  · exact gone

end Invariant

/-! ### What the callbacks do to the credits -/

section Callbacks

variable {settings : Settings} {p : Producer}

theorem onPacedTick_loop {tornDown : Bool} {now : Int}
    (opened : (p.onPacedTick settings tornDown now).2.isSome) :
    0 < (p.onPacedTick settings tornDown now).1.feedCredits := by
  have same := (SameControl.onPacedTick settings p tornDown now).credits
  rw [same]
  obtain ⟨loop, found⟩ := Option.isSome_iff_exists.mp opened
  unfold Producer.onPacedTick at found
  split at found
  · cases found
  · split at found
    · cases found
    · split at found
      · cases found
      · split at found
        · have credit := feedAhead_loop found
          exact credit
        · cases found

/-- BlockStarted is ignored without a live session. -/
theorem onBlockStarted_dead {now : Int} (dead : p.sessionEnded = true ∨ p.started = false) :
    p.onBlockStarted settings now = (p, none) := by
  unfold Producer.onBlockStarted
  rw [if_pos (by simpa using dead)]

/-- **BlockStarted grants one credit**, clamped to the depth, and marks AIR as emitting it. -/
theorem onBlockStarted_live (settings : Settings) (now : Int) (ended : p.sessionEnded = false)
    (started : p.started = true) :
    (p.onBlockStarted settings now).1.feedCredits = min (p.feedCredits + 1) settings.queueDepth ∧
      (p.onBlockStarted settings now).1.blockStartedSupported = true ∧
      ((p.onBlockStarted settings now).2.isSome →
        0 < (p.onBlockStarted settings now).1.feedCredits) := by
  unfold Producer.onBlockStarted
  rw [if_neg (by simp [ended, started])]
  have running := SameControl.enterRunning (p.markBlockStartedSupported.grantCredit settings)
  have ahead := SameControl.feedAhead settings
    (p.markBlockStartedSupported.grantCredit settings).enterRunning now
  refine ⟨(running.trans ahead).credits, (running.trans ahead).supported, ?_⟩
  intro opened
  obtain ⟨loop, found⟩ := Option.isSome_iff_exists.mp opened
  rw [ahead.credits]
  exact feedAhead_loop found

/-- The producer that `_on_block_complete` hands to `_feed_ahead`. -/
def completed (settings : Settings) (p : Producer) (blockId : String) : Producer :=
  ((p.recordCompleted blockId).enterRunning.grantFallbackCredit settings).clearFeedErrors

/-- **BlockCompleted is ignored, or handled once for its block.** -/
theorem onBlockComplete_cases (settings : Settings) (p : Producer) (blockId : String) (now : Int) :
    p.onBlockComplete settings blockId now = (p, none) ∨
      (p.started = true ∧ p.sessionEnded = false ∧ blockId ∉ p.fedBlockIds ∧
        p.onBlockComplete settings blockId now =
          (completed settings p blockId).feedAhead settings now) := by
  unfold Producer.onBlockComplete
  by_cases ended : p.sessionEnded = true
  · exact .inl (by rw [if_pos ended])
  rw [if_neg ended]
  by_cases absent : ¬ p.started = true ∨ p.session.isNone = true
  · exact .inl (by rw [if_pos absent])
  rw [if_neg absent]
  by_cases known : blockId ∈ p.fedBlockIds
  · exact .inl (by rw [if_pos known])
  rw [if_neg known]
  by_cases inactive : blockId ∉ p.inFlightBlockIds
  · exact .inl (by rw [if_pos inactive])
  rw [if_neg inactive]
  exact .inr ⟨not_not.mp fun stopped => absent (.inl stopped), Bool.eq_false_iff.mpr ended, known,
    rfl⟩

/-- The handled BlockCompleted: its id is recorded, and it grants a credit only while no
BlockStarted has been seen. -/
theorem completed_control (settings : Settings) (p : Producer) (blockId : String) :
    (completed settings p blockId).fedBlockIds = insert blockId p.fedBlockIds ∧
    (completed settings p blockId).started = p.started ∧
    (completed settings p blockId).sessionEnded = p.sessionEnded ∧
    (completed settings p blockId).blockStartedSupported = p.blockStartedSupported ∧
    (completed settings p blockId).feedCredits =
      if p.blockStartedSupported then p.feedCredits
      else min (p.feedCredits + 1) settings.queueDepth := by
  have running := SameControl.enterRunning (p.recordCompleted blockId)
  unfold completed Producer.grantFallbackCredit
  have supported : (p.recordCompleted blockId).enterRunning.blockStartedSupported =
      p.blockStartedSupported := running.supported
  rw [supported]
  split
  · exact ⟨running.fed, running.started, running.ended, running.supported, running.credits⟩
  · refine ⟨running.fed, running.started, running.ended, running.supported, ?_⟩
    show min ((p.recordCompleted blockId).enterRunning.feedCredits + 1) settings.queueDepth = _
    rw [running.credits]
    rfl

end Callbacks

/-! ### Every step keeps the bound -/

section Steps

variable {schedule : ScheduleService} {settings : Settings}

/-- Core changes nothing that the bound reads. -/
theorem Credited.sameCredits {wire : Wire} (credited : Credited settings wire) (p : Producer)
    (feeding : Option Producer.FeedLoop)
    (credits : p.feedCredits = wire.world.producer.feedCredits)
    (fed : p.fedBlockIds = wire.world.producer.fedBlockIds)
    (unseen : p.Unseen → wire.world.producer.Unseen)
    (loop : feeding.isSome → 0 < p.feedCredits) :
    Credited settings
      { wire with world := { wire.world with producer := p, feeding := feeding } } where
  depth := credited.depth
  nonneg := by
    rw [credits]
    exact credited.nonneg
  bound := by
    rw [credits]
    exact credited.bound
  loop := loop
  reserve here := by
    have before := credited.reserve (unseen here)
    unfold Wire.uncompensated at before ⊢
    rw [credits, fed]
    exact before
  emitted here := credited.emitted (unseen here)
  startsFirst here := credited.startsFirst (unseen here)

theorem SameControl.unseen {p q : Producer} (same : SameControl p q) (here : q.Unseen) :
    p.Unseen := by
  obtain ⟨started, ended, supported⟩ := here
  exact ⟨same.started.symm.trans started, same.ended.symm.trans ended,
    same.supported.symm.trans supported⟩

/-- A full queue leaves no credit. -/
theorem Credited.room {wire : Wire} (credited : Credited settings wire)
    (feeding : wire.world.feeding.isSome) : wire.world.air.full = false := by
  have credit := credited.loop feeding
  have bound := credited.bound
  have depth := credited.depth
  unfold Air.full
  rw [decide_eq_false_iff_not]
  omega

/-- **One loop iteration keeps the bound**: an accepted feed trades one credit for one queue slot. -/
theorem Credited.iterated {wire : Wire} (credited : Credited settings wire) {clock : Int}
    {delivery : Delivery} {loop : Producer.FeedLoop} {next : World}
    (feeding : wire.world.feeding = some loop) (truthful : delivery ≠ .replyLost)
    (iterated : World.Iterated schedule clock delivery loop wire.world next) :
    Credited settings { wire with world := next } := by
  have opened : wire.world.feeding.isSome := by rw [feeding]; rfl
  have credit := credited.loop opened
  cases iterated with
  | idle => exact credited.sameCredits _ _ rfl rfl id (fun some => by cases some)
  | unsent block _ =>
    have noted := SameControl.recordMiss wire.world.producer loop.nowUtcMs clock block
    exact credited.sameCredits _ _ noted.credits noted.fed noted.unseen (fun some => by cases some)
  | accepted block _ _ _ =>
    have noted := SameControl.recordMiss wire.world.producer loop.nowUtcMs clock block
    have paid : max 0 ((wire.world.producer.recordMiss loop.nowUtcMs clock block).feedCredits - 1) =
        wire.world.producer.feedCredits - 1 := by
      rw [noted.credits]
      omega
    have longer : ((wire.world.air.push block).blockQueue.length : Int) =
        wire.world.air.blockQueue.length + 1 := by simp [Air.push]
    refine ⟨credited.depth, le_max_left _ _, ?_, ?_, ?_, ?_, ?_⟩
    · show max 0 _ + ((wire.world.air.push block).blockQueue.length : Int) + wire.undelivered ≤ _
      rw [paid, longer]
      have bound := credited.bound
      omega
    · intro continues
      unfold World.continueLoop at continues
      split at continues
      · cases continues
      · rename_i credits
        exact not_le.mp fun none => credits (.inl none)
    · intro here
      have before := credited.reserve (noted.unseen here)
      show max 0 _ + ((wire.world.air.push block).blockQueue.length : Int) + wire.undelivered +
        (wire.lost.countP fun blockId => decide (blockId ∉
          (wire.world.producer.recordMiss loop.nowUtcMs clock block).fedBlockIds) : Nat) ≤ _
      rw [paid, longer, noted.fed]
      unfold Wire.uncompensated at before
      omega
    · exact fun here => credited.emitted (noted.unseen here)
    · exact fun here => credited.startsFirst (noted.unseen here)
  | queueFull block _ _ full =>
    have room := credited.room opened
    rw [full] at room
    cases room
  | error block _ _ =>
    have noted := SameControl.recordMiss wire.world.producer loop.nowUtcMs clock block
    exact credited.sameCredits _ _ noted.credits noted.fed noted.unseen (fun some => by cases some)
  | unacknowledged block session _ _ lostReply _ => exact absurd lostReply truthful

/-- **The first BlockStarted on the stream is delivered**: one undelivered event less, at most one
credit more, and from now on only BlockStarted credits. -/
theorem Credited.deliverStarted {wire : Wire} (credited : Credited settings wire) {now : Int}
    {blockId : String} {stream : List AirEvent} {next : World}
    (head : wire.stream = .blockStarted blockId :: stream)
    (taken : wire.world.callback (wire.world.producer.onBlockStarted settings now) = some next) :
    Credited settings { wire with world := next, stream := stream } := by
  have fewer : wire.undelivered = pendingStarts wire.owed stream + 1 := by
    unfold Wire.undelivered
    rw [head, pendingStarts_cons]
    rfl
  have bound := credited.bound
  rw [fewer] at bound
  have nonneg := credited.nonneg
  unfold World.callback at taken
  split at taken
  · cases taken
  cases taken
  by_cases live : wire.world.producer.sessionEnded = false ∧ wire.world.producer.started = true
  · obtain ⟨credits, supported, loop⟩ := onBlockStarted_live settings now
      live.1 live.2
    have seen : ¬ (wire.world.producer.onBlockStarted settings now).1.Unseen := by
      rintro ⟨_, _, unsupported⟩
      rw [supported] at unsupported
      cases unsupported
    refine ⟨credited.depth, ?_, ?_, loop, fun here => absurd here seen,
      fun here => absurd here seen, fun here => absurd here seen⟩
    · show 0 ≤ (wire.world.producer.onBlockStarted settings now).1.feedCredits
      have two := settings.two_le
      rw [credits]
      omega
    · show (wire.world.producer.onBlockStarted settings now).1.feedCredits +
        (wire.world.air.blockQueue.length : Int) +
        (pendingStarts wire.owed stream : Int) ≤ _
      rw [credits]
      omega
  · have dead : wire.world.producer.sessionEnded = true ∨ wire.world.producer.started = false := by
      simpa [imp_iff_not_or] using live
    have unlistening : ¬ wire.world.producer.Unseen := by
      rintro ⟨started, ended, _⟩
      exact live ⟨ended, started⟩
    rw [onBlockStarted_dead dead]
    refine ⟨credited.depth, nonneg, ?_, (fun some => by cases some),
      fun here => absurd here unlistening, fun here => absurd here unlistening,
      fun here => absurd here unlistening⟩
    show wire.world.producer.feedCredits + (wire.world.air.blockQueue.length : Int) +
      (pendingStarts wire.owed stream : Int) ≤ _
    omega

/-- Recording a completed block takes its lost BlockStarted out of the reserve. -/
theorem uncompensated_insert {lost : List String} {fed : Finset String} {blockId : String}
    (member : blockId ∈ lost) (fresh : blockId ∉ fed) :
    lost.countP (fun other => decide (other ∉ insert blockId fed)) + 1 ≤
      lost.countP fun other => decide (other ∉ fed) := by
  obtain ⟨before, after, rfl⟩ := List.append_of_mem member
  have fewer : ∀ part : List String,
      part.countP (fun other => decide (other ∉ insert blockId fed)) ≤
        part.countP fun other => decide (other ∉ fed) := by
    intro part
    refine List.countP_mono_left fun other _ outside => ?_
    simp only [Finset.mem_insert, not_or, decide_eq_true_eq] at outside ⊢
    exact outside.2
  rw [List.countP_append, List.countP_append, List.countP_cons, List.countP_cons]
  have left := fewer before
  have right := fewer after
  have gone : decide (blockId ∉ insert blockId fed) = false := by simp
  have there : decide (blockId ∉ fed) = true := by simpa using fresh
  rw [gone, there]
  simp only [Bool.false_eq_true, if_false, if_true]
  omega

/-- **The first BlockCompleted on the stream is delivered.** It grants a credit only while no
BlockStarted has been seen; its own was lost then, so the credit comes out of the reserve. -/
theorem Credited.deliverCompleted {wire : Wire} (credited : Credited settings wire) {now : Int}
    {blockId : String} {stream : List AirEvent} {next : World}
    (head : wire.stream = .blockCompleted blockId :: stream)
    (taken : wire.world.callback (wire.world.producer.onBlockComplete settings blockId now) =
      some next) :
    Credited settings { wire with world := next, stream := stream } := by
  have same : wire.undelivered = pendingStarts wire.owed stream := by
    unfold Wire.undelivered
    rw [head, pendingStarts_cons]
    rfl
  have tail : wire.world.producer.Unseen → StartsFirst wire.lost stream := fun here =>
    startsFirst_tail (by rw [← head]; exact credited.startsFirst here)
  have started : wire.world.producer.Unseen → ∀ other ∈ wire.opened,
      .blockStarted other ∈ stream ∨ other ∈ wire.lost := by
    intro here other member
    rcases credited.emitted here other member with waiting | gone
    · rw [head] at waiting
      exact .inl (by simpa using waiting)
    · exact .inr gone
  have bound := credited.bound
  rw [same] at bound
  unfold World.callback at taken
  split at taken
  · cases taken
  cases taken
  rcases onBlockComplete_cases settings wire.world.producer blockId now with
    ignored | ⟨live, unended, fresh, handled⟩
  · rw [ignored]
    refine ⟨credited.depth, credited.nonneg, bound, (fun some => by cases some), ?_, started, tail⟩
    intro here
    have before := credited.reserve here
    rw [same] at before
    exact before
  · rw [handled]
    obtain ⟨fed, startedSame, ended, supported, credits⟩ :=
      completed_control settings wire.world.producer blockId
    have ahead := SameControl.feedAhead settings (completed settings wire.world.producer blockId) now
    have unseen : ((completed settings wire.world.producer blockId).feedAhead settings now).1.Unseen →
        wire.world.producer.Unseen := by
      intro here
      obtain ⟨one, two, three⟩ := ahead.unseen here
      exact ⟨startedSame ▸ one, ended ▸ two, supported ▸ three⟩
    have two := settings.two_le
    have nonneg := credited.nonneg
    -- the fallback credit is paid by the completed block's own lost BlockStarted
    have paid : wire.world.producer.blockStartedSupported = false →
        wire.world.producer.feedCredits + 1 + wire.world.air.blockQueue.length +
          (pendingStarts wire.owed stream : Int) +
          (wire.lost.countP fun other =>
            decide (other ∉ insert blockId wire.world.producer.fedBlockIds) : Nat) ≤
          settings.queueDepth := by
      intro unsupported
      have here : wire.world.producer.Unseen := ⟨live, unended, unsupported⟩
      have first := credited.startsFirst here
      rw [head] at first
      have spent := uncompensated_insert (startsFirst_head first) fresh
      have before := credited.reserve here
      rw [same] at before
      unfold Wire.uncompensated at before
      omega
    refine ⟨credited.depth, ?_, ?_, ?_, ?_, fun here => started (unseen here),
      fun here => tail (unseen here)⟩
    · show 0 ≤ ((completed settings wire.world.producer blockId).feedAhead settings now).1.feedCredits
      rw [ahead.credits, credits]
      split
      · exact nonneg
      · omega
    · show ((completed settings wire.world.producer blockId).feedAhead settings now).1.feedCredits +
        (wire.world.air.blockQueue.length : Int) +
        (pendingStarts wire.owed stream : Int) ≤ _
      rw [ahead.credits, credits]
      split
      · exact bound
      · rename_i unsupported
        have fits := paid (Bool.eq_false_iff.mpr unsupported)
        omega
    · intro opened
      obtain ⟨loop, found⟩ := Option.isSome_iff_exists.mp opened
      show 0 < ((completed settings wire.world.producer blockId).feedAhead settings now).1.feedCredits
      rw [ahead.credits]
      exact feedAhead_loop found
    · intro here
      have fits := paid (unseen here).2.2
      show ((completed settings wire.world.producer blockId).feedAhead settings now).1.feedCredits +
        (wire.world.air.blockQueue.length : Int) +
        (pendingStarts wire.owed stream : Int) +
        (wire.lost.countP fun other => decide (other ∉
          ((completed settings wire.world.producer blockId).feedAhead settings now).1.fedBlockIds) :
            Nat) ≤ _
      rw [ahead.credits, credits, ahead.fed, fed, if_neg (by rw [(unseen here).2.2]; simp)]
      omega

/-- **Core's own steps keep the bound.** -/
theorem Credited.core {wire : Wire} (credited : Credited settings wire) {action : Action}
    {next : World} (truthful : action.isTruthful = true)
    (taken : wire.world.step schedule settings action = some next) :
    Credited settings { wire with world := next } := by
  cases action with
  | blockStarted blockId now => cases truthful
  | blockCompleted blockId now => cases truthful
  | airPop => cases truthful
  | sessionEnd reason =>
    simp only [World.step, World.callback] at taken
    split at taken
    · cases taken
    cases taken
    refine credited.sameCredits _ _ rfl rfl ?_ (fun some => by cases some)
    rintro ⟨_, ended, _⟩
    cases ended
  | pacedTick tornDown now =>
    simp only [World.step, World.callback] at taken
    split at taken
    · cases taken
    cases taken
    have same := SameControl.onPacedTick settings wire.world.producer tornDown now
    exact credited.sameCredits _ _ same.credits same.fed same.unseen onPacedTick_loop
  | stop =>
    simp only [World.step, World.callback, Producer.stop] at taken
    split at taken
    · cases taken
    cases taken
    split
    · exact credited.sameCredits _ _ rfl rfl id (fun some => by cases some)
    · have bound := credited.bound
      have nonneg := credited.nonneg
      refine ⟨credited.depth, le_rfl, ?_, (fun some => by cases some), ?_, ?_, ?_⟩
      · show (0 : Int) + wire.world.air.blockQueue.length + wire.undelivered ≤ _
        omega
      · rintro ⟨started, _⟩
        cases started
      · rintro ⟨started, _⟩
        cases started
      · rintro ⟨started, _⟩
        cases started
  | feed clock delivery =>
    simp only [World.step, Option.map_eq_some_iff] at taken
    obtain ⟨loop, feeding, rfl⟩ := taken
    have heard : delivery ≠ .replyLost := by
      rintro rfl
      cases truthful
    exact credited.iterated feeding heard
      (World.feedIteration_cases schedule settings clock delivery loop wire.world)
  | sessionFlags sessionEnded isRunning =>
    cases taken
    exact credited.sameCredits _ _ rfl rfl id credited.loop
  | airStop =>
    cases taken
    exact ⟨credited.depth, credited.nonneg, credited.bound, credited.loop, credited.reserve,
      credited.emitted, credited.startsFirst⟩

/-- A pop turns a queued block into an owed BlockStarted. -/
theorem Credited.pop {wire : Wire} (credited : Credited settings wire) {block : BlockPlan}
    {air : Air} (popped : wire.world.air.pop = some (block, air)) :
    Credited settings { wire with world.air := air, owed := wire.owed ++ [block.blockId] } := by
  unfold Air.pop at popped
  split at popped
  · cases popped
  rename_i first rest queued
  cases popped
  have shorter : (wire.world.air.blockQueue.length : Int) = rest.length + 1 := by
    rw [queued, List.length_cons]
    omega
  have moved : (pendingStarts (wire.owed ++ [block.blockId]) wire.stream : Int) =
      wire.undelivered + 1 := by
    rw [pendingStarts_pop]
    rfl
  have bound := credited.bound
  refine ⟨credited.depth, credited.nonneg, ?_, credited.loop, ?_, credited.emitted,
    credited.startsFirst⟩
  · show wire.world.producer.feedCredits + (rest.length : Int) +
      (pendingStarts (wire.owed ++ [block.blockId]) wire.stream : Int) ≤ _
    omega
  · intro here
    have before := credited.reserve here
    show wire.world.producer.feedCredits + (rest.length : Int) +
      (pendingStarts (wire.owed ++ [block.blockId]) wire.stream : Int) + wire.uncompensated ≤ _
    omega

/-- Emission puts an owed BlockStarted on the stream. -/
theorem Credited.emitStarted {wire : Wire} (credited : Credited settings wire) {blockId : String}
    {owed : List String} (owing : wire.owed = blockId :: owed) :
    Credited settings
      { wire with
        owed := owed
        opened := blockId :: wire.opened
        stream := wire.stream ++ [AirEvent.blockStarted blockId] } := by
  have moved : pendingStarts owed (wire.stream ++ [AirEvent.blockStarted blockId]) =
      wire.undelivered := by
    rw [pendingStarts_emitStarted, ← owing]
    rfl
  refine ⟨credited.depth, credited.nonneg, ?_, credited.loop, ?_, ?_,
    fun here => startsFirst_started (credited.startsFirst here)⟩
  · show wire.world.producer.feedCredits + (wire.world.air.blockQueue.length : Int) +
      (pendingStarts owed (wire.stream ++ [AirEvent.blockStarted blockId]) : Int) ≤ _
    rw [moved]
    exact credited.bound
  · intro here
    show wire.world.producer.feedCredits + (wire.world.air.blockQueue.length : Int) +
      (pendingStarts owed (wire.stream ++ [AirEvent.blockStarted blockId]) : Int) +
      wire.uncompensated ≤ _
    rw [moved]
    exact credited.reserve here
  · intro here other member
    rcases List.mem_cons.mp member with rfl | member
    · exact .inl (List.mem_append_right _ List.mem_cons_self)
    · rcases credited.emitted here other member with waiting | gone
      · exact .inl (List.mem_append_left _ waiting)
      · exact .inr gone

/-- A BlockCompleted on the stream counts for nothing yet. -/
theorem Credited.emitCompleted {wire : Wire} (credited : Credited settings wire)
    {blockId : String} (opened : blockId ∈ wire.opened) :
    Credited settings
      { wire with stream := wire.stream ++ [AirEvent.blockCompleted blockId] } := by
  have same : pendingStarts wire.owed (wire.stream ++ [AirEvent.blockCompleted blockId]) =
      wire.undelivered := pendingStarts_emitCompleted _ _ _
  refine ⟨credited.depth, credited.nonneg, ?_, credited.loop, ?_, ?_,
    fun here => startsFirst_completed (credited.startsFirst here)
      (credited.emitted here blockId opened)⟩
  · show wire.world.producer.feedCredits + (wire.world.air.blockQueue.length : Int) +
      (pendingStarts wire.owed (wire.stream ++ [AirEvent.blockCompleted blockId]) : Int) ≤ _
    rw [same]
    exact credited.bound
  · intro here
    show wire.world.producer.feedCredits + (wire.world.air.blockQueue.length : Int) +
      (pendingStarts wire.owed (wire.stream ++ [AirEvent.blockCompleted blockId]) : Int) +
      wire.uncompensated ≤ _
    rw [same]
    exact credited.reserve here
  · intro here other member
    rcases credited.emitted here other member with waiting | gone
    · exact .inl (List.mem_append_left _ waiting)
    · exact .inr gone

/-- Losing a BlockStarted moves it from the stream to the reserve. -/
theorem Credited.lose {wire : Wire} (credited : Credited settings wire) {event : AirEvent}
    {stream : List AirEvent} (head : wire.stream = event :: stream) :
    Credited settings { wire with stream := stream, lost := event.lostStart ++ wire.lost } := by
  have before := credited.bound
  have fewer : wire.undelivered = pendingStarts wire.owed stream + event.lostStart.length := by
    unfold Wire.undelivered
    rw [head, pendingStarts_cons]
  refine ⟨credited.depth, credited.nonneg, ?_, credited.loop, ?_, ?_, ?_⟩
  · show wire.world.producer.feedCredits + (wire.world.air.blockQueue.length : Int) +
      (pendingStarts wire.owed stream : Int) ≤ _
    omega
  · intro here
    have reserve := credited.reserve here
    have more : (event.lostStart ++ wire.lost).countP
        (fun other => decide (other ∉ wire.world.producer.fedBlockIds)) ≤
          event.lostStart.length + wire.uncompensated := by
      rw [List.countP_append]
      exact Nat.add_le_add_right List.countP_le_length _
    show wire.world.producer.feedCredits + (wire.world.air.blockQueue.length : Int) +
      (pendingStarts wire.owed stream : Int) +
      ((event.lostStart ++ wire.lost).countP
        (fun other => decide (other ∉ wire.world.producer.fedBlockIds)) : Nat) ≤ _
    omega
  · intro here other member
    rcases credited.emitted here other member with waiting | gone
    · rw [head] at waiting
      rcases List.mem_cons.mp waiting with rfl | waiting
      · exact .inr (by simp [AirEvent.lostStart])
      · exact .inl waiting
    · exact .inr (List.mem_append_right _ gone)
  · intro here
    have first := credited.startsFirst here
    rw [head] at first
    exact startsFirst_lose first

/-- **Every step keeps the bound.** -/
theorem credited_step {wire next : Wire} {action : WireAction} (credited : Credited settings wire)
    (taken : wire.step schedule settings action = some next) : Credited settings next := by
  cases action with
  | pop =>
    simp only [Wire.step, Option.map_eq_some_iff] at taken
    obtain ⟨⟨block, air⟩, popped, rfl⟩ := taken
    exact credited.pop popped
  | emitStarted =>
    simp only [Wire.step] at taken
    split at taken
    · cases taken
    rename_i blockId owed owing
    cases taken
    exact credited.emitStarted owing
  | emitCompleted blockId =>
    simp only [Wire.step] at taken
    split at taken
    · rename_i opened
      cases taken
      exact credited.emitCompleted opened
    · cases taken
  | deliver now =>
    simp only [Wire.step] at taken
    split at taken
    · cases taken
    rename_i event stream head
    simp only [Option.map_eq_some_iff] at taken
    obtain ⟨world, delivered, rfl⟩ := taken
    cases event with
    | blockStarted blockId => exact credited.deliverStarted head delivered
    | blockCompleted blockId => exact credited.deliverCompleted head delivered
  | lose =>
    simp only [Wire.step] at taken
    split at taken
    · cases taken
    rename_i event stream head
    cases taken
    exact credited.lose head
  | core action =>
    simp only [Wire.step] at taken
    split at taken
    · rename_i truthful
      simp only [Option.map_eq_some_iff] at taken
      obtain ⟨world, stepped, rfl⟩ := taken
      exact credited.core truthful stepped
    · cases taken

/-- **A successful start is within the bound**: two blocks queued, the other slots credited. -/
theorem credited_start {session : PlayoutSession} {join jip : Int} {w : World}
    (started : start schedule settings session join jip = some w) :
    Credited settings (Wire.seeded w) := by
  simp only [start, Option.bind_eq_bind, Option.bind_eq_some_iff] at started
  obtain ⟨current, _, following, _, air, seeded, built⟩ := started
  cases built
  have two := settings.two_le
  have queued : air.maxQueueDepth = settings.queueDepth ∧ air.blockQueue.length = 2 := by
    unfold PlayoutSession.seed Air.startBlockPlanSession at seeded
    split at seeded
    · cases seeded
    · cases seeded
      exact ⟨rfl, rfl⟩
  refine ⟨queued.1, ?_, ?_, (fun some => by cases some), ?_, (fun _ _ member => by cases member), ?_⟩
  · show 0 ≤ settings.queueDepth - 2
    omega
  · show settings.queueDepth - 2 + (air.blockQueue.length : Int) + ((0 + 0 : Nat) : Int) ≤ _
    omega
  · intro _
    show settings.queueDepth - 2 + (air.blockQueue.length : Int) + ((0 + 0 : Nat) : Int) +
      ((0 : Nat) : Int) ≤ _
    omega
  · intro _ before blockId after split
    simp [Wire.seeded] at split

end Steps

/-! ### Every reachable state -/

section Reachability

variable {schedule : ScheduleService} {settings : Settings}

theorem credited_reachable {session : PlayoutSession} {join jip : Int} {wire : Wire}
    (reachable : Reachable (Wire.step schedule settings)
      (fun first => ∃ w, start schedule settings session join jip = some w ∧
        first = Wire.seeded w) wire) :
    Credited settings wire := by
  refine invariant_reachable (Wire.step schedule settings) ?_
    (fun wire action next credited taken => credited_step credited taken) reachable
  rintro first ⟨w, started, rfl⟩
  exact credited_start started

/-- **Credit safety.** In every state reachable from a successful start, the credits, the blocks in
AIR's queue and the undelivered BlockStarted events together fit the queue depth, whatever events are
late or lost; the credits stay within `[0, queueDepth]`; and while a loop of `_feed_ahead` is open,
AIR answers no feed with `QUEUE_FULL`. -/
theorem credit_safety {session : PlayoutSession} {join jip : Int} {wire : Wire}
    (reachable : Reachable (Wire.step schedule settings)
      (fun first => ∃ w, start schedule settings session join jip = some w ∧
        first = Wire.seeded w) wire) :
    wire.world.producer.feedCredits + wire.world.air.blockQueue.length + wire.undelivered ≤
        settings.queueDepth ∧
      0 ≤ wire.world.producer.feedCredits ∧
      wire.world.producer.feedCredits ≤ settings.queueDepth ∧
      (wire.world.feeding.isSome → ∀ channelId block,
        (wire.world.air.feedBlockPlan channelId block).2.queueFull = false) := by
  have credited := credited_reachable reachable
  have bound := credited.bound
  refine ⟨bound, credited.nonneg, by omega, ?_⟩
  intro feeding channelId block
  have room := credited.room feeding
  unfold Air.feedBlockPlan
  split
  · rfl
  · rw [if_neg (by rw [room]; simp)]

/-- The join block starts and its BlockStarted is lost; its BlockCompleted opens a loop. -/
def fallbackRun : List WireAction :=
  [.pop, .emitStarted, .lose, .emitCompleted "0", .deliver 1800000]

/-- Two credits, one queued block, and a loop about to feed. -/
theorem credit_safety_fallback : ∃ wire,
    runActions (Wire.step halfHourSchedule defaultSettings) (Wire.seeded halfHourSeeded)
      fallbackRun = some wire ∧
    wire.world.feeding.isSome = true ∧ wire.world.producer.feedCredits = 2 ∧
    wire.world.producer.feedCredits + wire.world.air.blockQueue.length + wire.undelivered ≤ 3 := by
  refine ⟨_, rfl, rfl, rfl, ?_⟩
  have started : start halfHourSchedule defaultSettings runningSession 1000 0 =
    some halfHourSeeded := rfl
  exact (credit_safety ⟨Wire.seeded halfHourSeeded, fallbackRun,
    ⟨halfHourSeeded, started, rfl⟩, rfl⟩).1

/-- **Truthful answers are acknowledged**: each wire step is a step of the two parties that loses no
reply of an applied feed, or leaves both parties as they are. -/
theorem wire_simulates {wire next : Wire} {action : WireAction}
    (taken : wire.step schedule settings action = some next) :
    next.world = wire.world ∨
      ∃ visible, ¬ Unacknowledged wire.world visible ∧
        wire.world.step schedule settings visible = some next.world := by
  cases action with
  | pop =>
    simp only [Wire.step, Option.map_eq_some_iff] at taken
    obtain ⟨⟨block, air⟩, popped, rfl⟩ := taken
    exact .inr ⟨.airPop, id, by simp only [World.step, popped, Option.map_some]⟩
  | emitStarted =>
    simp only [Wire.step] at taken
    split at taken
    · cases taken
    · cases taken
      exact .inl rfl
  | emitCompleted blockId =>
    simp only [Wire.step] at taken
    split at taken
    · cases taken
      exact .inl rfl
    · cases taken
  | deliver now =>
    simp only [Wire.step] at taken
    split at taken
    · cases taken
    rename_i event stream head
    simp only [Option.map_eq_some_iff] at taken
    obtain ⟨world, delivered, rfl⟩ := taken
    refine .inr ⟨event.callback now, ?_, delivered⟩
    cases event <;> exact id
  | lose =>
    simp only [Wire.step] at taken
    split at taken
    · cases taken
    · cases taken
      exact .inl rfl
  | core action =>
    simp only [Wire.step] at taken
    split at taken
    · rename_i truthful
      simp only [Option.map_eq_some_iff] at taken
      obtain ⟨world, stepped, rfl⟩ := taken
      refine .inr ⟨action, ?_, stepped⟩
      unfold Unacknowledged
      split
      · cases truthful
      · exact id
    · cases taken

/-- **With truthful answers the fed sequence is right in every run.** -/
theorem wire_fedInOrder (tiles : Tiles schedule) {session : PlayoutSession} {join jip : Int}
    {seeded : World} (started : start schedule settings session join jip = some seeded)
    {actions : List WireAction} {wire : Wire}
    (ran : runActions (Wire.step schedule settings) (Wire.seeded seeded) actions = some wire) :
    FedInOrder wire.world.air.appended := by
  obtain ⟨labels, acknowledged, projected⟩ :=
    simulation_run (Wire.step schedule settings) (World.step schedule settings) Wire.world
      (fun w action => ¬ Unacknowledged w action)
      (fun wire action next taken => wire_simulates taken) actions ran
  exact (sequenced_run tiles started acknowledged projected).inOrder

end Reachability

end Retrovue.Core.Feed
