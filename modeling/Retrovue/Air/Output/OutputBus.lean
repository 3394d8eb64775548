/-
**The bus between render thread and sink** (`output/OutputBus.cpp`).

* `OutputBus`: the published pointer, the owned sink, the discard counters, every sink that was ever
  attached, every item that was routed and what became of it;
* `BusAction`, `OutputBus.step`: `AttachSink` and `DetachSink`, serialized by their mutex, and the routing
  calls of the render thread, which takes none; each is cut where the other can come between;
* `Owned`, `Accounted`: what every step keeps; `routed_of_run`: in every run each item has one outcome, in order, and counted
  where it was discarded, and no sink gets a frame after a later one has;
* `Apart`: the sink that is destroyed is not in the render thread's hand; `used_after_free`: no freed
  sink is used where every destruction meets this, and where one does not, the render thread uses it.

The comment of `DetachSink` says that no routing thread can reach the sink any more.
-/

import Mathlib
import Retrovue.Foundation.Transition

namespace Retrovue.Air.Output

open Retrovue.Foundation.Transition

/-! ### The bus -/

section Bus

variable {Frame AudioFrame : Type}

/-- What `RouteVideo` and `RouteAudio` take. -/
inductive Item (Frame AudioFrame : Type)
  | video (frame : Frame)
  | audio (frame : AudioFrame)
  deriving DecidableEq, Repr

def Item.isVideo : Item Frame AudioFrame → Bool
  | .video _ => true
  | .audio _ => false

/-- What became of an item: no running sink took it, a sink consumed it, or a sink was asked that had
been destroyed. -/
inductive Outcome
  | discarded
  | consumed (sink : ℕ)
  | freed (sink : ℕ)
  deriving DecidableEq, Repr

/-- A sink that was started by `AttachSink`. -/
structure SinkState where
  name : String
  running : Bool
  freed : Bool
  deriving DecidableEq, Repr

/-- `OutputBusResult`. -/
structure OutputBusResult where
  success : Bool
  message : String
  deriving DecidableEq, Repr

/-- Where the thread is that holds `attach_mutex_`. -/
inductive Control
  | idle
  /-- The new sink runs and is owned. -/
  | attaching (sink : ℕ)
  /-- The pointer is null. -/
  | hidden (sink : ℕ)
  /-- The sink is stopped. -/
  | stopped (sink : ℕ)
  deriving DecidableEq, Repr

/-- Where the render thread is. -/
inductive Router (Frame AudioFrame : Type)
  | idle
  /-- Behind the load of the pointer. -/
  | loaded (item : Item Frame AudioFrame) (sink : Option ℕ)
  /-- Behind `IsRunning`. -/
  | running (item : Item Frame AudioFrame) (sink : ℕ)
  deriving DecidableEq, Repr

/-- The item in the render thread's hand. -/
def Router.item : Router Frame AudioFrame → Option (Item Frame AudioFrame)
  | .idle => none
  | .loaded item _ => some item
  | .running item _ => some item

/-- The sink in the render thread's hand. -/
def Router.sink : Router Frame AudioFrame → Option ℕ
  | .idle => none
  | .loaded _ sink => sink
  | .running _ sink => some sink

/-- `OutputBus`. -/
structure OutputBus (Frame AudioFrame : Type) where
  sink : Option ℕ := none
  ownedSink : Option ℕ := none
  discardsVideo : ℕ := 0
  discardsAudio : ℕ := 0
  control : Control := .idle
  router : Router Frame AudioFrame := .idle
  sinks : List SinkState := []
  routed : List (Item Frame AudioFrame) := []
  outcomes : List (Item Frame AudioFrame × Outcome) := []
  answers : List OutputBusResult := []
  deriving DecidableEq, Repr

/-- What happens to a bus. `attach` carries the name of the sink and whether it starts, none for a null
pointer; `sinkStatus` is a sink's own threads. -/
inductive BusAction (Frame AudioFrame : Type)
  | attach (sink : Option (String × Bool))
  | publish
  | detach
  | stopSink
  | destroySink
  | route (item : Item Frame AudioFrame)
  | check
  | consume
  | sinkStatus (sink : ℕ) (running : Bool)
  deriving DecidableEq, Repr

namespace OutputBus

/-- The name of a sink. -/
def nameOf (bus : OutputBus Frame AudioFrame) (sink : ℕ) : String :=
  (bus.sinks[sink]?.map SinkState.name).getD ""

def answer (bus : OutputBus Frame AudioFrame) (success : Bool) (message : String) :
    OutputBus Frame AudioFrame :=
  { bus with answers := bus.answers ++ [⟨success, message⟩] }

/-- `AttachSink` up to the publication. -/
def attachSink (bus : OutputBus Frame AudioFrame) :
    Option (String × Bool) → OutputBus Frame AudioFrame
  | none => bus.answer false "Cannot attach null sink"
  | some (name, starts) =>
    if bus.sink ≠ none then
      bus.answer false
        ("PROTOCOL ERROR: Sink already attached. " ++
          "Core must call DetachSink() before attaching a new sink (OB-001)")
    else if starts = false then bus.answer false ("Failed to start sink: " ++ name)
    else
      { bus with
        ownedSink := some bus.sinks.length
        control := .attaching bus.sinks.length
        sinks := bus.sinks ++ [⟨name, true, false⟩] }

/-- `DetachSink` up to the null store. -/
def detachSink (bus : OutputBus Frame AudioFrame) : OutputBus Frame AudioFrame :=
  match bus.sink with
  | none => bus.answer true "No sink attached (idempotent)"
  | some current => { bus with sink := none, control := .hidden current }

/-- A change of one sink. -/
def withSink (bus : OutputBus Frame AudioFrame) (sink : ℕ) (change : SinkState → SinkState) :
    OutputBus Frame AudioFrame :=
  { bus with sinks := bus.sinks.modify sink change }

/-- A routing call returns. -/
def finish (bus : OutputBus Frame AudioFrame) (item : Item Frame AudioFrame) (outcome : Outcome) :
    OutputBus Frame AudioFrame :=
  { bus with router := .idle, outcomes := bus.outcomes ++ [(item, outcome)] }

/-- The discard of an item. -/
def discard (bus : OutputBus Frame AudioFrame) (item : Item Frame AudioFrame) :
    OutputBus Frame AudioFrame :=
  { bus.finish item .discarded with
    discardsVideo := bus.discardsVideo + (if item.isVideo then 1 else 0)
    discardsAudio := bus.discardsAudio + (if item.isVideo then 0 else 1) }

/-- `sink && sink->IsRunning()`. -/
def checkSink (bus : OutputBus Frame AudioFrame) (item : Item Frame AudioFrame) :
    Option ℕ → Option (OutputBus Frame AudioFrame)
  | none => some (bus.discard item)
  | some sink =>
    bus.sinks[sink]?.map fun state =>
      if state.freed then bus.finish item (.freed sink)
      else if state.running then { bus with router := .running item sink }
      else bus.discard item

/-- A step. -/
def step (bus : OutputBus Frame AudioFrame) :
    BusAction Frame AudioFrame → Option (OutputBus Frame AudioFrame)
  | .attach sink =>
    match bus.control with
    | .idle => some (bus.attachSink sink)
    | _ => none
  | .publish =>
    match bus.control with
    | .attaching sink =>
      some { bus.answer true ("Sink attached: " ++ bus.nameOf sink) with
        sink := some sink, control := .idle }
    | _ => none
  | .detach =>
    match bus.control with
    | .idle => some bus.detachSink
    | _ => none
  | .stopSink =>
    match bus.control with
    | .hidden sink =>
      some { bus.withSink sink (fun state => { state with running := false }) with
        control := .stopped sink }
    | _ => none
  | .destroySink =>
    match bus.control with
    | .stopped sink =>
      some { (bus.withSink sink fun state => { state with freed := true }).answer true
          ("Sink detached: " ++ bus.nameOf sink) with
        ownedSink := none, control := .idle }
    | _ => none
  | .route item =>
    match bus.router with
    | .idle => some { bus with router := .loaded item bus.sink, routed := bus.routed ++ [item] }
    | _ => none
  | .check =>
    match bus.router with
    | .loaded item sink => bus.checkSink item sink
    | _ => none
  | .consume =>
    match bus.router with
    | .running item sink =>
      bus.sinks[sink]?.map fun state =>
        bus.finish item (if state.freed then .freed sink else .consumed sink)
    | _ => none
  | .sinkStatus sink running =>
    bus.sinks[sink]?.bind fun state =>
      if state.freed then none
      else some (bus.withSink sink fun state => { state with running := running })

end OutputBus

end Bus

/-! ### Who owns the sinks -/

section Ownership

variable {Frame AudioFrame : Type}

/-- The sink in the hand of the thread that holds the mutex. -/
def Control.sink : Control → Option ℕ
  | .idle => none
  | .attaching sink => some sink
  | .hidden sink => some sink
  | .stopped sink => some sink

namespace OutputBus

/-- **Who owns the sinks**: the newest is owned, the others are freed, and only an owned one is
published. -/
structure Owned (bus : OutputBus Frame AudioFrame) : Prop where
  published : bus.control = .idle → bus.sink = bus.ownedSink
  inHand : ∀ sink, bus.control.sink = some sink → bus.sink = none ∧ bus.ownedSink = some sink
  newest : ∀ sink, bus.ownedSink = some sink → sink + 1 = bus.sinks.length
  alive : ∀ sink state, bus.sinks[sink]? = some state →
    (state.freed = false ↔ bus.ownedSink = some sink)
  held : ∀ sink, bus.router.sink = some sink → sink < bus.sinks.length

theorem owned_init : (({} : OutputBus Frame AudioFrame)).Owned where
  published := fun _ => rfl
  inHand := fun _ held => nomatch held
  newest := fun _ owned => nomatch owned
  alive := fun _ _ here => nomatch here
  held := fun _ held => nomatch held

variable {bus next : OutputBus Frame AudioFrame}

/-- A published sink is the newest, and not freed. -/
theorem Owned.sink_alive (owned : bus.Owned) {sink : ℕ} (published : bus.sink = some sink) :
    bus.ownedSink = some sink ∧ sink + 1 = bus.sinks.length := by
  have free : bus.control = .idle := by
    cases holder : bus.control with
    | idle => rfl
    | attaching other | hidden other | stopped other =>
      have hidden := (owned.inHand other (by rw [holder]; rfl)).1
      rw [published] at hidden
      cases hidden
  have isOwned := (owned.published free).symm.trans published
  exact ⟨isOwned, owned.newest sink isOwned⟩

/-- A change that frees nothing. -/
theorem Owned.alive_modify (owned : bus.Owned) (place : ℕ) {change : SinkState → SinkState}
    (frees : ∀ state, (change state).freed = state.freed) (sink : ℕ) (state : SinkState)
    (here : (bus.sinks.modify place change)[sink]? = some state) :
    state.freed = false ↔ bus.ownedSink = some sink := by
  rw [List.getElem?_modify] at here
  obtain ⟨before, there, rfl⟩ := Option.map_eq_some_iff.mp here
  rw [← owned.alive sink before there]
  split_ifs
  · rw [frees]
  · rfl

/-- The render thread's moves touch no sink. -/
theorem Owned.of_router (owned : bus.Owned) (router : Router Frame AudioFrame)
    (held : ∀ sink, router.sink = some sink → sink < bus.sinks.length)
    (same : next.sink = bus.sink ∧ next.ownedSink = bus.ownedSink ∧ next.control = bus.control ∧
      next.sinks = bus.sinks ∧ next.router = router) : next.Owned := by
  obtain ⟨sameSink, sameOwned, sameControl, sameSinks, isRouter⟩ := same
  refine ⟨?_, ?_, ?_, ?_, ?_⟩
  · rw [sameControl, sameSink, sameOwned]
    exact owned.published
  · rw [sameControl, sameSink, sameOwned]
    exact owned.inHand
  · rw [sameOwned, sameSinks]
    exact owned.newest
  · rw [sameOwned, sameSinks]
    exact owned.alive
  · rw [isRouter, sameSinks]
    exact held

/-- `AttachSink` starts the newest sink where none is published. -/
theorem Owned.attachSink (owned : bus.Owned) (free : bus.control = .idle)
    (sink : Option (String × Bool)) : (bus.attachSink sink).Owned := by
  unfold OutputBus.attachSink
  split
  · exact { owned with }
  · rename_i name starts
    split_ifs with attached fails
    · exact { owned with }
    · exact { owned with }
    · rw [ne_eq, not_not] at attached
      have noneOwned : bus.ownedSink = none := (owned.published free).symm.trans attached
      refine ⟨nofun, ?_, ?_, ?_, ?_⟩
      · intro place held
        cases held
        exact ⟨attached, rfl⟩
      · intro place isNew
        cases isNew
        show bus.sinks.length + 1 = (bus.sinks ++ [_]).length
        rw [List.length_append, List.length_singleton]
      · intro place state here
        rcases Nat.lt_or_ge place bus.sinks.length with old | new
        · rw [List.getElem?_append_left old] at here
          rw [owned.alive place state here, noneOwned]
          exact ⟨nofun, fun same => absurd (Option.some_inj.mp same) (by omega)⟩
        · rw [List.getElem?_append_right new] at here
          have first : place = bus.sinks.length := by
            have inside := (List.getElem?_eq_some_iff.mp here).1
            rw [List.length_singleton] at inside
            omega
          subst first
          rw [Nat.sub_self] at here
          cases here
          exact ⟨fun _ => rfl, fun _ => rfl⟩
      · intro place held
        have inside := owned.held place held
        show place < (bus.sinks ++ _).length
        rw [List.length_append]
        exact Nat.lt_add_right _ inside

/-- **Every step keeps the ownership.** -/
theorem owned_step {action : BusAction Frame AudioFrame} (owned : bus.Owned)
    (taken : bus.step action = some next) : next.Owned := by
  cases action with
  | attach sink =>
    simp only [step] at taken
    split at taken
    case h_2 => cases taken
    case h_1 free =>
      cases taken
      exact owned.attachSink free sink
  | publish =>
    simp only [step] at taken
    split at taken
    case h_2 => cases taken
    case h_1 sink attaching =>
      cases taken
      have isOwned := (owned.inHand sink (by rw [attaching]; rfl)).2
      exact { owned with
        published := fun _ => isOwned.symm
        inHand := fun _ held => nomatch held }
  | detach =>
    simp only [step] at taken
    split at taken
    case h_2 => cases taken
    case h_1 free =>
      cases taken
      unfold detachSink
      split
      · exact { owned with }
      · rename_i current published
        exact { owned with
          published := nofun
          inHand := fun sink held => by
            cases held
            exact ⟨rfl, (owned.sink_alive published).1⟩ }
  | stopSink =>
    simp only [step] at taken
    split at taken
    case h_2 => cases taken
    case h_1 sink hidden =>
      cases taken
      exact {
        published := nofun
        inHand := fun place held => by
          cases held
          exact owned.inHand sink (by rw [hidden]; rfl)
        newest := fun place isOwned => by
          show place + 1 = (bus.sinks.modify sink _).length
          rw [List.length_modify]
          exact owned.newest place isOwned
        alive := owned.alive_modify sink fun _ => rfl
        held := fun place held => by
          show place < (bus.sinks.modify sink _).length
          rw [List.length_modify]
          exact owned.held place held }
  | destroySink =>
    simp only [step] at taken
    split at taken
    case h_2 => cases taken
    case h_1 sink stopped =>
      cases taken
      have isOwned := (owned.inHand sink (by rw [stopped]; rfl)).2
      refine ⟨fun _ => (owned.inHand sink (by rw [stopped]; rfl)).1, nofun, nofun, ?_, ?_⟩
      · intro place state here
        change (bus.sinks.modify sink _)[place]? = some state at here
        rw [List.getElem?_modify] at here
        obtain ⟨before, there, rfl⟩ := Option.map_eq_some_iff.mp here
        refine ⟨fun alive => ?_, nofun⟩
        split_ifs at alive with same
        rw [owned.alive place before there, isOwned] at alive
        exact absurd (Option.some_inj.mp alive) same
      · intro place held
        show place < (bus.sinks.modify sink _).length
        rw [List.length_modify]
        exact owned.held place held
  | route item =>
    simp only [step] at taken
    split at taken
    case h_2 => cases taken
    case h_1 =>
      cases taken
      refine owned.of_router (.loaded item bus.sink) (fun sink published => ?_)
        ⟨rfl, rfl, rfl, rfl, rfl⟩
      have newest := (owned.sink_alive published).2
      omega
  | check =>
    simp only [step] at taken
    split at taken
    case h_2 => cases taken
    case h_1 item sink loaded =>
      cases sink with
      | none =>
        cases taken
        exact owned.of_router .idle nofun ⟨rfl, rfl, rfl, rfl, rfl⟩
      | some sink =>
        obtain ⟨state, here, rfl⟩ := Option.map_eq_some_iff.mp taken
        split_ifs
        · exact owned.of_router .idle nofun ⟨rfl, rfl, rfl, rfl, rfl⟩
        · exact owned.of_router (.running item sink) (fun place held => by
            cases held
            exact (List.getElem?_eq_some_iff.mp here).1) ⟨rfl, rfl, rfl, rfl, rfl⟩
        · exact owned.of_router .idle nofun ⟨rfl, rfl, rfl, rfl, rfl⟩
  | consume =>
    simp only [step] at taken
    split at taken
    case h_2 => cases taken
    case h_1 item sink running =>
      obtain ⟨state, here, rfl⟩ := Option.map_eq_some_iff.mp taken
      exact owned.of_router .idle nofun ⟨rfl, rfl, rfl, rfl, rfl⟩
  | sinkStatus sink running =>
    simp only [step] at taken
    obtain ⟨state, here, changed⟩ := Option.bind_eq_some_iff.mp taken
    split_ifs at changed
    cases changed
    exact { owned with
      newest := fun place isOwned => by
        show place + 1 = (bus.sinks.modify sink _).length
        rw [List.length_modify]
        exact owned.newest place isOwned
      alive := owned.alive_modify sink fun _ => rfl
      held := fun place held => by
        show place < (bus.sinks.modify sink _).length
        rw [List.length_modify]
        exact owned.held place held }

end OutputBus

end Ownership

/-! ### What becomes of the items -/

section Items

variable {Frame AudioFrame : Type}

/-- The sink that consumed an item. -/
def Outcome.consumer : Outcome → Option ℕ
  | .consumed sink => some sink
  | _ => none

/-- Whether an item was discarded. -/
def Outcome.isDiscard : Outcome → Bool
  | .discarded => true
  | _ => false

/-- The sinks that consumed an item, one after the other. -/
def consumers (outcomes : List (Item Frame AudioFrame × Outcome)) : List ℕ :=
  outcomes.filterMap fun outcome => outcome.2.consumer

/-- The discarded items of one kind. -/
def discards (video : Bool) (outcomes : List (Item Frame AudioFrame × Outcome)) : ℕ :=
  outcomes.countP fun outcome => outcome.2.isDiscard && (outcome.1.isVideo == video)

namespace OutputBus

/-- **What becomes of the items**: each has one outcome, in the order in which they were routed, the
counters count the discards, and no sink consumes one after a later sink has. -/
structure Accounted (bus : OutputBus Frame AudioFrame) : Prop where
  everyItem : bus.routed = bus.outcomes.map Prod.fst ++ bus.router.item.toList
  video : bus.discardsVideo = discards true bus.outcomes
  audio : bus.discardsAudio = discards false bus.outcomes
  inOrder : (consumers bus.outcomes).Pairwise (· ≤ ·)
  past : ∀ sink ∈ consumers bus.outcomes, sink < bus.sinks.length ∧
    ∀ current, bus.router.sink = some current → sink ≤ current

theorem accounted_init : (({} : OutputBus Frame AudioFrame)).Accounted where
  everyItem := rfl
  video := rfl
  audio := rfl
  inOrder := List.Pairwise.nil
  past := fun _ member => absurd member List.not_mem_nil

variable {bus next : OutputBus Frame AudioFrame}

/-- What touches neither the render thread nor the outcomes, and forgets no sink. -/
theorem Accounted.of_control (accounted : bus.Accounted)
    (same : next.router = bus.router ∧ next.routed = bus.routed ∧ next.outcomes = bus.outcomes ∧
      next.discardsVideo = bus.discardsVideo ∧ next.discardsAudio = bus.discardsAudio)
    (keeps : bus.sinks.length ≤ next.sinks.length) : next.Accounted := by
  obtain ⟨sameRouter, sameRouted, sameOutcomes, sameVideo, sameAudio⟩ := same
  refine ⟨?_, ?_, ?_, ?_, ?_⟩
  · rw [sameRouted, sameOutcomes, sameRouter]
    exact accounted.everyItem
  · rw [sameVideo, sameOutcomes]
    exact accounted.video
  · rw [sameAudio, sameOutcomes]
    exact accounted.audio
  · rw [sameOutcomes]
    exact accounted.inOrder
  · rw [sameOutcomes, sameRouter]
    exact fun sink member =>
      ⟨lt_of_lt_of_le (accounted.past sink member).1 keeps, (accounted.past sink member).2⟩

/-- The item in hand gets an outcome that is no discard. -/
theorem Accounted.finish (accounted : bus.Accounted) {item : Item Frame AudioFrame}
    (inHand : bus.router.item = some item) {outcome : Outcome} (kept : outcome.isDiscard = false)
    (current : ∀ sink, outcome.consumer = some sink →
      bus.router.sink = some sink ∧ sink < bus.sinks.length) :
    (bus.finish item outcome).Accounted := by
  have counts : ∀ video, discards video (bus.outcomes ++ [(item, outcome)]) =
      discards video bus.outcomes := fun video => by
    simp [discards, List.countP_append, kept]
  refine ⟨?_, ?_, ?_, ?_, ?_⟩
  · show bus.routed = (bus.outcomes ++ [(item, outcome)]).map Prod.fst ++ []
    rw [accounted.everyItem, inHand, List.map_append, List.append_nil]
    rfl
  · exact accounted.video.trans (counts true).symm
  · exact accounted.audio.trans (counts false).symm
  · show (consumers (bus.outcomes ++ [(item, outcome)])).Pairwise (· ≤ ·)
    rw [consumers, List.filterMap_append, List.pairwise_append]
    refine ⟨accounted.inOrder, ?_, fun earlier past sink member => ?_⟩
    · rw [List.filterMap_cons]
      split
      · exact List.Pairwise.nil
      · exact List.pairwise_singleton _ _
    · obtain ⟨_, isLast, consumed⟩ := List.mem_filterMap.mp member
      rw [List.mem_singleton.mp isLast] at consumed
      exact (accounted.past earlier past).2 sink (current sink consumed).1
  · intro sink member
    refine ⟨?_, nofun⟩
    obtain ⟨entry, isEntry, consumed⟩ := List.mem_filterMap.mp member
    rcases List.mem_append.mp isEntry with old | last
    · exact (accounted.past sink (List.mem_filterMap.mpr ⟨entry, old, consumed⟩)).1
    · rw [List.mem_singleton.mp last] at consumed
      exact (current sink consumed).2

/-- The item in hand is discarded, and counted. -/
theorem Accounted.discard (accounted : bus.Accounted) {item : Item Frame AudioFrame}
    (inHand : bus.router.item = some item) : (bus.discard item).Accounted := by
  have consumersSame : consumers (bus.outcomes ++ [(item, Outcome.discarded)]) = consumers bus.outcomes := by
    rw [consumers, List.filterMap_append]
    exact List.append_nil _
  have counts : ∀ video, discards video (bus.outcomes ++ [(item, Outcome.discarded)]) =
      discards video bus.outcomes + if item.isVideo = video then 1 else 0 := fun video => by
    rw [discards, List.countP_append, List.countP_singleton]
    simp [discards, Outcome.isDiscard]
  refine ⟨?_, ?_, ?_, ?_, ?_⟩
  · show bus.routed = (bus.outcomes ++ [(item, Outcome.discarded)]).map Prod.fst ++ []
    rw [accounted.everyItem, inHand, List.map_append, List.append_nil]
    rfl
  · show bus.discardsVideo + _ = _
    rw [accounted.video]
    exact (counts true).symm
  · show bus.discardsAudio + _ = discards false (bus.outcomes ++ [(item, Outcome.discarded)])
    rw [accounted.audio, counts false]
    cases item.isVideo <;> rfl
  · show (consumers (bus.outcomes ++ [(item, Outcome.discarded)])).Pairwise (· ≤ ·)
    rw [consumersSame]
    exact accounted.inOrder
  · intro sink member
    change sink ∈ consumers (bus.outcomes ++ [(item, Outcome.discarded)]) at member
    rw [consumersSame] at member
    exact ⟨(accounted.past sink member).1, nofun⟩

/-- **Every step keeps the account.** -/
theorem accounted_step {action : BusAction Frame AudioFrame} (owned : bus.Owned)
    (accounted : bus.Accounted) (taken : bus.step action = some next) : next.Accounted := by
  cases action with
  | attach sink =>
    simp only [step] at taken
    split at taken
    case h_2 => cases taken
    case h_1 =>
      cases taken
      unfold attachSink
      split
      · exact { accounted with }
      · split_ifs
        · exact { accounted with }
        · exact { accounted with }
        · refine accounted.of_control ⟨rfl, rfl, rfl, rfl, rfl⟩ ?_
          show bus.sinks.length ≤ (bus.sinks ++ _).length
          rw [List.length_append]
          exact Nat.le_add_right _ _
  | publish =>
    simp only [step] at taken
    split at taken
    case h_2 => cases taken
    case h_1 =>
      cases taken
      exact { accounted with }
  | detach =>
    simp only [step] at taken
    split at taken
    case h_2 => cases taken
    case h_1 =>
      cases taken
      unfold detachSink
      split
      · exact { accounted with }
      · exact { accounted with }
  | stopSink | destroySink =>
    simp only [step] at taken
    split at taken
    case h_2 => cases taken
    case h_1 sink _ =>
      cases taken
      refine accounted.of_control ⟨rfl, rfl, rfl, rfl, rfl⟩ ?_
      show bus.sinks.length ≤ (bus.sinks.modify sink _).length
      rw [List.length_modify]
  | route item =>
    simp only [step] at taken
    split at taken
    case h_2 => cases taken
    case h_1 idle =>
      cases taken
      refine { accounted with everyItem := ?_, past := fun sink member => ⟨?_, fun current published => ?_⟩ }
      · show bus.routed ++ [item] = bus.outcomes.map Prod.fst ++ [item]
        rw [accounted.everyItem, idle]
        exact congrArg (· ++ [item]) (List.append_nil _)
      · exact (accounted.past sink member).1
      · have newest := (owned.sink_alive published).2
        have inside := (accounted.past sink member).1
        omega
  | check =>
    simp only [step] at taken
    split at taken
    case h_2 => cases taken
    case h_1 item sink loaded =>
      have inHand : bus.router.item = some item := by rw [loaded]; rfl
      cases sink with
      | none =>
        cases taken
        exact accounted.discard inHand
      | some sink =>
        obtain ⟨state, here, rfl⟩ := Option.map_eq_some_iff.mp taken
        split_ifs
        · exact accounted.finish inHand rfl nofun
        · refine { accounted with everyItem := ?_, past := fun earlier member => ⟨?_, ?_⟩ }
          · rw [accounted.everyItem, inHand]
            rfl
          · exact (accounted.past earlier member).1
          · rintro current ⟨⟩
            exact (accounted.past earlier member).2 sink (by rw [loaded]; rfl)
        · exact accounted.discard inHand
  | consume =>
    simp only [step] at taken
    split at taken
    case h_2 => cases taken
    case h_1 item sink running =>
      obtain ⟨state, here, rfl⟩ := Option.map_eq_some_iff.mp taken
      have inHand : bus.router.item = some item := by rw [running]; rfl
      split_ifs
      · exact accounted.finish inHand rfl nofun
      · refine accounted.finish inHand rfl fun current consumed => ?_
        cases consumed
        exact ⟨by rw [running]; rfl, (List.getElem?_eq_some_iff.mp here).1⟩
  | sinkStatus sink running =>
    simp only [step] at taken
    obtain ⟨state, here, changed⟩ := Option.bind_eq_some_iff.mp taken
    split_ifs at changed
    cases changed
    refine accounted.of_control ⟨rfl, rfl, rfl, rfl, rfl⟩ ?_
    show bus.sinks.length ≤ (bus.sinks.modify sink _).length
    rw [List.length_modify]

end OutputBus

end Items

/-! ### Freed sinks -/

section Freed

variable {Frame AudioFrame : Type}

namespace OutputBus

/-- Whether the sink that a step destroys is in the render thread's hand. -/
def Apart (bus : OutputBus Frame AudioFrame) : BusAction Frame AudioFrame → Prop
  | .destroySink => bus.router.sink = none ∨ bus.router.sink ≠ bus.ownedSink
  | _ => True

instance (bus : OutputBus Frame AudioFrame) :
    ∀ action : BusAction Frame AudioFrame, Decidable (bus.Apart action)
  | .destroySink =>
    inferInstanceAs (Decidable (bus.router.sink = none ∨ bus.router.sink ≠ bus.ownedSink))
  | .attach _ | .publish | .detach | .stopSink | .route _ | .check | .consume | .sinkStatus _ _ =>
    inferInstanceAs (Decidable True)

/-- An item was given to a sink that had been freed. -/
def UsedFreed (bus : OutputBus Frame AudioFrame) : Prop :=
  ∃ item sink, (item, Outcome.freed sink) ∈ bus.outcomes

/-- Nothing freed is used or about to be: what the render thread holds is still owned. -/
structure Safe (bus : OutputBus Frame AudioFrame) : Prop where
  unused : ¬ bus.UsedFreed
  held : ∀ sink, bus.router.sink = some sink → bus.ownedSink = some sink

theorem safe_init : (({} : OutputBus Frame AudioFrame)).Safe where
  unused := by
    rintro ⟨_, _, member⟩
    exact absurd member List.not_mem_nil
  held := fun _ held => nomatch held

variable {bus next : OutputBus Frame AudioFrame}

/-- What the render thread holds is not freed. -/
theorem Safe.not_freed (safe : bus.Safe) (owned : bus.Owned) {sink : ℕ}
    (held : bus.router.sink = some sink) {state : SinkState}
    (here : bus.sinks[sink]? = some state) : state.freed = false :=
  (owned.alive sink state here).mpr (safe.held sink held)

/-- What touches neither the render thread, the outcomes nor the ownership. -/
theorem Safe.of_control (safe : bus.Safe) (same : next.outcomes = bus.outcomes ∧
    next.router = bus.router ∧ next.ownedSink = bus.ownedSink) : next.Safe := by
  obtain ⟨sameOutcomes, sameRouter, sameOwned⟩ := same
  refine ⟨?_, ?_⟩
  · unfold UsedFreed
    rw [sameOutcomes]
    exact safe.unused
  · rw [sameRouter, sameOwned]
    exact safe.held

/-- An outcome that is no use of a freed sink. -/
theorem Safe.finish (safe : bus.Safe) (item : Item Frame AudioFrame) (outcome : Outcome)
    (fine : ∀ sink, outcome ≠ .freed sink) : (bus.finish item outcome).Safe := by
  refine ⟨?_, nofun⟩
  rintro ⟨used, sink, member⟩
  rcases List.mem_append.mp member with old | last
  · exact safe.unused ⟨used, sink, old⟩
  · exact fine sink (congrArg Prod.snd (List.mem_singleton.mp last)).symm

/-- **A step that meets the condition** leaves nothing freed in the render thread's hand. -/
theorem safe_step {action : BusAction Frame AudioFrame} (owned : bus.Owned) (safe : bus.Safe)
    (apart : bus.Apart action) (taken : bus.step action = some next) : next.Safe := by
  cases action with
  | attach sink =>
    simp only [step] at taken
    split at taken
    case h_2 => cases taken
    case h_1 free =>
      cases taken
      unfold attachSink
      split
      · exact safe.of_control ⟨rfl, rfl, rfl⟩
      · split_ifs with attached
        · exact safe.of_control ⟨rfl, rfl, rfl⟩
        · exact safe.of_control ⟨rfl, rfl, rfl⟩
        · -- where none is published none is owned, so the render thread holds none
          rw [ne_eq, not_not] at attached
          refine ⟨safe.unused, fun sink held => ?_⟩
          have isOwned := safe.held sink held
          rw [← owned.published free, attached] at isOwned
          cases isOwned
  | publish | stopSink =>
    simp only [step] at taken
    split at taken
    case h_2 => cases taken
    case h_1 =>
      cases taken
      exact safe.of_control ⟨rfl, rfl, rfl⟩
  | detach =>
    simp only [step] at taken
    split at taken
    case h_2 => cases taken
    case h_1 =>
      cases taken
      unfold detachSink
      split
      · exact safe.of_control ⟨rfl, rfl, rfl⟩
      · exact safe.of_control ⟨rfl, rfl, rfl⟩
  | destroySink =>
    simp only [step] at taken
    split at taken
    case h_2 => cases taken
    case h_1 =>
      cases taken
      refine ⟨safe.unused, fun sink held => ?_⟩
      have isOwned := safe.held sink held
      rcases apart with none | other
      · exact absurd (none.symm.trans held) nofun
      · exact absurd (Eq.trans held isOwned.symm) other
  | route item =>
    simp only [step] at taken
    split at taken
    case h_2 => cases taken
    case h_1 =>
      cases taken
      exact ⟨safe.unused, fun sink published => (owned.sink_alive published).1⟩
  | check =>
    simp only [step] at taken
    split at taken
    case h_2 => cases taken
    case h_1 item sink loaded =>
      cases sink with
      | none =>
        cases taken
        exact (safe.finish item .discarded nofun).of_control ⟨rfl, rfl, rfl⟩
      | some sink =>
        have held : bus.router.sink = some sink := by rw [loaded]; rfl
        obtain ⟨state, here, rfl⟩ := Option.map_eq_some_iff.mp taken
        rw [if_neg (by rw [safe.not_freed owned held here]; decide)]
        split_ifs
        · refine ⟨safe.unused, ?_⟩
          rintro current ⟨⟩
          exact safe.held sink held
        · exact (safe.finish item .discarded nofun).of_control ⟨rfl, rfl, rfl⟩
  | consume =>
    simp only [step] at taken
    split at taken
    case h_2 => cases taken
    case h_1 item sink running =>
      have held : bus.router.sink = some sink := by rw [running]; rfl
      obtain ⟨state, here, rfl⟩ := Option.map_eq_some_iff.mp taken
      rw [if_neg (by rw [safe.not_freed owned held here]; decide)]
      exact safe.finish item (.consumed sink) nofun
  | sinkStatus sink running =>
    simp only [step] at taken
    obtain ⟨state, here, changed⟩ := Option.bind_eq_some_iff.mp taken
    split_ifs at changed
    cases changed
    exact safe.of_control ⟨rfl, rfl, rfl⟩

/-- A freed sink that is asked whether it runs. -/
theorem check_freed {item : Item Frame AudioFrame} {sink : ℕ} {state : SinkState}
    (loaded : bus.router = .loaded item (some sink)) (here : bus.sinks[sink]? = some state)
    (freed : state.freed = true) : bus.step .check = some (bus.finish item (.freed sink)) := by
  simp only [step, loaded, checkSink, here, Option.map_some, freed, if_true]

/-- A freed sink that is given an item. -/
theorem consume_freed {item : Item Frame AudioFrame} {sink : ℕ} {state : SinkState}
    (running : bus.router = .running item sink) (here : bus.sinks[sink]? = some state)
    (freed : state.freed = true) : bus.step .consume = some (bus.finish item (.freed sink)) := by
  simp only [step, running, here, Option.map_some, freed, if_true]

theorem usedFreed_finish (item : Item Frame AudioFrame) (sink : ℕ) :
    (bus.finish item (.freed sink)).UsedFreed :=
  ⟨item, sink, List.mem_append_right _ (List.mem_singleton.mpr rfl)⟩

/-- **A sink that is destroyed in the render thread's hand** is used by its next step. -/
theorem used_of_destroyed (owned : bus.Owned) (destroyed : bus.step .destroySink = some next)
    (meets : ¬ bus.Apart .destroySink) :
    ∃ action after, (action = .check ∨ action = .consume) ∧ next.step action = some after ∧
      after.UsedFreed := by
  simp only [step] at destroyed
  split at destroyed
  case h_2 => cases destroyed
  case h_1 sink stopped =>
    cases destroyed
    have isOwned := (owned.inHand sink (by rw [stopped]; rfl)).2
    have held : bus.router.sink = some sink := by
      rw [Apart, not_or, not_not] at meets
      exact meets.2.trans isOwned
    have inside := owned.held sink held
    have freed : (bus.sinks.modify sink fun state => { state with freed := true })[sink]? =
        some { bus.sinks[sink] with freed := true } := by
      rw [List.getElem?_modify_eq, List.getElem?_eq_getElem inside]
      rfl
    cases holding : bus.router with
    | idle =>
      rw [holding] at held
      cases held
    | loaded item current =>
      rw [holding] at held
      cases held
      exact ⟨.check, _, .inl rfl, check_freed holding freed rfl, usedFreed_finish item sink⟩
    | running item current =>
      rw [holding] at held
      cases held
      exact ⟨.consume, _, .inr rfl, consume_freed holding freed rfl, usedFreed_finish item sink⟩

end OutputBus

end Freed

/-! ### Runs -/

section Runs

variable {Frame AudioFrame : Type}

namespace OutputBus

/-- Who owns the sinks, and what becomes of the items, after every run. -/
theorem accounted_run {actions : List (BusAction Frame AudioFrame)}
    {final : OutputBus Frame AudioFrame} (ran : runActions step {} actions = some final) :
    final.Owned ∧ final.Accounted :=
  invariant_along step (fun bus : OutputBus Frame AudioFrame => bus.Owned ∧ bus.Accounted)
    (fun _ _ => True)
    (fun _ _ _ here _ taken => ⟨owned_step here.1 taken, accounted_step here.1 here.2 taken⟩)
    actions ⟨owned_init, accounted_init⟩ (along_of_forall step (fun _ _ => trivial) actions _) ran

end OutputBus

/-- **Freed sinks.** A run in which no sink is destroyed that the render thread has in hand, uses none
that is freed; and where one is, the next step of the render thread does. -/
theorem used_after_free {actions : List (BusAction Frame AudioFrame)}
    {final : OutputBus Frame AudioFrame}
    (ran : runActions OutputBus.step {} actions = some final) :
    (Along OutputBus.step OutputBus.Apart {} actions → ¬ final.UsedFreed) ∧
      ∀ next, ¬ final.Apart .destroySink → final.step .destroySink = some next →
        ∃ action after, (action = .check ∨ action = .consume) ∧ next.step action = some after ∧
          after.UsedFreed := by
  refine ⟨fun along => ?_, fun next meets destroyed =>
    OutputBus.used_of_destroyed (OutputBus.accounted_run ran).1 destroyed meets⟩
  exact (invariant_along OutputBus.step
    (fun bus : OutputBus Frame AudioFrame => bus.Owned ∧ bus.Safe) OutputBus.Apart
    (fun _ _ _ here apart taken =>
      ⟨OutputBus.owned_step here.1 taken, OutputBus.safe_step here.1 here.2 apart taken⟩)
    actions ⟨OutputBus.owned_init, OutputBus.safe_init⟩ along ran).2.unused

/-- A `DetachSink` that comes after the use of the pointer, and one that comes between its load and its
use. -/
theorem used_after_detach :
    (∃ final : OutputBus ℕ ℕ,
      runActions OutputBus.step {}
          [.attach (some ("sink", true)), .publish, .route (.video 1), .check, .detach, .consume,
            .stopSink, .destroySink, .route (.video 2), .check] = some final ∧
        ¬ final.UsedFreed) ∧
    ∃ final next after : OutputBus ℕ ℕ, ∃ action,
      runActions OutputBus.step {}
          [.attach (some ("sink", true)), .publish, .route (.video 1), .detach, .stopSink] =
        some final ∧ final.step .destroySink = some next ∧ next.step action = some after ∧
          after.UsedFreed := by
  constructor
  · obtain ⟨final, ran, -⟩ := exists_run OutputBus.step ({} : OutputBus ℕ ℕ)
      [.attach (some ("sink", true)), .publish, .route (.video 1), .check, .detach, .consume,
        .stopSink, .destroySink, .route (.video 2), .check]
      (fun final => final.discardsVideo = 1) (by decide)
    exact ⟨final, ran, (used_after_free ran).1 (by decide)⟩
  · obtain ⟨final, ran, meets, goes⟩ := exists_run OutputBus.step ({} : OutputBus ℕ ℕ)
      [.attach (some ("sink", true)), .publish, .route (.video 1), .detach, .stopSink]
      (fun final => ¬ final.Apart .destroySink ∧ (final.step .destroySink).isSome) (by decide)
    obtain ⟨next, destroyed⟩ := Option.isSome_iff_exists.mp goes
    obtain ⟨action, after, _, moved, used⟩ := (used_after_free ran).2 next meets destroyed
    exact ⟨final, next, after, action, ran, destroyed, moved, used⟩

end Runs

end Retrovue.Air.Output
