/-
**The seam preparer between its threads** (`SeamPreparer.cpp`).

* `SeamWork`: the queue, the worker between its atomic steps, the two result slots, the cancel flag and
  every `Cancel` that is in progress, with what was served, published, lost and overwritten;
* `SeamWork.step`: submissions, cancels in their parts, takes, and the worker;
* `erase_submit`, `erase_wake`, `erase_publish`: between cancels this is `SeamPreparer`;
* `SeamWork.Kept`: what every run keeps: the queue ascends, a returned `Cancel` hides every earlier
  request, and only a later cancel loses one;
* `SeamWork.Delivered`: equal frames in submission order, no cancelled segment visible, no result
  overwritten unseen;
* `drains`: outside a `Cancel` the worker publishes all that is queued;
* `preparer_delivers`: all of it over every interleaving.
-/

import Mathlib
import Retrovue.Foundation.Transition
import Retrovue.Foundation.Sorting
import Retrovue.Air.Blockplan.SeamPreparer

namespace Retrovue.Air.Blockplan

open Retrovue.Foundation.Transition Retrovue.Foundation.Sorting

/-! ### The state -/

section State

/-- A submitted request: its number, and whether a `Cancel` was in progress. -/
structure SeamTicket where
  id : ℕ
  request : SeamRequest
  duringCancel : Bool
  deriving DecidableEq, Repr

/-- `seam_frame`, with the sentinel above every frame. -/
def SeamTicket.frame (ticket : SeamTicket) : WithTop ℤ := ticket.request.seamFrame

/-- A segment request. -/
def SeamTicket.isSegment (ticket : SeamTicket) : Bool := ticket.request.type = .segment

/-- Where the worker is: waiting, in `ProcessRequest` with some of its checkpoints behind it, past the
last one, or back from it and still active. -/
inductive SeamWorker
  | waiting
  | processing (ticket : SeamTicket) (passed : ℕ)
  | prepared (ticket : SeamTicket)
  | finished
  deriving DecidableEq, Repr

/-- The request that the worker holds. -/
def SeamWorker.ticket : SeamWorker → Option SeamTicket
  | .processing ticket _ => some ticket
  | .prepared ticket => some ticket
  | _ => none

/-- A `Cancel` in progress: the requests submitted before it, and whether it has seen the worker
idle. -/
structure CancelCall where
  barrier : ℕ
  idle : Bool
  deriving DecidableEq, Repr

/-- A result with the request it is for. -/
abbrev SeamSlot := Option (SeamTicket × SeamResult)

/-- The preparer with its threads and its history. `cancelBegun` counts the requests submitted before
the latest `Cancel`, `cancelBarrier` those before the latest that has returned, `segmentBarrier` those
before the latest `CancelSegmentRequests`. -/
structure SeamWork where
  queue : List SeamTicket
  worker : SeamWorker
  segmentResult : SeamSlot
  blockResult : SeamSlot
  cancelRequested : Bool
  cancels : List CancelCall
  submitted : ℕ
  served : List SeamTicket
  published : List SeamTicket
  lost : List SeamTicket
  overwritten : List SeamTicket
  cancelBegun : ℕ
  cancelBarrier : ℕ
  segmentBarrier : ℕ
  deriving DecidableEq, Repr

/-- A preparer as it is constructed. -/
def SeamWork.start : SeamWork :=
  ⟨[], .waiting, none, none, false, [], 0, [], [], [], [], 0, 0, 0⟩

/-- `worker_active_`. -/
def SeamWork.workerActive (s : SeamWork) : Bool := decide (s.worker ≠ .waiting)

/-- The slot for a request. -/
def SeamWork.slot (s : SeamWork) (ticket : SeamTicket) : SeamSlot :=
  if ticket.isSegment then s.segmentResult else s.blockResult

/-- What the threads do. -/
inductive SeamEvent
  | submit (request : SeamRequest)
  | cancelSegmentRequests
  | takeSegmentResult
  | takeBlockResult
  | cancelBegin
  | cancelIdle (place : ℕ)
  | cancelEnd (place : ℕ)
  | workerWake
  | workerCheck
  | workerPublish (assets : AssetOutcome)
  | workerRest
  deriving DecidableEq, Repr

/-- `Submit`. -/
def SeamWork.submit (s : SeamWork) (request : SeamRequest) : SeamWork :=
  { s with
    queue := insertLower SeamTicket.frame ⟨s.submitted, request, !s.cancels.isEmpty⟩ s.queue
    submitted := s.submitted + 1 }

/-- `CancelSegmentRequests`. -/
def SeamWork.cancelSegmentRequests (s : SeamWork) : SeamWork :=
  { s with
    queue := s.queue.filter fun ticket => !ticket.isSegment
    lost := s.lost ++ s.queue.filter SeamTicket.isSegment
    segmentResult := none
    segmentBarrier := s.submitted }

/-- `Cancel` up to its wait. -/
def SeamWork.cancelBegin (s : SeamWork) : SeamWork :=
  { s with
    cancelRequested := true
    queue := []
    lost := s.lost ++ s.queue
    cancels := s.cancels ++ [⟨s.submitted, false⟩]
    cancelBegun := s.submitted }

/-- `Cancel` after its wait. -/
def SeamWork.cancelEnd (s : SeamWork) (place : ℕ) (call : CancelCall) : SeamWork :=
  { s with
    segmentResult := none
    blockResult := none
    cancelRequested := false
    cancels := s.cancels.eraseIdx place
    cancelBarrier := max s.cancelBarrier call.barrier }

/-- `WorkerLoop`: a wake by a cancel drains the queue and resets the flag, any other takes the front
request. -/
def SeamWork.workerWake (s : SeamWork) : Option SeamWork :=
  if s.cancelRequested then
    some { s with queue := [], lost := s.lost ++ s.queue, cancelRequested := false }
  else
    match s.queue with
    | [] => none
    | ticket :: rest =>
      some { s with
        queue := rest
        worker := .processing ticket 0
        served := s.served ++ [ticket] }

/-- One of the four checkpoints of `ProcessRequest`. -/
def SeamWork.workerCheck (s : SeamWork) (ticket : SeamTicket) (passed : ℕ) : SeamWork :=
  if s.cancelRequested then { s with worker := .finished, lost := s.lost ++ [ticket] }
  else if passed + 1 < 4 then { s with worker := .processing ticket (passed + 1) }
  else { s with worker := .prepared ticket }

/-- The end of `ProcessRequest`: the result goes to the slot of its type, without another look at the
cancel flag. -/
def SeamWork.workerPublish (s : SeamWork) (ticket : SeamTicket) (assets : AssetOutcome) : SeamWork :=
  let result := (ticket, ticket.request.result assets)
  { s with
    segmentResult := if ticket.isSegment then some result else s.segmentResult
    blockResult := if ticket.isSegment then s.blockResult else some result
    worker := .finished
    published := s.published ++ [ticket]
    overwritten := s.overwritten ++ ((s.slot ticket).map Prod.fst).toList }

/-- **One step.** -/
def SeamWork.step (s : SeamWork) : SeamEvent → Option SeamWork
  | .submit request => some (s.submit request)
  | .cancelSegmentRequests => some s.cancelSegmentRequests
  | .takeSegmentResult => some { s with segmentResult := none }
  | .takeBlockResult => some { s with blockResult := none }
  | .cancelBegin => some s.cancelBegin
  | .cancelIdle place =>
    match s.cancels[place]? with
    | some call =>
      if s.workerActive then none
      else some { s with cancels := s.cancels.set place { call with idle := true } }
    | none => none
  | .cancelEnd place =>
    match s.cancels[place]? with
    | some call => if call.idle then some (s.cancelEnd place call) else none
    | none => none
  | .workerWake => if s.workerActive then none else s.workerWake
  | .workerCheck =>
    match s.worker with
    | .processing ticket passed => some (s.workerCheck ticket passed)
    | _ => none
  | .workerPublish assets =>
    match s.worker with
    | .prepared ticket => some (s.workerPublish ticket assets)
    | _ => none
  | .workerRest =>
    match s.worker with
    | .finished => some { s with worker := .waiting }
    | _ => none

end State

/-! ### The preparer without its threads -/

section Erase

/-- The preparer as the tick loop sees it. -/
def SeamWork.erase (s : SeamWork) : SeamPreparer where
  queue := s.queue.map SeamTicket.request
  working := s.worker.ticket.map SeamTicket.request
  segmentResult := s.segmentResult.map Prod.snd
  blockResult := s.blockResult.map Prod.snd

theorem before_eq (a b : FrameIndex) :
    before a b = decide ((show WithTop ℤ from a) < (show WithTop ℤ from b)) := by
  cases a with
  | none =>
    have top : ¬(⊤ : WithTop ℤ) < (show WithTop ℤ from b) := not_top_lt
    exact (decide_eq_false top).symm
  | some a =>
    cases b with
    | none => exact (decide_eq_true (WithTop.coe_lt_top a)).symm
    | some b => exact decide_eq_decide.mpr WithTop.coe_lt_coe.symm

theorem erase_submit (s : SeamWork) (request : SeamRequest) :
    (s.submit request).erase = s.erase.submit request := by
  have earlier : (fun ticket : SeamTicket => decide (ticket.frame <
      (⟨s.submitted, request, !s.cancels.isEmpty⟩ : SeamTicket).frame)) =
      (fun queued : SeamRequest => before queued.seamFrame request.seamFrame) ∘ SeamTicket.request := by
    funext ticket
    exact (before_eq _ _).symm
  unfold SeamWork.erase SeamWork.submit SeamPreparer.submit insertLower
  rw [earlier]
  simp only [List.map_append, List.map_cons, List.takeWhile_map, List.dropWhile_map]

theorem erase_wake {s s' : SeamWork} (quiet : s.cancelRequested = false) (idle : s.worker = .waiting)
    (woken : s.workerWake = some s') : s.erase.workerStart = some s'.erase := by
  unfold SeamWork.workerWake at woken
  rw [if_neg (by simp [quiet])] at woken
  unfold SeamPreparer.workerStart SeamWork.erase
  cases queued : s.queue with
  | nil =>
    rw [queued] at woken
    cases woken
  | cons ticket rest =>
    rw [queued] at woken
    cases woken
    rw [idle]
    rfl

theorem erase_publish (s : SeamWork) {ticket : SeamTicket} (prepared : s.worker = .prepared ticket)
    (assets : AssetOutcome) :
    s.erase.workerFinish assets = some (s.workerPublish ticket assets).erase := by
  unfold SeamPreparer.workerFinish SeamWork.erase SeamWork.workerPublish SeamTicket.isSegment
  rw [prepared]
  dsimp only [SeamWorker.ticket, Option.map_some]
  cases kind : ticket.request.type <;> simp

end Erase

/-! ### What every run keeps -/

section Kept

variable {s s' : SeamWork} {event : SeamEvent}

/-- Every request that was submitted, wherever it is. -/
def SeamWork.all (s : SeamWork) : List SeamTicket :=
  s.queue ++ (s.worker.ticket.toList ++ (s.published ++ s.lost))

/-- A request was lost to a `Cancel` that began after it was submitted, was submitted while one was in
progress, or is of a segment and was submitted before a `CancelSegmentRequests`. -/
def SeamWork.MayLose (s : SeamWork) (ticket : SeamTicket) : Prop :=
  ticket.duringCancel = true ∨ ticket.id < s.cancelBegun ∨
    (ticket.isSegment = true ∧ ticket.id < s.segmentBarrier)

/-- **What every run keeps.** -/
structure SeamWork.Kept (s : SeamWork) : Prop where
  sorted : Ascending SeamTicket.frame s.queue
  hidden : ∀ entry, entry ∈ s.segmentResult ∨ entry ∈ s.blockResult → s.cancelBarrier ≤ entry.1.id
  lost : ∀ ticket ∈ s.lost, s.MayLose ticket
  accounted : (s.all.map SeamTicket.id).Perm (List.range s.submitted)

/-- What carries it: the cancel flag is set during a `Cancel` only, what is queued came after the latest
`Cancel` began, and what the worker holds came after every `Cancel` that has returned or has seen it
idle. -/
structure SeamWork.Sound (s : SeamWork) : Prop where
  kept : s.Kept
  quiet : s.cancels = [] → s.cancelRequested = false
  begun : s.cancelBegun ≤ s.submitted
  calls : ∀ call ∈ s.cancels, call.barrier ≤ s.cancelBegun
  returned : s.cancelBarrier ≤ s.cancelBegun
  segments : s.segmentBarrier ≤ s.submitted
  queued : ∀ ticket ∈ s.queue, s.cancelBegun ≤ ticket.id ∧ ticket.id < s.submitted
  working : ∀ ticket ∈ s.worker.ticket, s.cancelBarrier ≤ ticket.id ∧ ticket.id < s.submitted ∧
    ∀ call ∈ s.cancels, call.idle = true → call.barrier ≤ ticket.id
  cancelled : s.cancelRequested = true → (∀ ticket ∈ s.queue, ticket.duringCancel = true) ∧
    ∀ ticket ∈ s.worker.ticket, ticket.duringCancel = true ∨ ticket.id < s.cancelBegun

theorem SeamWork.Kept.start : SeamWork.start.Kept where
  sorted := List.Pairwise.nil
  hidden entry member := by rcases member with here | here <;> cases here
  lost := List.forall_mem_nil _
  accounted := List.Perm.refl _

theorem SeamWork.Sound.start : SeamWork.start.Sound where
  kept := .start
  quiet _ := rfl
  begun := le_rfl
  calls := List.forall_mem_nil _
  returned := le_rfl
  segments := le_rfl
  queued := List.forall_mem_nil _
  working ticket member := by cases member
  cancelled requested := by cases requested

/-- While the flag is set a `Cancel` is in progress. -/
theorem SeamWork.Sound.busy (sound : s.Sound) (requested : s.cancelRequested = true) :
    s.cancels ≠ [] := by
  intro none_
  have quiet := sound.quiet none_
  rw [requested] at quiet
  cases quiet

theorem SeamWork.Kept.submit (kept : s.Kept) (request : SeamRequest) :
    (s.submit request).Kept where
  sorted := insertLower_ascending _ kept.sorted
  hidden := kept.hidden
  lost := kept.lost
  accounted := by
    have added : (s.submit request).all.Perm
        (⟨s.submitted, request, !s.cancels.isEmpty⟩ :: s.all) :=
      (insertLower_perm SeamTicket.frame _ s.queue).append_right _
    refine (added.map SeamTicket.id).trans ?_
    show List.Perm _ (List.range (s.submitted + 1))
    rw [List.range_succ]
    exact (kept.accounted.cons s.submitted).trans (List.perm_append_singleton _ _).symm

theorem SeamWork.Sound.submit (sound : s.Sound) (request : SeamRequest) :
    (s.submit request).Sound := by
  have new : ∀ ticket ∈ (s.submit request).queue,
      ticket = ⟨s.submitted, request, !s.cancels.isEmpty⟩ ∨ ticket ∈ s.queue :=
    fun ticket => (mem_insertLower _).mp
  refine ⟨sound.kept.submit request, sound.quiet, sound.begun.trans (Nat.le_succ _), sound.calls,
    sound.returned, sound.segments.trans (Nat.le_succ _), fun ticket member => ?_,
    fun ticket member => ?_, fun requested => ⟨fun ticket member => ?_, (sound.cancelled requested).2⟩⟩
  · rcases new ticket member with rfl | before
    · exact ⟨sound.begun, Nat.lt_succ_self _⟩
    · obtain ⟨late, known⟩ := sound.queued ticket before
      exact ⟨late, known.trans (Nat.lt_succ_self _)⟩
  · obtain ⟨late, known, idle⟩ := sound.working ticket member
    exact ⟨late, known.trans (Nat.lt_succ_self _), idle⟩
  · rcases new ticket member with rfl | before
    · simpa using sound.busy requested
    · exact (sound.cancelled requested).1 ticket before

/-- Requests that move from one place to another are still there. -/
theorem accounted_of_perm (sound : s.Kept) (moved : s'.all.Perm s.all)
    (same : s'.submitted = s.submitted) :
    (s'.all.map SeamTicket.id).Perm (List.range s'.submitted) := by
  rw [same]
  exact (moved.map SeamTicket.id).trans sound.accounted

theorem SeamWork.Sound.cancelSegmentRequests (sound : s.Sound) : s.cancelSegmentRequests.Sound := by
  have subset : ∀ ticket ∈ s.cancelSegmentRequests.queue, ticket ∈ s.queue :=
    fun ticket => List.mem_of_mem_filter
  refine ⟨⟨sound.kept.sorted.sublist List.filter_sublist, fun entry member => ?_,
    List.forall_mem_append.mpr ⟨fun ticket member => ?_, fun ticket member => ?_⟩,
    accounted_of_perm sound.kept ?_ rfl⟩, sound.quiet, sound.begun, sound.calls, sound.returned, le_rfl,
    fun ticket member => sound.queued ticket (subset ticket member), sound.working, fun requested =>
      ⟨fun ticket member => (sound.cancelled requested).1 ticket (subset ticket member),
        (sound.cancelled requested).2⟩⟩
  · rcases member with here | here
    · cases here
    · exact sound.kept.hidden entry (.inr here)
  · rcases sound.kept.lost ticket member with during | earlier | ⟨isSegment, earlier⟩
    · exact .inl during
    · exact .inr (.inl earlier)
    · exact .inr (.inr ⟨isSegment, earlier.trans_le sound.segments⟩)
  · obtain ⟨queued, isSegment⟩ := List.mem_filter.mp member
    exact .inr (.inr ⟨isSegment, (sound.queued ticket queued).2⟩)
  · have split : (s.queue.filter (fun ticket => !ticket.isSegment) ++
        s.queue.filter SeamTicket.isSegment).Perm s.queue :=
      (List.perm_append_comm).trans (List.filter_append_perm _ _)
    have shifted := split.append_right (s.worker.ticket.toList ++ (s.published ++ s.lost))
    refine List.Perm.trans ?_ shifted
    show (s.queue.filter (fun ticket => !ticket.isSegment) ++ (s.worker.ticket.toList ++
      (s.published ++ (s.lost ++ s.queue.filter SeamTicket.isSegment)))).Perm _
    rw [List.append_assoc]
    refine List.Perm.append_left _ ?_
    rw [← List.append_assoc s.published, ← List.append_assoc s.worker.ticket.toList]
    exact List.perm_append_comm

/-- A result that is taken is no longer visible. -/
theorem SeamWork.Sound.take (sound : s.Sound) (segmentResult blockResult : SeamSlot)
    (fewer : ∀ entry, entry ∈ segmentResult ∨ entry ∈ blockResult →
      entry ∈ s.segmentResult ∨ entry ∈ s.blockResult) :
    { s with segmentResult := segmentResult, blockResult := blockResult }.Sound :=
  ⟨⟨sound.kept.sorted, fun entry member => sound.kept.hidden entry (fewer entry member), sound.kept.lost,
    sound.kept.accounted⟩, sound.quiet, sound.begun, sound.calls, sound.returned, sound.segments,
    sound.queued, sound.working, sound.cancelled⟩

theorem SeamWork.Sound.cancelBegin (sound : s.Sound) : s.cancelBegin.Sound := by
  refine ⟨⟨List.Pairwise.nil, sound.kept.hidden,
    List.forall_mem_append.mpr ⟨fun ticket member => ?_, fun ticket member => ?_⟩,
    accounted_of_perm sound.kept ?_ rfl⟩, fun none_ => ?_, le_rfl,
    List.forall_mem_append.mpr ⟨fun call member => ?_, List.forall_mem_singleton.mpr le_rfl⟩,
    sound.returned.trans sound.begun, sound.segments, List.forall_mem_nil _, fun ticket member => ?_,
    fun _ => ⟨List.forall_mem_nil _, fun ticket member => .inr (sound.working ticket member).2.1⟩⟩
  · rcases sound.kept.lost ticket member with during | earlier | segment
    · exact .inl during
    · exact .inr (.inl (earlier.trans_le sound.begun))
    · exact .inr (.inr segment)
  · exact .inr (.inl (sound.queued ticket member).2)
  · show (s.worker.ticket.toList ++ (s.published ++ (s.lost ++ s.queue))).Perm s.all
    rw [← List.append_assoc s.published, ← List.append_assoc s.worker.ticket.toList]
    exact List.perm_append_comm
  · exact absurd none_ (by simp [SeamWork.cancelBegin])
  · exact (sound.calls call member).trans sound.begun
  · obtain ⟨late, known, idle⟩ := sound.working ticket member
    refine ⟨late, known, List.forall_mem_append.mpr ⟨idle, List.forall_mem_singleton.mpr ?_⟩⟩
    intro isIdle
    cases isIdle

theorem SeamWork.Sound.cancelIdle (sound : s.Sound) {place : ℕ} {call : CancelCall}
    (here : s.cancels[place]? = some call) (idle : s.worker = .waiting) :
    { s with cancels := s.cancels.set place { call with idle := true } }.Sound := by
  refine ⟨⟨sound.kept.sorted, sound.kept.hidden, sound.kept.lost, sound.kept.accounted⟩,
    fun none_ => sound.quiet (by simpa using none_), sound.begun, fun other member => ?_,
    sound.returned, sound.segments, sound.queued, fun ticket member => ?_, sound.cancelled⟩
  · rcases List.mem_or_eq_of_mem_set member with before | rfl
    · exact sound.calls other before
    · exact sound.calls call (List.mem_of_getElem? here)
  · rw [show ({ s with cancels := s.cancels.set place { call with idle := true } } : SeamWork).worker =
      .waiting from idle] at member
    cases member

theorem SeamWork.Sound.cancelEnd (sound : s.Sound) {place : ℕ} {call : CancelCall}
    (here : s.cancels[place]? = some call) (idle : call.idle = true) :
    (s.cancelEnd place call).Sound := by
  have among := List.mem_of_getElem? here
  have kept : ∀ other ∈ (s.cancelEnd place call).cancels, other ∈ s.cancels :=
    fun other member => List.mem_of_mem_eraseIdx member
  refine ⟨⟨sound.kept.sorted, fun entry member => ?_, sound.kept.lost, sound.kept.accounted⟩,
    fun _ => rfl, sound.begun, fun other member => sound.calls other (kept other member),
    max_le sound.returned (sound.calls call among), sound.segments, sound.queued,
    fun ticket member => ?_, fun requested => by cases requested⟩
  · rcases member with here | here <;> cases here
  · obtain ⟨late, known, idles⟩ := sound.working ticket member
    exact ⟨max_le late (idles call among idle), known, fun other member =>
      idles other (kept other member)⟩

/-- The worker woken by a cancel, or with a request to take. -/
theorem SeamWork.Sound.wake (sound : s.Sound) (idle : s.worker = .waiting)
    (woken : s.workerWake = some s') : s'.Sound := by
  unfold SeamWork.workerWake at woken
  by_cases requested : s.cancelRequested = true
  · rw [if_pos requested] at woken
    cases woken
    refine ⟨⟨List.Pairwise.nil, sound.kept.hidden,
      List.forall_mem_append.mpr ⟨sound.kept.lost, fun ticket member => ?_⟩,
      accounted_of_perm sound.kept ?_ rfl⟩, fun _ => rfl, sound.begun, sound.calls, sound.returned,
      sound.segments, List.forall_mem_nil _, sound.working, fun requested => by cases requested⟩
    · exact .inl ((sound.cancelled requested).1 ticket member)
    · show (s.worker.ticket.toList ++ (s.published ++ (s.lost ++ s.queue))).Perm s.all
      rw [← List.append_assoc s.published, ← List.append_assoc s.worker.ticket.toList]
      exact List.perm_append_comm
  · rw [if_neg requested] at woken
    cases waiting : s.queue with
    | nil =>
      rw [waiting] at woken
      cases woken
    | cons ticket rest =>
      rw [waiting] at woken
      cases woken
      have queued := sound.queued
      rw [waiting] at queued
      obtain ⟨front, others⟩ := List.forall_mem_cons.mp queued
      have sorted := sound.kept.sorted
      rw [waiting] at sorted
      refine ⟨⟨(List.pairwise_cons.mp sorted).2, sound.kept.hidden, sound.kept.lost,
        accounted_of_perm sound.kept ?_ rfl⟩, sound.quiet, sound.begun, sound.calls, sound.returned,
        sound.segments, others, fun other member => ?_, fun set => absurd set requested⟩
      · unfold SeamWork.all
        rw [waiting, idle]
        exact List.perm_middle
      · cases member
        exact ⟨sound.returned.trans front.1, front.2, fun call member _ =>
          (sound.calls call member).trans front.1⟩

/-- The worker on the same request, at another place. -/
theorem SeamWork.Sound.moveWorker (sound : s.Sound) {worker : SeamWorker}
    (same : worker.ticket = s.worker.ticket) : { s with worker := worker }.Sound := by
  refine ⟨⟨sound.kept.sorted, sound.kept.hidden, sound.kept.lost,
    accounted_of_perm sound.kept ?_ rfl⟩, sound.quiet, sound.begun, sound.calls, sound.returned,
    sound.segments, sound.queued, fun ticket member => ?_, fun requested =>
      ⟨(sound.cancelled requested).1, fun ticket member => ?_⟩⟩
  · unfold SeamWork.all
    rw [same]
  · exact sound.working ticket (same ▸ member)
  · exact (sound.cancelled requested).2 ticket (same ▸ member)

theorem SeamWork.Sound.check (sound : s.Sound) {ticket : SeamTicket} {passed : ℕ}
    (working : s.worker = .processing ticket passed) : (s.workerCheck ticket passed).Sound := by
  have held : s.worker.ticket = some ticket := by rw [working]; rfl
  unfold SeamWork.workerCheck
  split_ifs with requested more
  · refine ⟨⟨sound.kept.sorted, sound.kept.hidden,
      List.forall_mem_append.mpr ⟨sound.kept.lost, List.forall_mem_singleton.mpr ?_⟩,
      accounted_of_perm sound.kept ?_ rfl⟩, sound.quiet, sound.begun, sound.calls, sound.returned,
      sound.segments, sound.queued, fun other member => (by cases member), fun requested =>
        ⟨(sound.cancelled requested).1, fun other member => (by cases member)⟩⟩
    · rcases (sound.cancelled requested).2 ticket held with during | earlier
      · exact .inl during
      · exact .inr (.inl earlier)
    · unfold SeamWork.all
      rw [held]
      refine List.Perm.append_left _ ?_
      show (s.published ++ (s.lost ++ [ticket])).Perm ([ticket] ++ (s.published ++ s.lost))
      rw [← List.append_assoc]
      exact List.perm_append_comm
  · exact sound.moveWorker held.symm
  · exact sound.moveWorker held.symm

theorem SeamWork.Sound.publish (sound : s.Sound) {ticket : SeamTicket}
    (prepared : s.worker = .prepared ticket) (assets : AssetOutcome) :
    (s.workerPublish ticket assets).Sound := by
  have held : s.worker.ticket = some ticket := by rw [prepared]; rfl
  have late := (sound.working ticket held).1
  refine ⟨⟨sound.kept.sorted, fun entry member => ?_, sound.kept.lost,
    accounted_of_perm sound.kept ?_ rfl⟩, sound.quiet, sound.begun, sound.calls, sound.returned,
    sound.segments, sound.queued, fun other member => (by cases member), fun requested =>
      ⟨(sound.cancelled requested).1, fun other member => (by cases member)⟩⟩
  · unfold SeamWork.workerPublish at member
    dsimp only at member
    split_ifs at member
    · rcases member with here | here
      · cases here
        exact late
      · exact sound.kept.hidden entry (.inr here)
    · rcases member with here | here
      · exact sound.kept.hidden entry (.inl here)
      · cases here
        exact late
  · unfold SeamWork.all
    rw [held]
    refine List.Perm.append_left _ ?_
    show ((s.published ++ [ticket]) ++ s.lost).Perm ([ticket] ++ (s.published ++ s.lost))
    rw [List.append_assoc, ← List.append_assoc [ticket]]
    exact List.perm_append_comm_assoc _ _ _

theorem waiting_of_inactive (inactive : ¬s.workerActive = true) : s.worker = .waiting := by
  unfold SeamWork.workerActive at inactive
  simpa using inactive

/-- **Every step keeps it.** -/
theorem step_kept (sound : s.Sound) (taken : s.step event = some s') : s'.Sound := by
  cases event with
  | submit request =>
    cases taken
    exact sound.submit request
  | cancelSegmentRequests =>
    cases taken
    exact sound.cancelSegmentRequests
  | takeSegmentResult =>
    cases taken
    refine sound.take none s.blockResult fun entry member => ?_
    rcases member with here | here
    · cases here
    · exact .inr here
  | takeBlockResult =>
    cases taken
    refine sound.take s.segmentResult none fun entry member => ?_
    rcases member with here | here
    · exact .inl here
    · cases here
  | cancelBegin =>
    cases taken
    exact sound.cancelBegin
  | cancelIdle place =>
    unfold SeamWork.step at taken
    dsimp only at taken
    split at taken
    · rename_i call here
      split_ifs at taken with active
      cases taken
      exact sound.cancelIdle here (waiting_of_inactive active)
    · cases taken
  | cancelEnd place =>
    unfold SeamWork.step at taken
    dsimp only at taken
    split at taken
    · rename_i call here
      split_ifs at taken with idle
      cases taken
      exact sound.cancelEnd here idle
    · cases taken
  | workerWake =>
    unfold SeamWork.step at taken
    dsimp only at taken
    split_ifs at taken with active
    exact sound.wake (waiting_of_inactive active) taken
  | workerCheck =>
    unfold SeamWork.step at taken
    dsimp only at taken
    split at taken
    · rename_i ticket passed working
      cases taken
      exact sound.check working
    · cases taken
  | workerPublish assets =>
    unfold SeamWork.step at taken
    dsimp only at taken
    split at taken
    · rename_i ticket prepared
      cases taken
      exact sound.publish prepared assets
    · cases taken
  | workerRest =>
    unfold SeamWork.step at taken
    dsimp only at taken
    split at taken
    · rename_i finished
      cases taken
      exact sound.moveWorker (by rw [finished]; rfl)
    · cases taken

end Kept

/-! ### What is delivered -/

section Delivered

variable {s s' : SeamWork} {event : SeamEvent}

/-- Equal frames are in submission order. -/
def InTurn (tickets : List SeamTicket) : Prop :=
  tickets.Pairwise fun a b => a.frame = b.frame → a.id < b.id

/-- **What was last asked is delivered**: equal frames wait and are served in submission order, no
cancelled segment is visible, and no result was overwritten before it was taken. -/
structure SeamWork.Delivered (s : SeamWork) : Prop where
  queued : InTurn s.queue
  served : InTurn s.served
  segments : ∀ entry ∈ s.segmentResult, s.segmentBarrier ≤ entry.1.id
  unseen : s.overwritten = []

/-- **The condition on a step**: a request is submitted while none for its frame is queued;
`CancelSegmentRequests` comes while the worker holds no segment request; and the worker publishes into
an empty slot. -/
def SeamWork.Meets (s : SeamWork) : SeamEvent → Prop
  | .submit request => ∀ ticket ∈ s.queue, ticket.request.seamFrame ≠ request.seamFrame
  | .cancelSegmentRequests => ∀ ticket ∈ s.worker.ticket, ticket.isSegment = false
  | .workerPublish _ => ∀ ticket ∈ s.worker.ticket, s.slot ticket = none
  | _ => True

instance seamMeetsDecidable (s : SeamWork) : ∀ event, Decidable (s.Meets event)
  | .submit request =>
    inferInstanceAs (Decidable (∀ ticket ∈ s.queue, ticket.request.seamFrame ≠ request.seamFrame))
  | .cancelSegmentRequests =>
    inferInstanceAs (Decidable (∀ ticket ∈ s.worker.ticket, ticket.isSegment = false))
  | .workerPublish _ =>
    inferInstanceAs (Decidable (∀ ticket ∈ s.worker.ticket, s.slot ticket = none))
  | .takeSegmentResult => inferInstanceAs (Decidable True)
  | .takeBlockResult => inferInstanceAs (Decidable True)
  | .cancelBegin => inferInstanceAs (Decidable True)
  | .cancelIdle _ => inferInstanceAs (Decidable True)
  | .cancelEnd _ => inferInstanceAs (Decidable True)
  | .workerWake => inferInstanceAs (Decidable True)
  | .workerCheck => inferInstanceAs (Decidable True)
  | .workerRest => inferInstanceAs (Decidable True)

/-- What carries the order: queued frames are distinct, and what was served for a frame was submitted
before what is queued for it. -/
structure SeamWork.Turns (s : SeamWork) : Prop where
  distinct : s.queue.Pairwise fun a b => a.frame ≠ b.frame
  served : InTurn s.served
  earlier : ∀ a ∈ s.served, ∀ b ∈ s.queue, a.frame = b.frame → a.id < b.id
  known : ∀ a ∈ s.served, a.id < s.submitted

/-- What carries the cancelling of segments: wherever a segment request is, it is a later one. -/
structure SeamWork.SegmentsLater (s : SeamWork) : Prop where
  queued : ∀ ticket ∈ s.queue, ticket.isSegment = true → s.segmentBarrier ≤ ticket.id
  working : ∀ ticket ∈ s.worker.ticket, ticket.isSegment = true → s.segmentBarrier ≤ ticket.id
  visible : ∀ entry ∈ s.segmentResult, s.segmentBarrier ≤ entry.1.id

/-- Requests leave the queue. -/
theorem SeamWork.Turns.leave (turns : s.Turns) (fewer : s'.queue.Sublist s.queue)
    (served : s'.served = s.served) (submitted : s'.submitted = s.submitted) : s'.Turns where
  distinct := turns.distinct.sublist fewer
  served := served ▸ turns.served
  earlier a isServed b queued := turns.earlier a (served ▸ isServed) b (fewer.subset queued)
  known a isServed := submitted ▸ turns.known a (served ▸ isServed)

/-- Requests leave the queue, the worker and the slot. -/
theorem SeamWork.SegmentsLater.leave (later : s.SegmentsLater)
    (queue : ∀ ticket ∈ s'.queue, ticket ∈ s.queue)
    (worker : ∀ ticket ∈ s'.worker.ticket, ticket ∈ s.worker.ticket ∨ ticket ∈ s.queue)
    (slot : ∀ entry ∈ s'.segmentResult, entry ∈ s.segmentResult)
    (same : s'.segmentBarrier = s.segmentBarrier) : s'.SegmentsLater where
  queued ticket member isSegment := same ▸ later.queued ticket (queue ticket member) isSegment
  working ticket member isSegment := by
    rw [same]
    rcases worker ticket member with held | queued
    · exact later.working ticket held isSegment
    · exact later.queued ticket queued isSegment
  visible entry member := same ▸ later.visible entry (slot entry member)

/-- A submission for a frame that nothing is queued for. -/
theorem SeamWork.Turns.submit (turns : s.Turns) {request : SeamRequest}
    (free : s.Meets (.submit request)) : (s.submit request).Turns where
  distinct := by
    refine insertLower_pairwise _ turns.distinct fun b queued => ⟨fun same => ?_, fun same => ?_⟩
    · exact free b queued same.symm
    · exact free b queued same
  served := turns.served
  earlier a isServed b member same := by
    rcases (mem_insertLower _).mp member with rfl | queued
    · exact turns.known a isServed
    · exact turns.earlier a isServed b queued same
  known a isServed := (turns.known a isServed).trans (Nat.lt_succ_self _)

/-- The worker serves the front request. -/
theorem SeamWork.Turns.serve (turns : s.Turns) {ticket : SeamTicket} {rest : List SeamTicket}
    (waiting : s.queue = ticket :: rest) (known : ticket.id < s.submitted)
    (queue : s'.queue = rest) (served : s'.served = s.served ++ [ticket])
    (submitted : s'.submitted = s.submitted) : s'.Turns := by
  have distinct := turns.distinct
  have earlier := turns.earlier
  rw [waiting] at distinct earlier
  obtain ⟨apart, others⟩ := List.pairwise_cons.mp distinct
  refine ⟨queue ▸ others, ?_, ?_, ?_⟩
  · rw [served]
    refine List.pairwise_append.mpr ⟨turns.served, List.pairwise_singleton _ _, ?_⟩
    exact fun a before b member => by
      rw [List.mem_singleton.mp member]
      exact earlier a before ticket List.mem_cons_self
  · rw [served, queue]
    refine List.forall_mem_append.mpr ⟨fun a before b later => ?_, ?_⟩
    · exact earlier a before b (List.mem_cons_of_mem _ later)
    · exact List.forall_mem_singleton.mpr fun b later same => absurd same (apart b later)
  · rw [served, submitted]
    exact List.forall_mem_append.mpr ⟨turns.known, List.forall_mem_singleton.mpr known⟩

/-- What holds along a run whose steps meet the condition. -/
structure SeamWork.Orderly (s : SeamWork) : Prop where
  sound : s.Sound
  turns : s.Turns
  segments : s.SegmentsLater
  unseen : s.overwritten = []

theorem SeamWork.Orderly.start : SeamWork.start.Orderly where
  sound := .start
  turns := ⟨List.Pairwise.nil, List.Pairwise.nil, List.forall_mem_nil _, List.forall_mem_nil _⟩
  segments := ⟨List.forall_mem_nil _, fun ticket member => (by cases member),
    fun entry member => (by cases member)⟩
  unseen := rfl

theorem SeamWork.Orderly.delivered (orderly : s.Orderly) : s.Delivered where
  queued := orderly.turns.distinct.imp fun apart same => absurd same apart
  served := orderly.turns.served
  segments := orderly.segments.visible
  unseen := orderly.unseen

/-- What leaves the queue, the worker and the slots changes nothing else. -/
theorem SeamWork.Orderly.leave (orderly : s.Orderly) (sound : s'.Sound)
    (queue : s'.queue.Sublist s.queue)
    (worker : ∀ ticket ∈ s'.worker.ticket, ticket ∈ s.worker.ticket)
    (slot : ∀ entry ∈ s'.segmentResult, entry ∈ s.segmentResult)
    (same : s'.served = s.served ∧ s'.submitted = s.submitted ∧ s'.segmentBarrier = s.segmentBarrier ∧
      s'.overwritten = s.overwritten) : s'.Orderly where
  sound := sound
  turns := orderly.turns.leave queue same.1 same.2.1
  segments := orderly.segments.leave (fun _ member => queue.subset member)
    (fun ticket member => .inl (worker ticket member)) slot same.2.2.1
  unseen := same.2.2.2.trans orderly.unseen

theorem SeamWork.Orderly.cancelSegmentRequests (orderly : s.Orderly)
    (meets : s.Meets .cancelSegmentRequests) : s.cancelSegmentRequests.Orderly where
  sound := orderly.sound.cancelSegmentRequests
  turns := orderly.turns.leave List.filter_sublist rfl rfl
  segments := by
    refine ⟨fun ticket member isSegment => ?_, fun ticket held isSegment => ?_, fun entry member => ?_⟩
    · have other := (List.mem_filter.mp member).2
      rw [isSegment] at other
      cases other
    · have other := meets ticket held
      rw [isSegment] at other
      cases other
    · cases member
  unseen := orderly.unseen

theorem SeamWork.Orderly.wake (orderly : s.Orderly) (idle : s.worker = .waiting)
    (woken : s.workerWake = some s') : s'.Orderly := by
  have sound := orderly.sound.wake idle woken
  unfold SeamWork.workerWake at woken
  by_cases requested : s.cancelRequested = true
  · rw [if_pos requested] at woken
    cases woken
    exact orderly.leave sound (List.nil_sublist _) (fun _ held => held) (fun _ shown => shown)
      ⟨rfl, rfl, rfl, rfl⟩
  · rw [if_neg requested] at woken
    cases waiting : s.queue with
    | nil =>
      rw [waiting] at woken
      cases woken
    | cons ticket rest =>
      rw [waiting] at woken
      cases woken
      have queued := orderly.sound.queued ticket (waiting ▸ List.mem_cons_self)
      refine ⟨sound, orderly.turns.serve waiting queued.2 rfl rfl rfl, ?_, orderly.unseen⟩
      refine orderly.segments.leave (fun other member => ?_) (fun other held => .inr ?_)
        (fun _ shown => shown) rfl
      · rw [waiting]
        exact List.mem_cons_of_mem _ member
      · cases held
        rw [waiting]
        exact List.mem_cons_self

theorem SeamWork.Orderly.check (orderly : s.Orderly) {ticket : SeamTicket} {passed : ℕ}
    (working : s.worker = .processing ticket passed) : (s.workerCheck ticket passed).Orderly := by
  have sound := orderly.sound.check working
  have held : s.worker.ticket = some ticket := by rw [working]; rfl
  unfold SeamWork.workerCheck at sound ⊢
  split_ifs at sound ⊢
  · refine orderly.leave sound (List.Sublist.refl _) (fun other member => ?_) (fun _ shown => shown)
      ⟨rfl, rfl, rfl, rfl⟩
    cases member
  · exact orderly.leave sound (List.Sublist.refl _) (fun other member => held ▸ member)
      (fun _ shown => shown) ⟨rfl, rfl, rfl, rfl⟩
  · exact orderly.leave sound (List.Sublist.refl _) (fun other member => held ▸ member)
      (fun _ shown => shown) ⟨rfl, rfl, rfl, rfl⟩

theorem SeamWork.Orderly.publish (orderly : s.Orderly) {ticket : SeamTicket} {assets : AssetOutcome}
    (prepared : s.worker = .prepared ticket) (meets : s.Meets (.workerPublish assets)) :
    (s.workerPublish ticket assets).Orderly := by
  have held : s.worker.ticket = some ticket := by rw [prepared]; rfl
  have empty := meets ticket held
  refine ⟨orderly.sound.publish prepared assets, orderly.turns.leave (List.Sublist.refl _) rfl rfl,
    ⟨orderly.segments.queued, fun other member => (by cases member), fun entry member => ?_⟩, ?_⟩
  · unfold SeamWork.workerPublish at member
    dsimp only at member
    split_ifs at member with isSegment
    · cases member
      exact orderly.segments.working ticket held isSegment
    · exact orderly.segments.visible entry member
  · show s.overwritten ++ ((s.slot ticket).map Prod.fst).toList = []
    rw [empty, orderly.unseen]
    rfl

/-- **A step that meets the condition keeps the run orderly.** -/
theorem step_orderly (orderly : s.Orderly) (meets : s.Meets event) (taken : s.step event = some s') :
    s'.Orderly := by
  have sound := step_kept orderly.sound taken
  cases event with
  | submit request =>
    cases taken
    refine ⟨sound, orderly.turns.submit meets, ⟨fun ticket member isSegment => ?_,
      orderly.segments.working, orderly.segments.visible⟩, orderly.unseen⟩
    rcases (mem_insertLower _).mp member with rfl | queued
    · exact orderly.sound.segments
    · exact orderly.segments.queued ticket queued isSegment
  | cancelSegmentRequests =>
    cases taken
    exact orderly.cancelSegmentRequests meets
  | takeSegmentResult =>
    cases taken
    refine orderly.leave sound (List.Sublist.refl _) (fun _ held => held) (fun entry shown => ?_)
      ⟨rfl, rfl, rfl, rfl⟩
    cases shown
  | takeBlockResult =>
    cases taken
    exact orderly.leave sound (List.Sublist.refl _) (fun _ held => held) (fun _ shown => shown)
      ⟨rfl, rfl, rfl, rfl⟩
  | cancelBegin =>
    cases taken
    exact orderly.leave sound (List.nil_sublist _) (fun _ held => held) (fun _ shown => shown)
      ⟨rfl, rfl, rfl, rfl⟩
  | cancelIdle place =>
    unfold SeamWork.step at taken
    dsimp only at taken
    split at taken
    · split_ifs at taken
      cases taken
      exact orderly.leave sound (List.Sublist.refl _) (fun _ held => held) (fun _ shown => shown)
        ⟨rfl, rfl, rfl, rfl⟩
    · cases taken
  | cancelEnd place =>
    unfold SeamWork.step at taken
    dsimp only at taken
    split at taken
    · split_ifs at taken
      cases taken
      refine orderly.leave sound (List.Sublist.refl _) (fun _ held => held) (fun entry shown => ?_)
        ⟨rfl, rfl, rfl, rfl⟩
      cases shown
    · cases taken
  | workerWake =>
    unfold SeamWork.step at taken
    dsimp only at taken
    split_ifs at taken with active
    exact orderly.wake (waiting_of_inactive active) taken
  | workerCheck =>
    unfold SeamWork.step at taken
    dsimp only at taken
    split at taken
    · rename_i ticket passed working
      cases taken
      exact orderly.check working
    · cases taken
  | workerPublish assets =>
    unfold SeamWork.step at taken
    dsimp only at taken
    split at taken
    · rename_i ticket prepared
      cases taken
      exact orderly.publish prepared meets
    · cases taken
  | workerRest =>
    unfold SeamWork.step at taken
    dsimp only at taken
    split at taken
    · cases taken
      refine orderly.leave sound (List.Sublist.refl _) (fun ticket member => ?_)
        (fun _ shown => shown) ⟨rfl, rfl, rfl, rfl⟩
      cases member
    · cases taken

end Delivered

/-! ### What the worker does by itself -/

section Progress

variable {s s' s'' : SeamWork}

/-- A step of the worker. -/
def SeamEvent.isWorker : SeamEvent → Bool
  | .workerWake => true
  | .workerCheck => true
  | .workerPublish _ => true
  | .workerRest => true
  | _ => false

/-- The worker alone leads from one state to the other. -/
def WorkerRuns (s s' : SeamWork) : Prop :=
  ∃ events, (∀ event ∈ events, SeamEvent.isWorker event = true) ∧
    runActions SeamWork.step s events = some s'

theorem WorkerRuns.refl (s : SeamWork) : WorkerRuns s s := ⟨[], List.forall_mem_nil _, rfl⟩

theorem WorkerRuns.cons {event : SeamEvent} (isWorker : event.isWorker = true)
    (taken : s.step event = some s') (rest : WorkerRuns s' s'') : WorkerRuns s s'' := by
  obtain ⟨events, all, ran⟩ := rest
  exact ⟨event :: events, List.forall_mem_cons.mpr ⟨isWorker, all⟩,
    (runActions_cons_some _).mpr ⟨s', taken, ran⟩⟩

theorem WorkerRuns.trans (first : WorkerRuns s s') (second : WorkerRuns s' s'') :
    WorkerRuns s s'' := by
  obtain ⟨events, all, ran⟩ := first
  obtain ⟨others, allOthers, later⟩ := second
  refine ⟨events ++ others, List.forall_mem_append.mpr ⟨all, allOthers⟩, ?_⟩
  rw [runActions_append, ran]
  exact later

/-- The worker has published these requests, and waits. -/
structure SeamWork.Done (s : SeamWork) (tickets : List SeamTicket) (s' : SeamWork) : Prop where
  waiting : s'.worker = .waiting
  queue : s'.queue = s.queue
  quiet : s'.cancelRequested = false
  published : s'.published = s.published ++ tickets

theorem runs_of_finished (finished : s.worker = .finished) (quiet : s.cancelRequested = false) :
    ∃ s', WorkerRuns s s' ∧ s.Done [] s' := by
  refine ⟨{ s with worker := .waiting }, @WorkerRuns.cons _ _ _ .workerRest rfl ?_ (.refl _),
    ⟨rfl, rfl, quiet, (List.append_nil _).symm⟩⟩
  unfold SeamWork.step
  dsimp only
  rw [finished]

theorem runs_of_prepared {ticket : SeamTicket} (prepared : s.worker = .prepared ticket)
    (quiet : s.cancelRequested = false) (assets : AssetOutcome) :
    ∃ s', WorkerRuns s s' ∧ s.Done [ticket] s' := by
  obtain ⟨s', runs, done⟩ := @runs_of_finished (s.workerPublish ticket assets) rfl quiet
  refine ⟨s', @WorkerRuns.cons _ _ _ (.workerPublish assets) rfl ?_ runs,
    ⟨done.waiting, done.queue, done.quiet, ?_⟩⟩
  · unfold SeamWork.step
    dsimp only
    rw [prepared]
  · rw [done.published, List.append_nil]
    rfl

/-- The last checkpoint. -/
theorem runs_of_last {ticket : SeamTicket} {passed : ℕ} (working : s.worker = .processing ticket passed)
    (quiet : s.cancelRequested = false) (last : ¬passed + 1 < 4) (assets : AssetOutcome) :
    ∃ s', WorkerRuns s s' ∧ s.Done [ticket] s' := by
  have checked : s.step .workerCheck = some { s with worker := .prepared ticket } := by
    unfold SeamWork.step SeamWork.workerCheck
    dsimp only
    rw [working]
    dsimp only
    rw [if_neg (by simp [quiet]), if_neg last]
  obtain ⟨s', runs, done⟩ := @runs_of_prepared { s with worker := .prepared ticket } ticket rfl quiet
    assets
  exact ⟨s', .cons rfl checked runs, ⟨done.waiting, done.queue, done.quiet, done.published⟩⟩

/-- Checkpoint after checkpoint, while no cancel is requested. -/
theorem runs_of_processing {ticket : SeamTicket} (assets : AssetOutcome) (left : ℕ) :
    ∀ {s : SeamWork} {passed : ℕ}, s.worker = .processing ticket passed → s.cancelRequested = false →
      4 ≤ passed + 1 + left → ∃ s', WorkerRuns s s' ∧ s.Done [ticket] s' := by
  induction left with
  | zero =>
    intro s passed working quiet near
    exact runs_of_last working quiet (by omega) assets
  | succ left ih =>
    intro s passed working quiet near
    by_cases more : passed + 1 < 4
    · have next : s.step .workerCheck = some { s with worker := .processing ticket (passed + 1) } := by
        unfold SeamWork.step SeamWork.workerCheck
        dsimp only
        rw [working]
        dsimp only
        rw [if_neg (by simp [quiet]), if_pos more]
      obtain ⟨s', runs, done⟩ := @ih { s with worker := .processing ticket (passed + 1) } (passed + 1)
        rfl quiet (by omega)
      exact ⟨s', .cons rfl next runs, ⟨done.waiting, done.queue, done.quiet, done.published⟩⟩
    · exact runs_of_last working quiet more assets

/-- The worker finishes what it holds. -/
theorem runs_to_waiting (quiet : s.cancelRequested = false) (assets : AssetOutcome) :
    ∃ s', WorkerRuns s s' ∧ s.Done s.worker.ticket.toList s' := by
  cases working : s.worker with
  | waiting => exact ⟨s, .refl s, ⟨working, rfl, quiet, (List.append_nil _).symm⟩⟩
  | processing ticket passed => exact runs_of_processing assets 4 working quiet (by omega)
  | prepared ticket => exact runs_of_prepared working quiet assets
  | finished => exact runs_of_finished working quiet

/-- **The queue drains**: the worker serves and publishes all that waits, in its order. -/
theorem runs_to_empty (assets : AssetOutcome) : ∀ (queue : List SeamTicket) {s : SeamWork},
    s.queue = queue → s.worker = .waiting → s.cancelRequested = false →
      ∃ s', WorkerRuns s s' ∧ s'.queue = [] ∧ s'.worker = .waiting ∧
        s'.published = s.published ++ queue := by
  intro queue
  induction queue with
  | nil =>
    intro s empty idle quiet
    exact ⟨s, .refl s, empty, idle, (List.append_nil _).symm⟩
  | cons ticket rest ih =>
    intro s waiting idle quiet
    have woken : s.step .workerWake = some { s with
        queue := rest, worker := .processing ticket 0, served := s.served ++ [ticket] } := by
      unfold SeamWork.step SeamWork.workerWake SeamWork.workerActive
      dsimp only
      rw [if_neg (by simp [idle]), if_neg (by simp [quiet]), waiting]
    obtain ⟨s', runs, done⟩ := @runs_of_processing ticket assets 4
      { s with queue := rest, worker := .processing ticket 0, served := s.served ++ [ticket] } 0 rfl quiet
      (by omega)
    obtain ⟨s'', others, empty, last, published⟩ := ih done.queue done.waiting done.quiet
    refine ⟨s'', .cons rfl woken (runs.trans others), empty, last, ?_⟩
    rw [published, done.published, List.append_assoc]
    rfl

/-- **Outside a `Cancel` everything is processed**: the worker alone publishes what it holds and all
that is queued. -/
theorem drains (sound : s.Sound) (none_ : s.cancels = []) (assets : AssetOutcome) :
    ∃ s', WorkerRuns s s' ∧ s'.queue = [] ∧
      s'.published = s.published ++ s.worker.ticket.toList ++ s.queue := by
  obtain ⟨s', runs, done⟩ := runs_to_waiting (sound.quiet none_) assets
  obtain ⟨s'', others, empty, _, published⟩ := runs_to_empty assets s.queue done.queue done.waiting
    done.quiet
  exact ⟨s'', runs.trans others, empty, by rw [published, done.published]⟩

end Progress

/-! ### The run -/

section Run

/-- **The seam preparer**, over every interleaving: the queue ascends, a `Cancel` that has returned hides
every request before it, and a request is lost to a later cancel only; outside a `Cancel` the worker
processes all there is; and where every step meets the condition, what was last asked is delivered. -/
theorem preparer_delivers (events : List SeamEvent) {final : SeamWork}
    (ran : runActions SeamWork.step .start events = some final) :
    final.Kept ∧
      (final.cancels = [] → ∃ last, WorkerRuns final last ∧ last.queue = [] ∧
        last.published = final.published ++ final.worker.ticket.toList ++ final.queue) ∧
      (Along SeamWork.step SeamWork.Meets .start events → final.Delivered) := by
  have sound := invariant_along SeamWork.step SeamWork.Sound (fun _ _ => True)
    (fun _ _ _ sound _ taken => step_kept sound taken) events SeamWork.Sound.start
    (along_of_forall SeamWork.step (fun _ _ => trivial) events _) ran
  refine ⟨sound.kept, fun none_ => drains sound none_ ⟨true, none⟩, fun along => ?_⟩
  have orderly := invariant_along SeamWork.step SeamWork.Orderly SeamWork.Meets
    (fun _ _ _ orderly meets taken => step_orderly orderly meets taken) events
    SeamWork.Orderly.start along ran
  exact orderly.delivered

/-- A request of one content segment. -/
def seamRequest (type : SeamRequestType) (blockId : String) (frame : Int) : SeamRequest :=
  ⟨type, ⟨blockId, 0, 80, [⟨0, 80, .content, .none, 0⟩]⟩, some frame, blockId, 0, rfl⟩

/-- The worker from its wake to its rest. -/
def workEvents : List SeamEvent :=
  [.workerWake, .workerCheck, .workerCheck, .workerCheck, .workerCheck, .workerPublish ⟨true, none⟩,
    .workerRest]

/-- A block and an earlier segment; the segment is taken, a cancel forgets the block, and another block
is asked for. -/
def eveningRequests : List SeamEvent :=
  [.submit (seamRequest .block "A" 60), .submit (seamRequest .segment "B" 30)] ++ workEvents ++
    [.takeSegmentResult, .cancelBegin, .cancelIdle 0, .cancelEnd 0,
      .submit (seamRequest .block "C" 90)] ++ workEvents

/-- `CancelSegmentRequests` while the worker is on a segment. -/
def lateSegment : List SeamEvent :=
  [.submit (seamRequest .segment "A" 30), .workerWake, .workerCheck, .workerCheck, .workerCheck,
    .workerCheck, .cancelSegmentRequests, .workerPublish ⟨true, none⟩]

/-- The segment and the last block are published. -/
theorem evening_delivered :
    ∃ final, runActions SeamWork.step .start eveningRequests = some final ∧
      final.published.map SeamTicket.id = [1, 2] ∧ final.lost.map SeamTicket.id = [0] ∧
      final.Kept ∧ final.Delivered := by
  obtain ⟨final, ran, published, lost⟩ := exists_run SeamWork.step .start eveningRequests
    (fun final => final.published.map SeamTicket.id = [1, 2] ∧ final.lost.map SeamTicket.id = [0])
    (by decide +kernel)
  obtain ⟨kept, _, delivered⟩ := preparer_delivers eveningRequests ran
  exact ⟨final, ran, published, lost, kept, delivered (by decide +kernel)⟩

/-- **A cancelled segment becomes visible**: the worker holds it while its queue is cleared. -/
theorem cancelled_segment_visible :
    ∃ final, runActions SeamWork.step .start lateSegment = some final ∧
      (∃ entry ∈ final.segmentResult, entry.1.id < final.segmentBarrier) ∧ ¬final.Delivered := by
  obtain ⟨final, ran, seen⟩ := exists_run SeamWork.step .start lateSegment
    (fun final => (final.segmentResult.map fun entry => entry.1.id) = some 0 ∧
      final.segmentBarrier = 1) (by decide +kernel)
  obtain ⟨entry, shown, first⟩ := Option.map_eq_some_iff.mp seen.1
  have earlier : entry.1.id < final.segmentBarrier := by
    rw [first, seen.2]
    decide
  exact ⟨final, ran, ⟨entry, shown, earlier⟩, fun delivered =>
    absurd (delivered.segments entry shown) (not_le.mpr earlier)⟩

end Run

end Retrovue.Air.Blockplan
