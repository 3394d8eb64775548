/-
**The phantom viewers of HLS** on one channel (`hls_playlist`, `hls_segment`, `hls_tune_out` of
`runtime/program_director.py`), with the event loop at its await points and all else at single steps.

* `Request`: where a playlist or segment request stands; those between two awaits hold the event loop;
* `Drain`: where a thread stands in `_drain_hls_phantom`;
* `HlsChannel.step`: a request comes or goes on, a thread goes on, or the segmenter is fed;
* `HlsChannel.CleanedUp`: recorded phantoms are tuned out once, the segmenter does not run for nobody,
  no drain thread harms a later phantom, and only answers keep a phantom active.
-/

import Mathlib
import Retrovue.Foundation.Transition

namespace Retrovue.Core.Viewers

/-! ### The requests and the drain threads -/

section Threads

/-- What a request does next. The phantoms are numbered as they are started. -/
inductive Request where
  | arrived
  | starting
  | started (phantom : ℕ)
  -- in the executor
  | tuning (phantom : ℕ)
  | tuned (phantom : ℕ)
  | tuneDone (phantom : ℕ) (manager : Bool)
  | trying (phantom : ℕ) (tries : ℕ)
  | sleeping (phantom : ℕ) (tries : ℕ)
  | draining (phantom : ℕ)
  | waiting
  -- the clean-up of a startup that failed
  | failing (phantom : ℕ) (manager : Bool)
  | clearing (phantom : ℕ) (manager : Bool)
  | leaving (phantom : ℕ)
  | dropping
  | serving
  | serves
  | fetching
  | answered (status : ℕ)
  deriving DecidableEq

/-- What a drain thread does next. -/
inductive Draining where
  | looping
  | checking
  | leaving
  | unsubscribing
  | stopping
  | clearing
  | dropping
  | ended
  deriving DecidableEq

/-- A drain thread, with its phantom. -/
structure Drain where
  phantom : ℕ
  place : Draining
  deriving DecidableEq

/-- What `_get_or_create_fanout_buffer` comes to. -/
inductive FanoutReply where
  | stream
  | none
  | raises
  deriving DecidableEq

/-- What a request meets: no capacity to start up, the reply to its try for a fan-out, and whether the
segment that it asks for is there. -/
structure Meets where
  atCapacity : Bool := false
  fanout : FanoutReply := .stream
  segment : Bool := true
  deriving DecidableEq

/-- A request that holds the event loop. -/
def Request.onLoop : Request → Bool
  | .starting | .started _ | .trying _ _ | .draining _ | .failing _ _ | .clearing _ _ | .leaving _
  | .dropping | .serving | .serves => true
  | _ => false

end Threads

/-! ### Their steps -/

section Steps

/-- A channel, as far as HLS is concerned: its segmenter (whether it runs, who started it, the calls of
`feed` that found it running, and whether it has segments), the session and activity records, the phantoms
among the viewers of its manager; and what has been seen: the phantoms recorded by the manager, those
passed to `tune_out`, those harmed by the drain thread of another, and the answers 200. -/
structure HlsChannel where
  idleTimeout : ℕ
  running : Bool := false
  startedBy : ℕ := 0
  feeds : ℕ := 0
  hasSegments : Bool := false
  phantomSession : Option ℕ := none
  lastActivity : ℕ := 0
  viewers : Finset ℕ := ∅
  clock : ℕ := 1
  phantoms : ℕ := 0
  requests : List Request := []
  drains : List Drain := []
  loop : Option ℕ := none
  recorded : List ℕ := []
  tuneOuts : List ℕ := []
  harmed : List ℕ := []
  answers : ℕ := 0

/-- What happens next: a request comes or goes on, a tune-in goes on in the executor, a drain thread goes
on, the segmenter is fed, or time passes. -/
inductive HlsAction where
  | playlist
  | fetchSegment
  | tuneOutPost
  | request (thread : ℕ) (meets : Meets)
  | executor (thread : ℕ) (raises : Bool)
  | drain (thread : ℕ) (chunk : Bool)
  | feed
  | fed (stores : Bool)
  | tick (duration : ℕ)

namespace HlsChannel

/-- `HLSSegmenter.start`. -/
def startSegmenter (s : HlsChannel) : HlsChannel :=
  if s.running then s
  else
    { s with
      running := true
      startedBy := s.phantoms }

/-- `ChannelManager.tune_out`. -/
def tuneOut (phantom : ℕ) (s : HlsChannel) : HlsChannel :=
  { s with
    viewers := s.viewers.erase phantom
    tuneOuts := phantom :: s.tuneOuts }

/-- The session and activity records are popped. -/
def dropRecords (s : HlsChannel) : HlsChannel :=
  { s with
    phantomSession := none
    lastActivity := 0 }

/-- The next step of `hls_playlist`, or of `hls_segment`. -/
def requestStep (meets : Meets) (s : HlsChannel) : Request → Option (Request × HlsChannel)
  | .arrived =>
    if s.running then some (.serving, s)
    else if meets.atCapacity then some (.answered 503, s)
    else some (.starting, s)
  | .starting => some (.started s.phantoms, { s.startSegmenter with phantoms := s.phantoms + 1 })
  | .started phantom =>
    some (.tuning phantom,
      { s with
        phantomSession := some phantom
        lastActivity := s.clock })
  | .tuneDone phantom manager =>
    some (if manager then .trying phantom 20 else .failing phantom false, s)
  | .trying phantom tries =>
    match meets.fanout with
    | .stream => some (.draining phantom, s)
    | .none => some (.sleeping phantom (tries - 1), s)
    | .raises => some (.answered 500, s)
  | .sleeping phantom tries =>
    some (if tries = 0 then .failing phantom true else .trying phantom tries, s)
  | .draining phantom => some (.waiting, { s with drains := s.drains ++ [⟨phantom, .looping⟩] })
  | .waiting => some (.serving, s)
  | .failing phantom manager => some (.clearing phantom manager, { s with running := false })
  | .clearing phantom manager =>
    some (if manager then .leaving phantom else .dropping, { s with hasSegments := false })
  | .leaving phantom => some (.dropping, s.tuneOut phantom)
  | .dropping => some (.answered 503, s.dropRecords)
  | .serving => some (if s.hasSegments then .serves else .answered 503, s)
  | .serves =>
    some (.answered 200,
      { s with
        lastActivity := s.clock
        answers := s.answers + 1 })
  | .fetching => some (if s.hasSegments && meets.segment then .serves else .answered 404, s)
  | .tuning _ | .tuned _ | .answered _ => none

/-- The next step of a tune-in: the manager records the viewer, and starts the producer for the first. -/
def executorStep (raises : Bool) (s : HlsChannel) : Request → Option (Request × HlsChannel)
  | .tuning phantom =>
    if raises then some (.tuneDone phantom false, s)
    else
      some (.tuned phantom,
        { s with
          viewers := insert phantom s.viewers
          recorded := phantom :: s.recorded })
  | .tuned phantom => some (.tuneDone phantom (!raises), s)
  | _ => none

/-- The next step of `_drain_hls_phantom`. -/
def drainStep (chunk : Bool) (s : HlsChannel) (phantom : ℕ) : Draining → Option (Draining × HlsChannel)
  | .looping => some (if s.running && chunk then .checking else .leaving, s)
  | .checking => some (if s.idleTimeout < s.clock - s.lastActivity then .leaving else .looping, s)
  | .leaving => some (.unsubscribing, s.tuneOut phantom)
  | .unsubscribing => some (.stopping, s)
  | .stopping =>
    some (.clearing,
      { s with
        running := false
        harmed := if s.running ∧ s.startedBy ≠ phantom then s.startedBy :: s.harmed else s.harmed })
  | .clearing => some (.dropping, { s with hasSegments := false })
  | .dropping =>
    some (.ended,
      { s.dropRecords with
        harmed := (s.phantomSession.filter fun other => other ≠ phantom).toList ++ s.harmed })
  | .ended => none

/-- A request goes on, and keeps the event loop up to its next await. -/
def goOn (thread : ℕ) (s : HlsChannel) (after : Request × HlsChannel) : HlsChannel :=
  { after.2 with
    requests := s.requests.set thread after.1
    loop := if after.1.onLoop then some thread else none }

/-- A step. -/
def step (s : HlsChannel) : HlsAction → Option HlsChannel
  | .playlist => some { s with requests := s.requests ++ [.arrived] }
  | .fetchSegment => some { s with requests := s.requests ++ [.fetching] }
  | .tuneOutPost =>
    if s.loop.isSome then none
    else if s.phantomSession.isSome then some { s with lastActivity := 0 }
    else some s
  | .request thread meets =>
    (s.requests[thread]?).bind fun request =>
      if s.loop = if request.onLoop then some thread else none then
        (s.requestStep meets request).map (s.goOn thread)
      else none
  | .executor thread raises =>
    (s.requests[thread]?).bind fun request => (s.executorStep raises request).map fun after =>
      { after.2 with requests := s.requests.set thread after.1 }
  | .drain thread chunk =>
    (s.drains[thread]?).bind fun drain => (s.drainStep chunk drain.phantom drain.place).map
      fun after => { after.2 with drains := s.drains.set thread ⟨drain.phantom, after.1⟩ }
  | .feed => if s.running then some { s with feeds := s.feeds + 1 } else none
  | .fed stores =>
    if s.feeds = 0 then none
    else
      some { s with
        feeds := s.feeds - 1
        hasSegments := s.hasSegments || stores }
  | .tick duration => some { s with clock := s.clock + duration }

end HlsChannel

end Steps

/-! ### What they are for -/

section Purpose

/-- The phantom that a request is starting. -/
def Request.phantom : Request → Option ℕ
  | .started phantom | .tuning phantom | .tuned phantom | .tuneDone phantom _ | .trying phantom _
  | .sleeping phantom _ | .draining phantom | .failing phantom _ | .clearing phantom _
  | .leaving phantom => some phantom
  | _ => none

namespace HlsChannel

/-- **The phantoms are cleaned up.** -/
structure CleanedUp (s : HlsChannel) : Prop where
  /-- A recorded phantom that no request starts and no thread drains any more was tuned out once. -/
  tunedOut : ∀ phantom ∈ s.recorded, (∀ request ∈ s.requests, request.phantom ≠ some phantom) →
    (∀ drain ∈ s.drains, drain.phantom = phantom → drain.place = .ended) →
      s.tuneOuts.count phantom = 1 ∧ phantom ∉ s.viewers
  /-- The segmenter runs only while a request starts a phantom or a thread drains one. -/
  stopped : (∀ request ∈ s.requests, request.phantom = none) →
    (∀ drain ∈ s.drains, drain.place = .ended) → s.running = false
  /-- No drain thread stopped the segmenter of another phantom, or dropped its records. -/
  unharmed : s.harmed = []
  /-- The activity time is raised by the creation of a phantom and by answers 200. -/
  raised : ∀ action next, s.step action = some next → s.lastActivity < next.lastActivity →
    ∃ thread meets, action = .request thread meets ∧
      (s.requests[thread]? = some .serves ∨
        ∃ phantom, s.requests[thread]? = some (.started phantom))

end HlsChannel

/-- A request that tries to get a fan-out. -/
def Request.tries : Request → Bool
  | .trying _ _ => true
  | _ => false

/-- A request whose viewer is recorded, while its tune-in goes on. -/
def Request.isTuned : Request → Bool
  | .tuned _ => true
  | _ => false

/-- What the clean-up needs of a step: a tune-in that raises does so before the viewer is recorded, the
try for a fan-out does not raise, and a drain thread finds no other phantom's session record when it drops
the records. -/
def Cleanly (s : HlsChannel) : HlsAction → Prop
  | .request thread meets =>
    (s.requests[thread]?).any Request.tries = true → meets.fanout ≠ .raises
  | .executor thread raises =>
    (s.requests[thread]?).any Request.isTuned = true → raises = false
  | .drain thread _ =>
    ∀ drain ∈ s.drains[thread]?, drain.place = .dropping →
      ∀ other ∈ s.phantomSession, other = drain.phantom
  | _ => True

instance (s : HlsChannel) (action : HlsAction) : Decidable (Cleanly s action) :=
  HlsAction.casesOn (motive := fun action => Decidable (Cleanly s action)) action
    (inferInstanceAs (Decidable True)) (inferInstanceAs (Decidable True))
    (inferInstanceAs (Decidable True))
    -- `request`
    (fun thread meets => inferInstanceAs (Decidable
      ((s.requests[thread]?).any Request.tries = true → meets.fanout ≠ .raises)))
    -- `executor`
    (fun thread raises => inferInstanceAs (Decidable
      ((s.requests[thread]?).any Request.isTuned = true → raises = false)))
    -- `drain`
    (fun thread _ => inferInstanceAs (Decidable (∀ drain ∈ s.drains[thread]?,
      drain.place = .dropping → ∀ other ∈ s.phantomSession, other = drain.phantom)))
    (inferInstanceAs (Decidable True)) (fun _ => inferInstanceAs (Decidable True))
    (fun _ => inferInstanceAs (Decidable True))

end Purpose

end Retrovue.Core.Viewers
