/-
**The video buffer between fill threads and tick loop** (`VideoLookaheadBuffer.cpp`).

* `VideoLookaheadBuffer`: the deque and its counters; `push`, `tryPopFrame`, `flush` as the code
  computes them under its lock;
* `Traffic`: a buffer with what was pushed, popped and flushed; `Traffic.Bounded`: the hard cap, the
  order, the count;
* `FillThread`, `FillThread.act`: a fill thread between its atomic steps, each a load, a locked region
  or a decode;
* `Lookahead`, `Lookahead.step`: the lifecycle calls, cut where another thread can come between, with
  every fill thread that was ever started;
* `Lookahead.Moves`, `step_moves`: what a step can do;
* `bounded_and_fresh`: in every run the buffer is bounded, in order and counted; and where each thread
  reads its generation before the next start, repeats only pictures of its own fill, and no start comes
  between a thread's check and its push, no frame of an earlier fill enters.
-/

import Mathlib
import Retrovue.Foundation.Transition
import Retrovue.Foundation.Threads
import Retrovue.Air.Blockplan.PlaybackSpeed

namespace Retrovue.Air.Blockplan

open Retrovue.Foundation.Transition Retrovue.Foundation.Threads

/-! ### The buffer -/

section Buffer

variable {Image : Type}

/-- `VideoBufferFrame`. -/
structure VideoBufferFrame (Image : Type) where
  video : Image
  assetUri : String
  blockCtMs : Int
  wasDecoded : Bool
  segmentOriginId : Int
  deriving DecidableEq, Repr

/-- A frame that has entered the buffer, with the fill that decoded its picture and the number of
fills that had been started then. -/
structure Entered (Image : Type) where
  frame : VideoBufferFrame Image
  decodedBy : ℕ
  startedThen : ℕ
  deriving DecidableEq, Repr

/-- `ComputeHardCap`. -/
def computeHardCap (targetDepthFrames : ℕ) : ℕ :=
  max (if 0 < targetDepthFrames then targetDepthFrames * 4 else 60) 200

/-- The buffer, without what only its observers read. -/
structure VideoLookaheadBuffer (Image : Type) where
  targetDepthFrames : ℕ
  frames : List (Entered Image)
  totalPushed : ℕ
  totalPopped : ℕ
  dropsTotal : ℕ
  underflowCount : ℕ
  primed : Bool
  deriving DecidableEq, Repr

/-- `hard_cap_frames_`. -/
def VideoLookaheadBuffer.hardCapFrames (buffer : VideoLookaheadBuffer Image) : ℕ :=
  computeHardCap buffer.targetDepthFrames

/-- A buffer as it is constructed. -/
def VideoLookaheadBuffer.fresh (targetDepthFrames : ℕ) : VideoLookaheadBuffer Image :=
  ⟨targetDepthFrames, [], 0, 0, 0, 0, false⟩

/-- The frames from the front that go while the deque is at the cap, and how many. -/
def dropOldest {α : Type} (cap : ℕ) : List α → List α × ℕ
  | [] => ([], 0)
  | frame :: rest =>
    if cap ≤ (frame :: rest).length then
      let kept := dropOldest cap rest
      (kept.1, kept.2 + 1)
    else (frame :: rest, 0)

/-- A push under the lock: what is at the cap drops its oldest first. -/
def VideoLookaheadBuffer.push (buffer : VideoLookaheadBuffer Image) (entered : Entered Image) :
    VideoLookaheadBuffer Image :=
  let kept := dropOldest buffer.hardCapFrames buffer.frames
  { buffer with
    frames := kept.1 ++ [entered]
    dropsTotal := buffer.dropsTotal + kept.2
    totalPushed := buffer.totalPushed + 1
    primed := true }

/-- `TryPopFrame`. -/
def VideoLookaheadBuffer.tryPopFrame (buffer : VideoLookaheadBuffer Image) :
    Option (Entered Image) × VideoLookaheadBuffer Image :=
  match buffer.frames with
  | [] => (none, { buffer with underflowCount := buffer.underflowCount + 1 })
  | front :: rest =>
    (some front, { buffer with frames := rest, totalPopped := buffer.totalPopped + 1 })

/-- The flush of a stop. -/
def VideoLookaheadBuffer.flush (buffer : VideoLookaheadBuffer Image) : VideoLookaheadBuffer Image :=
  { buffer with frames := [], primed := false }

theorem computeHardCap_pos (targetDepthFrames : ℕ) : 0 < computeHardCap targetDepthFrames :=
  lt_of_lt_of_le (by decide) (le_max_right _ 200)

/-- Dropping leaves the newest, fewer than the cap, and counts the rest. -/
theorem dropOldest_spec {α : Type} {cap : ℕ} (positive : 0 < cap) : ∀ frames : List α,
    (dropOldest cap frames).1.length < cap ∧
      (dropOldest cap frames).1.Sublist frames ∧
      (dropOldest cap frames).1.length + (dropOldest cap frames).2 = frames.length
  | [] => ⟨positive, List.Sublist.refl _, rfl⟩
  | frame :: rest => by
    obtain ⟨below, newest, count⟩ := dropOldest_spec positive rest
    rw [dropOldest]
    split_ifs with full
    · refine ⟨below, newest.cons frame, ?_⟩
      rw [List.length_cons, ← count]
      rfl
    · exact ⟨not_le.mp full, List.Sublist.refl _, rfl⟩

/-- A pop takes the front frame, if there is one, and counts it. -/
theorem tryPopFrame_spec (buffer : VideoLookaheadBuffer Image) :
    buffer.frames = buffer.tryPopFrame.1.toList ++ buffer.tryPopFrame.2.frames ∧
      buffer.tryPopFrame.2.totalPopped = buffer.totalPopped + buffer.tryPopFrame.1.toList.length ∧
      buffer.tryPopFrame.2.totalPushed = buffer.totalPushed ∧
      buffer.tryPopFrame.2.dropsTotal = buffer.dropsTotal ∧
      buffer.tryPopFrame.2.hardCapFrames = buffer.hardCapFrames := by
  unfold VideoLookaheadBuffer.tryPopFrame
  cases held : buffer.frames with
  | nil => exact ⟨rfl, rfl, rfl, rfl, rfl⟩
  | cons front rest => exact ⟨rfl, rfl, rfl, rfl, rfl⟩

end Buffer

/-! ### What goes through it -/

section Traffic

variable {Image : Type}

/-- A buffer with what was pushed and popped, in order, and how many frames were flushed. -/
structure Traffic (Image : Type) where
  buffer : VideoLookaheadBuffer Image
  pushed : List (Entered Image)
  popped : List (Entered Image)
  flushed : ℕ
  deriving DecidableEq, Repr

/-- No traffic yet. -/
def Traffic.fresh (targetDepthFrames : ℕ) : Traffic Image := ⟨.fresh targetDepthFrames, [], [], 0⟩

def Traffic.push (traffic : Traffic Image) (entered : Entered Image) : Traffic Image :=
  { traffic with buffer := traffic.buffer.push entered, pushed := traffic.pushed ++ [entered] }

def Traffic.pop (traffic : Traffic Image) : Traffic Image :=
  { traffic with
    buffer := traffic.buffer.tryPopFrame.2
    popped := traffic.popped ++ traffic.buffer.tryPopFrame.1.toList }

def Traffic.flush (traffic : Traffic Image) : Traffic Image :=
  { traffic with
    buffer := traffic.buffer.flush
    flushed := traffic.flushed + traffic.buffer.frames.length }

/-- **Bounded, in order, counted**: the depth is within the cap; what was popped and what is held are
pushed frames in push order; and every pushed frame was popped, dropped or flushed, or is held. -/
structure Traffic.Bounded (traffic : Traffic Image) : Prop where
  depth : traffic.buffer.frames.length ≤ traffic.buffer.hardCapFrames
  order : (traffic.popped ++ traffic.buffer.frames).Sublist traffic.pushed
  counted : traffic.buffer.totalPushed = traffic.buffer.totalPopped + traffic.buffer.dropsTotal +
    traffic.buffer.frames.length + traffic.flushed
  pushes : traffic.buffer.totalPushed = traffic.pushed.length
  pops : traffic.buffer.totalPopped = traffic.popped.length

variable {traffic : Traffic Image}

theorem Traffic.Bounded.fresh (targetDepthFrames : ℕ) :
    (Traffic.fresh targetDepthFrames : Traffic Image).Bounded :=
  ⟨Nat.zero_le _, List.Sublist.refl _, rfl, rfl, rfl⟩

theorem Traffic.Bounded.push (bounded : traffic.Bounded) (entered : Entered Image) :
    (traffic.push entered).Bounded := by
  obtain ⟨below, newest, count⟩ :=
    dropOldest_spec (computeHardCap_pos traffic.buffer.targetDepthFrames) traffic.buffer.frames
  unfold Traffic.push VideoLookaheadBuffer.push
  refine ⟨?_, ?_, ?_, ?_, bounded.pops⟩
  · dsimp only
    rw [List.length_append]
    exact below
  · dsimp only
    rw [← List.append_assoc]
    exact (((List.Sublist.refl _).append newest).trans bounded.order).append (List.Sublist.refl _)
  · have before := bounded.counted
    unfold VideoLookaheadBuffer.hardCapFrames
    dsimp only
    rw [List.length_append, List.length_singleton]
    omega
  · dsimp only
    rw [List.length_append, bounded.pushes]
    rfl

theorem Traffic.Bounded.pop (bounded : traffic.Bounded) : traffic.pop.Bounded := by
  obtain ⟨held, pops, pushes, drops, cap⟩ := tryPopFrame_spec traffic.buffer
  have lengths := congrArg List.length held
  rw [List.length_append] at lengths
  refine ⟨?_, ?_, ?_, ?_, ?_⟩
  · have depth := bounded.depth
    show traffic.buffer.tryPopFrame.2.frames.length ≤ traffic.buffer.tryPopFrame.2.hardCapFrames
    omega
  · have order := bounded.order
    show ((traffic.popped ++ traffic.buffer.tryPopFrame.1.toList) ++
      traffic.buffer.tryPopFrame.2.frames).Sublist traffic.pushed
    rwa [List.append_assoc, ← held]
  · have counted := bounded.counted
    show traffic.buffer.tryPopFrame.2.totalPushed = traffic.buffer.tryPopFrame.2.totalPopped +
      traffic.buffer.tryPopFrame.2.dropsTotal + traffic.buffer.tryPopFrame.2.frames.length +
      traffic.flushed
    omega
  · exact pushes.trans bounded.pushes
  · show traffic.buffer.tryPopFrame.2.totalPopped = (traffic.popped ++ _).length
    rw [List.length_append, pops, bounded.pops]

theorem Traffic.Bounded.flush (bounded : traffic.Bounded) : traffic.flush.Bounded := by
  refine ⟨Nat.zero_le _, ?_, ?_, bounded.pushes, bounded.pops⟩
  · have order := bounded.order
    show (traffic.popped ++ []).Sublist traffic.pushed
    exact ((List.Sublist.refl _).append (List.nil_sublist _)).trans order
  · have counted := bounded.counted
    show traffic.buffer.totalPushed = traffic.buffer.totalPopped + traffic.buffer.dropsTotal + 0 +
      (traffic.flushed + traffic.buffer.frames.length)
    omega

end Traffic

/-! ### The fill threads -/

section Threads

variable {Image : Type}

/-- What `TryGetFrame` hands over that reaches this buffer; its audio goes elsewhere. -/
structure DecodedFrame (Image : Type) where
  video : Image
  assetUri : String
  blockCtMs : Int
  deriving DecidableEq, Repr

/-- How `TryGetFrame` ends. -/
inductive DecodeResult (Image : Type)
  | frame (decoded : DecodedFrame Image)
  | nothing
  | raised
  deriving DecidableEq, Repr

/-- Where a fill thread is: started, with the producer read, with the generation read, with its
cadence set up, at the top of its loop, past the gate, with a frame in hand, past the last stop check,
between its generation check and its push (holding the lock), or gone. -/
inductive FillStage (Image : Type)
  | spawned
  | bound
  | counted
  | paced
  | looping
  | gated (decodes drops : Bool)
  | holding (drops : Bool) (frame : VideoBufferFrame Image) (decodedBy : ℕ)
  | ready (frame : VideoBufferFrame Image) (decodedBy : ℕ)
  | locked (frame : VideoBufferFrame Image) (decodedBy : ℕ)
  | exited
  deriving DecidableEq, Repr

def FillStage.isLocked : FillStage Image → Bool
  | .locked _ _ => true
  | _ => false

/-- The fill that decoded the picture in hand. -/
def FillStage.inHand : FillStage Image → Option ℕ
  | .holding _ _ decodedBy => some decodedBy
  | .ready _ decodedBy => some decodedBy
  | .locked _ decodedBy => some decodedBy
  | _ => none

/-- A fill thread's own variables; `last` is `last_decoded` with the fill that decoded it. -/
structure FillThread (Image : Type) where
  fill : ℕ
  producer : Bool
  myGen : ℕ
  cadenceActive : Bool
  cadenceBudgetNum : Int
  cadenceBudgetDen : Int
  last : Option (Image × ℕ)
  stage : FillStage Image
  deriving DecidableEq, Repr

/-- The thread of a fill, as it is started. -/
def FillThread.spawn (fill : ℕ) : FillThread Image := ⟨fill, false, 0, false, 0, 1, none, .spawned⟩

/-- A lifecycle call that waits for its thread. -/
inductive Lifecycle
  | start (inputFps outputFps : RationalFps) (mode : ResampleMode)
  | stop (flush : Bool)
  deriving DecidableEq, Repr

/-- Where the lifecycle caller is. -/
inductive BufferControl
  | idle
  | joining (call : Lifecycle)
  | stopped (call : Lifecycle)
  | unbound (inputFps outputFps : RationalFps) (mode : ResampleMode)
  | armed
  | primed
  | bumped
  | detached (flush : Bool)
  | fenced (flush : Bool)
  deriving DecidableEq, Repr

/-- The buffer with its members, the lifecycle caller and every fill thread that was started. -/
structure Lookahead (Image : Type) where
  traffic : Traffic Image
  fillGeneration : ℕ
  fillStop : Bool
  fillRunning : Bool
  producer : Bool
  inputFps : RationalFps
  outputFps : RationalFps
  resampleMode : ResampleMode
  segmentOriginId : Int
  control : BufferControl
  threads : List (FillThread Image)
  started : ℕ
  deriving DecidableEq, Repr

/-- A buffer as it is constructed. -/
def Lookahead.fresh (targetDepthFrames : ℕ) (defaultFps : RationalFps) : Lookahead Image :=
  ⟨.fresh targetDepthFrames, 0, false, false, false, defaultFps, defaultFps, .off, -1, .idle, [], 0⟩

/-- No fill thread holds the lock. -/
def Lookahead.mutexFree (s : Lookahead Image) : Bool :=
  s.threads.all fun thread => !thread.stage.isLocked

/-- The depth of the buffer. -/
def Lookahead.depth (s : Lookahead Image) : ℕ := s.traffic.buffer.frames.length

/-- A push, also of the primed frame. -/
def Lookahead.enter (s : Lookahead Image) (frame : VideoBufferFrame Image) (decodedBy : ℕ) :
    Lookahead Image :=
  { s with traffic := s.traffic.push ⟨frame, decodedBy, s.started⟩ }

/-- The frame made of a decode. -/
def Lookahead.decodedFrame (s : Lookahead Image) (decoded : DecodedFrame Image) :
    VideoBufferFrame Image :=
  ⟨decoded.video, decoded.assetUri, decoded.blockCtMs, true, s.segmentOriginId⟩

/-- The frame made of the last picture. -/
def Lookahead.repeatFrame (s : Lookahead Image) (video : Image) : VideoBufferFrame Image :=
  ⟨video, "", -1, false, s.segmentOriginId⟩

/-- What a fill thread does next; the flags, the audio depth and the decoder are its environment. -/
inductive FillAct (Image : Type)
  | bind
  | count
  | setUp
  | seed
  | gate (sessionStop audioLow : Bool)
  | decode (result : DecodeResult Image)
  | repeatLast
  | check
  | lock
  | push
  deriving DecidableEq, Repr

/-- The cadence variables as they are set up. -/
def FillThread.setUp (thread : FillThread Image) (s : Lookahead Image) : FillThread Image :=
  let active := decide (s.resampleMode = .cadence)
  if active ∧ 0 < s.outputFps.num ∧ 0 < s.outputFps.den ∧ 0 < s.inputFps.num ∧ 0 < s.inputFps.den then
    { thread with
      cadenceActive := active
      cadenceBudgetNum := s.outputFps.num * s.inputFps.den
      cadenceBudgetDen := s.inputFps.num * s.outputFps.den }
  else { thread with cadenceActive := active, cadenceBudgetNum := 0, cadenceBudgetDen := 1 }

/-- The cadence gate: the budget after it, and `should_decode`. -/
def FillThread.cadenceGate (thread : FillThread Image) (s : Lookahead Image) :
    FillThread Image × Bool :=
  if thread.cadenceActive then
    let budget := thread.cadenceBudgetNum + s.inputFps.num * s.outputFps.den
    if thread.cadenceBudgetDen ≤ budget then
      ({ thread with cadenceBudgetNum := budget - thread.cadenceBudgetDen }, true)
    else ({ thread with cadenceBudgetNum := budget }, false)
  else (thread, true)

/-- A hold-last or a cadence repeat, if there is a picture. -/
def FillThread.repeats (thread : FillThread Image) (s : Lookahead Image) (drops : Bool) :
    Option (FillThread Image) :=
  thread.last.map fun last =>
    { thread with stage := .holding drops (s.repeatFrame last.1) last.2 }

/-- One atomic step of a fill thread. -/
def FillThread.act (thread : FillThread Image) (s : Lookahead Image) :
    FillAct Image → Option (FillThread Image)
  | .bind =>
    if thread.stage matches .spawned then
      some { thread with producer := s.producer, stage := .bound }
    else none
  | .count =>
    if thread.stage matches .bound then
      some { thread with myGen := s.fillGeneration, stage := .counted }
    else none
  | .setUp =>
    if thread.stage matches .counted then some { thread.setUp s with stage := .paced } else none
  | .seed =>
    -- the back of the deque, whichever fill put it there
    if (thread.stage matches .paced) && s.mutexFree then
      some { thread with
        last := s.traffic.buffer.frames.getLast?.map fun back => (back.frame.video, back.decodedBy)
        stage := if thread.producer then .looping else .exited }
    else none
  | .gate sessionStop audioLow =>
    -- the waits end by a wake or by a timeout, at any depth
    if (thread.stage matches .looping) && s.mutexFree then
      if s.fillStop || sessionStop then some { thread with stage := .exited }
      else
        let gated := thread.cadenceGate s
        some { gated.1 with
          stage := .gated gated.2 (audioLow && decide (s.traffic.buffer.targetDepthFrames ≤ s.depth)) }
    else none
  | .decode result =>
    match thread.stage with
    | .gated true drops =>
      match result with
      | .frame decoded =>
        some { thread with
          last := some (decoded.video, thread.fill)
          stage := .holding drops (s.decodedFrame decoded) thread.fill }
      | .nothing => some ((thread.repeats s drops).getD { thread with stage := .exited })
      | .raised => some { thread with stage := .exited }
    | _ => none
  | .repeatLast =>
    match thread.stage with
    | .gated false drops => some ((thread.repeats s drops).getD { thread with stage := .looping })
    | _ => none
  | .check =>
    match thread.stage with
    | .holding drops frame decodedBy =>
      if s.fillStop then some { thread with stage := .exited }
      else if drops then some { thread with stage := .looping }
      else some { thread with stage := .ready frame decodedBy }
    | _ => none
  | .lock =>
    match thread.stage with
    | .ready frame decodedBy =>
      if s.mutexFree then
        if s.fillGeneration ≠ thread.myGen then some { thread with stage := .exited }
        else some { thread with stage := .locked frame decodedBy }
      else none
    | _ => none
  | .push =>
    if thread.stage.isLocked then some { thread with stage := .looping } else none

/-- What a step of a thread does to the buffer: the push of a locked one. -/
def FillThread.pushes (thread : FillThread Image) (s : Lookahead Image) :
    FillAct Image → Lookahead Image
  | .push =>
    match thread.stage with
    | .locked frame decodedBy => s.enter frame decodedBy
    | _ => s
  | _ => s

end Threads

/-! ### The lifecycle calls -/

section Calls

variable {Image : Type}

/-- What happens next: a call, the next part of the call in progress, a pop, or a step of a thread. -/
inductive LookaheadEvent (Image : Type)
  | setSegmentOriginId (id : Int)
  | startFilling (inputFps outputFps : RationalFps) (mode : ResampleMode)
  | stopFilling (flush : Bool)
  | stopFillingAsync (flush : Bool)
  | joined
  | arm
  | prime (primedFrame : Option (DecodedFrame Image))
  | bumpStart
  | spawn
  | bumpAsync
  | finish
  | tryPopFrame
  | thread (place : ℕ) (act : FillAct Image)
  deriving DecidableEq, Repr

/-- `StopFilling` up to its join; without a running fill there is nothing to wait for. -/
def Lookahead.beginStop (s : Lookahead Image) (call : Lifecycle) : Lookahead Image :=
  if s.fillRunning then { s with fillStop := true, control := .joining call }
  else { s with control := .stopped call }

/-- The flush of a stop takes the lock. -/
def Lookahead.flushed (s : Lookahead Image) (flush : Bool) : Option (Lookahead Image) :=
  if flush then
    if s.mutexFree then some { s with traffic := s.traffic.flush } else none
  else some s

/-- **One step.** -/
def Lookahead.step (s : Lookahead Image) : LookaheadEvent Image → Option (Lookahead Image)
  | .setSegmentOriginId id =>
    if s.control = .idle then some { s with segmentOriginId := id } else none
  | .startFilling inputFps outputFps mode =>
    if s.control = .idle then some (s.beginStop (.start inputFps outputFps mode)) else none
  | .stopFilling flush =>
    if s.control = .idle then some (s.beginStop (.stop flush)) else none
  | .stopFillingAsync flush =>
    if s.control = .idle then
      -- the running thread is handed to the caller, who joins it later
      some (if s.fillRunning then
        { s with fillStop := true, fillRunning := false, control := .detached flush }
      else { s with control := .detached flush })
    else none
  | .joined =>
    match s.control with
    | .joining call =>
      if (s.threads.getLast?.map fun thread => thread.stage matches .exited).getD true then
        some { s with fillRunning := false, control := .stopped call }
      else none
    | _ => none
  | .arm =>
    match s.control with
    | .unbound inputFps outputFps mode =>
      some { s with
        fillStop := false
        producer := true
        inputFps := inputFps
        outputFps := outputFps
        resampleMode := mode
        control := .armed }
    | _ => none
  | .prime primedFrame =>
    if s.control = .armed then
      match primedFrame with
      | none => some { s with control := .primed }
      | some decoded =>
        -- this push is the only one without a generation check
        if s.mutexFree then
          some { s.enter (s.decodedFrame decoded) (s.started + 1) with control := .primed }
        else none
    else none
  | .bumpStart =>
    if s.control = .primed then
      some { s with
        fillRunning := true
        fillGeneration := s.fillGeneration + 1
        started := s.started + 1
        control := .bumped }
    else none
  | .spawn =>
    if s.control = .bumped then
      some { s with threads := s.threads ++ [.spawn s.started], control := .idle }
    else none
  | .bumpAsync =>
    match s.control with
    | .detached flush =>
      some { s with fillGeneration := s.fillGeneration + 1, control := .fenced flush }
    | _ => none
  | .finish =>
    match s.control with
    | .stopped (.start inputFps outputFps mode) =>
      some { s with producer := false, control := .unbound inputFps outputFps mode }
    | .stopped (.stop flush) =>
      (s.flushed flush).map fun s => { s with producer := false, control := .idle }
    | .fenced flush =>
      (s.flushed flush).map fun s => { s with producer := false, control := .idle }
    | _ => none
  | .tryPopFrame =>
    if s.mutexFree then some { s with traffic := s.traffic.pop } else none
  | .thread place act =>
    match s.threads[place]? with
    | some thread =>
      (thread.act s act).map fun moved =>
        { thread.pushes s act with threads := s.threads.set place moved }
    | none => none

end Calls

/-! ### What a step can do -/

section Moves

variable {Image : Type} {s s' : Lookahead Image} {event : LookaheadEvent Image}

/-- What a step does to the traffic, the generation, the count of starts and the threads: nothing but a
pop, a flush or a new generation; the primed frame; a start; a new thread; or a step of a thread. -/
inductive Lookahead.Moves (s : Lookahead Image) (event : LookaheadEvent Image) (s' : Lookahead Image) :
    Prop
  | quiet (traffic : s'.traffic = s.traffic ∨ s'.traffic = s.traffic.pop ∨ s'.traffic = s.traffic.flush)
      (generation : s.fillGeneration ≤ s'.fillGeneration) (started : s'.started = s.started)
      (threads : s'.threads = s.threads)
  | primed (frame : VideoBufferFrame Image)
      (traffic : s'.traffic = s.traffic.push ⟨frame, s.started + 1, s.started⟩)
      (generation : s'.fillGeneration = s.fillGeneration) (started : s'.started = s.started)
      (threads : s'.threads = s.threads)
  | bumped (isBump : event = .bumpStart) (traffic : s'.traffic = s.traffic)
      (generation : s'.fillGeneration = s.fillGeneration + 1) (started : s'.started = s.started + 1)
      (threads : s'.threads = s.threads)
  | spawned (traffic : s'.traffic = s.traffic) (generation : s'.fillGeneration = s.fillGeneration)
      (started : s'.started = s.started) (threads : s'.threads = s.threads ++ [.spawn s.started])
  | moved (place : ℕ) (act : FillAct Image) (thread after : FillThread Image)
      (isThread : event = .thread place act) (here : s.threads[place]? = some thread)
      (acts : thread.act s act = some after)
      (leaves : s' = { thread.pushes s act with threads := s.threads.set place after })

theorem beginStop_moves (s : Lookahead Image) (call : Lifecycle) (event : LookaheadEvent Image) :
    s.Moves event (s.beginStop call) := by
  unfold Lookahead.beginStop
  split_ifs
  · exact .quiet (.inl rfl) le_rfl rfl rfl
  · exact .quiet (.inl rfl) le_rfl rfl rfl

/-- A flush, or none, with the parameters unset. -/
theorem flushed_moves {flush : Bool} {control : BufferControl}
    (taken : (s.flushed flush).map (fun s => { s with producer := false, control := control }) =
      some s') : s.Moves event s' := by
  obtain ⟨between, flushes, rfl⟩ := Option.map_eq_some_iff.mp taken
  unfold Lookahead.flushed at flushes
  split_ifs at flushes
  · cases flushes
    exact .quiet (.inr (.inr rfl)) le_rfl rfl rfl
  · cases flushes
    exact .quiet (.inl rfl) le_rfl rfl rfl

/-- **Every step is one of these.** -/
theorem step_moves (taken : s.step event = some s') : s.Moves event s' := by
  cases event with
  | setSegmentOriginId id =>
    obtain ⟨_, taken⟩ := Option.ite_none_right_eq_some.mp taken
    cases taken
    exact .quiet (.inl rfl) le_rfl rfl rfl
  | startFilling inputFps outputFps mode =>
    obtain ⟨_, taken⟩ := Option.ite_none_right_eq_some.mp taken
    cases taken
    exact beginStop_moves s _ _
  | stopFilling flush =>
    obtain ⟨_, taken⟩ := Option.ite_none_right_eq_some.mp taken
    cases taken
    exact beginStop_moves s _ _
  | stopFillingAsync flush =>
    obtain ⟨_, taken⟩ := Option.ite_none_right_eq_some.mp taken
    cases taken
    split_ifs
    · exact .quiet (.inl rfl) le_rfl rfl rfl
    · exact .quiet (.inl rfl) le_rfl rfl rfl
  | joined =>
    unfold Lookahead.step at taken
    dsimp only at taken
    split at taken
    · split at taken
      · cases taken
        exact .quiet (.inl rfl) le_rfl rfl rfl
      · cases taken
    · cases taken
  | arm =>
    unfold Lookahead.step at taken
    dsimp only at taken
    split at taken
    · cases taken
      exact .quiet (.inl rfl) le_rfl rfl rfl
    · cases taken
  | prime primedFrame =>
    obtain ⟨_, taken⟩ := Option.ite_none_right_eq_some.mp taken
    cases primedFrame with
    | none =>
      cases taken
      exact .quiet (.inl rfl) le_rfl rfl rfl
    | some decoded =>
      obtain ⟨_, taken⟩ := Option.ite_none_right_eq_some.mp taken
      cases taken
      exact .primed _ rfl rfl rfl rfl
  | bumpStart =>
    obtain ⟨_, taken⟩ := Option.ite_none_right_eq_some.mp taken
    cases taken
    exact .bumped rfl rfl rfl rfl rfl
  | spawn =>
    obtain ⟨_, taken⟩ := Option.ite_none_right_eq_some.mp taken
    cases taken
    exact .spawned rfl rfl rfl rfl
  | bumpAsync =>
    unfold Lookahead.step at taken
    dsimp only at taken
    split at taken
    · cases taken
      exact .quiet (.inl rfl) (Nat.le_succ _) rfl rfl
    · cases taken
  | finish =>
    unfold Lookahead.step at taken
    dsimp only at taken
    split at taken
    · cases taken
      exact .quiet (.inl rfl) le_rfl rfl rfl
    · exact flushed_moves taken
    · exact flushed_moves taken
    · cases taken
  | tryPopFrame =>
    obtain ⟨_, taken⟩ := Option.ite_none_right_eq_some.mp taken
    cases taken
    exact .quiet (.inr (.inl rfl)) le_rfl rfl rfl
  | thread place act =>
    unfold Lookahead.step at taken
    dsimp only at taken
    cases here : s.threads[place]? with
    | none =>
      rw [here] at taken
      cases taken
    | some thread =>
      rw [here] at taken
      obtain ⟨after, acts, rfl⟩ := Option.map_eq_some_iff.mp taken
      exact .moved place act thread after rfl here acts rfl

/-- What a thread's step does to the traffic. -/
theorem pushes_cases (thread : FillThread Image) (s : Lookahead Image) (act : FillAct Image) :
    thread.pushes s act = s ∨ ∃ frame decodedBy, act = .push ∧
      thread.stage = .locked frame decodedBy ∧ thread.pushes s act = s.enter frame decodedBy := by
  unfold FillThread.pushes
  split
  · split
    · rename_i frame decodedBy isLocked
      exact .inr ⟨frame, decodedBy, rfl, isLocked, rfl⟩
    · exact .inl rfl
  · exact .inl rfl

/-- **The buffer stays bounded, in order and counted**, whatever comes next. -/
theorem step_bounded (bounded : s.traffic.Bounded) (taken : s.step event = some s') :
    s'.traffic.Bounded := by
  cases step_moves taken with
  | quiet traffic generation started threads =>
    rcases traffic with same | popped | flushed
    · exact same ▸ bounded
    · exact popped ▸ bounded.pop
    · exact flushed ▸ bounded.flush
  | primed frame traffic generation started threads => exact traffic ▸ bounded.push _
  | bumped isBump traffic generation started threads => exact traffic ▸ bounded
  | spawned traffic generation started threads => exact traffic ▸ bounded
  | moved place act thread after isThread here acts leaves =>
    rw [leaves]
    rcases pushes_cases thread s act with same | ⟨frame, decodedBy, _, _, entered⟩
    · rw [same]
      exact bounded
    · rw [entered]
      exact bounded.push _

end Moves

/-! ### Generations -/

section Generations

variable {Image : Type} {s s' : Lookahead Image} {event : LookaheadEvent Image}
  {thread after : FillThread Image} {generation started : ℕ}

/-- **No stale frame**: every frame that entered was decoded by the latest fill started then, or by the
fill that was being started. -/
def Lookahead.Fresh (s : Lookahead Image) : Prop :=
  ∀ entered ∈ s.traffic.pushed, entered.startedThen ≤ entered.decodedBy

instance freshDecidable (s : Lookahead Image) : Decidable s.Fresh :=
  inferInstanceAs (Decidable (∀ entered ∈ s.traffic.pushed, entered.startedThen ≤ entered.decodedBy))

/-- What a fill thread's step needs: it reads its generation before the next fill is started, and
repeats a picture of its own fill only. -/
def FillThread.Meets (thread : FillThread Image) (started : ℕ) : FillAct Image → Prop
  | .count => thread.fill = started
  | .decode .nothing => ∀ last ∈ thread.last, last.2 = thread.fill
  | .repeatLast => ∀ last ∈ thread.last, last.2 = thread.fill
  | _ => True

instance fillMeetsDecidable (thread : FillThread Image) (started : ℕ) :
    ∀ act : FillAct Image, Decidable (thread.Meets started act)
  | .count => inferInstanceAs (Decidable (thread.fill = started))
  | .decode .nothing => inferInstanceAs (Decidable (∀ last ∈ thread.last, last.2 = thread.fill))
  | .repeatLast => inferInstanceAs (Decidable (∀ last ∈ thread.last, last.2 = thread.fill))
  | .decode (.frame _) => inferInstanceAs (Decidable True)
  | .decode .raised => inferInstanceAs (Decidable True)
  | .bind => inferInstanceAs (Decidable True)
  | .setUp => inferInstanceAs (Decidable True)
  | .seed => inferInstanceAs (Decidable True)
  | .gate _ _ => inferInstanceAs (Decidable True)
  | .check => inferInstanceAs (Decidable True)
  | .lock => inferInstanceAs (Decidable True)
  | .push => inferInstanceAs (Decidable True)

/-- **The condition on a step**: those of a thread, and that a start counts its fill when no thread is
between its generation check and its push. -/
def Lookahead.Meets (s : Lookahead Image) : LookaheadEvent Image → Prop
  | .bumpStart => s.mutexFree = true
  | .thread place act => ∀ thread ∈ s.threads[place]?, thread.Meets s.started act
  | _ => True

instance meetsStepDecidable (s : Lookahead Image) :
    ∀ event : LookaheadEvent Image, Decidable (s.Meets event)
  | .bumpStart => inferInstanceAs (Decidable (s.mutexFree = true))
  | .thread place act =>
    inferInstanceAs (Decidable (∀ thread ∈ s.threads[place]?, thread.Meets s.started act))
  | .setSegmentOriginId _ => inferInstanceAs (Decidable True)
  | .startFilling _ _ _ => inferInstanceAs (Decidable True)
  | .stopFilling _ => inferInstanceAs (Decidable True)
  | .stopFillingAsync _ => inferInstanceAs (Decidable True)
  | .joined => inferInstanceAs (Decidable True)
  | .arm => inferInstanceAs (Decidable True)
  | .prime _ => inferInstanceAs (Decidable True)
  | .spawn => inferInstanceAs (Decidable True)
  | .bumpAsync => inferInstanceAs (Decidable True)
  | .finish => inferInstanceAs (Decidable True)
  | .tryPopFrame => inferInstanceAs (Decidable True)

/-- What holds of a fill thread: a thread of an earlier fill has an outdated generation; what it has in
hand is its own; and it holds the lock only while its fill is the latest. -/
structure FillThread.Sound (thread : FillThread Image) (generation started : ℕ) : Prop where
  known : thread.fill ≤ started
  stamped : thread.myGen ≤ generation
  outdated : thread.fill < started → thread.myGen < generation
  own : ∀ fill ∈ thread.stage.inHand, fill = thread.fill
  latest : thread.stage.isLocked = true → thread.fill = started

/-- A thread without the lock that moves, with the same generation and its own frame in hand. -/
theorem FillThread.Sound.move (sound : thread.Sound generation started)
    (fill : after.fill = thread.fill) (myGen : after.myGen = thread.myGen)
    (own : ∀ fill ∈ after.stage.inHand, fill = thread.fill)
    (unlocked : after.stage.isLocked = false) : after.Sound generation started where
  known := fill ▸ sound.known
  stamped := myGen ▸ sound.stamped
  outdated earlier := myGen ▸ sound.outdated (fill ▸ earlier)
  own := fill ▸ own
  latest isLocked := by
    rw [unlocked] at isLocked
    cases isLocked

theorem setUp_spec (thread : FillThread Image) (s : Lookahead Image) :
    (thread.setUp s).fill = thread.fill ∧ (thread.setUp s).myGen = thread.myGen := by
  unfold FillThread.setUp
  dsimp only
  split_ifs <;> exact ⟨rfl, rfl⟩

theorem cadenceGate_spec (thread : FillThread Image) (s : Lookahead Image) :
    (thread.cadenceGate s).1.fill = thread.fill ∧ (thread.cadenceGate s).1.myGen = thread.myGen := by
  unfold FillThread.cadenceGate
  dsimp only
  split_ifs <;> exact ⟨rfl, rfl⟩

/-- A repeat, or a move to a place without a frame. -/
theorem FillThread.Sound.repeats (sound : thread.Sound generation started)
    (own : ∀ last ∈ thread.last, last.2 = thread.fill) {stage : FillStage Image} {drops : Bool}
    (empty : stage.inHand = none) (unlocked : stage.isLocked = false) (s : Lookahead Image) :
    ((thread.repeats s drops).getD { thread with stage := stage }).Sound generation started := by
  unfold FillThread.repeats
  cases held : thread.last with
  | none =>
    refine sound.move rfl rfl (fun fill inHand => ?_) unlocked
    change fill ∈ stage.inHand at inHand
    rw [empty] at inHand
    cases inHand
  | some last =>
    refine sound.move rfl rfl (fun fill inHand => ?_) rfl
    cases inHand
    exact own last held

/-- **A fill thread's step keeps it sound.** -/
theorem act_sound (sound : thread.Sound s.fillGeneration s.started) {act : FillAct Image}
    (meets : thread.Meets s.started act) (acts : thread.act s act = some after) :
    after.Sound s.fillGeneration s.started := by
  have nothing : ∀ fill ∈ (none : Option ℕ), fill = thread.fill := fun fill inHand => by cases inHand
  cases act with
  | bind =>
    obtain ⟨_, acts⟩ := Option.ite_none_right_eq_some.mp acts
    cases acts
    exact sound.move rfl rfl nothing rfl
  | count =>
    obtain ⟨_, acts⟩ := Option.ite_none_right_eq_some.mp acts
    cases acts
    refine ⟨sound.known, le_rfl, fun earlier => ?_, nothing, fun isLocked => by cases isLocked⟩
    exact absurd (show thread.fill = s.started from meets) (ne_of_lt earlier)
  | setUp =>
    obtain ⟨_, acts⟩ := Option.ite_none_right_eq_some.mp acts
    cases acts
    obtain ⟨fill, myGen⟩ := setUp_spec thread s
    exact sound.move fill myGen nothing rfl
  | seed =>
    obtain ⟨_, acts⟩ := Option.ite_none_right_eq_some.mp acts
    cases acts
    cases thread.producer with
    | true => exact sound.move rfl rfl nothing rfl
    | false => exact sound.move rfl rfl nothing rfl
  | gate sessionStop audioLow =>
    obtain ⟨_, acts⟩ := Option.ite_none_right_eq_some.mp acts
    split_ifs at acts
    · cases acts
      exact sound.move rfl rfl nothing rfl
    · cases acts
      obtain ⟨fill, myGen⟩ := cadenceGate_spec thread s
      exact sound.move fill myGen nothing rfl
  | decode result =>
    unfold FillThread.act at acts
    dsimp only at acts
    split at acts
    · cases result with
      | frame decoded =>
        cases acts
        refine sound.move rfl rfl (fun fill inHand => ?_) rfl
        cases inHand
        rfl
      | nothing =>
        cases acts
        exact sound.repeats meets rfl rfl s
      | raised =>
        cases acts
        exact sound.move rfl rfl nothing rfl
    · cases acts
  | repeatLast =>
    unfold FillThread.act at acts
    dsimp only at acts
    split at acts
    · cases acts
      exact sound.repeats meets rfl rfl s
    · cases acts
  | check =>
    unfold FillThread.act at acts
    dsimp only at acts
    split at acts
    · rename_i drops frame decodedBy holding
      have own := sound.own
      rw [holding] at own
      split_ifs at acts
      · cases acts
        exact sound.move rfl rfl nothing rfl
      · cases acts
        exact sound.move rfl rfl nothing rfl
      · cases acts
        exact sound.move rfl rfl own rfl
    · cases acts
  | lock =>
    unfold FillThread.act at acts
    dsimp only at acts
    split at acts
    · rename_i frame decodedBy isReady
      have own := sound.own
      rw [isReady] at own
      split_ifs at acts with free stale
      · cases acts
        exact sound.move rfl rfl nothing rfl
      · cases acts
        refine ⟨sound.known, sound.stamped, sound.outdated, own, fun _ => ?_⟩
        -- an outdated generation would not have passed the check
        have current : s.fillGeneration = thread.myGen := not_not.mp stale
        have known := sound.known
        have outdated := sound.outdated
        show thread.fill = s.started
        omega
    · cases acts
  | push =>
    obtain ⟨_, acts⟩ := Option.ite_none_right_eq_some.mp acts
    cases acts
    exact sound.move rfl rfl nothing rfl

/-- What holds along a run whose steps meet the condition. -/
structure Lookahead.Sound (s : Lookahead Image) : Prop where
  fresh : s.Fresh
  threads : ∀ thread ∈ s.threads, thread.Sound s.fillGeneration s.started

theorem Lookahead.Sound.start (targetDepthFrames : ℕ) (defaultFps : RationalFps) :
    (Lookahead.fresh targetDepthFrames defaultFps : Lookahead Image).Sound := by
  refine ⟨fun entered member => ?_, List.forall_mem_nil _⟩
  cases member

theorem Lookahead.Fresh.push {entered : Entered Image} {traffic : Traffic Image}
    (fresh : s.Fresh) (current : entered.startedThen ≤ entered.decodedBy)
    (same : traffic = s.traffic.push entered) :
    ∀ entered ∈ traffic.pushed, entered.startedThen ≤ entered.decodedBy := by
  rw [same]
  exact List.forall_mem_append.mpr ⟨fresh, List.forall_mem_singleton.mpr current⟩

/-- A pop or a flush pushes nothing. -/
theorem pushed_of_quiet {traffic : Traffic Image}
    (quiet : traffic = s.traffic ∨ traffic = s.traffic.pop ∨ traffic = s.traffic.flush) :
    traffic.pushed = s.traffic.pushed := by
  rcases quiet with rfl | rfl | rfl <;> rfl

/-- **A step that meets the condition keeps the run sound.** -/
theorem step_sound (sound : s.Sound) (meets : s.Meets event) (taken : s.step event = some s') :
    s'.Sound := by
  cases step_moves taken with
  | quiet traffic generation started threads =>
    refine ⟨?_, fun thread member => ?_⟩
    · unfold Lookahead.Fresh
      rw [pushed_of_quiet traffic]
      exact sound.fresh
    · rw [threads] at member
      rw [started]
      have here := sound.threads thread member
      exact ⟨here.known, here.stamped.trans generation,
        fun earlier => (here.outdated earlier).trans_le generation, here.own, here.latest⟩
  | primed frame traffic generation started threads =>
    refine ⟨sound.fresh.push (Nat.le_succ _) traffic, ?_⟩
    rw [threads, generation, started]
    exact sound.threads
  | bumped isBump traffic generation started threads =>
    subst isBump
    refine ⟨?_, fun thread member => ?_⟩
    · unfold Lookahead.Fresh
      rw [traffic]
      exact sound.fresh
    · rw [threads] at member
      rw [generation, started]
      have here := sound.threads thread member
      have unlocked : thread.stage.isLocked = false := by
        simpa using List.all_eq_true.mp meets thread member
      exact ⟨here.known.trans (Nat.le_succ _), here.stamped.trans (Nat.le_succ _),
        fun _ => Nat.lt_succ_of_le here.stamped, here.own, fun isLocked => by
          rw [unlocked] at isLocked
          cases isLocked⟩
  | spawned traffic generation started threads =>
    refine ⟨?_, ?_⟩
    · unfold Lookahead.Fresh
      rw [traffic]
      exact sound.fresh
    · rw [threads, generation, started]
      refine List.forall_mem_append.mpr ⟨sound.threads, List.forall_mem_singleton.mpr ?_⟩
      exact ⟨le_rfl, Nat.zero_le _, fun earlier => absurd earlier (lt_irrefl _),
        fun fill inHand => (by cases inHand), fun isLocked => (by cases isLocked)⟩
  | moved place act thread after isThread here acts leaves =>
    subst isThread
    have isSound := sound.threads thread (List.mem_of_getElem? here)
    have moved := act_sound isSound (meets thread here) acts
    have others : ∀ other ∈ s.threads.set place after, other.Sound s.fillGeneration s.started := by
      intro other member
      rcases List.mem_or_eq_of_mem_set member with before | rfl
      · exact sound.threads other before
      · exact moved
    rw [leaves]
    rcases pushes_cases thread s act with same | ⟨frame, decodedBy, _, isLocked, entered⟩
    · rw [same]
      exact ⟨sound.fresh, others⟩
    · rw [entered]
      refine ⟨sound.fresh.push ?_ rfl, others⟩
      have own := isSound.own decodedBy (by rw [isLocked]; rfl)
      have latest := isSound.latest (by rw [isLocked]; rfl)
      show s.started ≤ decodedBy
      omega

/-- **The video buffer**, over every interleaving of its fill threads, pops and lifecycle calls: it is
bounded, in order and counted; and where every step meets the condition, no frame of an earlier fill
enters. -/
theorem bounded_and_fresh (targetDepthFrames : ℕ) (defaultFps : RationalFps)
    (events : List (LookaheadEvent Image)) {final : Lookahead Image}
    (ran : runActions Lookahead.step (.fresh targetDepthFrames defaultFps) events = some final) :
    final.traffic.Bounded ∧
      (Along Lookahead.step Lookahead.Meets (.fresh targetDepthFrames defaultFps) events →
        final.Fresh) := by
  refine ⟨?_, fun along => ?_⟩
  · exact invariant_along Lookahead.step (fun s => s.traffic.Bounded) (fun _ _ => True)
      (fun _ _ _ bounded _ taken => step_bounded bounded taken) events
      (Traffic.Bounded.fresh targetDepthFrames)
      (along_of_forall Lookahead.step (fun _ _ => trivial) events _) ran
  · have sound := invariant_along Lookahead.step Lookahead.Sound Lookahead.Meets
      (fun _ _ _ sound meets taken => step_sound sound meets taken) events
      (.start targetDepthFrames defaultFps) along ran
    exact sound.fresh

end Generations

/-! ### Two fills -/

section Fills

theorem fps30_normal : (0 < (30 : Int) ∧ 0 < (1 : Int) ∧ Int.gcd 30 1 = 1) ∨ ((30 : Int) = 0 ∧ (1 : Int) = 1) :=
  .inl ⟨by decide, by decide, by decide⟩

/-- `FPS_30`. -/
def fps30 : RationalFps := ⟨30, 1, fps30_normal⟩

/-- A start of filling, with or without a primed frame. -/
def startEvents (primedFrame : Option (DecodedFrame String)) : List (LookaheadEvent String) :=
  [.startFilling fps30 fps30 .off, .finish, .arm, .prime primedFrame, .bumpStart, .spawn]

/-- A stop without a join and without a flush. -/
def asyncStopEvents : List (LookaheadEvent String) := [.stopFillingAsync false, .bumpAsync, .finish]

/-- A thread from its start to its first frame, before the check of its generation. -/
def firstFrameEvents (place : ℕ) (video : String) : List (LookaheadEvent String) :=
  [.thread place .bind, .thread place .count, .thread place .setUp, .thread place .seed,
    .thread place (.gate false false), .thread place (.decode (.frame ⟨video, "asset", 0⟩)),
    .thread place .check]

/-- The first thread checks its generation before the stop and pushes after the second start. -/
def lateEvents : List (LookaheadEvent String) :=
  startEvents none ++ firstFrameEvents 0 "first" ++ [.thread 0 .lock] ++ asyncStopEvents ++
    startEvents none ++ [.thread 0 .push]

/-- The first thread checks its generation after the stop. -/
def rejectedEvents : List (LookaheadEvent String) :=
  startEvents none ++ firstFrameEvents 0 "first" ++ asyncStopEvents ++
    startEvents (some ⟨"primed", "asset", 0⟩) ++ [.thread 0 .lock] ++ firstFrameEvents 1 "second" ++
      [.thread 1 .lock, .thread 1 .push, .tryPopFrame]

/-- The late thread is rejected, and the frames of the second fill go through. -/
theorem late_thread_rejected :
    ∃ final, runActions Lookahead.step (.fresh 15 fps30) rejectedEvents = some final ∧
      final.traffic.popped.map (fun entered => entered.frame.video) = ["primed"] ∧
      final.traffic.buffer.frames.map (fun entered => entered.frame.video) = ["second"] ∧
      final.traffic.Bounded ∧ final.Fresh := by
  obtain ⟨final, ran, popped, held⟩ := exists_run Lookahead.step (.fresh 15 fps30) rejectedEvents
    (fun final => final.traffic.popped.map (fun entered => entered.frame.video) = ["primed"] ∧
      final.traffic.buffer.frames.map (fun entered => entered.frame.video) = ["second"])
    (by decide +kernel)
  obtain ⟨bounded, fresh⟩ := bounded_and_fresh 15 fps30 rejectedEvents ran
  exact ⟨final, ran, popped, held, bounded, fresh (by decide +kernel)⟩

/-- **The first fill's frame enters after the second start**: the generation is bumped without the
lock, between the first thread's check and its push. -/
theorem late_push_enters :
    ∃ final, runActions Lookahead.step (.fresh 15 fps30) lateEvents = some final ∧
      final.control = .idle ∧
      final.traffic.buffer.frames.map (fun entered =>
        (entered.frame.video, entered.decodedBy, entered.startedThen)) = [("first", 1, 2)] ∧
      ¬final.Fresh :=
  exists_run Lookahead.step (.fresh 15 fps30) lateEvents
    (fun final => final.control = .idle ∧
      final.traffic.buffer.frames.map (fun entered =>
        (entered.frame.video, entered.decodedBy, entered.startedThen)) = [("first", 1, 2)] ∧
      ¬final.Fresh)
    (by decide +kernel)

end Fills

end Retrovue.Air.Blockplan
