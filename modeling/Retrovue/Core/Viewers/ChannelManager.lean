/-
**The viewers of one channel** (`runtime/channel_manager.py`), with its threads at single reads and
writes.

* `Section`: where the one thread that holds `_viewer_lock` stands in `viewer_join` or
  `viewer_leave`, and `ChannelManager.advance`, its next read or write;
* `Poll`: a thread in `check_health`, which reads the sessions and writes the count without the lock;
* `Expiry`: where the event loop stands in `_linger_expire`, also without the lock;
* `ChannelManager.step`: any of them goes on, and `Tally`: what has been seen of arrivals, departures
  and the two callbacks.
-/

import Retrovue.Foundation.Transition

namespace Retrovue.Core.Viewers

open Retrovue.Foundation.Transition

/-! ### Starting the producer -/

section Producer

/-- What a call that may fail comes to. -/
inductive Reply where
  | yes
  | no
  | raises
  deriving DecidableEq

/-- What `_ensure_producer_running` meets on its way. -/
structure Found where
  modeAnswers : Bool
  rightMode : Bool
  healthy : Bool
  stops : Bool
  builds : Reply
  block : Reply
  starts : Reply
  deriving DecidableEq

/-- The exceptions of `_ensure_producer_running`: its own two, or one of what it calls. -/
inductive StartError where
  | producerStartupError
  | noScheduleDataError
  | passedOn
  deriving DecidableEq

/-- `_ensure_producer_running`: whether there is an active producer afterwards, and what it raised. -/
def ensureProducerRunning (activeProducer : Bool) (found : Found) : Bool × Option StartError :=
  if found.modeAnswers = false then (activeProducer, some .passedOn)
  else if activeProducer && found.rightMode && found.healthy then (activeProducer, none)
  else if activeProducer && !found.stops then (activeProducer, some .passedOn)
  else
    match found.builds, found.block, found.starts with
    | .no, _, _ => (false, some .producerStartupError)
    | .raises, _, _ => (false, some .passedOn)
    | .yes, .no, _ => (false, some .noScheduleDataError)
    -- the producer is assigned before it is asked to start
    | .yes, .raises, _ => (true, some .passedOn)
    | .yes, .yes, .no => (false, some .producerStartupError)
    | .yes, .yes, .raises => (true, some .passedOn)
    | .yes, .yes, .yes => (true, none)

end Producer

/-! ### The threads -/

section Threads

/-- `_channel_state`. -/
inductive ChannelState where
  | RUNNING
  | STOPPED
  deriving DecidableEq

/-- What the thread inside `_viewer_lock` does next. The two `Entered` know how many sessions there
were before. -/
inductive Section where
  | joinEntered (before : Nat)
  | joinRemembered (oldCount : Nat)
  | joinCounted (oldCount : Nat)
  | joinLingering (oldCount : Nat)
  | joinCancelling (oldCount : Nat)
  | joinForgetting (oldCount : Nat)
  | joinResuming (oldCount : Nat)
  | joinStarting (oldCount : Nat)
  | firstViewer
  | firstViewerStart
  | joinEnding
  | leaveEntered (before : Nat)
  | leaveRemembered (oldCount : Nat)
  | leaveCounted (oldCount : Nat)
  | lastViewer
  | startLinger
  | leaveEnding
  deriving DecidableEq

/-- A thread in `check_health`: it has read the sessions, or written their number. -/
inductive Poll where
  | counted (viewerCount : Nat)
  | written
  deriving DecidableEq

/-- What `_linger_expire` does next: it forgets the handle, asks for viewers, and goes through
`stop_channel`. -/
inductive Expiry where
  | fired
  | forgotten
  | stopping
  | stopCancelling
  | stopForgetting
  | stopMarking
  | stopIdle
  | stopForcing
  deriving DecidableEq

/-- What has been seen so far: the sessions becoming some and none, the callbacks, and the joins that
did not try to start the producer after one whose start raised. -/
structure Tally where
  arrivals : Nat := 0
  departures : Nat := 0
  firstViewers : Nat := 0
  lastViewers : Nat := 0
  owed : Bool := false
  tried : Bool := false
  unretried : Nat := 0
  deriving DecidableEq

variable (Session : Type) [DecidableEq Session]

/-- `ChannelManager`, as far as its viewers are concerned. -/
structure ChannelManager where
  hasLoop : Bool
  viewerSessions : Finset Session := ∅
  viewerCount : Nat := 0
  channelState : ChannelState := .RUNNING
  activeProducer : Bool := false
  teardownStarted : Bool := false
  lingerHandle : Option Nat := none
  scheduled : List Nat := []
  nextTimer : Nat := 0
  critical : Option Section := none
  polls : List Poll := []
  expiry : Option Expiry := none
  tally : Tally := {}

/-- What happens next: a viewer comes or goes, the holder of the lock goes on, a health check begins
or goes on, a linger timer fires or its callback goes on. -/
inductive Action where
  | viewerJoin (session : Session)
  | viewerLeave (session : Session)
  | advance (found : Found)
  | checkHealth
  | poll (index : Nat) (teardownInProgress : Bool)
  | fire (timer : Nat)
  | expire (teardownInProgress : Bool)

end Threads

/-! ### Their reads and writes -/

section Steps

variable {Session : Type} [DecidableEq Session]

namespace ChannelManager

/-- `_check_teardown_completion`. -/
def checkTeardownCompletion (teardownInProgress : Bool) (c : ChannelManager Session) :
    ChannelManager Session :=
  if c.teardownStarted = false then c
  else if c.activeProducer && teardownInProgress then c
  else { c with activeProducer := false, teardownStarted := false }

/-- `_stop_producer_if_idle`. -/
def stopProducerIfIdle (teardownInProgress : Bool) (c : ChannelManager Session) :
    ChannelManager Session :=
  let checked := c.checkTeardownCompletion teardownInProgress
  if checked.viewerCount = 0 ∧ checked.activeProducer ∧ teardownInProgress = false then
    { checked with teardownStarted := true }
  else checked

/-- `ProgramDirector.stop_channel` of the thread that holds the lock and has no linger handle. -/
def stopChannel (c : ChannelManager Session) : ChannelManager Session :=
  { { c with channelState := .STOPPED }.stopProducerIfIdle false with activeProducer := false }

/-- `old_count == 0 and self.runtime_state.viewer_count == 1`. -/
def isFirst (oldCount : Nat) (c : ChannelManager Session) : Bool :=
  oldCount == 0 && c.viewerCount == 1

/-- `old_count == 1 and self.runtime_state.viewer_count == 0`. -/
def isLast (oldCount : Nat) (c : ChannelManager Session) : Bool :=
  oldCount == 1 && c.viewerCount == 0

/-- The holder of the lock goes to its next read or write. -/
def goTo (next : Section) (c : ChannelManager Session) : ChannelManager Session :=
  { c with critical := some next }

/-- `viewer_join` returns or raises: the lock is free again. -/
def endJoin (startRaised : Bool) (c : ChannelManager Session) : ChannelManager Session :=
  { c with
    critical := none
    tally := { c.tally with
      owed := startRaised
      tried := false
      unretried := c.tally.unretried + if c.tally.owed && !c.tally.tried then 1 else 0 } }

/-- `viewer_join` takes the lock and records the session. -/
def viewerJoin (session : Session) (c : ChannelManager Session) : Option (ChannelManager Session) :=
  if c.critical = none then
    some { c with
      viewerSessions := insert session c.viewerSessions
      critical := some (.joinEntered c.viewerSessions.card)
      tally := { c.tally with
        arrivals := c.tally.arrivals + if c.viewerSessions = ∅ then 1 else 0 } }
  else none

/-- `viewer_leave` takes the lock and forgets the session. -/
def viewerLeave (session : Session) (c : ChannelManager Session) : Option (ChannelManager Session) :=
  if c.critical = none then
    some { c with
      viewerSessions := c.viewerSessions.erase session
      critical := some (.leaveEntered c.viewerSessions.card)
      tally := { c.tally with
        departures := c.tally.departures +
          if c.viewerSessions ≠ ∅ ∧ c.viewerSessions.erase session = ∅ then 1 else 0 } }
  else none

/-- `_start_linger`: a timer on the event loop, or the stop at once where there is none. -/
def startLinger (c : ChannelManager Session) : ChannelManager Session :=
  if c.lingerHandle.isSome then c
  else if c.hasLoop then
    { c with
      lingerHandle := some c.nextTimer
      scheduled := c.nextTimer :: c.scheduled
      nextTimer := c.nextTimer + 1 }
  else c.stopChannel

/-- `_ensure_producer_running` as `on_first_viewer` calls it. -/
def startForFirst (found : Found) (c : ChannelManager Session) : ChannelManager Session :=
  let outcome := ensureProducerRunning c.activeProducer found
  let tried := { c with
    activeProducer := outcome.1
    tally := { c.tally with tried := true } }
  if outcome.2 = none then tried.goTo .joinEnding else tried.endJoin true

/-- The next read or write of the holder of the lock. -/
def advance (found : Found) (c : ChannelManager Session) : Option (ChannelManager Session) :=
  c.critical.map fun
  | .joinEntered _ => c.goTo (.joinRemembered c.viewerCount)
  | .joinRemembered oldCount =>
    { c with viewerCount := c.viewerSessions.card }.goTo (.joinCounted oldCount)
  | .joinCounted oldCount =>
    if c.isFirst oldCount then c.goTo (.joinLingering oldCount) else c.goTo (.joinResuming oldCount)
  | .joinLingering oldCount =>
    if c.lingerHandle.isSome then c.goTo (.joinCancelling oldCount)
    else c.goTo (.joinResuming oldCount)
  | .joinCancelling oldCount =>
    match c.lingerHandle with
    -- the handle was there when it was asked for: `None` has no `cancel`
    | none => c.endJoin false
    | some timer =>
      { c with scheduled := c.scheduled.erase timer }.goTo (.joinForgetting oldCount)
  | .joinForgetting oldCount => { c with lingerHandle := none }.goTo (.joinResuming oldCount)
  | .joinResuming oldCount =>
    if c.isFirst oldCount then { c with channelState := .RUNNING }.goTo (.joinStarting oldCount)
    else c.goTo (.joinStarting oldCount)
  | .joinStarting oldCount =>
    if c.isFirst oldCount then
      { c with tally := { c.tally with firstViewers := c.tally.firstViewers + 1 } }.goTo .firstViewer
    else c.goTo .joinEnding
  | .firstViewer => if c.viewerCount = 0 then c.goTo .joinEnding else c.goTo .firstViewerStart
  | .firstViewerStart => if c.viewerCount = 1 then c.startForFirst found else c.goTo .joinEnding
  | .joinEnding => c.endJoin false
  | .leaveEntered _ => c.goTo (.leaveRemembered c.viewerCount)
  | .leaveRemembered oldCount =>
    { c with viewerCount := c.viewerSessions.card }.goTo (.leaveCounted oldCount)
  | .leaveCounted oldCount =>
    if c.isLast oldCount then
      { c with tally := { c.tally with lastViewers := c.tally.lastViewers + 1 } }.goTo .lastViewer
    else c.goTo .leaveEnding
  | .lastViewer => if c.viewerCount ≠ 0 then c.goTo .leaveEnding else c.goTo .startLinger
  | .startLinger => c.startLinger.goTo .leaveEnding
  | .leaveEnding => { c with critical := none }

/-- The next read or write of a health check. -/
def poll (index : Nat) (teardownInProgress : Bool) (c : ChannelManager Session) :
    Option (ChannelManager Session) :=
  c.polls[index]?.map fun
  | .counted viewerCount => { c with viewerCount, polls := c.polls.set index .written }
  | .written =>
    let done := { c with polls := c.polls.eraseIdx index }
    if done.channelState = .STOPPED then done
    else done.checkTeardownCompletion teardownInProgress

/-- A linger timer fires: the event loop runs one callback at a time. -/
def fire (timer : Nat) (c : ChannelManager Session) : Option (ChannelManager Session) :=
  if timer ∈ c.scheduled ∧ c.expiry = none then
    some { c with scheduled := c.scheduled.erase timer, expiry := some .fired }
  else none

/-- The next read or write of `_linger_expire`. -/
def expire (teardownInProgress : Bool) (c : ChannelManager Session) :
    Option (ChannelManager Session) :=
  c.expiry.map fun
  | .fired => { c with lingerHandle := none, expiry := some .forgotten }
  | .forgotten => { c with expiry := if c.viewerCount = 0 then some .stopping else none }
  | .stopping =>
    { c with expiry := some (if c.lingerHandle.isSome then .stopCancelling else .stopMarking) }
  | .stopCancelling =>
    match c.lingerHandle with
    | none => { c with expiry := none }
    | some timer => { c with scheduled := c.scheduled.erase timer, expiry := some .stopForgetting }
  | .stopForgetting => { c with lingerHandle := none, expiry := some .stopMarking }
  | .stopMarking => { c with channelState := .STOPPED, expiry := some .stopIdle }
  | .stopIdle => { c.stopProducerIfIdle teardownInProgress with expiry := some .stopForcing }
  | .stopForcing => { c with activeProducer := false, expiry := none }

/-- Any of the threads goes on. -/
def step (c : ChannelManager Session) : Action Session → Option (ChannelManager Session)
  | .viewerJoin session => c.viewerJoin session
  | .viewerLeave session => c.viewerLeave session
  | .advance found => c.advance found
  | .checkHealth => some { c with polls := c.polls ++ [.counted c.viewerSessions.card] }
  | .poll index teardownInProgress => c.poll index teardownInProgress
  | .fire timer => c.fire timer
  | .expire teardownInProgress => c.expire teardownInProgress

end ChannelManager

end Steps

end Retrovue.Core.Viewers
