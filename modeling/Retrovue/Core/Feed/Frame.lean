/-
**What the feed controller's bookkeeping leaves alone.**

Deadline tracking, miss counting, backoff and the state machine `SEEDED → RUNNING` touch neither
the cursor nor the credits.

* `SameControl`: two producers agree on everything that decides what is fed and whether;
* one lemma for each bookkeeping function, and `feedAhead`, which only opens a loop;
* `feedAhead_loop`: an opened loop has a credit to spend.
-/

import Retrovue.Core.Feed.Model

namespace Retrovue.Core.Feed

/-- Two producers agree on session, cursor, pending slot, credits and the flags behind them. -/
structure SameControl (p q : Producer) : Prop where
  session : q.session = p.session
  cursor : q.nextBlockStartMs = p.nextBlockStartMs
  pending : q.pendingBlock = p.pendingBlock
  started : q.started = p.started
  ended : q.sessionEnded = p.sessionEnded
  supported : q.blockStartedSupported = p.blockStartedSupported
  credits : q.feedCredits = p.feedCredits
  fed : q.fedBlockIds = p.fedBlockIds

namespace SameControl

variable (settings : Settings) (p : Producer)

theorem refl : SameControl p p := ⟨rfl, rfl, rfl, rfl, rfl, rfl, rfl, rfl⟩

theorem trans {p q r : Producer} (first : SameControl p q) (second : SameControl q r) :
    SameControl p r where
  session := second.session.trans first.session
  cursor := second.cursor.trans first.cursor
  pending := second.pending.trans first.pending
  started := second.started.trans first.started
  ended := second.ended.trans first.ended
  supported := second.supported.trans first.supported
  credits := second.credits.trans first.credits
  fed := second.fed.trans first.fed

theorem preEvaluateDeadline (now : Int) :
    SameControl p (p.preEvaluateDeadline settings now) := by
  unfold Producer.preEvaluateDeadline
  split
  · exact ⟨rfl, rfl, rfl, rfl, rfl, rfl, rfl, rfl⟩
  · exact refl p

theorem feedAhead (now : Int) : SameControl p (p.feedAhead settings now).1 := by
  unfold Producer.feedAhead
  split
  · exact refl p
  · split
    · exact refl p
    · split
      · exact preEvaluateDeadline settings p now
      · exact preEvaluateDeadline settings p now

theorem enterRunning : SameControl p p.enterRunning := by
  unfold Producer.enterRunning
  split
  · exact ⟨rfl, rfl, rfl, rfl, rfl, rfl, rfl, rfl⟩
  · exact refl p

theorem clearFeedErrors : SameControl p p.clearFeedErrors :=
  ⟨rfl, rfl, rfl, rfl, rfl, rfl, rfl, rfl⟩

theorem recordMiss (now clock : Int) (block : BlockPlan) :
    SameControl p (p.recordMiss now clock block) := by
  unfold Producer.recordMiss
  split
  · exact ⟨rfl, rfl, rfl, rfl, rfl, rfl, rfl, rfl⟩
  · split
    · exact ⟨rfl, rfl, rfl, rfl, rfl, rfl, rfl, rfl⟩
    · exact refl p

theorem onPacedTick (tornDown : Bool) (now : Int) :
    SameControl p (p.onPacedTick settings tornDown now).1 := by
  have counted : SameControl p p.countTick := ⟨rfl, rfl, rfl, rfl, rfl, rfl, rfl, rfl⟩
  unfold Producer.onPacedTick
  split
  · exact refl p
  · split
    · exact counted
    · split
      · exact counted.trans ⟨rfl, rfl, rfl, rfl, rfl, rfl, rfl, rfl⟩
      · split
        · exact counted.trans (feedAhead settings _ now)
        · exact counted

end SameControl

/-- A loop is opened only with a credit to spend. -/
theorem feedAhead_loop {settings : Settings} {p : Producer} {now : Int}
    {loop : Producer.FeedLoop} (opened : (p.feedAhead settings now).2 = some loop) :
    0 < p.feedCredits := by
  unfold Producer.feedAhead at opened
  split at opened
  · cases opened
  · split at opened
    · cases opened
    · split at opened
      · cases opened
      · omega

end Retrovue.Core.Feed
