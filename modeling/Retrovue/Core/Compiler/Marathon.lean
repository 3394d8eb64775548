/-
**Movie marathons.**

A marathon draws movies that are not in a set of used ids until its time is full, or until a movie
runs past its end, which it takes back. The set is shared by the marathons of a day in the layered
format; it is emptied whenever a marathon finds nothing left in its own pools, and a movie that is
taken back stays in it.

* `Eligible`: the movies that a selector may choose;
* `marathonRun`: the loop, with the movie that it takes back;
* `Unrepeated`: a movie comes again only when every eligible one has been placed;
* `MarathonFair`: nothing repeated early, nothing past the end, and no time left for an eligible
  movie;
* `dayVisits_fair`: a day whose marathons remember and take nothing back is fair.
-/

import Mathlib
import Retrovue.Core.Compiler.Timeline

namespace Retrovue.Core.Compiler

open Retrovue.Core.Schedule Retrovue.Foundation.Sorting Retrovue.Foundation.Fallible

/-! ### The movies of a selector -/

section Selection

variable {rng : RandomSource} {lookup : Lookup}

/-- A selector may choose the movie: it is in its pools and passes its filters. -/
def Eligible (lookup : Lookup) (selector : MovieSelector) (assetId : String) : Prop :=
  ∃ pools, candidates lookup selector.collections = .ok pools ∧ assetId ∈ pools ∧
    ∃ asset, lookup assetId = some asset ∧ selector.allows asset = .ok true

/-- The eligible movies, in pool order. -/
def eligibleIds (lookup : Lookup) (selector : MovieSelector) : List String :=
  match candidates lookup selector.collections with
  | .ok pools => pools.filter fun assetId =>
    match lookup assetId with
    | some asset =>
      match selector.allows asset with
      | .ok allowed => allowed
      | .error _ => false
    | none => false
  | .error _ => []

theorem mem_eligibleIds {selector : MovieSelector} {assetId : String} :
    assetId ∈ eligibleIds lookup selector ↔ Eligible lookup selector assetId := by
  unfold eligibleIds Eligible
  cases candidates lookup selector.collections with
  | error reason => simp
  | ok pools =>
    rw [List.mem_filter]
    constructor
    · rintro ⟨member, passes⟩
      cases found : lookup assetId with
      | none =>
        rw [found] at passes
        cases passes
      | some asset =>
        rw [found] at passes
        dsimp only at passes
        cases decided : selector.allows asset with
        | error reason =>
          rw [decided] at passes
          cases passes
        | ok allowed =>
          rw [decided] at passes
          cases passes
          exact ⟨pools, rfl, member, asset, rfl, decided⟩
    · rintro ⟨_, same, member, asset, found, decided⟩
      cases same
      refine ⟨member, ?_⟩
      rw [found]
      dsimp only
      rw [decided]

instance eligibleDecidable (selector : MovieSelector) :
    DecidablePred (Eligible lookup selector) :=
  fun _ => decidable_of_iff _ mem_eligibleIds

/-- A property of all eligible movies is decided over the pools. -/
instance forallEligibleDecidable (selector : MovieSelector) (p : String → Prop) [DecidablePred p] :
    Decidable (∀ assetId, Eligible lookup selector assetId → p assetId) :=
  decidable_of_iff (∀ assetId ∈ eligibleIds lookup selector, p assetId)
    (forall_congr' fun _ => imp_congr_left mem_eligibleIds)

theorem mem_of_choice {α : Type} {state after : rng.State} {items : List α} {item : α}
    (drawn : choice rng state items = .ok (item, after)) : item ∈ items := by
  unfold choice at drawn
  dsimp only at drawn
  split at drawn
  · rename_i found
    cases drawn
    exact List.mem_of_getElem? found
  · cases drawn

/-- What the filters leave: the allowed movies that are not used. -/
theorem mem_filtered {selector : MovieSelector} {usedIds : List String} :
    ∀ {ids movies : List String}, filtered lookup selector usedIds ids = .ok movies →
      ∀ assetId, assetId ∈ movies ↔ assetId ∈ ids ∧ assetId ∉ usedIds ∧
        ∃ asset, lookup assetId = some asset ∧ selector.allows asset = .ok true
  | [], movies, returned, assetId => by
    cases returned
    simp
  | first :: rest, movies, returned, assetId => by
    unfold filtered at returned
    by_cases used : first ∈ usedIds
    · rw [if_pos used] at returned
      rw [mem_filtered returned assetId, List.mem_cons]
      constructor
      · rintro ⟨member, unused, allowed⟩
        exact ⟨.inr member, unused, allowed⟩
      · rintro ⟨rfl | member, unused, allowed⟩
        · exact absurd used unused
        · exact ⟨member, unused, allowed⟩
    · rw [if_neg used] at returned
      obtain ⟨asset, found, returned⟩ := bind_eq_ok.mp returned
      obtain ⟨allowed, decided, returned⟩ := bind_eq_ok.mp returned
      obtain ⟨others, later, returned⟩ := bind_eq_ok.mp returned
      have known := lookupId_ok found
      have inRest := mem_filtered later assetId
      cases allowed with
      | true =>
        cases returned
        rw [if_pos rfl, List.mem_cons, inRest, List.mem_cons]
        constructor
        · rintro (rfl | ⟨member, both⟩)
          · exact ⟨.inl rfl, used, asset, known, decided⟩
          · exact ⟨.inr member, both⟩
        · rintro ⟨rfl | member, both⟩
          · exact .inl rfl
          · exact .inr ⟨member, both⟩
      | false =>
        cases returned
        rw [if_neg Bool.false_ne_true, inRest, List.mem_cons]
        constructor
        · rintro ⟨member, both⟩
          exact ⟨.inr member, both⟩
        · rintro ⟨rfl | member, unused, other, otherKnown, otherAllowed⟩
          · rw [known] at otherKnown
            cases otherKnown
            rw [decided] at otherAllowed
            cases otherAllowed
          · exact ⟨member, unused, other, otherKnown, otherAllowed⟩

/-- Nothing is left to draw: every eligible movie is used. -/
theorem used_of_exhausted {selector : MovieSelector} {seed : Value} {usedIds : List String}
    (exhausted : selectMovieNoRepeat rng lookup selector seed usedIds = .ok none) {assetId : String}
    (eligible : Eligible lookup selector assetId) : assetId ∈ usedIds := by
  obtain ⟨pools, listed, member, allowed⟩ := eligible
  unfold selectMovieNoRepeat at exhausted
  obtain ⟨pools', listed', exhausted⟩ := bind_eq_ok.mp exhausted
  rw [listed] at listed'
  cases listed'
  split_ifs at exhausted with empty
  · rw [List.isEmpty_iff.mp empty] at member
    cases member
  · obtain ⟨movies, left, exhausted⟩ := bind_eq_ok.mp exhausted
    split_ifs at exhausted with nothing
    · by_contra unused
      have among := (mem_filtered left assetId).mpr ⟨member, unused, allowed⟩
      rw [List.isEmpty_iff.mp nothing] at among
      cases among
    · obtain ⟨_, _, exhausted⟩ := bind_eq_ok.mp exhausted
      cases exhausted

/-- What is drawn is eligible and not used. -/
theorem eligible_of_drawn {selector : MovieSelector} {seed : Value} {usedIds : List String}
    {assetId : String}
    (drawn : selectMovieNoRepeat rng lookup selector seed usedIds = .ok (some assetId)) :
    Eligible lookup selector assetId ∧ assetId ∉ usedIds := by
  unfold selectMovieNoRepeat at drawn
  obtain ⟨pools, listed, drawn⟩ := bind_eq_ok.mp drawn
  split_ifs at drawn with empty
  · cases drawn
  · obtain ⟨movies, left, drawn⟩ := bind_eq_ok.mp drawn
    split_ifs at drawn with nothing
    · cases drawn
    · obtain ⟨⟨chosen, _⟩, choice_, drawn⟩ := bind_eq_ok.mp drawn
      cases drawn
      obtain ⟨member, unused, allowed⟩ := (mem_filtered left assetId).mp
        ((mem_sortByKey id).mp (mem_of_choice choice_))
      exact ⟨⟨pools, listed, member, allowed⟩, unused⟩

/-- What `select_movie` draws is eligible. -/
theorem eligible_of_selected {selector : MovieSelector} {seed : Value} {assetId : String}
    (drawn : selectMovie rng lookup selector seed = .ok assetId) :
    Eligible lookup selector assetId := by
  unfold selectMovie at drawn
  obtain ⟨pools, listed, drawn⟩ := bind_eq_ok.mp drawn
  split_ifs at drawn with empty
  obtain ⟨movies, left, drawn⟩ := bind_eq_ok.mp drawn
  split_ifs at drawn with nothing
  obtain ⟨⟨chosen, _⟩, choice_, drawn⟩ := bind_eq_ok.mp drawn
  cases drawn
  obtain ⟨member, _, allowed⟩ := (mem_filtered left assetId).mp
    ((mem_sortByKey id).mp (mem_of_choice choice_))
  exact ⟨pools, listed, member, allowed⟩

end Selection

/-! ### One marathon -/

section Run

variable {rng : RandomSource} {lookup : Lookup} {gridMinutes : Nat}

/-- What a marathon leaves: its blocks, the used ids, and the movie that it took back. -/
structure MarathonRun where
  blocks : List ProgramBlockOutput
  usedIds : List String
  takenBack : Option String

variable (rng lookup gridMinutes) in
/-- The loop of a marathon, with the movie that it takes back. -/
def marathonRun (selector : MovieSelector) (endTime : Int) (allowBleed : Bool) :
    Nat → Int → Int → List String → Compile MarathonRun
  | 0, _, _, usedIds => .ok ⟨[], usedIds, none⟩
  | attempts + 1, currentTime, movieSeed, usedIds =>
    if endTime ≤ currentTime then .ok ⟨[], usedIds, none⟩
    else do
      match ← selectMovieNoRepeat rng lookup selector (.int movieSeed) usedIds with
      | none => marathonRun selector endTime allowBleed attempts currentTime (movieSeed + 1) []
      | some assetId => do
        let asset ← lookupId lookup assetId
        let block := programBlock gridMinutes (titleOr asset assetId) assetId currentTime asset
          (firstPool selector) (movieSelection selector (.int movieSeed))
        let next := currentTime + gridSlotDuration gridMinutes asset.durationSec
        if endTime < next ∧ !allowBleed then .ok ⟨[], assetId :: usedIds, some assetId⟩
        else do
          let run ← marathonRun selector endTime allowBleed attempts next (movieSeed + 1)
            (assetId :: usedIds)
          .ok { run with blocks := block :: run.blocks }

/-- **The loop is this run**, but for the movie that it takes back. -/
theorem marathonLoop_eq (selector : MovieSelector) (endTime : Int) (allowBleed : Bool)
    (attempts : Nat) (currentTime movieSeed : Int) (usedIds : List String) :
    marathonLoop rng lookup gridMinutes selector endTime allowBleed attempts currentTime movieSeed
        usedIds =
      (marathonRun rng lookup gridMinutes selector endTime allowBleed attempts currentTime movieSeed
        usedIds).map fun run => (run.blocks, run.usedIds) := by
  induction attempts generalizing currentTime movieSeed usedIds with
  | zero => rfl
  | succ attempts ih =>
    unfold marathonLoop marathonRun
    split_ifs with full
    · rfl
    · cases selectMovieNoRepeat rng lookup selector (.int movieSeed) usedIds with
      | error reason => rfl
      | ok drawn =>
        cases drawn with
        | none => exact ih _ _ _
        | some assetId =>
          show (lookupId lookup assetId >>= _) = Except.map _ (lookupId lookup assetId >>= _)
          cases lookupId lookup assetId with
          | error reason => rfl
          | ok asset =>
            show (if _ then _ else _) = Except.map _ (if _ then _ else _)
            split_ifs with past
            · rfl
            · show (marathonLoop rng lookup gridMinutes _ _ _ _ _ _ _ >>= _) = _
              rw [ih]
              cases marathonRun rng lookup gridMinutes selector endTime allowBleed attempts _ _ _ <;>
                rfl

/-- A movie comes again only when every eligible one has been placed. -/
def Unrepeated (eligible : String → Prop) : List String → List String → Prop
  | _, [] => True
  | placed, assetId :: rest =>
    (assetId ∈ placed → ∀ other, eligible other → other ∈ placed) ∧
      Unrepeated eligible (assetId :: placed) rest

/-- Of what has been placed, the set that is avoided has all that is eligible; or there is nothing
eligible that has not been placed. -/
def Remembers (eligible : String → Prop) (avoided placed : List String) : Prop :=
  (∀ assetId ∈ placed, eligible assetId → assetId ∈ avoided) ∨
    ∀ assetId, eligible assetId → assetId ∈ placed

instance remembersDecidable (selector : MovieSelector) (avoided placed : List String) :
    Decidable (Remembers (Eligible lookup selector) avoided placed) :=
  inferInstanceAs (Decidable ((∀ assetId ∈ placed, Eligible lookup selector assetId →
    assetId ∈ avoided) ∨ ∀ assetId, Eligible lookup selector assetId → assetId ∈ placed))

/-- What one step of a marathon does. -/
inductive MarathonStep (selector : MovieSelector) (endTime : Int) (allowBleed : Bool)
    (attempts : Nat) (currentTime movieSeed : Int) (usedIds : List String) (run : MarathonRun) : Prop
  | full (after : endTime ≤ currentTime) (leaves : run = ⟨[], usedIds, none⟩)
  | exhausted (before : currentTime < endTime)
      (used : ∀ assetId, Eligible lookup selector assetId → assetId ∈ usedIds)
      (rest : marathonRun rng lookup gridMinutes selector endTime allowBleed attempts currentTime
        (movieSeed + 1) [] = .ok run)
  | taken (assetId : String) (before : currentTime < endTime) (bleeds : allowBleed = false)
      (leaves : run = ⟨[], assetId :: usedIds, some assetId⟩)
  | placed (assetId : String) (asset : AssetMetadata) (block : ProgramBlockOutput)
      (later : MarathonRun) (before : currentTime < endTime)
      (eligible : Eligible lookup selector assetId) (unused : assetId ∉ usedIds)
      (known : lookup assetId = some asset) (its : block.assetId = assetId)
      (start : block.startAt = .zoned currentTime)
      (slot : block.slotDurationSec = gridSlotDuration gridMinutes asset.durationSec)
      (inside : allowBleed = false → currentTime + block.slotDurationSec ≤ endTime)
      (rest : marathonRun rng lookup gridMinutes selector endTime allowBleed attempts
        (currentTime + block.slotDurationSec) (movieSeed + 1) (assetId :: usedIds) = .ok later)
      (leaves : run = { later with blocks := block :: later.blocks })

/-- **Every attempt is one of these steps.** -/
theorem marathonRun_step {selector : MovieSelector} {endTime : Int} {allowBleed : Bool}
    {attempts : Nat} {currentTime movieSeed : Int} {usedIds : List String} {run : MarathonRun}
    (returns : marathonRun rng lookup gridMinutes selector endTime allowBleed (attempts + 1)
      currentTime movieSeed usedIds = .ok run) :
    @MarathonStep rng lookup gridMinutes selector endTime allowBleed attempts currentTime movieSeed
      usedIds run := by
  unfold marathonRun at returns
  split_ifs at returns with full
  · cases returns
    exact .full full rfl
  · obtain ⟨drawn, draws, returns⟩ := bind_eq_ok.mp returns
    have before := not_le.mp full
    cases drawn with
    | none => exact .exhausted before (fun _ eligible => used_of_exhausted draws eligible) returns
    | some assetId =>
      obtain ⟨asset, found, returns⟩ := bind_eq_ok.mp returns
      obtain ⟨eligible, unused⟩ := eligible_of_drawn draws
      dsimp only at returns
      split_ifs at returns with past
      · cases returns
        exact .taken assetId before (by simpa using past.2) rfl
      · obtain ⟨later, rest, returns⟩ := bind_eq_ok.mp returns
        cases returns
        refine .placed assetId asset _ later before eligible unused (lookupId_ok found) rfl rfl rfl
          (fun kept => ?_) rest rfl
        rw [kept] at past
        have fits : currentTime + gridSlotDuration gridMinutes asset.durationSec ≤ endTime := by
          simpa using past
        exact fits

variable {selector : MovieSelector} {endTime : Int} {allowBleed : Bool} {attempts : Nat}
  {currentTime movieSeed : Int} {usedIds placed : List String} {run : MarathonRun}

/-- **Nothing comes again early** where the marathon's set remembers what has been placed. -/
theorem marathonRun_unrepeated
    (returns : marathonRun rng lookup gridMinutes selector endTime allowBleed attempts currentTime
      movieSeed usedIds = .ok run)
    (remembers : Remembers (Eligible lookup selector) usedIds placed)
    (within : ∀ assetId ∈ usedIds, assetId ∈ placed) :
    Unrepeated (Eligible lookup selector) placed (run.blocks.map ProgramBlockOutput.assetId) := by
  induction attempts generalizing currentTime movieSeed usedIds placed run with
  | zero =>
    cases returns
    trivial
  | succ attempts ih =>
    cases marathonRun_step returns with
    | full after leaves =>
      rw [leaves]
      trivial
    | exhausted before used rest =>
      refine ih rest (.inr fun assetId eligible => within _ (used assetId eligible)) ?_
      exact List.forall_mem_nil _
    | taken assetId before bleeds leaves =>
      rw [leaves]
      trivial
    | placed assetId asset block later before eligible unused known its start slot inside rest leaves =>
      rw [leaves]
      show Unrepeated _ _ (block.assetId :: later.blocks.map _)
      rw [its]
      refine ⟨fun again => ?_, ih rest ?_ ?_⟩
      · rcases remembers with avoided | all
        · exact absurd (avoided assetId again eligible) unused
        · exact all
      · rcases remembers with avoided | all
        · refine .inl (List.forall_mem_cons.mpr ⟨fun _ => List.mem_cons_self, ?_⟩)
          exact fun other member isEligible => List.mem_cons_of_mem _ (avoided other member isEligible)
        · exact .inr fun other isEligible => List.mem_cons_of_mem _ (all other isEligible)
      · exact List.forall_mem_cons.mpr ⟨List.mem_cons_self, fun other member =>
          List.mem_cons_of_mem _ (within other member)⟩

/-- **What counts as used has been placed**, where nothing is taken back. -/
theorem marathonRun_used
    (returns : marathonRun rng lookup gridMinutes selector endTime allowBleed attempts currentTime
      movieSeed usedIds = .ok run)
    (kept : run.takenBack = none) (within : ∀ assetId ∈ usedIds, assetId ∈ placed) :
    ∀ assetId ∈ run.usedIds,
      assetId ∈ placed ∨ assetId ∈ run.blocks.map ProgramBlockOutput.assetId := by
  induction attempts generalizing currentTime movieSeed usedIds placed run with
  | zero =>
    cases returns
    exact fun assetId member => .inl (within assetId member)
  | succ attempts ih =>
    cases marathonRun_step returns with
    | full after leaves =>
      rw [leaves]
      exact fun assetId member => .inl (within assetId member)
    | exhausted before used rest => exact ih rest kept (List.forall_mem_nil _)
    | taken assetId before bleeds leaves =>
      rw [leaves] at kept
      cases kept
    | placed assetId asset block later before eligible unused known its start slot inside rest leaves =>
      rw [leaves] at kept ⊢
      have cons : ∀ other ∈ assetId :: usedIds, other ∈ assetId :: placed :=
        List.forall_mem_cons.mpr ⟨List.mem_cons_self, fun other member =>
          List.mem_cons_of_mem _ (within other member)⟩
      intro other member
      rcases ih rest kept cons other member with here | inRest
      · rcases List.mem_cons.mp here with rfl | before
        · right
          rw [← its]
          exact List.mem_cons_self
        · exact .inl before
      · exact .inr (List.mem_cons_of_mem _ inRest)

/-- **Nothing ends after the marathon's end**, unless it may bleed. -/
theorem marathonRun_inside
    (returns : marathonRun rng lookup gridMinutes selector endTime false attempts currentTime
      movieSeed usedIds = .ok run) :
    ∀ block ∈ run.blocks, block.endAt.clock ≤ endTime := by
  induction attempts generalizing currentTime movieSeed usedIds run with
  | zero =>
    cases returns
    exact List.forall_mem_nil _
  | succ attempts ih =>
    cases marathonRun_step returns with
    | full after leaves =>
      rw [leaves]
      exact List.forall_mem_nil _
    | exhausted before used rest => exact ih rest
    | taken assetId before bleeds leaves =>
      rw [leaves]
      exact List.forall_mem_nil _
    | placed assetId asset block later before eligible unused known its start slot inside rest leaves =>
      rw [leaves]
      refine List.forall_mem_cons.mpr ⟨?_, ih rest⟩
      unfold ProgramBlockOutput.endAt
      rw [start]
      exact inside rfl

/-- The seconds that blocks take. -/
def totalSlots (blocks : List ProgramBlockOutput) : Int :=
  (blocks.map ProgramBlockOutput.slotDurationSec).sum

theorem slot_ge (gridMinutes : Nat) (durationSec : Int) :
    ((gridMinutes * 60 : Nat) : Int) ≤ gridSlotDuration gridMinutes durationSec := by
  unfold gridSlotDuration
  have one : 1 ≤ slotsNeeded gridMinutes durationSec := le_max_left _ _
  have unit : (0 : Int) ≤ gridMinutes * 60 := by positivity
  push_cast
  exact le_mul_of_one_le_left unit one

/-- **The time is full** where nothing is taken back and something is eligible: two attempts place a
movie at least. -/
theorem marathonRun_filled
    (returns : marathonRun rng lookup gridMinutes selector endTime allowBleed attempts currentTime
      movieSeed usedIds = .ok run)
    (kept : run.takenBack = none) {movie : String} (eligible : Eligible lookup selector movie)
    {turns : Nat} (left : endTime - currentTime ≤ turns * (gridMinutes * 60 : Nat))
    (enough : 2 * turns ≤ attempts ∨ (2 * turns ≤ attempts + 1 ∧ movie ∉ usedIds)) :
    endTime ≤ currentTime + totalSlots run.blocks := by
  induction attempts generalizing currentTime movieSeed usedIds run turns with
  | zero =>
    cases returns
    have none_ : turns = 0 := by omega
    subst none_
    simp only [totalSlots, List.map_nil, List.sum_nil]
    push_cast at left
    omega
  | succ attempts ih =>
    cases marathonRun_step returns with
    | full after leaves =>
      rw [leaves]
      simpa [totalSlots] using after
    | exhausted before used rest =>
      refine ih rest kept left (.inr ⟨?_, List.not_mem_nil⟩)
      rcases enough with many | ⟨_, unused⟩
      · omega
      · exact absurd (used movie eligible) unused
    | taken assetId before bleeds leaves =>
      rw [leaves] at kept
      cases kept
    | placed assetId asset block later before isEligible unused known its start slot inside rest
        leaves =>
      rw [leaves] at kept ⊢
      have unit := slot_ge gridMinutes asset.durationSec
      rw [← slot] at unit
      obtain ⟨fewer, rfl⟩ : ∃ fewer, turns = fewer + 1 := by
        cases turns with
        | zero =>
          push_cast at left
          omega
        | succ fewer => exact ⟨fewer, rfl⟩
      have nearer : endTime - (currentTime + block.slotDurationSec) ≤
          fewer * (gridMinutes * 60 : Nat) := by
        push_cast at left unit ⊢
        linarith
      have full := ih rest kept nearer (.inl (by omega))
      show endTime ≤ currentTime + (block.slotDurationSec + totalSlots later.blocks)
      linarith

end Run

/-! ### Reading a definition -/

section Reading

/-- What a marathon reads of its definition. -/
structure MarathonReading where
  selector : MovieSelector
  startTime : Int
  endTime : Int
  allowBleed : Bool

/-- The definition of a marathon. -/
def readMarathon (blockDef : Value) (broadcastDay : String) (tz : Option Zone) :
    Compile MarathonReading := do
  let mm ← blockDef.get "movie_marathon" (.dict [])
  let startStr ← ((← mm.get "start" .null).or (← blockDef.get "start" (.str "09:00"))).asStr
  let endStr ← (← mm.get "end" (.str "22:00")).asStr
  let allowBleed ← mm.get "allow_bleed" (.bool false)
  let ms ← mm.get "movie_selector" (.dict [])
  let currentTime ← parseTime startStr broadcastDay tz
  let endTime ← parseTime endStr broadcastDay tz
  let selector ← movieSelector ms
  .ok ⟨selector, currentTime, wrapped currentTime endTime, allowBleed.truthy⟩

/-- The selector of a movie block. -/
def readMovie (blockDef : Value) : Compile MovieSelector := do
  let mb ← blockDef.get "movie_block" (.dict [])
  let ms ← (if mb.truthy then mb else blockDef).get "movie_selector" (.dict [])
  movieSelector ms

variable {rng : RandomSource} {lookup : Lookup} {gridMinutes : Nat} {broadcastDay : String}
  {tz : Option Zone} {seed : Option Int}

theorem compileMovieMarathon_ok {blockDef : Value} {usedIds : List String}
    {out : List ProgramBlockOutput × List String}
    (returns : compileMovieMarathon rng lookup gridMinutes blockDef broadcastDay tz seed usedIds =
      .ok out) :
    ∃ reading run, readMarathon blockDef broadcastDay tz = .ok reading ∧
      marathonRun rng lookup gridMinutes reading.selector reading.endTime reading.allowBleed 200
        reading.startTime (seed.getD 42) usedIds = .ok run ∧
      out = (run.blocks, run.usedIds) := by
  unfold compileMovieMarathon at returns
  obtain ⟨mm, isMm, returns⟩ := bind_eq_ok.mp returns
  obtain ⟨own, isOwn, returns⟩ := bind_eq_ok.mp returns
  obtain ⟨outer, isOuter, returns⟩ := bind_eq_ok.mp returns
  obtain ⟨startStr, isStart, returns⟩ := bind_eq_ok.mp returns
  obtain ⟨stop, isStop, returns⟩ := bind_eq_ok.mp returns
  obtain ⟨endStr, isEnd, returns⟩ := bind_eq_ok.mp returns
  obtain ⟨allowBleed, isBleed, returns⟩ := bind_eq_ok.mp returns
  obtain ⟨ms, isMs, returns⟩ := bind_eq_ok.mp returns
  obtain ⟨currentTime, isCurrent, returns⟩ := bind_eq_ok.mp returns
  obtain ⟨endTime, isEndTime, returns⟩ := bind_eq_ok.mp returns
  obtain ⟨selector, isSelector, returns⟩ := bind_eq_ok.mp returns
  rw [marathonLoop_eq] at returns
  cases ran : marathonRun rng lookup gridMinutes selector (wrapped currentTime endTime)
      allowBleed.truthy 200 currentTime (seed.getD 42) usedIds with
  | error reason =>
    rw [ran] at returns
    cases returns
  | ok run =>
    rw [ran] at returns
    cases returns
    refine ⟨⟨selector, currentTime, wrapped currentTime endTime, allowBleed.truthy⟩, run, ?_, ran,
      rfl⟩
    unfold readMarathon
    refine bind_eq_ok.mpr ⟨mm, isMm, bind_eq_ok.mpr ⟨own, isOwn, bind_eq_ok.mpr ⟨outer, isOuter,
      bind_eq_ok.mpr ⟨startStr, isStart, bind_eq_ok.mpr ⟨stop, isStop, ?_⟩⟩⟩⟩⟩
    refine bind_eq_ok.mpr ⟨endStr, isEnd, bind_eq_ok.mpr ⟨allowBleed, isBleed,
      bind_eq_ok.mpr ⟨ms, isMs, ?_⟩⟩⟩
    exact bind_eq_ok.mpr ⟨currentTime, isCurrent, bind_eq_ok.mpr ⟨endTime, isEndTime,
      bind_eq_ok.mpr ⟨selector, isSelector, rfl⟩⟩⟩

theorem compileMovieBlock_ok {blockDef : Value} {blocks : List ProgramBlockOutput}
    (returns : compileMovieBlock rng lookup gridMinutes blockDef broadcastDay tz seed = .ok blocks) :
    ∃ selector assetId, readMovie blockDef = .ok selector ∧ Eligible lookup selector assetId ∧
      blocks.map ProgramBlockOutput.assetId = [assetId] := by
  unfold compileMovieBlock at returns
  iterate 3 obtain ⟨_, _, returns⟩ := bind_eq_ok.mp returns
  obtain ⟨mb, isMb, returns⟩ := bind_eq_ok.mp returns
  obtain ⟨ms, isMs, returns⟩ := bind_eq_ok.mp returns
  obtain ⟨selector, isSelector, returns⟩ := bind_eq_ok.mp returns
  obtain ⟨assetId, selected, returns⟩ := bind_eq_ok.mp returns
  obtain ⟨asset, _, returns⟩ := bind_eq_ok.mp returns
  obtain rfl := Except.ok.inj returns
  refine ⟨selector, assetId, ?_, eligible_of_selected selected, rfl⟩
  exact bind_eq_ok.mpr ⟨mb, isMb, bind_eq_ok.mpr ⟨ms, isMs, isSelector⟩⟩

/-- A time of a broadcast day lies in the day from its sixth hour on. -/
theorem parseTime_within {timeStr : String} {time : Int}
    (parsed : parseTime timeStr broadcastDay tz = .ok time) :
    ∃ day, fromIsoformat broadcastDay = .ok day ∧
      21600 ≤ time - (day - 719163) * 86400 ∧ time - (day - 719163) * 86400 < 108000 := by
  cases tz with
  | none => cases parsed
  | some zone =>
    obtain ⟨_, _, parsed⟩ := bind_eq_ok.mp parsed
    obtain ⟨day, isDay, parsed⟩ := bind_eq_ok.mp parsed
    obtain ⟨⟨hour, minute⟩, _, parsed⟩ := bind_eq_ok.mp parsed
    refine ⟨day, isDay, ?_⟩
    dsimp only at parsed
    unfold broadcastDayStartHour at parsed
    split_ifs at parsed with valid early
    · obtain rfl := Except.ok.inj parsed
      have base : (day + 1 - 719163 : Int) * 86400 = (day - 719163) * 86400 + 86400 := by ring
      rw [base]
      generalize (day - 719163 : Int) * 86400 = midnight
      omega
    · obtain rfl := Except.ok.inj parsed
      generalize (day - 719163 : Int) * 86400 = midnight
      omega

/-- A marathon lasts a day at most. -/
theorem readMarathon_window {blockDef : Value} {reading : MarathonReading}
    (read : readMarathon blockDef broadcastDay tz = .ok reading) :
    reading.endTime - reading.startTime ≤ 86400 := by
  unfold readMarathon at read
  iterate 8 obtain ⟨_, _, read⟩ := bind_eq_ok.mp read
  obtain ⟨currentTime, isCurrent, read⟩ := bind_eq_ok.mp read
  obtain ⟨endTime, isEndTime, read⟩ := bind_eq_ok.mp read
  obtain ⟨_, _, read⟩ := bind_eq_ok.mp read
  cases read
  obtain ⟨day, isDay, low, high⟩ := parseTime_within isCurrent
  obtain ⟨day', isDay', low', high'⟩ := parseTime_within isEndTime
  rw [isDay] at isDay'
  cases isDay'
  generalize (day - 719163 : Int) * 86400 = midnight at low high low' high'
  unfold wrapped
  dsimp only
  split_ifs <;> omega

end Reading

/-! ### A day, block by block -/

section Day

/-- What the block compilers are given on a day. -/
structure DayInputs where
  lookup : Lookup
  gridMinutes : Nat
  broadcastDay : String
  tz : Option Zone
  seed : Option Int

/-- A step of a day, with what was there before it and what it leaves. -/
structure Visit where
  step : DayStep
  carried : Carried
  placed : List String
  blocks : List ProgramBlockOutput
  after : Carried

/-- A marathon is fair and full. -/
structure MarathonFair (lookup : Lookup) (gridMinutes : Nat) (reading : MarathonReading)
    (placed : List String) (blocks : List ProgramBlockOutput) (usedIds : List String) : Prop where
  unrepeated : Unrepeated (Eligible lookup reading.selector) placed
    (blocks.map ProgramBlockOutput.assetId)
  counted : ∀ assetId ∈ usedIds,
    assetId ∈ placed ∨ assetId ∈ blocks.map ProgramBlockOutput.assetId
  inside : reading.allowBleed = false → ∀ block ∈ blocks, block.endAt.clock ≤ reading.endTime
  filled : ∀ assetId asset, Eligible lookup reading.selector assetId → lookup assetId = some asset →
    reading.endTime <
      reading.startTime + totalSlots blocks + gridSlotDuration gridMinutes asset.durationSec

variable (rng : RandomSource) (day : DayInputs)

/-- The steps of a day one after the other, with the movies that are placed. -/
def visitsOf : List DayStep → Carried → List String → Compile (List Visit)
  | [], _, _ => .ok []
  | step :: rest, carried, placed => do
    let (blocks, after) ←
      step.compile rng day.lookup day.gridMinutes day.broadcastDay day.tz day.seed carried
    let others ← visitsOf rest after (placed ++ blocks.map ProgramBlockOutput.assetId)
    .ok (⟨step, carried, placed, blocks, after⟩ :: others)

/-- What a marathon avoids at its start: only the layered format shares the used movies. -/
def Visit.avoided (visit : Visit) (layered : Bool) : List String :=
  if layered then visit.carried.usedMovieIds else []

/-- The movies of a step are fair: a marathon is fair and full, and a movie block repeats no movie
early. -/
def MovieBlock.Fair (visit : Visit) : MovieBlock → Prop
  | .marathon layered blockDef =>
    ∀ reading usedIds, readMarathon blockDef day.broadcastDay day.tz = .ok reading →
      compileMovieMarathon rng day.lookup day.gridMinutes blockDef day.broadcastDay day.tz day.seed
        (visit.avoided layered) = .ok (visit.blocks, usedIds) →
      MarathonFair day.lookup day.gridMinutes reading visit.placed visit.blocks usedIds
  | .movie blockDef =>
    ∀ selector, readMovie blockDef = .ok selector →
      Unrepeated (Eligible day.lookup selector) visit.placed
        (visit.blocks.map ProgramBlockOutput.assetId)

/-- **A step is fair.** -/
def Visit.Fair (visit : Visit) : Prop :=
  ∀ movies ∈ visit.step.movies, movies.Fair rng day visit

/-- The movies of a step can be fair: what it avoids holds the eligible movies that are placed, or all
of them are placed; and no draw of a marathon runs past its end. -/
def MovieBlock.Meets (visit : Visit) : MovieBlock → Prop
  | .marathon layered blockDef =>
    ∀ reading, readMarathon blockDef day.broadcastDay day.tz = .ok reading →
      Remembers (Eligible day.lookup reading.selector) (visit.avoided layered) visit.placed ∧
      ∀ run, marathonRun rng day.lookup day.gridMinutes reading.selector reading.endTime
        reading.allowBleed 200 reading.startTime (day.seed.getD 42) (visit.avoided layered) =
          .ok run → run.takenBack = none
  | .movie blockDef =>
    ∀ selector, readMovie blockDef = .ok selector →
      Remembers (Eligible day.lookup selector) [] visit.placed

/-- **A step that can be fair.** -/
def Visit.Meets (visit : Visit) : Prop :=
  ∀ movies ∈ visit.step.movies, movies.Meets rng day visit

instance movieBlockMeetsDecidable (visit : Visit) :
    ∀ movies : MovieBlock, Decidable (movies.Meets rng day visit)
  | .marathon layered blockDef => inferInstanceAs (Decidable (∀ reading,
      readMarathon blockDef day.broadcastDay day.tz = .ok reading →
        Remembers (Eligible day.lookup reading.selector) (visit.avoided layered) visit.placed ∧
        ∀ run, marathonRun rng day.lookup day.gridMinutes reading.selector reading.endTime
          reading.allowBleed 200 reading.startTime (day.seed.getD 42) (visit.avoided layered) =
            .ok run → run.takenBack = none))
  | .movie blockDef => inferInstanceAs (Decidable (∀ selector, readMovie blockDef = .ok selector →
      Remembers (Eligible day.lookup selector) [] visit.placed))

instance meetsDecidable (visit : Visit) : Decidable (visit.Meets rng day) :=
  inferInstanceAs (Decidable (∀ movies ∈ visit.step.movies, movies.Meets rng day visit))

variable {rng day}

/-- **One marathon is fair and full** where its set remembers what is placed and no draw runs past its
end. -/
theorem marathonFair {lookup : Lookup} {gridMinutes : Nat} {broadcastDay : String}
    {tz : Option Zone} {seed : Option Int} {blockDef : Value} {reading : MarathonReading}
    {blocks : List ProgramBlockOutput} {usedIds later placed : List String}
    (grid : 15 ≤ gridMinutes) (read : readMarathon blockDef broadcastDay tz = .ok reading)
    (compiles : compileMovieMarathon rng lookup gridMinutes blockDef broadcastDay tz seed usedIds =
      .ok (blocks, later))
    (within : ∀ assetId ∈ usedIds, assetId ∈ placed)
    (remembers : Remembers (Eligible lookup reading.selector) usedIds placed)
    (kept : ∀ run, marathonRun rng lookup gridMinutes reading.selector reading.endTime
      reading.allowBleed 200 reading.startTime (seed.getD 42) usedIds = .ok run →
      run.takenBack = none) :
    MarathonFair lookup gridMinutes reading placed blocks later := by
  obtain ⟨reading', run, read', ran, same⟩ := compileMovieMarathon_ok compiles
  rw [read] at read'
  cases read'
  cases same
  have nothing := kept run ran
  refine ⟨marathonRun_unrepeated ran remembers within, marathonRun_used ran nothing within,
    fun stays => ?_, fun assetId asset eligible known => ?_⟩
  · rw [stays] at ran
    exact marathonRun_inside ran
  · have window := readMarathon_window read
    have unit := slot_ge gridMinutes asset.durationSec
    have left : reading.endTime - reading.startTime ≤ (96 : Nat) * (gridMinutes * 60 : Nat) := by
      push_cast
      omega
    have full := marathonRun_filled ran nothing eligible left (.inl (by decide))
    push_cast at unit
    omega

/-- **A step keeps the day fair**: what counts as used after it has been placed. -/
theorem fair_of_meets {visit : Visit} (grid : 15 ≤ day.gridMinutes)
    (compiled : visit.step.compile rng day.lookup day.gridMinutes day.broadcastDay day.tz day.seed
      visit.carried = .ok (visit.blocks, visit.after))
    (within : ∀ assetId ∈ visit.carried.usedMovieIds, assetId ∈ visit.placed)
    (meets : visit.Meets rng day) :
    visit.Fair rng day ∧ ∀ assetId ∈ visit.after.usedMovieIds,
      assetId ∈ visit.placed ++ visit.blocks.map ProgramBlockOutput.assetId := by
  have stillWithin : visit.after.usedMovieIds = visit.carried.usedMovieIds →
      ∀ assetId ∈ visit.after.usedMovieIds,
        assetId ∈ visit.placed ++ visit.blocks.map ProgramBlockOutput.assetId := by
    intro same assetId member
    rw [same] at member
    exact List.mem_append_left _ (within assetId member)
  have none_fair : visit.step.movies = none → visit.Fair rng day := by
    intro none_ movies isTheirs
    cases none_.symm.trans isTheirs
  cases compile_cases compiled with
  | episodes blockDef none_ compiles leaves => exact ⟨none_fair none_, stillWithin leaves⟩
  | sitcom blockDef none_ compiles leaves => exact ⟨none_fair none_, stillWithin leaves⟩
  | skipped none_ leaves =>
    exact ⟨none_fair none_, stillWithin (congrArg (fun out => out.2.usedMovieIds) leaves)⟩
  | movie blockDef isMovie compiles leaves =>
    refine ⟨fun movies isTheirs => ?_, stillWithin (congrArg Carried.usedMovieIds leaves)⟩
    cases isMovie.symm.trans isTheirs
    intro selector read
    obtain ⟨selector', assetId, read', eligible, placedOne⟩ := compileMovieBlock_ok compiles
    rw [read] at read'
    cases read'
    rw [placedOne]
    refine ⟨fun again => ?_, trivial⟩
    rcases meets _ isMovie selector read with fresh | all
    · cases fresh assetId again eligible
    · exact all
  | marathon layered blockDef usedIds isMarathon compiles counters leaves =>
    have inside : ∀ assetId ∈ visit.avoided layered, assetId ∈ visit.placed := by
      cases layered with
      | true => exact within
      | false => exact List.forall_mem_nil _
    have fair : MovieBlock.Fair rng day visit (.marathon layered blockDef) := by
      intro reading later read compiles
      obtain ⟨remembers, kept⟩ := meets _ isMarathon reading read
      exact marathonFair grid read compiles inside remembers kept
    refine ⟨fun movies isTheirs => ?_, ?_⟩
    · cases isMarathon.symm.trans isTheirs
      exact fair
    · cases layered with
      | false => exact stillWithin leaves
      | true =>
        obtain ⟨reading, _, read, _, _⟩ := compileMovieMarathon_ok compiles
        rw [show visit.after.usedMovieIds = usedIds from leaves]
        exact fun assetId member => List.mem_append.mpr
          ((fair reading usedIds read compiles).counted assetId member)

/-- **A day of such steps is fair.** -/
theorem visitsOf_fair (grid : 15 ≤ day.gridMinutes) {steps : List DayStep} {carried : Carried}
    {placed : List String} {visits : List Visit}
    (visited : visitsOf rng day steps carried placed = .ok visits)
    (within : ∀ assetId ∈ carried.usedMovieIds, assetId ∈ placed)
    (meets : ∀ visit ∈ visits, visit.Meets rng day) : ∀ visit ∈ visits, visit.Fair rng day := by
  induction steps generalizing carried placed visits with
  | nil =>
    cases visited
    exact List.forall_mem_nil _
  | cons step rest ih =>
    unfold visitsOf at visited
    obtain ⟨⟨blocks, after⟩, compiled, visited⟩ := bind_eq_ok.mp visited
    obtain ⟨others, later, visited⟩ := bind_eq_ok.mp visited
    cases visited
    obtain ⟨here, onward⟩ := List.forall_mem_cons.mp meets
    obtain ⟨fair, stillWithin⟩ := fair_of_meets grid compiled within here
    exact List.forall_mem_cons.mpr ⟨fair, ih later stillWithin onward⟩

/-- What a visit leaves is what its step compiles to. -/
theorem visitsOf_each {steps : List DayStep} {carried : Carried} {placed : List String}
    {visits : List Visit} (visited : visitsOf rng day steps carried placed = .ok visits) :
    ∀ visit ∈ visits, visit.step.compile rng day.lookup day.gridMinutes day.broadcastDay day.tz
      day.seed visit.carried = .ok (visit.blocks, visit.after) := by
  induction steps generalizing carried placed visits with
  | nil =>
    cases visited
    exact List.forall_mem_nil _
  | cons step rest ih =>
    obtain ⟨⟨blocks, after⟩, compiled, visited⟩ := bind_eq_ok.mp visited
    obtain ⟨others, later, visited⟩ := bind_eq_ok.mp visited
    cases visited
    exact List.forall_mem_cons.mpr ⟨compiled, ih later⟩

/-- **A movie that counts as used from a step on, and is not placed**, makes the step unfair. -/
theorem not_fair_of_unplaced {visit : Visit} {assetId : String}
    (compiled : visit.step.compile rng day.lookup day.gridMinutes day.broadcastDay day.tz day.seed
      visit.carried = .ok (visit.blocks, visit.after))
    (unused : assetId ∉ visit.carried.usedMovieIds) (used : assetId ∈ visit.after.usedMovieIds)
    (unplaced : assetId ∉ visit.placed ++ visit.blocks.map ProgramBlockOutput.assetId) :
    ¬visit.Fair rng day := by
  intro fair
  have changed : visit.after.usedMovieIds ≠ visit.carried.usedMovieIds := by
    intro same
    rw [same] at used
    exact unused used
  cases compile_cases compiled with
  | episodes blockDef none_ compiles leaves => exact changed leaves
  | sitcom blockDef none_ compiles leaves => exact changed leaves
  | skipped none_ leaves => exact changed (congrArg (fun out => out.2.usedMovieIds) leaves)
  | movie blockDef isMovie compiles leaves => exact changed (congrArg Carried.usedMovieIds leaves)
  | marathon layered blockDef usedIds isMarathon compiles counters leaves =>
    cases layered with
    | false => exact changed leaves
    | true =>
      obtain ⟨reading, _, read, _, _⟩ := compileMovieMarathon_ok compiles
      rw [show visit.after.usedMovieIds = usedIds from leaves] at used
      have counted := (fair _ isMarathon reading usedIds read compiles).counted assetId used
      exact unplaced (List.mem_append.mpr counted)

/-- **The visits are the day's compilation.** -/
theorem visitsOf_compiled {steps : List DayStep} {carried : Carried}
    {out : List ProgramBlockOutput × Carried}
    (compiled : compileSteps rng day.lookup day.gridMinutes day.broadcastDay day.tz day.seed steps
      carried = .ok out) (placed : List String) :
    ∃ visits, visitsOf rng day steps carried placed = .ok visits ∧
      visits.flatMap Visit.blocks = out.1 := by
  induction steps generalizing carried placed out with
  | nil =>
    obtain rfl := Except.ok.inj compiled
    exact ⟨[], rfl, rfl⟩
  | cons step rest ih =>
    obtain ⟨⟨blocks, after⟩, head, compiled⟩ := bind_eq_ok.mp compiled
    obtain ⟨_, tail, compiled⟩ := bind_eq_ok.mp compiled
    obtain rfl := Except.ok.inj compiled
    obtain ⟨visits, visited, same⟩ := ih tail (placed ++ blocks.map ProgramBlockOutput.assetId)
    refine ⟨⟨step, carried, placed, blocks, after⟩ :: visits, ?_, ?_⟩
    · exact bind_eq_ok.mpr ⟨_, head, bind_eq_ok.mpr ⟨visits, visited, rfl⟩⟩
    · rw [List.flatMap_cons, same]

end Day

/-! ### The compiled day -/

section Main

variable {R : Type} (resolver : AssetResolver R) (rng : RandomSource)
  (zoneInfo : String → Option Zone)

/-- A day's inputs and its visits. -/
def dayVisits (dsl : Dict) (source : R) (seed : Option Int) (counters : Counters) :
    Compile (DayInputs × List Visit) := do
  let schedule ← expandTemplates dsl
  let broadcastDay ← required dsl "broadcast_day"
  let timezone ← required dsl "timezone"
  let day : DayInputs := ⟨resolver.lookup (withPools resolver dsl source), gridMinutesOf dsl,
    broadcastDay.text, zoneOf zoneInfo timezone, seed⟩
  let steps ← daySteps schedule day.broadcastDay
  let visits ← visitsOf rng day steps ⟨counters, []⟩ []
  .ok (day, visits)

variable {resolver rng zoneInfo}

theorem dayVisits_each {dsl : Dict} {source : R} {seed : Option Int} {counters : Counters}
    {out : DayInputs × List Visit}
    (visited : dayVisits resolver rng zoneInfo dsl source seed counters = .ok out) :
    ∀ visit ∈ out.2, visit.step.compile rng out.1.lookup out.1.gridMinutes out.1.broadcastDay
      out.1.tz out.1.seed visit.carried = .ok (visit.blocks, visit.after) := by
  unfold dayVisits at visited
  iterate 4 obtain ⟨_, _, visited⟩ := bind_eq_ok.mp visited
  obtain ⟨visits, each, visited⟩ := bind_eq_ok.mp visited
  obtain rfl := Except.ok.inj visited
  exact visitsOf_each each

/-- **Every day whose steps can be fair is fair**: no movie comes again while an eligible one has not
been placed that day, what counts as used was placed, no slot ends after its marathon, and the time
of a marathon is filled. -/
theorem dayVisits_fair {dsl : Dict} {source : R} {seed : Option Int} {counters later : Counters}
    {compiled : List ProgramBlockOutput}
    (compiles : compiledBlocks resolver rng zoneInfo dsl source seed counters =
      .ok (compiled, later)) :
    ∃ day visits, dayVisits resolver rng zoneInfo dsl source seed counters = .ok (day, visits) ∧
      visits.flatMap Visit.blocks = compiled ∧
      ((∀ visit ∈ visits, visit.Meets rng day) → ∀ visit ∈ visits, visit.Fair rng day) := by
  unfold compiledBlocks at compiles
  obtain ⟨_, _, compiles⟩ := bind_eq_ok.mp compiles
  split at compiles
  · obtain ⟨schedule, expands, compiles⟩ := bind_eq_ok.mp compiles
    obtain ⟨broadcastDay, isDay, compiles⟩ := bind_eq_ok.mp compiles
    obtain ⟨timezone, isZone, compiles⟩ := bind_eq_ok.mp compiles
    rw [compileBlocks_steps] at compiles
    obtain ⟨steps, isSteps, compiles⟩ := bind_eq_ok.mp compiles
    obtain ⟨_, stepped, compiles⟩ := bind_eq_ok.mp compiles
    cases compiles
    obtain ⟨visits, visited, same⟩ := @visitsOf_compiled rng
      ⟨resolver.lookup (withPools resolver dsl source), gridMinutesOf dsl, broadcastDay.text,
        zoneOf zoneInfo timezone, seed⟩ steps ⟨counters, []⟩ _ stepped []
    refine ⟨_, visits, ?_, same, fun meets => visitsOf_fair ?_ visited (List.forall_mem_nil _) meets⟩
    · refine bind_eq_ok.mpr ⟨schedule, expands, bind_eq_ok.mpr ⟨broadcastDay, isDay, ?_⟩⟩
      refine bind_eq_ok.mpr ⟨timezone, isZone, bind_eq_ok.mpr ⟨steps, isSteps, ?_⟩⟩
      exact bind_eq_ok.mpr ⟨visits, visited, rfl⟩
    · show 15 ≤ gridMinutesOf dsl
      unfold gridMinutesOf
      split <;> decide
  · cases compiles

end Main

/-! ### Two evenings of films -/

section Films

/-- A pool of two films, of two hours and of one and a half. -/
def filmCatalog : AssetResolver Unit where
  lookup _ := fun assetId =>
    if assetId = "films" then some { durationSec := 0, tags := ["long", "short"] }
    else if assetId = "long" then some { durationSec := 7200, title := "Long" }
    else if assetId = "short" then some { durationSec := 5400, title := "Short" }
    else none
  registerPools source _ := source

/-- A marathon of films from eight in the evening. -/
def filmDsl (stop : String) : Dict :=
  [("channel", .str "one"), ("broadcast_day", .str "2025-01-15"), ("timezone", .str "Europe/London"),
    ("schedule", .dict [("all_day", .list [.dict [("movie_marathon", .dict
      [("start", .str "20:00"), ("end", .str stop),
        ("movie_selector", .dict [("pool", .str "films")])])]])])]

def filmCompiled (stop : String) : Compile (List ProgramBlockOutput × Counters) :=
  compiledBlocks filmCatalog firstDrawn newsZones (filmDsl stop) () (some 42) fun _ => 0

def filmVisits (stop : String) : Compile (DayInputs × List Visit) :=
  dayVisits filmCatalog firstDrawn newsZones (filmDsl stop) () (some 42) fun _ => 0

/-- Three and a half hours take both films. -/
theorem both_films_fair :
    ∃ day visits, filmVisits "23:30" = .ok (day, visits) ∧
      (visits.flatMap Visit.blocks).map ProgramBlockOutput.assetId = ["long", "short"] ∧
      ∀ visit ∈ visits, visit.Fair firstDrawn day := by
  obtain ⟨⟨compiled, later⟩, compiles, titles⟩ := returned_of_seen
    (show (filmCompiled "23:30").toOption.map
        (fun out => out.1.map ProgramBlockOutput.assetId) = some ["long", "short"] by
      decide +kernel)
  obtain ⟨day, visits, visited, same, fair⟩ := dayVisits_fair compiles
  obtain ⟨_, again, meets⟩ := returned_of_seen
    (show (filmVisits "23:30").toOption.map
        (fun out => decide (∀ visit ∈ out.2, visit.Meets firstDrawn out.1)) = some true by
      decide +kernel)
  cases Except.ok.inj (again.symm.trans visited)
  exact ⟨day, visits, visited, same ▸ titles, fair (of_decide_eq_true meets)⟩

/-- **An hour and a half stays empty**: the long film is drawn and taken back, counts as used, and
the short one, which fits, is not drawn. -/
theorem taken_back_counts_as_used :
    ∃ day visits, filmVisits "21:30" = .ok (day, visits) ∧
      (visits.map fun visit => (visit.blocks.map ProgramBlockOutput.assetId,
        visit.after.usedMovieIds)) = [([], ["long"])] ∧
      ∃ visit ∈ visits, ¬visit.Fair firstDrawn day := by
  obtain ⟨⟨day, visits⟩, visited, seen⟩ := returned_of_seen
    (show (filmVisits "21:30").toOption.map (fun out => out.2.map fun visit =>
        (visit.carried.usedMovieIds, visit.placed, visit.blocks.map ProgramBlockOutput.assetId,
          visit.after.usedMovieIds)) = some [([], [], [], ["long"])] by
      decide +kernel)
  obtain ⟨visit, rfl, its⟩ := List.map_eq_singleton_iff.mp seen
  obtain ⟨before, rest⟩ := Prod.mk.inj its
  obtain ⟨placed, rest⟩ := Prod.mk.inj rest
  obtain ⟨blocks, after⟩ := Prod.mk.inj rest
  refine ⟨day, [visit], visited, ?_, visit, List.mem_singleton_self _, ?_⟩
  · rw [List.map_singleton, blocks, after]
  · refine @not_fair_of_unplaced firstDrawn day visit "long"
      (dayVisits_each visited visit (List.mem_singleton_self _)) ?_ ?_ ?_
    · rw [before]
      decide
    · rw [after]
      decide
    · rw [placed, blocks]
      decide

end Films

end Retrovue.Core.Compiler
