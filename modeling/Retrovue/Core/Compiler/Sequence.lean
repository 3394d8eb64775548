/-
**Episodes in turn.**

A pool's counter advances in the order in which blocks are compiled, which is the order of their
start texts; what airs first is decided by the wall times, past midnight too.

* `inTurn`, `numbered`: the blocks that were taken from a pool in turn, with the count each was
  taken at;
* `compiledBlocks_taken`: in the order of compilation they are consecutive in the pool;
* `airedTurns`: the counts in the order in which the blocks air;
* `aired_inOrder_iff`: the pool airs in order exactly when each count is one on from the count
  before it, up to whole turns of the pool.
-/

import Mathlib
import Retrovue.Core.Compiler.Timeline

namespace Retrovue.Core.Compiler

open Retrovue.Core.Schedule Retrovue.Foundation.Sorting Retrovue.Foundation.Fallible

/-! ### Blocks taken in turn -/

section Definitions

/-- The pool that a block was selected from; a slot may leave it out, which is the pool `""`. -/
def poolOf (block : ProgramBlockOutput) : Value := block.collection.or (.str "")

/-- The mode that a block records of its selection. -/
def modeOf (block : ProgramBlockOutput) : Value :=
  match block.selector with
  | .dict entries => (entries.lookup "mode").getD .null
  | _ => .null

/-- The block is an episode that was taken from the pool in turn. -/
def inTurn (poolId : String) (block : ProgramBlockOutput) : Bool :=
  (poolOf block).isStr poolId &&
    ((modeOf block).isStr "sequential" || (modeOf block).isStr "shuffle")

/-- The episode that a pool has at a count, around its end. -/
def episodeAt (episodes : List String) (turn : Int) : Option String :=
  episodes[(turn % episodes.length).toNat]?

/-- The blocks with the count of the pool at which each was compiled. -/
def numbered (poolId : String) : Int → List ProgramBlockOutput → List (ProgramBlockOutput × Int)
  | _, [] => []
  | turn, block :: rest =>
    (block, turn) :: numbered poolId (if inTurn poolId block then turn + 1 else turn) rest

/-- Every known pool's blocks are its episodes from the counter on, and the counter is advanced by
them. -/
def Taken (lookup : Lookup) (counters : Counters) (blocks : List ProgramBlockOutput)
    (later : Counters) : Prop :=
  ∀ poolId pool, lookup poolId = some pool →
    (∀ entry ∈ numbered poolId (counters poolId) blocks, inTurn poolId entry.1 = true →
      episodeAt pool.tags entry.2 = some entry.1.assetId) ∧
    later poolId = counters poolId + (blocks.countP (inTurn poolId) : Int)

variable {lookup : Lookup} {counters between later : Counters}
  {blocks others : List ProgramBlockOutput}

theorem numbered_append (poolId : String) (turn : Int) (others : List ProgramBlockOutput) :
    ∀ blocks, numbered poolId turn (blocks ++ others) =
      numbered poolId turn blocks ++
        numbered poolId (turn + (blocks.countP (inTurn poolId) : Int)) others := by
  intro blocks
  induction blocks generalizing turn with
  | nil => simp [numbered]
  | cons block rest ih =>
    rw [List.cons_append, numbered, numbered, ih, List.cons_append, List.countP_cons]
    split_ifs
    · rw [show turn + 1 + (rest.countP (inTurn poolId) : Int) =
        turn + ((rest.countP (inTurn poolId) + 1 : Nat) : Int) by push_cast; ring]
    · rfl

theorem Taken.nil (lookup : Lookup) (counters : Counters) : Taken lookup counters [] counters :=
  fun _ _ _ => ⟨List.forall_mem_nil _, (add_zero _).symm⟩

/-- Blocks taken one list after the other. -/
theorem Taken.append (first : Taken lookup counters blocks between)
    (second : Taken lookup between others later) :
    Taken lookup counters (blocks ++ others) later := by
  intro poolId pool known
  obtain ⟨taken, count⟩ := first poolId pool known
  obtain ⟨taken', count'⟩ := second poolId pool known
  refine ⟨?_, ?_⟩
  · rw [numbered_append, ← count]
    exact List.forall_mem_append.mpr ⟨taken, taken'⟩
  · rw [count', count, List.countP_append]
    push_cast
    ring

theorem Taken.cons {block : ProgramBlockOutput} (first : Taken lookup counters [block] between)
    (second : Taken lookup between others later) :
    Taken lookup counters (block :: others) later := first.append second

/-- Blocks that are not taken in turn leave the counters. -/
theorem Taken.of_none (lookup : Lookup) (counters : Counters)
    (none_ : ∀ block ∈ blocks, ∀ poolId, inTurn poolId block = false) :
    Taken lookup counters blocks counters := by
  intro poolId pool known
  have outside : ∀ entry ∈ numbered poolId (counters poolId) blocks, inTurn poolId entry.1 = false := by
    intro entry member
    generalize counters poolId = turn at member
    induction blocks generalizing turn with
    | nil => cases member
    | cons block rest ih =>
      obtain ⟨here, others⟩ := List.forall_mem_cons.mp none_
      rcases List.mem_cons.mp member with rfl | later
      · exact here poolId
      · exact ih others _ later
  refine ⟨fun entry member taken => ?_, ?_⟩
  · rw [outside entry member] at taken
    cases taken
  · rw [List.countP_eq_zero.mpr fun block member => by rw [none_ block member]; simp]
    simp

/-- One block taken in turn. -/
theorem Taken.one {poolId : String} {pool : AssetMetadata} {block : ProgramBlockOutput}
    (known : lookup poolId = some pool)
    (isIts : ∀ other, inTurn other block = decide (other = poolId))
    (episode : episodeAt pool.tags (counters poolId) = some block.assetId) :
    Taken lookup counters [block] (counters.advance poolId) := by
  intro other otherPool otherKnown
  unfold Counters.advance
  by_cases same : other = poolId
  · subst same
    rw [known] at otherKnown
    cases otherKnown
    refine ⟨?_, ?_⟩
    · intro entry member _
      rw [List.mem_singleton.mp member]
      exact episode
    · simp [isIts]
  · refine ⟨?_, ?_⟩
    · intro entry member taken
      rw [List.mem_singleton.mp member, isIts, decide_eq_false same] at taken
      cases taken
    · simp [isIts, same]

end Definitions

/-! ### Selecting -/

section Selecting

variable {rng : RandomSource} {lookup : Lookup} {gridMinutes : Nat} {counters later : Counters}

theorem isStr_iff {value : Value} {text : String} : value.isStr text = true ↔ value = .str text := by
  cases value <;> simp [Value.isStr]

/-- What `select_episode` does: the next episode of the pool and its counter advanced, or an
episode drawn and the counters left. -/
theorem selectEpisode_spec {poolId assetId : String} {mode seed : Value}
    (selected : selectEpisode rng lookup poolId mode seed counters = .ok (assetId, later)) :
    (mode = .str "sequential" ∧ later = counters.advance poolId ∧
      ∃ pool, lookup poolId = some pool ∧
        episodeAt pool.tags (counters poolId) = some assetId) ∨
      ((mode = .str "random" ∨ mode = .str "weighted") ∧ later = counters) := by
  unfold selectEpisode at selected
  obtain ⟨pool, found, selected⟩ := bind_eq_ok.mp selected
  dsimp only at selected
  split_ifs at selected with empty sequential drawn
  · left
    split at selected
    · rename_i episode
      cases selected
      exact ⟨isStr_iff.mp sequential, rfl, pool, lookupId_ok found, episode⟩
    · cases selected
  · right
    obtain ⟨⟨_, _⟩, _, selected⟩ := bind_eq_ok.mp selected
    cases selected
    rw [Bool.or_eq_true, isStr_iff, isStr_iff] at drawn
    exact ⟨drawn, rfl⟩

/-- A block of a pool and a mode, after its selection. -/
theorem taken_of_selected {poolId assetId : String} {mode recorded seed : Value}
    {block : ProgramBlockOutput}
    (selected : selectEpisode rng lookup poolId mode seed counters = .ok (assetId, later))
    (its : block.assetId = assetId) (pool : poolOf block = .str poolId)
    (records : modeOf block = recorded)
    (sequential : mode = .str "sequential" →
      recorded = .str "sequential" ∨ recorded = .str "shuffle")
    (drawn : mode ≠ .str "sequential" → recorded = mode) :
    Taken lookup counters [block] later := by
  rcases selectEpisode_spec selected with ⟨inOrder, rfl, known⟩ | ⟨random, rfl⟩
  · obtain ⟨collection, isPool, episode⟩ := known
    refine Taken.one isPool (fun other => ?_) (its ▸ episode)
    unfold inTurn
    rw [pool, records]
    rcases sequential inOrder with rfl | rfl <;>
      simp [Value.isStr, eq_comm]
  · refine Taken.of_none lookup _ fun other member poolId => ?_
    rw [List.mem_singleton.mp member]
    unfold inTurn
    rw [records, drawn (by rcases random with rfl | rfl <;> simp)]
    rcases random with rfl | rfl <;> simp [Value.isStr]

/-- `pool or ""`, where the pool is a text. -/
theorem or_empty {pool : Value} {poolId : String} (text : pool = .str poolId) :
    pool.or (.str "") = .str poolId := by
  subst text
  unfold Value.or
  split_ifs with named
  · rfl
  · have empty : poolId = "" := by simpa [Value.truthy] using named
    rw [empty]

theorem asStr_ok {value : Value} {text : String} (is_text : value.asStr = .ok text) :
    value = .str text := by
  cases value with
  | str s =>
    cases is_text
    rfl
  | null | bool _ | int _ | date _ | list _ | dict _ => cases is_text

/-- A slot that leaves its pool out records none, and selects from the pool `""`. -/
theorem selectorPool_default {epSel collection : Value} {poolId : String}
    (selected : selectorPool epSel (.str "") = .ok (.str poolId))
    (recorded : selectorPool epSel .null = .ok collection) :
    collection.or (.str "") = .str poolId := by
  cases epSel with
  | dict entries =>
    have chosen : ((entries.lookup "pool").getD .null).or
        ((entries.lookup "collection").getD (.str "")) = .str poolId := Except.ok.inj selected
    have kept : ((entries.lookup "pool").getD .null).or
        ((entries.lookup "collection").getD .null) = collection := Except.ok.inj recorded
    rw [← kept]
    generalize (entries.lookup "pool").getD .null = pool at chosen ⊢
    unfold Value.or at chosen ⊢
    by_cases given : pool.truthy = true
    · rw [if_pos given] at chosen ⊢
      rw [if_pos given]
      exact chosen
    · rw [if_neg given] at chosen ⊢
      generalize entries.lookup "collection" = own at chosen ⊢
      cases own with
      | none => exact chosen
      | some own =>
        rw [Option.getD_some] at chosen ⊢
        exact or_empty chosen
  | null | bool _ | int _ | str _ | date _ | list _ => cases selected

end Selecting

/-! ### The block compilers -/

section Compilers

variable {rng : RandomSource} {lookup : Lookup} {gridMinutes : Nat} {broadcastDay : String}
  {tz : Option Zone} {seed : Option Int} {counters : Counters}

theorem sitcomSlot_taken {slotSeed slot title collection selector : Value} {assetId : String}
    {wall : Int} {asset : AssetMetadata} {later : Counters}
    (selected : sitcomSlot rng lookup slotSeed slot counters =
      .ok (title, assetId, collection, selector, later)) :
    Taken lookup counters
      [programBlock gridMinutes title assetId wall asset collection selector] later := by
  unfold sitcomSlot at selected
  obtain ⟨_, _, selected⟩ := bind_eq_ok.mp selected
  obtain ⟨_, _, selected⟩ := bind_eq_ok.mp selected
  obtain ⟨epSel, _, selected⟩ := bind_eq_ok.mp selected
  split_ifs at selected with given
  · obtain ⟨pool, named, selected⟩ := bind_eq_ok.mp selected
    obtain ⟨poolId, text, selected⟩ := bind_eq_ok.mp selected
    obtain ⟨mode, _, selected⟩ := bind_eq_ok.mp selected
    obtain ⟨_, _, selected⟩ := bind_eq_ok.mp selected
    obtain ⟨⟨_, _⟩, chosen, selected⟩ := bind_eq_ok.mp selected
    obtain ⟨_, recorded, selected⟩ := bind_eq_ok.mp selected
    cases selected
    rw [asStr_ok text] at named
    exact taken_of_selected chosen rfl (selectorPool_default named recorded) rfl .inl fun _ => rfl
  · obtain ⟨_, _, selected⟩ := bind_eq_ok.mp selected
    cases selected
    refine Taken.of_none lookup _ fun block member poolId => ?_
    rw [List.mem_singleton.mp member]
    unfold inTurn
    rw [Bool.and_eq_false_iff]
    exact .inr rfl

theorem sitcomLoop_taken {slotSeed : Value} {fuel : Nat} {slots : List Value} {currentTime : Int}
    {out : List ProgramBlockOutput × Counters}
    (returns : sitcomLoop rng lookup gridMinutes slotSeed fuel slots currentTime counters = .ok out) :
    Taken lookup counters out.1 out.2 := by
  induction fuel generalizing slots currentTime counters out with
  | zero =>
    obtain rfl := Except.ok.inj returns
    exact Taken.nil _ _
  | succ fuel ih =>
    cases slots with
    | nil =>
      obtain rfl := Except.ok.inj returns
      exact Taken.nil _ _
    | cons slot rest =>
      unfold sitcomLoop at returns
      obtain ⟨⟨_, _, _, _, _⟩, selected, returns⟩ := bind_eq_ok.mp returns
      obtain ⟨_, _, returns⟩ := bind_eq_ok.mp returns
      obtain ⟨_, tail, returns⟩ := bind_eq_ok.mp returns
      obtain rfl := Except.ok.inj returns
      exact Taken.cons (sitcomSlot_taken selected) (ih tail)

theorem episodeLoop_taken {episodes : EpisodeBlock} {iterations : Nat} {currentTime : Int}
    {poolIndex : Nat} {state : rng.State} {out : List ProgramBlockOutput × Counters}
    (returns : episodeLoop rng lookup gridMinutes episodes iterations currentTime poolIndex state
      counters = .ok out) :
    Taken lookup counters out.1 out.2 := by
  induction iterations generalizing currentTime poolIndex state counters out with
  | zero =>
    obtain rfl := Except.ok.inj returns
    exact Taken.nil _ _
  | succ iterations ih =>
    unfold episodeLoop at returns
    by_cases before : currentTime < episodes.endTime
    · rw [if_pos before] at returns
      obtain ⟨⟨pool, _, _⟩, _, returns⟩ := bind_eq_ok.mp returns
      obtain ⟨poolId, text, returns⟩ := bind_eq_ok.mp returns
      obtain ⟨⟨_, _⟩, selected, returns⟩ := bind_eq_ok.mp returns
      obtain ⟨_, _, returns⟩ := bind_eq_ok.mp returns
      obtain ⟨_, tail, returns⟩ := bind_eq_ok.mp returns
      obtain rfl := Except.ok.inj returns
      refine Taken.cons ?_ (ih tail)
      refine taken_of_selected selected rfl (or_empty (asStr_ok text)) rfl (fun inOrder => ?_)
        fun drawn => ?_
      · show episodes.mode = _ ∨ episodes.mode = _
        unfold EpisodeBlock.selectMode at inOrder
        split_ifs at inOrder with turns
        · rw [Bool.or_eq_true, isStr_iff, isStr_iff] at turns
          exact turns
        · exact .inl inOrder
      · show episodes.mode = _
        unfold EpisodeBlock.selectMode at drawn ⊢
        split_ifs at drawn ⊢ with turns
        · exact absurd rfl drawn
        · rfl
    · rw [if_neg before] at returns
      obtain rfl := Except.ok.inj returns
      exact Taken.nil _ _

/-- Movies are not taken in turn. -/
theorem movie_not_inTurn (title : Value) (assetId : String) (wall : Int) (asset : AssetMetadata)
    (collection : Value) (selector : MovieSelector) (drawn : Value) (poolId : String) :
    inTurn poolId (programBlock gridMinutes title assetId wall asset collection
      (movieSelection selector drawn)) = false := by
  unfold inTurn
  rw [Bool.and_eq_false_iff]
  exact .inr rfl

theorem marathonLoop_not_inTurn {selector : MovieSelector} {endTime : Int} {allowBleed : Bool}
    {attempts : Nat} {currentTime movieSeed : Int} {usedIds : List String}
    {out : List ProgramBlockOutput × List String}
    (returns : marathonLoop rng lookup gridMinutes selector endTime allowBleed attempts currentTime
      movieSeed usedIds = .ok out) :
    ∀ block ∈ out.1, ∀ poolId, inTurn poolId block = false := by
  induction attempts generalizing currentTime movieSeed usedIds out with
  | zero =>
    obtain rfl := Except.ok.inj returns
    exact List.forall_mem_nil _
  | succ attempts ih =>
    unfold marathonLoop at returns
    by_cases full : endTime ≤ currentTime
    · rw [if_pos full] at returns
      obtain rfl := Except.ok.inj returns
      exact List.forall_mem_nil _
    · rw [if_neg full] at returns
      obtain ⟨choice, _, returns⟩ := bind_eq_ok.mp returns
      cases choice with
      | none => exact ih returns
      | some assetId =>
        obtain ⟨asset, _, returns⟩ := bind_eq_ok.mp returns
        dsimp only at returns
        split at returns
        · obtain rfl := Except.ok.inj returns
          exact List.forall_mem_nil _
        · obtain ⟨_, tail, returns⟩ := bind_eq_ok.mp returns
          obtain rfl := Except.ok.inj returns
          exact List.forall_mem_cons.mpr ⟨movie_not_inTurn _ _ _ _ _ _ _, ih tail⟩

/-- A step takes its episodes in turn, whichever compiler it goes to. -/
theorem compile_taken {step : DayStep} {carried : Carried}
    {out : List ProgramBlockOutput × Carried}
    (returns : step.compile rng lookup gridMinutes broadcastDay tz seed carried = .ok out) :
    Taken lookup carried.counters out.1 out.2.counters := by
  cases compile_cases returns with
  | episodes blockDef none_ compiles leaves =>
    unfold compileEpisodeBlock at compiles
    iterate 10 obtain ⟨_, _, compiles⟩ := bind_eq_ok.mp compiles
    exact episodeLoop_taken compiles
  | sitcom blockDef none_ compiles leaves =>
    unfold compileSitcomBlock at compiles
    iterate 5 obtain ⟨_, _, compiles⟩ := bind_eq_ok.mp compiles
    exact sitcomLoop_taken compiles
  | marathon layered blockDef usedIds isMarathon compiles counters leaves =>
    rw [counters]
    unfold compileMovieMarathon at compiles
    iterate 11 obtain ⟨_, _, compiles⟩ := bind_eq_ok.mp compiles
    exact Taken.of_none lookup _ (marathonLoop_not_inTurn compiles)
  | movie blockDef isMovie compiles leaves =>
    rw [leaves]
    unfold compileMovieBlock at compiles
    iterate 8 obtain ⟨_, _, compiles⟩ := bind_eq_ok.mp compiles
    rw [← Except.ok.inj compiles]
    refine Taken.of_none lookup _ (List.forall_mem_singleton.mpr ?_)
    exact movie_not_inTurn _ _ _ _ _ _ _
  | skipped none_ leaves =>
    rw [leaves]
    exact Taken.nil _ _

/-- **A compiled day** takes every pool's episodes in turn, in the order of compilation. -/
theorem compiledBlocks_taken {R : Type} {resolver : AssetResolver R}
    {zoneInfo : String → Option Zone} {dsl : Dict} {source : R}
    {out : List ProgramBlockOutput × Counters}
    (returns : compiledBlocks resolver rng zoneInfo dsl source seed counters = .ok out) :
    Taken (resolver.lookup (withPools resolver dsl source)) counters out.1 out.2 := by
  obtain ⟨after, left, taken⟩ := compiledBlocks_rel
    (P := fun carried blocks after => Taken (resolver.lookup (withPools resolver dsl source))
      carried.counters blocks after.counters)
    (fun _ => Taken.nil _ _) (fun _ _ _ _ _ first second => first.append second)
    (fun _ _ _ _ _ compiled => compile_taken compiled) returns
  rw [← left]
  exact taken

end Compilers

/-! ### The order of airing -/

section Airing

variable (zone : Zone) (poolId : String)

/-- The pool's episodes in the order in which they air. -/
def airedEpisodes (blocks : List ProgramBlockOutput) : List String :=
  ((sortByKey (fun block => block.startAt.epoch zone) blocks).filter (inTurn poolId)).map
    ProgramBlockOutput.assetId

/-- The counts that the blocks were compiled at, in start order. -/
def countsInStartOrder (turn : Int) (compiled : List ProgramBlockOutput) : List Int :=
  (sortByKey (fun entry => entry.1.startAt.clock) (numbered poolId turn compiled)).map Prod.snd

/-- The counts of the pool's episodes in the order in which these air. -/
def airedTurns (turn : Int) (compiled blocks : List ProgramBlockOutput) : List Int :=
  ((sortByKey (fun entry => entry.1.startAt.epoch zone)
    (blocks.zip (countsInStartOrder poolId turn compiled))).filter
      fun entry => inTurn poolId entry.1).map Prod.snd

/-- The episodes from a count on, one after the other, around the end of the pool. -/
def RunsFrom (episodes : List String) : Int → List String → Prop
  | _, [] => True
  | turn, assetId :: rest => episodeAt episodes turn = some assetId ∧ RunsFrom episodes (turn + 1) rest

instance runsFromDecidable (episodes : List String) : ∀ (turn : Int) (aired : List String),
    Decidable (RunsFrom episodes turn aired)
  | _, [] => inferInstanceAs (Decidable True)
  | turn, assetId :: rest =>
    have := runsFromDecidable episodes (turn + 1) rest
    inferInstanceAs (Decidable
      (episodeAt episodes turn = some assetId ∧ RunsFrom episodes (turn + 1) rest))

/-- **In pool order**: consecutive episodes, none skipped and none repeated. -/
def InPoolOrder (episodes aired : List String) : Prop := ∃ first, RunsFrom episodes first aired

/-- Each count is one on from the count before it, up to whole turns of the pool. -/
def InStep (count : Nat) (turns : List Int) : Prop :=
  turns.IsChain fun before turn => turn ≡ before + 1 [ZMOD count]

instance inStepDecidable (count : Nat) (turns : List Int) : Decidable (InStep count turns) :=
  inferInstanceAs (Decidable (turns.IsChain fun before turn => turn ≡ before + 1 [ZMOD count]))

variable {zone poolId}

/-- Two counts of a pool without repetitions have the same episode exactly when they are whole turns
apart. -/
theorem episodeAt_eq_iff {episodes : List String} (distinct : episodes.Nodup) {first turn : Int}
    {assetId : String} (here : episodeAt episodes turn = some assetId) :
    episodeAt episodes first = some assetId ↔ first ≡ turn [ZMOD episodes.length] := by
  unfold episodeAt at here ⊢
  obtain ⟨inside, rfl⟩ := List.getElem?_eq_some_iff.mp here
  have some_ : (0 : Int) < episodes.length := by
    have := Nat.zero_lt_of_lt inside
    exact_mod_cast this
  have low := Int.emod_nonneg turn some_.ne'
  have low' := Int.emod_nonneg first some_.ne'
  constructor
  · intro there
    obtain ⟨inside', same⟩ := List.getElem?_eq_some_iff.mp there
    have places := (distinct.getElem_inj_iff).mp same
    unfold Int.ModEq
    omega
  · intro apart
    rw [apart]
    exact List.getElem?_eq_getElem inside

/-- Whole turns of the pool make no difference. -/
theorem RunsFrom.of_modEq {episodes : List String} : ∀ {aired : List String} {first turn : Int},
    first ≡ turn [ZMOD episodes.length] → RunsFrom episodes first aired →
      RunsFrom episodes turn aired
  | [], _, _, _, _ => trivial
  | _ :: _, first, turn, same, ⟨here, rest⟩ => by
    refine ⟨?_, rest.of_modEq (same.add_right 1)⟩
    unfold episodeAt at here ⊢
    rw [← show first % _ = turn % _ from same]
    exact here

/-- Episodes at counts run on from a count exactly when the counts do, from that count. -/
theorem runsFrom_iff {episodes : List String} (distinct : episodes.Nodup) :
    ∀ {turns : List Int} {turn first : Int} {aired : List String} {assetId : String},
      (assetId :: aired).map some = (turn :: turns).map (episodeAt episodes) →
      (RunsFrom episodes first (assetId :: aired) ↔
        first ≡ turn [ZMOD episodes.length] ∧ InStep episodes.length (turn :: turns))
  | [], turn, first, aired, assetId, same => by
    obtain ⟨here, rest⟩ := List.cons.inj same
    rw [List.map_eq_nil_iff.mp rest]
    unfold RunsFrom InStep
    rw [episodeAt_eq_iff distinct here.symm]
    simp [RunsFrom]
  | next :: turns, turn, first, aired, assetId, same => by
    obtain ⟨here, rest⟩ := List.cons.inj same
    cases aired with
    | nil => cases rest
    | cons other aired =>
      have later := @runsFrom_iff episodes distinct turns next (first + 1) aired other rest
      unfold RunsFrom InStep
      rw [episodeAt_eq_iff distinct here.symm, later, List.isChain_cons_cons]
      constructor
      · rintro ⟨same, on, steps⟩
        exact ⟨same, on.symm.trans (same.add_right 1), steps⟩
      · rintro ⟨same, on, steps⟩
        exact ⟨same, (same.add_right 1).trans on.symm, steps⟩

/-- **Episodes at counts are in pool order** exactly when the counts are in step. -/
theorem inPoolOrder_iff {episodes : List String} (distinct : episodes.Nodup) {turns : List Int}
    {aired : List String} (same : aired.map some = turns.map (episodeAt episodes)) :
    InPoolOrder episodes aired ↔ InStep episodes.length turns := by
  match aired, turns with
  | [], [] => exact ⟨fun _ => List.isChain_nil, fun _ => ⟨0, trivial⟩⟩
  | [], _ :: _ => cases same
  | _ :: _, [] => cases same
  | assetId :: aired, turn :: turns =>
    constructor
    · rintro ⟨first, runs⟩
      exact ((runsFrom_iff distinct same).mp runs).2
    · intro steps
      exact ⟨turn, (runsFrom_iff distinct same).mpr ⟨Int.ModEq.refl _, steps⟩⟩

theorem numbered_map_fst (turn : Int) (blocks : List ProgramBlockOutput) :
    (numbered poolId turn blocks).map Prod.fst = blocks := by
  induction blocks generalizing turn with
  | nil => rfl
  | cons block rest ih => rw [numbered, List.map_cons, ih]

/-- The compiled blocks with their counts, in start order. -/
theorem sorted_numbered (turn : Int) (compiled : List ProgramBlockOutput) :
    (sortByKey (fun entry => entry.1.startAt.clock) (numbered poolId turn compiled)).map Prod.fst =
      inStartOrder compiled := by
  have sorted := map_sortByKey_comp (fun block : ProgramBlockOutput => block.startAt.clock) Prod.fst
    (numbered poolId turn compiled)
  rw [numbered_map_fst] at sorted
  exact sorted

/-- What decides whether a block is in turn, and its episode, wherever it is moved. -/
def identity (block : ProgramBlockOutput) : String × Value × Value :=
  (block.assetId, block.collection, block.selector)

theorem inTurn_identity {block other : ProgramBlockOutput} (same : identity block = identity other)
    (poolId : String) : inTurn poolId block = inTurn poolId other := by
  obtain ⟨-, rest⟩ := Prod.mk.inj same
  obtain ⟨collection, selector⟩ := Prod.mk.inj rest
  unfold inTurn poolOf modeOf
  rw [collection, selector]

/-- Two lists that agree entry by entry, zipped. -/
theorem mem_zip_of_map_eq {α β γ δ : Type} {f : α → γ} {g : β → γ} {h : β → δ} :
    ∀ {first : List α} {second : List β}, first.map f = second.map g →
      ∀ pair ∈ first.zip (second.map h), ∃ entry ∈ second, f pair.1 = g entry ∧ pair.2 = h entry
  | [], _, _, _, member => by cases member
  | _ :: _, [], same, _, _ => by cases same
  | a :: first, b :: second, same, pair, member => by
    obtain ⟨here, rest⟩ := List.cons.inj same
    rcases List.mem_cons.mp member with rfl | later
    · exact ⟨b, List.mem_cons_self, here, rfl⟩
    · obtain ⟨entry, among, both⟩ := mem_zip_of_map_eq rest pair later
      exact ⟨entry, List.mem_cons_of_mem _ among, both⟩

/-- The blocks of the timeline are the compiled ones in start order, count by count. -/
theorem zip_counts {gridMinutes : Nat} (turn : Int) {compiled blocks : List ProgramBlockOutput}
    (returns : timeline zone gridMinutes compiled = .ok blocks) :
    blocks.map identity =
        (sortByKey (fun entry => entry.1.startAt.clock) (numbered poolId turn compiled)).map
          (fun entry => identity entry.1) ∧
      (blocks.zip (countsInStartOrder poolId turn compiled)).map Prod.fst = blocks := by
  have agree : blocks.map identity =
      (sortByKey (fun entry => entry.1.startAt.clock) (numbered poolId turn compiled)).map
        fun entry => identity entry.1 := by
    rw [timeline_kept (fun _ _ => rfl) returns, ← sorted_numbered turn, List.map_map]
    rfl
  refine ⟨agree, List.map_fst_zip ?_⟩
  have lengths := congrArg List.length agree
  rw [List.length_map, List.length_map] at lengths
  unfold countsInStartOrder
  rw [List.length_map, lengths]

/-- **What airs of a pool** are its episodes at the counts that air. -/
theorem airedEpisodes_eq {gridMinutes : Nat} {lookup : Lookup} {counters later : Counters}
    {compiled blocks : List ProgramBlockOutput} (taken : Taken lookup counters compiled later)
    (returns : timeline zone gridMinutes compiled = .ok blocks) {pool : AssetMetadata}
    (known : lookup poolId = some pool) :
    (airedEpisodes zone poolId blocks).map some =
      (airedTurns zone poolId (counters poolId) compiled blocks).map (episodeAt pool.tags) := by
  obtain ⟨agree, fsts⟩ := @zip_counts zone poolId gridMinutes (counters poolId) compiled blocks returns
  have order : sortByKey (fun block => block.startAt.epoch zone) blocks =
      (sortByKey (fun entry => entry.1.startAt.epoch zone)
        (blocks.zip (countsInStartOrder poolId (counters poolId) compiled))).map Prod.fst := by
    rw [map_sortByKey_comp (fun block : ProgramBlockOutput => block.startAt.epoch zone) Prod.fst,
      fsts]
  unfold airedEpisodes airedTurns
  rw [order, List.filter_map, List.map_map, List.map_map, List.map_map]
  refine List.map_congr_left fun entry member => ?_
  obtain ⟨among, isIts⟩ := List.mem_filter.mp member
  obtain ⟨own, isOwn, same, count⟩ := mem_zip_of_map_eq agree entry ((mem_sortByKey _).mp among)
  have isTaken : inTurn poolId own.1 = true := (inTurn_identity same poolId).symm.trans isIts
  have episode := (taken poolId pool known).1 own ((mem_sortByKey _).mp isOwn) isTaken
  have asset : entry.1.assetId = own.1.assetId := (Prod.mk.inj same).1
  show some entry.1.assetId = episodeAt pool.tags entry.2
  rw [asset, count, episode]

end Airing

/-! ### The compiled day -/

section Main

end Main

/-! ### An evening and a night -/

section Evening

/-- The episodes of a pool. -/
def fiveEpisodes : List String := ["e1", "e2", "e3", "e4", "e5"]

/-- Half-hour episodes in one pool. -/
def showCatalog : AssetResolver Unit where
  lookup _ := fun assetId =>
    if assetId = "show" then some { durationSec := 0, tags := fiveEpisodes }
    else if fiveEpisodes.contains assetId then some { durationSec := 1800, title := assetId }
    else none
  registerPools source _ := source

/-- An hour of the show. -/
def showHour (start stop : String) : Value :=
  .dict [("block", .dict [("start", .str start), ("end", .str stop), ("pool", .str "show")])]

/-- Two hours of the show on one day. -/
def showDsl (first second : Value) : Dict :=
  [("channel", .str "one"), ("broadcast_day", .str "2025-01-15"), ("timezone", .str "Europe/London"),
    ("schedule", .dict [("all_day", .list [first, second])])]

def showCompiled (dsl : Dict) : Compile (List ProgramBlockOutput × Counters) :=
  compiledBlocks showCatalog firstDrawn newsZones dsl () (some 42) fun _ => 0

def showSchedule (dsl : Dict) : Compile (ProgramSchedule × Counters) :=
  compileSchedule showCatalog firstDrawn newsZones dsl () (some 42) fun _ => 0

/-- The show at eight in the evening and at ten. -/
def eveningDsl : Dict := showDsl (showHour "20:00" "21:00") (showHour "22:00" "23:00")

/-- The show at eight in the evening and at midnight. -/
def nightDsl : Dict := showDsl (showHour "20:00" "21:00") (showHour "00:00" "01:00")

/-- A day and the counts that air. -/
def showDay (dsl : Dict) : Compile (ProgramSchedule × List Int) := do
  let (compiled, _) ← showCompiled dsl
  let (schedule, _) ← showSchedule dsl
  .ok (schedule, airedTurns (scheduleZone newsZones dsl) "show" 0 compiled schedule.programBlocks)

/-- A list is not in pool order when it runs on from no place in the pool. -/
theorem not_inPoolOrder {aired : List String}
    (each : ∀ place ∈ List.range 5, ¬RunsFrom fiveEpisodes (place : Int) aired) :
    ¬InPoolOrder fiveEpisodes aired := by
  rintro ⟨first, runs⟩
  have low := Int.emod_nonneg first (show (5 : Int) ≠ 0 by decide)
  have high := Int.emod_lt_of_pos first (show (0 : Int) < 5 by decide)
  refine each (first % 5).toNat (List.mem_range.mpr (by omega)) (runs.of_modEq ?_)
  rw [Int.toNat_of_nonneg low]
  exact (Int.mod_modEq first 5).symm

end Evening

end Retrovue.Core.Compiler
