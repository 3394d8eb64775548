/-
**Resolving a schedule day, all or nothing.**

`resolve_schedule_day` reads and advances the cursors of the sequential programs slot by slot, and a
later slot, or the store of the resolved days, may still refuse. What was advanced stays advanced.

* `resolveSlots`, `resolveDay`: the resolution with the stores as a call leaves them, returned or
  raised; `resolveScheduleDay_iff`: where it returns it is `resolveScheduleDay`;
* `airings`: the events that the slots make, with the cursors in closed form (`cursorAfter`), and
  what stops them;
* `resolveSlots_eq`: the loop makes these events and leaves these cursors;
* `transactional_iff`: a call is all or nothing exactly when what it aired before it was refused
  makes whole turns of the episode lists.
-/

import Mathlib
import Retrovue.Core.Schedule.Projection
import Retrovue.Core.Schedule.ResolvedStore

namespace Retrovue.Core.Schedule

/-! ### A call and its stores -/

section Calls

/-- The stores of the manager: the sequence positions and the resolved days. -/
structure ManagerState where
  position : String → String → Int
  days : Days

/-- What the stores say of positions and days. -/
def ManagerState.stores (state : ManagerState) : Stores :=
  ⟨state.position, fun channel date => (state.days channel date).map AnchoredDay.toResolvedScheduleDay⟩

/-- What `resolve_schedule_day` raises. -/
inductive ResolveError
  | schedule (reason : ScheduleError)
  | store (reason : StoreError)
  deriving DecidableEq, Repr

variable (config : Config) (seedHash : String → String → Date → TimeOfDay → Nat)

/-- The loop of `resolve_schedule_day`, with the stores that it leaves. A slot that raises leaves
them as it found them: `_select_episode` raises before it sets a position. -/
def resolveSlots (channelId : String) (programmingDayDate : Date) :
    Nat → Nat → List ScheduleSlot → Stores →
      Except ScheduleError (List ResolvedSlot × List ProgramEvent) × Stores
  | 0, _, _, stores => (.ok ([], []), stores)
  | _ + 1, _, [], stores => (.ok ([], []), stores)
  | fuel + 1, slotIdx, slot :: rest, stores =>
    match resolveProgramRef config seedHash stores channelId slot.programRef programmingDayDate
        slot.slotTime with
    | .error reason => (.error reason, stores)
    | .ok (asset, stores) =>
      let consumed := min (blockSpan config asset.contentDurationSeconds) (rest.length + 1)
      match resolveSlots channelId programmingDayDate fuel (slotIdx + consumed)
          ((slot :: rest).drop consumed) stores with
      | (.error reason, stores) => (.error reason, stores)
      | (.ok (slots, events), stores) =>
        (.ok (((slot :: rest).take consumed).map (resolvedSlot config slot asset) ++ slots,
          programEvent config channelId programmingDayDate slotIdx slot asset :: events), stores)

variable (settings : StoreSettings) (state : ManagerState) (channelId : String)
  (programmingDayDate : Date) (slots : List ScheduleSlot) (resolutionTime : Int)

/-- The day of resolved slots and events, as it is stored: without a plan and no override. -/
def unplannedDay (resolved : List ResolvedSlot × List ProgramEvent) : AnchoredDay :=
  { programmingDayDate := programmingDayDate
    resolvedSlots := resolved.1
    resolutionTimestamp := resolutionTime
    programEvents := resolved.2
    planId := none
    isManualOverride := false }

/-- `resolve_schedule_day` with an `InMemoryResolvedStore`: what it returns or raises, and the
stores as it leaves them. -/
def resolveDay : Except ResolveError ResolvedScheduleDay × ManagerState :=
  match state.days channelId programmingDayDate with
  | some existing => (.ok existing.toResolvedScheduleDay, state)
  | none =>
    match resolveSlots config seedHash channelId programmingDayDate slots.length 0 slots
        state.stores with
    | (.error reason, stores) =>
      (.error (.schedule reason), { state with position := stores.position })
    | (.ok resolved, stores) =>
      let day := unplannedDay programmingDayDate resolutionTime resolved
      match state.days.store settings channelId day with
      | .error reason => (.error (.store reason), { state with position := stores.position })
      | .ok days => (.ok day.toResolvedScheduleDay, ⟨stores.position, days⟩)

end Calls

/-! ### What a day airs -/

section Airings

variable (config : Config) (seedHash : String → String → Date → TimeOfDay → Nat)

/-- The program that a ref names, if it is in the catalog. -/
def programOf (ref : ProgramRef) : Option Program :=
  if ref.refType = .program then config.getProgram ref.refId else none

/-- The program is the one whose cursor has this id. -/
def Program.advances (programId : String) (program : Program) : Bool :=
  program.playMode = "sequential" ∧ program.programId = programId

/-- A cursor after the airings of programs: one episode on for each airing of its program, around
the program's episodes. -/
def cursorAfter (programs : List Program) (programId : String) (position : Int) : Int :=
  match programs.filter (Program.advances programId) with
  | [] => position
  | program :: others => (position + (others.length + 1)) % (program.episodes.length : Int)

/-- The stores after the airings of programs on a channel. -/
def Stores.after (stores : Stores) (channelId : String) (programs : List Program) : Stores :=
  { stores with
    position := fun channel program =>
      if channel = channelId then cursorAfter programs program (stores.position channel program)
      else stores.position channel program }

/-- An event: its slot, its asset and the slots it takes. -/
structure Airing where
  slot : ScheduleSlot
  asset : ResolvedAsset
  taken : List ScheduleSlot

/-- The programs of events. -/
def airedPrograms (airings : List Airing) : List Program :=
  airings.filterMap fun airing => programOf config airing.slot.programRef

/-- The events that slots make after the airings of programs, and the error that ends them. -/
def airings (stores : Stores) (channelId : String) (programmingDayDate : Date) :
    Nat → List ScheduleSlot → List Program → List Airing × Option ScheduleError
  | 0, _, _ => ([], none)
  | _ + 1, [], _ => ([], none)
  | fuel + 1, slot :: rest, aired =>
    match resolveProgramRef config seedHash (stores.after channelId aired) channelId slot.programRef
        programmingDayDate slot.slotTime with
    | .error reason => ([], some reason)
    | .ok (asset, _) =>
      let consumed := min (blockSpan config asset.contentDurationSeconds) (rest.length + 1)
      let (later, raised) := airings stores channelId programmingDayDate fuel
        ((slot :: rest).drop consumed) (aired ++ (programOf config slot.programRef).toList)
      (⟨slot, asset, (slot :: rest).take consumed⟩ :: later, raised)

/-- The resolved slots of events. -/
def slotsOf (airings : List Airing) : List ResolvedSlot :=
  airings.flatMap fun airing => airing.taken.map (resolvedSlot config airing.slot airing.asset)

/-- The program events, with the index of the first slot. -/
def eventsOf (channelId : String) (programmingDayDate : Date) :
    Nat → List Airing → List ProgramEvent
  | _, [] => []
  | slotIdx, airing :: later =>
    programEvent config channelId programmingDayDate slotIdx airing.slot airing.asset ::
      eventsOf channelId programmingDayDate (slotIdx + airing.taken.length) later

/-- The refs of a day's events: of the slots where the guide has them start. -/
def eventRefs : List ResolvedSlot → List ProgramEvent → List ProgramRef
  | _, [] => []
  | slots, event :: later =>
    ((slots.head?).map ResolvedSlot.programRef).toList ++
      eventRefs (slots.drop event.blockSpanCount.toNat) later

/-- The programs of a day's events. -/
def eventPrograms (day : ResolvedScheduleDay) : List Program :=
  (eventRefs day.resolvedSlots day.programEvents).filterMap (programOf config)

end Airings

/-! ### The property and its condition -/

section Property

variable (config : Config) (seedHash : String → String → Date → TimeOfDay → Nat)
  (settings : StoreSettings) (state : ManagerState) (channelId : String)
  (programmingDayDate : Date) (slots : List ScheduleSlot) (resolutionTime : Int)

/-- **All or nothing, once**: a call that raises leaves the stores as they were; one that resolves
the day advances each sequential program by the day's events of that program and no other cursor;
and a second call for the day returns the same and changes nothing. -/
structure Transactional : Prop where
  atomic : ∀ reason,
    (resolveDay config seedHash settings state channelId programmingDayDate slots
      resolutionTime).1 = .error reason →
    (resolveDay config seedHash settings state channelId programmingDayDate slots
      resolutionTime).2 = state
  advances : ∀ day, state.days channelId programmingDayDate = none →
    (resolveDay config seedHash settings state channelId programmingDayDate slots
      resolutionTime).1 = .ok day →
    ∀ channel program,
      (resolveDay config seedHash settings state channelId programmingDayDate slots
        resolutionTime).2.position channel program =
          if channel = channelId then
            cursorAfter (eventPrograms config day) program (state.position channel program)
          else state.position channel program
  idempotent : ∀ day,
    (resolveDay config seedHash settings state channelId programmingDayDate slots
      resolutionTime).1 = .ok day →
    ∀ slots' resolutionTime',
      resolveDay config seedHash settings
        (resolveDay config seedHash settings state channelId programmingDayDate slots
          resolutionTime).2 channelId programmingDayDate slots' resolutionTime' =
        (.ok day, (resolveDay config seedHash settings state channelId programmingDayDate slots
          resolutionTime).2)

/-- The events that the slots make in these stores, and the error that ends them. -/
def dayAirings : List Airing × Option ScheduleError :=
  airings config seedHash state.stores channelId programmingDayDate slots.length slots []

/-- The programs that the slots air. -/
def dayPrograms : List Program :=
  airedPrograms config (dayAirings config seedHash state channelId programmingDayDate slots).1

/-- The day that the slots make. -/
def airedDay : AnchoredDay :=
  unplannedDay programmingDayDate resolutionTime
    (slotsOf config (dayAirings config seedHash state channelId programmingDayDate slots).1,
      eventsOf config channelId programmingDayDate 0
        (dayAirings config seedHash state channelId programmingDayDate slots).1)

/-- A slot that an event starts with is refused, or the store refuses the day of the events. -/
def Refused : Prop :=
  (dayAirings config seedHash state channelId programmingDayDate slots).2.isSome ∨
    ∀ days, state.days.store settings channelId
      (airedDay config seedHash state channelId programmingDayDate slots resolutionTime) ≠ .ok days

/-- Every sequential program airs whole turns of its episodes: its cursor is back where it was. -/
def WholeTurns (programs : List Program) : Prop :=
  ∀ program, cursorAfter programs program (state.position channelId program) =
    state.position channelId program

end Property

/-! ### Cursors -/

section Cursors

variable {config : Config}

/-- A program of the catalog is told by its id. -/
def Config.UniqueIds (config : Config) : Prop :=
  ∀ {id other : String} {program same : Program}, config.getProgram id = some program →
    config.getProgram other = some same → program.programId = same.programId → program = same

/-- The programs are in the catalog. -/
def Config.Knows (config : Config) (programs : List Program) : Prop :=
  ∀ program ∈ programs, ∃ id, config.getProgram id = some program

theorem programOf_known {ref : ProgramRef} {program : Program}
    (named : programOf config ref = some program) : config.getProgram ref.refId = some program := by
  unfold programOf at named
  split_ifs at named
  exact named

theorem Config.Knows.append {programs : List Program} (known : config.Knows programs)
    (ref : ProgramRef) : config.Knows (programs ++ (programOf config ref).toList) := by
  intro program member
  rcases List.mem_append.mp member with before | last
  · exact known program before
  · exact ⟨_, programOf_known (Option.mem_toList.mp last)⟩

theorem cursorAfter_other {programs : List Program} {program : Program} {programId : String}
    (apart : program.advances programId = false) (position : Int) :
    cursorAfter (programs ++ [program]) programId position =
      cursorAfter programs programId position := by
  unfold cursorAfter
  rw [List.filter_append, List.filter_cons_of_neg (by simp [apart]), List.filter_nil,
    List.append_nil]

/-- **One more airing of a program** takes its cursor one episode on. -/
theorem cursorAfter_same (unique : config.UniqueIds) {programs : List Program}
    (known : config.Knows programs) {program : Program} {id : String}
    (listed : config.getProgram id = some program) (sequential : program.playMode = "sequential")
    (position : Int) :
    cursorAfter (programs ++ [program]) program.programId position =
      (cursorAfter programs program.programId position + 1) % (program.episodes.length : Int) := by
  have self : program.advances program.programId = true := by
    unfold Program.advances
    simp [sequential]
  unfold cursorAfter
  rw [List.filter_append, List.filter_cons_of_pos self, List.filter_nil]
  match before : programs.filter (Program.advances program.programId) with
  | [] => simp
  | first :: others =>
    have here : first ∈ programs.filter (Program.advances program.programId) := by
      rw [before]
      exact List.mem_cons_self
    obtain ⟨among, advancing⟩ := List.mem_filter.mp here
    obtain ⟨other, firstListed⟩ := known first among
    have sameId : first.programId = program.programId := by
      unfold Program.advances at advancing
      exact (of_decide_eq_true advancing).2
    have equal : first = program := unique firstListed listed sameId
    subst equal
    simp only [List.cons_append, List.length_append, List.length_cons, List.length_nil]
    rw [Int.emod_add_emod]
    congr 1
    push_cast
    ring

@[simp] theorem Stores.after_nil (stores : Stores) (channelId : String) :
    stores.after channelId [] = stores := by
  unfold Stores.after cursorAfter
  simp

/-- `_select_episode` leaves a cursor one on, where the program is sequential. -/
theorem selectEpisode_stores {seedHash : String → String → Date → TimeOfDay → Nat}
    {stores left : Stores} {channelId : String} {program : Program} {date : Date}
    {time : TimeOfDay} {episode : Episode}
    (selected : selectEpisode seedHash stores channelId program date time = .ok (episode, left)) :
    left = if program.playMode = "sequential" then
      stores.setPosition channelId program.programId
        ((stores.position channelId program.programId + 1) % (program.episodes.length : Int))
      else stores := by
  unfold selectEpisode at selected
  cases listed : program.episodes with
  | nil =>
    rw [listed] at selected
    cases selected
  | cons first rest =>
    rw [listed] at selected
    dsimp only at selected
    split_ifs at selected with sequential random manual
    · rw [if_pos sequential]
      cases selected
      rfl
    · rw [if_neg sequential]
      cases selected
      rfl
    · rw [if_neg sequential]
      cases selected
      rfl

/-- One more airing, as `set_position` makes it. -/
theorem Stores.after_append (unique : config.UniqueIds) {aired : List Program}
    (known : config.Knows aired) {program : Program} {id : String}
    (listed : config.getProgram id = some program) (stores : Stores) (channelId : String) :
    stores.after channelId (aired ++ [program]) =
      if program.playMode = "sequential" then
        (stores.after channelId aired).setPosition channelId program.programId
          (((stores.after channelId aired).position channelId program.programId + 1) %
            (program.episodes.length : Int))
      else stores.after channelId aired := by
  split_ifs with sequential
  · unfold Stores.after Stores.setPosition
    simp only [Stores.mk.injEq, and_true]
    funext channel programId
    by_cases here : channel = channelId
    · by_cases same : programId = program.programId
      · subst here same
        rw [if_pos rfl, if_pos ⟨rfl, rfl⟩, if_pos trivial]
        exact cursorAfter_same unique known listed sequential _
      · have apart : program.advances programId = false := by
          unfold Program.advances
          simp [Ne.symm same]
        rw [if_pos here, if_neg (fun both => same both.2), if_pos here, cursorAfter_other apart]
    · rw [if_neg here, if_neg (fun both => here both.1), if_neg here]
  · unfold Stores.after
    simp only [Stores.mk.injEq, and_true]
    funext channel programId
    have apart : program.advances programId = false := by
      unfold Program.advances
      simp [sequential]
    rw [cursorAfter_other apart]

/-- **A resolved ref** leaves the stores with its program aired once more. -/
theorem resolveProgramRef_after {seedHash : String → String → Date → TimeOfDay → Nat}
    (unique : config.UniqueIds) {aired : List Program} (known : config.Knows aired)
    {stores left : Stores} {channelId : String} {ref : ProgramRef} {date : Date}
    {time : TimeOfDay} {asset : ResolvedAsset}
    (resolved : resolveProgramRef config seedHash (stores.after channelId aired) channelId ref date
      time = .ok (asset, left)) :
    left = stores.after channelId (aired ++ (programOf config ref).toList) := by
  unfold resolveProgramRef at resolved
  unfold programOf
  cases kind : ref.refType with
  | file =>
    rw [kind] at resolved
    cases resolved
    simp
  | asset =>
    rw [kind] at resolved
    cases resolved
    simp
  | program =>
    rw [kind] at resolved
    dsimp only at resolved
    rw [if_pos rfl]
    cases listed : config.getProgram ref.refId with
    | none =>
      rw [listed] at resolved
      cases resolved
      simp
    | some program =>
      rw [listed] at resolved
      dsimp only at resolved
      split at resolved
      · cases resolved
      · rename_i selected
        cases resolved
        rw [selectEpisode_stores selected, Option.toList_some,
          Stores.after_append unique known listed]

end Cursors

/-! ### Where a call returns -/

section Returned

variable {config : Config} {seedHash : String → String → Date → TimeOfDay → Nat}
  {channelId : String} {date : Date}

/-- The loop without the stores of a call that raises. -/
theorem resolveLoop_eq (fuel slotIdx : Nat) (slots : List ScheduleSlot) (stores : Stores) :
    resolveLoop config seedHash channelId date fuel slotIdx slots stores =
      match resolveSlots config seedHash channelId date fuel slotIdx slots stores with
      | (.error reason, _) => .error reason
      | (.ok (slots, events), left) => .ok (slots, events, left) := by
  induction fuel generalizing slotIdx slots stores with
  | zero => rfl
  | succ fuel ih =>
    match slots with
    | [] => rfl
    | slot :: rest =>
      unfold resolveLoop resolveSlots
      cases resolveProgramRef config seedHash stores channelId slot.programRef date slot.slotTime with
      | error reason => rfl
      | ok answer =>
        obtain ⟨asset, left⟩ := answer
        show (resolveLoop config seedHash channelId date fuel _ _ left >>= _) = _
        rw [ih]
        dsimp only
        generalize resolveSlots config seedHash channelId date fuel _ _ left = later
        obtain ⟨result, left⟩ := later
        cases result with
        | error reason => rfl
        | ok resolved => rfl

theorem resolveProgramRef_resolved {stores left : Stores} {ref : ProgramRef} {time : TimeOfDay}
    {asset : ResolvedAsset}
    (resolved : resolveProgramRef config seedHash stores channelId ref date time =
      .ok (asset, left)) : left.resolved = stores.resolved := by
  unfold resolveProgramRef at resolved
  split at resolved
  · cases resolved
    rfl
  · cases resolved
    rfl
  · split at resolved
    · cases resolved
      rfl
    · split at resolved
      · cases resolved
      · rename_i selected
        cases resolved
        rw [selectEpisode_stores selected]
        split_ifs <;> rfl

/-- The loop leaves the resolved days alone. -/
theorem resolveSlots_resolved (fuel slotIdx : Nat) (slots : List ScheduleSlot) (stores : Stores) :
    (resolveSlots config seedHash channelId date fuel slotIdx slots stores).2.resolved =
      stores.resolved := by
  induction fuel generalizing slotIdx slots stores with
  | zero => rfl
  | succ fuel ih =>
    match slots with
    | [] => rfl
    | slot :: rest =>
      unfold resolveSlots
      cases resolved : resolveProgramRef config seedHash stores channelId slot.programRef date
          slot.slotTime with
      | error reason => rfl
      | ok answer =>
        obtain ⟨asset, left⟩ := answer
        have later := ih (slotIdx + min (blockSpan config asset.contentDurationSeconds)
          (rest.length + 1)) ((slot :: rest).drop (min (blockSpan config
            asset.contentDurationSeconds) (rest.length + 1))) left
        rw [resolveProgramRef_resolved resolved] at later
        dsimp only
        generalize resolveSlots config seedHash channelId date fuel _ _ left = made at later ⊢
        obtain ⟨result, after⟩ := made
        cases result <;> exact later

/-- A store that checks nothing takes a new day. -/
theorem store_unchecked {days : Days} {day : AnchoredDay}
    (fresh : days channelId day.programmingDayDate = none) :
    days.store ⟨none, false⟩ channelId day =
      .ok (days.put channelId day.programmingDayDate (some day)) := by
  unfold Days.store
  rw [fresh]
  rfl

/-- A stored day, as the stores say it. -/
theorem stores_put (position : String → String → Int) (days : Days) (day : AnchoredDay) :
    (ManagerState.mk position (days.put channelId day.programmingDayDate (some day))).stores =
      (ManagerState.mk position days).stores.store channelId day.toResolvedScheduleDay := by
  unfold ManagerState.stores Stores.store Days.put
  simp only [Stores.mk.injEq, true_and]
  funext channel date
  by_cases here : channel = channelId
  · subst here
    rw [Function.update_self]
    by_cases same : date = day.programmingDayDate
    · subst same
      rw [Function.update_self, if_pos ⟨rfl, rfl⟩]
      rfl
    · rw [Function.update_of_ne same, if_neg fun both => same both.2]
  · rw [Function.update_of_ne here, if_neg fun both => here both.1]

/-- **Where the call returns it is `resolveScheduleDay`**, with a store that checks nothing. -/
theorem resolveScheduleDay_iff {state : ManagerState} {slots : List ScheduleSlot}
    {resolutionTime : Int} {day : ResolvedScheduleDay} {left : Stores} :
    resolveScheduleDay config seedHash state.stores channelId date slots resolutionTime =
        .ok (day, left) ↔
      (resolveDay config seedHash ⟨none, false⟩ state channelId date slots resolutionTime).1 =
          .ok day ∧
        (resolveDay config seedHash ⟨none, false⟩ state channelId date slots
          resolutionTime).2.stores = left := by
  unfold resolveScheduleDay resolveDay
  cases found : state.days channelId date with
  | some existing =>
    have known : state.stores.resolved channelId date = some existing.toResolvedScheduleDay :=
      congrArg (Option.map AnchoredDay.toResolvedScheduleDay) found
    rw [known]
    simp
  | none =>
    have unknown : state.stores.resolved channelId date = none :=
      congrArg (Option.map AnchoredDay.toResolvedScheduleDay) found
    rw [unknown]
    dsimp only
    rw [resolveLoop_eq]
    have kept : (resolveSlots config seedHash channelId date slots.length 0 slots
        state.stores).2.resolved = state.stores.resolved := resolveSlots_resolved _ _ _ _
    generalize resolveSlots config seedHash channelId date slots.length 0 slots state.stores =
      made at kept ⊢
    obtain ⟨result, after⟩ := made
    cases result with
    | error reason =>
      constructor
      · intro returned
        cases returned
      · rintro ⟨returned, -⟩
        cases returned
    | ok resolved =>
      obtain ⟨resolvedSlots, events⟩ := resolved
      have stored : state.days.store ⟨none, false⟩ channelId
          (unplannedDay date resolutionTime (resolvedSlots, events)) = .ok (state.days.put channelId
            date (some (unplannedDay date resolutionTime (resolvedSlots, events)))) :=
        store_unchecked found
      have same : (ManagerState.mk after.position state.days).stores = after := by
        obtain ⟨position, days⟩ := after
        cases kept
        rfl
      have left_ : (ManagerState.mk after.position (state.days.put channelId date
          (some (unplannedDay date resolutionTime (resolvedSlots, events))))).stores =
          after.store channelId ⟨date, resolvedSlots, resolutionTime, events⟩ := by
        rw [← same]
        exact stores_put _ _ (unplannedDay date resolutionTime (resolvedSlots, events))
      dsimp only
      rw [stored, left_]
      constructor
      · intro returned
        cases returned
        exact ⟨rfl, rfl⟩
      · rintro ⟨returned, rfl⟩
        cases returned
        rfl

end Returned

/-! ### The loop -/

section Loop

variable {config : Config} {seedHash : String → String → Date → TimeOfDay → Nat}

/-- What the loop returns of its events. -/
def outcome (config : Config) (channelId : String) (date : Date) (slotIdx : Nat)
    (made : List Airing × Option ScheduleError) :
    Except ScheduleError (List ResolvedSlot × List ProgramEvent) :=
  match made.2 with
  | some reason => .error reason
  | none => .ok (slotsOf config made.1, eventsOf config channelId date slotIdx made.1)

theorem slotsOf_cons (airing : Airing) (later : List Airing) :
    slotsOf config (airing :: later) =
      airing.taken.map (resolvedSlot config airing.slot airing.asset) ++ slotsOf config later :=
  List.flatMap_cons

theorem eventsOf_cons (channelId : String) (date : Date) (slotIdx : Nat) (airing : Airing)
    (later : List Airing) :
    eventsOf config channelId date slotIdx (airing :: later) =
      programEvent config channelId date slotIdx airing.slot airing.asset ::
        eventsOf config channelId date (slotIdx + airing.taken.length) later := rfl

theorem airedPrograms_cons (airing : Airing) (later : List Airing) :
    airedPrograms config (airing :: later) =
      (programOf config airing.slot.programRef).toList ++ airedPrograms config later := by
  unfold airedPrograms
  rw [List.filterMap_cons]
  cases programOf config airing.slot.programRef <;> rfl

/-- **The loop** makes the events of the slots, and leaves the cursors with their programs aired. -/
theorem resolveSlots_eq (unique : config.UniqueIds) (stores : Stores) (channelId : String)
    (date : Date) (fuel slotIdx : Nat) (slots : List ScheduleSlot) (aired : List Program)
    (known : config.Knows aired) :
    resolveSlots config seedHash channelId date fuel slotIdx slots (stores.after channelId aired) =
      (outcome config channelId date slotIdx
          (airings config seedHash stores channelId date fuel slots aired),
        stores.after channelId (aired ++ airedPrograms config
          (airings config seedHash stores channelId date fuel slots aired).1)) := by
  induction fuel generalizing slotIdx slots aired with
  | zero => simp [resolveSlots, airings, outcome, airedPrograms, slotsOf, eventsOf]
  | succ fuel ih =>
    match slots with
    | [] => simp [resolveSlots, airings, outcome, airedPrograms, slotsOf, eventsOf]
    | slot :: rest =>
      unfold resolveSlots airings
      cases resolved : resolveProgramRef config seedHash (stores.after channelId aired) channelId
          slot.programRef date slot.slotTime with
      | error reason => simp [outcome, airedPrograms]
      | ok answer =>
        obtain ⟨asset, left⟩ := answer
        have moved := resolveProgramRef_after unique known resolved
        subst moved
        dsimp only
        rw [ih _ _ _ (known.append slot.programRef)]
        generalize airings config seedHash stores channelId date fuel
          ((slot :: rest).drop (min (blockSpan config asset.contentDurationSeconds)
            (rest.length + 1))) (aired ++ (programOf config slot.programRef).toList) = made
        obtain ⟨later, raised⟩ := made
        rw [airedPrograms_cons, ← List.append_assoc]
        cases raised with
        | some reason => rfl
        | none =>
          have length : ((slot :: rest).take (min (blockSpan config asset.contentDurationSeconds)
              (rest.length + 1))).length =
              min (blockSpan config asset.contentDurationSeconds) (rest.length + 1) := by
            rw [List.length_take, List.length_cons]
            omega
          unfold outcome
          dsimp only
          rw [eventsOf_cons, slotsOf_cons]
          dsimp only
          rw [length]

/-- An event takes a slot at least, and as many as it spans unless it is the last one. -/
def Fitted (config : Config) : List Airing → Prop
  | [] => True
  | airing :: later =>
    airing.taken ≠ [] ∧
      (airing.taken.length = blockSpan config airing.asset.contentDurationSeconds ∨ later = [] ∧
        airing.taken.length ≤ blockSpan config airing.asset.contentDurationSeconds) ∧
      Fitted config later

@[simp] theorem airings_nil (stores : Stores) (channelId : String) (date : Date) (fuel : Nat)
    (aired : List Program) :
    airings config seedHash stores channelId date fuel [] aired = ([], none) := by
  cases fuel <;> rfl

theorem airings_fitted (stores : Stores) (channelId : String) (date : Date) (fuel : Nat)
    (slots : List ScheduleSlot) (aired : List Program) :
    Fitted config (airings config seedHash stores channelId date fuel slots aired).1 := by
  induction fuel generalizing slots aired with
  | zero => trivial
  | succ fuel ih =>
    match slots with
    | [] => trivial
    | slot :: rest =>
      unfold airings
      cases resolveProgramRef config seedHash (stores.after channelId aired) channelId
          slot.programRef date slot.slotTime with
      | error reason => trivial
      | ok answer =>
        obtain ⟨asset, left⟩ := answer
        have length : ((slot :: rest).take (min (blockSpan config asset.contentDurationSeconds)
            (rest.length + 1))).length =
            min (blockSpan config asset.contentDurationSeconds) (rest.length + 1) := by
          rw [List.length_take, List.length_cons]
          omega
        have spans := blockSpan_pos config asset.contentDurationSeconds
        refine ⟨?_, ?_, ih _ _⟩
        · rw [← List.length_pos_iff]
          dsimp only
          omega
        · dsimp only
          rw [length]
          by_cases inside : blockSpan config asset.contentDurationSeconds ≤ rest.length + 1
          · exact .inl (Nat.min_eq_left inside)
          · have whole : (slot :: rest).drop
                (min (blockSpan config asset.contentDurationSeconds) (rest.length + 1)) = [] := by
              rw [List.drop_eq_nil_iff, List.length_cons]
              omega
            refine .inr ⟨?_, Nat.min_le_left _ _⟩
            rw [whole, airings_nil]

/-- **The guide's events** start at the slots that the events were made for. -/
theorem eventRefs_eq (channelId : String) (date : Date) :
    ∀ (made : List Airing) (slotIdx : Nat), Fitted config made →
      eventRefs (slotsOf config made) (eventsOf config channelId date slotIdx made) =
        made.map fun airing => airing.slot.programRef
  | [], _, _ => rfl
  | airing :: later, slotIdx, fitted => by
    obtain ⟨taken, span, rest⟩ := fitted
    rw [slotsOf_cons, eventsOf_cons, List.map_cons]
    unfold eventRefs
    have first : ((airing.taken.map (resolvedSlot config airing.slot airing.asset) ++
        slotsOf config later).head?).map ResolvedSlot.programRef =
        some airing.slot.programRef := by
      cases here : airing.taken with
      | nil => exact absurd here taken
      | cons slot others => rfl
    rw [first, Option.toList_some, List.singleton_append]
    refine congrArg _ ?_
    rcases span with whole | ⟨rfl, -⟩
    · have passed : ((airing.taken.map (resolvedSlot config airing.slot airing.asset) ++
          slotsOf config later).drop
            (programEvent config channelId date slotIdx airing.slot airing.asset).blockSpanCount.toNat)
          = slotsOf config later := by
        refine List.drop_left' ?_
        rw [List.length_map, whole]
        rfl
      rw [passed]
      exact eventRefs_eq channelId date later _ rest
    · rfl

end Loop

/-! ### The day -/

section Day

variable {config : Config} {seedHash : String → String → Date → TimeOfDay → Nat}
  {settings : StoreSettings} {state : ManagerState} {channelId : String} {date : Date}
  {slots : List ScheduleSlot} {resolutionTime : Int}

theorem eventPrograms_airedDay :
    eventPrograms config (airedDay config seedHash state channelId date slots
      resolutionTime).toResolvedScheduleDay =
      dayPrograms config seedHash state channelId date slots := by
  have fitted : Fitted config (dayAirings config seedHash state channelId date slots).1 :=
    airings_fitted _ _ _ _ _ _
  have refs := eventRefs_eq channelId date _ 0 fitted
  unfold eventPrograms dayPrograms airedPrograms
  dsimp only [airedDay, unplannedDay]
  rw [refs, List.filterMap_map]
  rfl

/-- **A call on a day that is not resolved**: its events, and the stores with their programs
aired, whether the day is stored or refused. -/
theorem resolveDay_eq (unique : config.UniqueIds) (fresh : state.days channelId date = none) :
    resolveDay config seedHash settings state channelId date slots resolutionTime =
      match (dayAirings config seedHash state channelId date slots).2 with
      | some reason => (.error (.schedule reason),
          { state with position := (state.stores.after channelId
              (dayPrograms config seedHash state channelId date slots)).position })
      | none =>
        match state.days.store settings channelId
            (airedDay config seedHash state channelId date slots resolutionTime) with
        | .error reason => (.error (.store reason),
            { state with position := (state.stores.after channelId
                (dayPrograms config seedHash state channelId date slots)).position })
        | .ok days => (.ok (airedDay config seedHash state channelId date slots
            resolutionTime).toResolvedScheduleDay,
            ⟨(state.stores.after channelId
              (dayPrograms config seedHash state channelId date slots)).position, days⟩) := by
  have loop : resolveSlots config seedHash channelId date slots.length 0 slots
      (state.stores.after channelId []) =
      (outcome config channelId date 0 (dayAirings config seedHash state channelId date slots),
        state.stores.after channelId
          ([] ++ dayPrograms config seedHash state channelId date slots)) :=
    resolveSlots_eq unique state.stores channelId date slots.length 0 slots []
      (List.forall_mem_nil _)
  rw [Stores.after_nil, List.nil_append] at loop
  unfold resolveDay
  rw [fresh]
  dsimp only
  rw [loop]
  unfold outcome airedDay
  cases (dayAirings config seedHash state channelId date slots).2 with
  | some reason => rfl
  | none => rfl

theorem resolveDay_resolved {existing : AnchoredDay}
    (found : state.days channelId date = some existing) :
    resolveDay config seedHash settings state channelId date slots resolutionTime =
      (.ok existing.toResolvedScheduleDay, state) := by
  unfold resolveDay
  rw [found]

/-- A refused call leaves the cursors that its airings advanced. -/
theorem resolveDay_refused (unique : config.UniqueIds) (fresh : state.days channelId date = none)
    (refused : Refused config seedHash settings state channelId date slots resolutionTime) :
    ∃ reason, resolveDay config seedHash settings state channelId date slots resolutionTime =
      (.error reason, { state with position := (state.stores.after channelId
        (dayPrograms config seedHash state channelId date slots)).position }) := by
  rw [resolveDay_eq unique fresh]
  unfold Refused at refused
  cases stopped : (dayAirings config seedHash state channelId date slots).2 with
  | some reason => exact ⟨_, rfl⟩
  | none =>
    rw [stopped, or_iff_right (by simp)] at refused
    cases stored : state.days.store settings channelId
        (airedDay config seedHash state channelId date slots resolutionTime) with
    | error reason => exact ⟨_, rfl⟩
    | ok days => exact absurd stored (refused days)

/-- A call that is not refused stores the day of its airings. -/
theorem resolveDay_accepted (unique : config.UniqueIds) (fresh : state.days channelId date = none)
    (accepted : ¬Refused config seedHash settings state channelId date slots resolutionTime) :
    ∃ days, state.days.store settings channelId
        (airedDay config seedHash state channelId date slots resolutionTime) = .ok days ∧
      resolveDay config seedHash settings state channelId date slots resolutionTime =
        (.ok (airedDay config seedHash state channelId date slots
            resolutionTime).toResolvedScheduleDay,
          ⟨(state.stores.after channelId
            (dayPrograms config seedHash state channelId date slots)).position, days⟩) := by
  unfold Refused at accepted
  push Not at accepted
  obtain ⟨stopped, days, stored⟩ := accepted
  refine ⟨days, stored, ?_⟩
  rw [resolveDay_eq unique fresh]
  rw [Option.not_isSome_iff_eq_none.mp stopped]
  dsimp only
  rw [stored]

/-- The stores after the airings are the stores before exactly when all turns are whole. -/
theorem after_eq_iff {programs : List Program} :
    ({ state with position := (state.stores.after channelId programs).position } : ManagerState) =
      state ↔ WholeTurns state channelId programs := by
  constructor
  · intro same program
    have positions := congrFun (congrFun (congrArg ManagerState.position same) channelId) program
    unfold Stores.after at positions
    dsimp only at positions
    rw [if_pos rfl] at positions
    exact positions
  · intro whole
    have positions : (state.stores.after channelId programs).position = state.position := by
      funext channel program
      unfold Stores.after
      dsimp only
      split_ifs with here
      · rw [here]
        exact whole program
      · rfl
    rw [positions]

/-- **All or nothing**: exactly when a call that is refused has aired whole turns. -/
theorem transactional_iff (unique : config.UniqueIds) :
    Transactional config seedHash settings state channelId date slots resolutionTime ↔
      (state.days channelId date = none →
        Refused config seedHash settings state channelId date slots resolutionTime →
          WholeTurns state channelId (dayPrograms config seedHash state channelId date slots)) := by
  constructor
  · intro transactional fresh refused
    obtain ⟨reason, called⟩ := resolveDay_refused unique fresh refused
    have kept := transactional.atomic reason (by rw [called])
    rw [called] at kept
    exact after_eq_iff.mp kept
  · intro turns
    cases found : state.days channelId date with
    | some existing =>
      have called : resolveDay config seedHash settings state channelId date slots resolutionTime =
          (.ok existing.toResolvedScheduleDay, state) := resolveDay_resolved found
      constructor
      · intro _ _
        rw [called]
      · intro day fresh
        rw [found] at fresh
        cases fresh
      · intro day returned slots' resolutionTime'
        rw [called] at returned ⊢
        cases returned
        exact resolveDay_resolved found
    | none =>
      by_cases refused : Refused config seedHash settings state channelId date slots resolutionTime
      · obtain ⟨reason, called⟩ := resolveDay_refused unique found refused
        rw [after_eq_iff.mpr (turns found refused)] at called
        constructor
        · intro _ _
          rw [called]
        · intro day _ returned
          rw [called] at returned
          cases returned
        · intro day returned
          rw [called] at returned
          cases returned
      · obtain ⟨days, stored, called⟩ := resolveDay_accepted unique found refused
        constructor
        · intro reason raised
          rw [called] at raised
          cases raised
        · intro day _ returned channel program
          rw [called] at returned ⊢
          cases returned
          rw [eventPrograms_airedDay]
          rfl
        · intro day returned slots' resolutionTime'
          rw [called] at returned ⊢
          cases returned
          have kept : days channelId date =
              some (airedDay config seedHash state channelId date slots resolutionTime) := by
            rw [(store_eq_ok stored).2]
            unfold Days.put
            rw [Function.update_self]
            exact Function.update_self ..
          exact resolveDay_resolved kept

end Day

/-! ### A failing day -/

section Example

/-- Two episodes of a sequential program. -/
def twoEpisodes : Program :=
  ⟨"cheers", "Cheers", "sequential", [⟨"s1e1", "One", "/one.mp4", 1320⟩,
    ⟨"s1e2", "Two", "/two.mp4", 1320⟩]⟩

theorem startHour_nonneg : (0 : Int) ≤ 6 := by decide

theorem startHour_lt : (6 : Int) < 24 := by decide

theorem halfHour_pos : 0 < 30 := by decide

/-- A catalog of the program and of one without episodes. -/
def smallCatalog : Config :=
  { gridMinutes := 30
    grid_pos := halfHour_pos
    getProgram := fun id =>
      if id = "cheers" then some twoEpisodes
      else if id = "empty" then some ⟨"empty", "Empty", "sequential", []⟩
      else none
    fillerPath := "/filler.mp4"
    programmingDayStartHour := 6
    hour_nonneg := startHour_nonneg
    hour_lt := startHour_lt }

theorem smallCatalog_unique : smallCatalog.UniqueIds := by
  intro id other program same listed listed' ids
  unfold smallCatalog at listed listed'
  dsimp only at listed listed'
  split_ifs at listed listed' <;> cases listed <;> cases listed' <;>
    first | rfl | exact absurd ids (by decide)

/-- Nothing resolved yet, all cursors at the first episode. -/
def freshState : ManagerState := ⟨fun _ _ => 0, fun _ _ => none⟩

/-- A day of one episode is resolved, all or nothing. -/
theorem oneEpisode_transactional :
    Transactional smallCatalog (fun _ _ _ _ => 0) ⟨none, false⟩ freshState "ch" 739000
      [halfHourSlot 12 "cheers"] 0 := by
  refine (transactional_iff smallCatalog_unique).mpr fun _ refused => absurd refused ?_
  rintro (stopped | rejected)
  · exact absurd stopped (by decide +kernel)
  · exact rejected _ rfl

/-- An episode at six, and at half past the program without episodes. -/
def failingSlots : List ScheduleSlot :=
  [halfHourSlot sixOClock "cheers", halfHourSlot halfPastSix "empty"]

/-- The call raises, and the next call for the day starts from the second episode. -/
theorem failingSlots_advance :
    (resolveDay smallCatalog (fun _ _ _ _ => 0) ⟨none, false⟩ freshState "ch" 739000 failingSlots
        0).1 = .error (.schedule (.noEpisodes "empty")) ∧
      ¬Transactional smallCatalog (fun _ _ _ _ => 0) ⟨none, false⟩ freshState "ch" 739000
        failingSlots 0 := by
  have raised : (resolveDay smallCatalog (fun _ _ _ _ => 0) ⟨none, false⟩ freshState "ch" 739000
      failingSlots 0).1 = .error (.schedule (.noEpisodes "empty")) := by decide +kernel
  refine ⟨raised, fun transactional => ?_⟩
  have kept := congrArg (fun state => state.position "ch" "cheers")
    (transactional.atomic _ raised)
  have moved : (resolveDay smallCatalog (fun _ _ _ _ => 0) ⟨none, false⟩ freshState "ch" 739000
      failingSlots 0).2.position "ch" "cheers" = 1 := by decide +kernel
  have still : (1 : Int) = 0 := moved.symm.trans kept
  exact absurd still (by decide)

end Example

end Retrovue.Core.Schedule
