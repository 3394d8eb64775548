/-
**Phantom viewers are cleaned up** (INV-HLS-PHANTOM-CLEANUP-001), over every interleaving.

* `Kept`: who still has to tune which phantom out, and what is known of the others;
* `HlsChannel.Sound`: the invariant, in which the segmenter runs for one request or drain thread;
* `HlsChannel.Sound.step`: every clean step keeps it;
* `phantoms_cleaned_up`: in every run of clean steps every state reached is cleaned up;
* `phantom_left_behind`: a tune-in that raises after the viewer was recorded leaves it there.
-/

import Mathlib
import Retrovue.Foundation.Threads
import Retrovue.Core.Viewers.Phantoms

namespace Retrovue.Core.Viewers

open Retrovue.Foundation.Transition Retrovue.Foundation.Threads

/-! ### Duties -/

section Duties

/-- The phantom that a request is to tune out, or to drop, and whether it was recorded. -/
def Request.duty : Request → List (ℕ × Bool)
  | .started phantom | .tuning phantom => [(phantom, false)]
  | .tuned phantom | .trying phantom _ | .sleeping phantom _ | .draining phantom
  | .leaving phantom => [(phantom, true)]
  | .tuneDone phantom manager | .failing phantom manager | .clearing phantom manager =>
    [(phantom, manager)]
  | _ => []

/-- The phantom that a drain thread is to tune out. -/
def Drain.duty (drain : Drain) : List (ℕ × Bool) :=
  match drain.place with
  | .looping | .checking | .leaving => [(drain.phantom, true)]
  | _ => []

/-- The phantom for which a request keeps the segmenter running. -/
def Request.holds : Request → List ℕ
  | .started phantom | .tuning phantom | .tuned phantom | .tuneDone phantom _ | .trying phantom _
  | .sleeping phantom _ | .draining phantom | .failing phantom _ => [phantom]
  | _ => []

/-- The phantom for which a drain thread keeps the segmenter running. -/
def Drain.holds (drain : Drain) : List ℕ :=
  match drain.place with
  | .looping | .checking | .leaving | .unsubscribing | .stopping => [drain.phantom]
  | _ => []

/-- The phantoms are kept track of: each is the duty of one at most, and was not tuned out before; and a
recorded phantom that is nobody's duty was tuned out once. -/
structure Kept (phantoms : ℕ) (recorded tuneOuts : List ℕ) (viewers : Finset ℕ)
    (duties : List (ℕ × Bool)) : Prop where
  distinct : (duties.map Prod.fst).Nodup
  due : ∀ duty ∈ duties, duty.1 < phantoms ∧ (duty.1 ∈ recorded ↔ duty.2 = true) ∧
    duty.1 ∉ tuneOuts
  done : ∀ phantom ∈ recorded, phantom ∉ duties.map Prod.fst →
    tuneOuts.count phantom = 1 ∧ phantom ∉ viewers
  recordedKnown : ∀ phantom ∈ recorded, phantom < phantoms
  tunedOutKnown : ∀ phantom ∈ tuneOuts, phantom < phantoms

variable {phantoms : ℕ} {recorded tuneOuts : List ℕ} {viewers : Finset ℕ}

theorem kept_nil (phantoms : ℕ) : Kept phantoms [] [] ∅ [] where
  distinct := List.nodup_nil
  due := by simp
  done := by simp
  recordedKnown := by simp
  tunedOutKnown := by simp

theorem Kept.perm {first second : List (ℕ × Bool)}
    (kept : Kept phantoms recorded tuneOuts viewers first) (same : first.Perm second) :
    Kept phantoms recorded tuneOuts viewers second where
  distinct := (same.map Prod.fst).nodup_iff.mp kept.distinct
  due := fun duty mem => kept.due duty (same.mem_iff.mpr mem)
  done := fun phantom mem free => kept.done phantom mem fun duty =>
    free ((same.map Prod.fst).mem_iff.mp duty)
  recordedKnown := kept.recordedKnown
  tunedOutKnown := kept.tunedOutKnown

/-- A phantom is started. -/
theorem Kept.start {duties : List (ℕ × Bool)}
    (kept : Kept phantoms recorded tuneOuts viewers duties) :
    Kept (phantoms + 1) recorded tuneOuts viewers ((phantoms, false) :: duties) where
  distinct := by
    refine List.nodup_cons.mpr ⟨fun mem => ?_, kept.distinct⟩
    obtain ⟨duty, listed, same⟩ := List.mem_map.mp mem
    exact absurd same (kept.due duty listed).1.ne
  due := by
    intro duty mem
    rcases List.mem_cons.mp mem with rfl | old
    · refine ⟨Nat.lt_succ_self _, ⟨fun recordedNew => ?_, fun yes => by cases yes⟩, fun toldNew => ?_⟩
      · exact absurd (kept.recordedKnown _ recordedNew) (lt_irrefl _)
      · exact absurd (kept.tunedOutKnown _ toldNew) (lt_irrefl _)
    · obtain ⟨known, rest⟩ := kept.due duty old
      exact ⟨Nat.lt_succ_of_lt known, rest⟩
  done := fun phantom mem free => kept.done phantom mem fun duty =>
    free (List.mem_cons_of_mem _ duty)
  recordedKnown := fun phantom mem => Nat.lt_succ_of_lt (kept.recordedKnown phantom mem)
  tunedOutKnown := fun phantom mem => Nat.lt_succ_of_lt (kept.tunedOutKnown phantom mem)

/-- A phantom is recorded. -/
theorem Kept.record {phantom : ℕ} {rest : List (ℕ × Bool)}
    (kept : Kept phantoms recorded tuneOuts viewers ((phantom, false) :: rest)) :
    Kept phantoms (phantom :: recorded) tuneOuts (insert phantom viewers)
      ((phantom, true) :: rest) where
  distinct := kept.distinct
  due := by
    intro duty mem
    rcases List.mem_cons.mp mem with rfl | old
    · obtain ⟨known, _, untold⟩ := kept.due _ List.mem_cons_self
      exact ⟨known, ⟨fun _ => rfl, fun _ => List.mem_cons_self⟩, untold⟩
    · obtain ⟨known, flag, untold⟩ := kept.due duty (List.mem_cons_of_mem _ old)
      have other : duty.1 ≠ phantom := by
        rintro rfl
        exact (List.nodup_cons.mp kept.distinct).1 (List.mem_map.mpr ⟨duty, old, rfl⟩)
      refine ⟨known, ⟨fun mem => flag.mp ?_, fun yes => List.mem_cons_of_mem _ (flag.mpr yes)⟩, untold⟩
      rcases List.mem_cons.mp mem with same | before
      · exact absurd same other
      · exact before
  done := by
    intro other mem free
    have apart : other ≠ phantom := by
      rintro rfl
      exact free List.mem_cons_self
    rcases List.mem_cons.mp mem with same | before
    · exact absurd same apart
    · obtain ⟨once, gone⟩ := kept.done other before free
      exact ⟨once, by simpa [apart] using gone⟩
  recordedKnown := by
    intro other mem
    rcases List.mem_cons.mp mem with rfl | before
    · exact (kept.due _ List.mem_cons_self).1
    · exact kept.recordedKnown other before
  tunedOutKnown := kept.tunedOutKnown

/-- A recorded phantom is tuned out. -/
theorem Kept.tuneOut {phantom : ℕ} {rest : List (ℕ × Bool)}
    (kept : Kept phantoms recorded tuneOuts viewers ((phantom, true) :: rest)) :
    Kept phantoms recorded (phantom :: tuneOuts) (viewers.erase phantom) rest where
  distinct := (List.nodup_cons.mp kept.distinct).2
  due := by
    intro duty mem
    obtain ⟨known, flag, untold⟩ := kept.due duty (List.mem_cons_of_mem _ mem)
    refine ⟨known, flag, fun told => ?_⟩
    rcases List.mem_cons.mp told with same | before
    · exact (List.nodup_cons.mp kept.distinct).1 (List.mem_map.mpr ⟨duty, mem, same⟩)
    · exact untold before
  done := by
    intro other mem free
    by_cases same : other = phantom
    · have untold := (kept.due _ List.mem_cons_self).2.2
      rw [same, List.count_cons_self, List.count_eq_zero.mpr untold]
      exact ⟨rfl, Finset.notMem_erase phantom viewers⟩
    · obtain ⟨once, gone⟩ := kept.done other mem fun duty => by
        rcases List.mem_cons.mp duty with isIt | later
        · exact same isIt
        · exact free later
      refine ⟨?_, fun viewer => gone (Finset.mem_of_mem_erase viewer)⟩
      rw [List.count_cons_of_ne (Ne.symm same)]
      exact once
  recordedKnown := kept.recordedKnown
  tunedOutKnown := by
    intro other mem
    rcases List.mem_cons.mp mem with rfl | before
    · exact (kept.due _ List.mem_cons_self).1
    · exact kept.tunedOutKnown other before

/-- A phantom that was never recorded is given up. -/
theorem Kept.drop {phantom : ℕ} {rest : List (ℕ × Bool)}
    (kept : Kept phantoms recorded tuneOuts viewers ((phantom, false) :: rest)) :
    Kept phantoms recorded tuneOuts viewers rest where
  distinct := (List.nodup_cons.mp kept.distinct).2
  due := fun duty mem => kept.due duty (List.mem_cons_of_mem _ mem)
  done := by
    intro other mem free
    refine kept.done other mem fun duty => ?_
    rcases List.mem_cons.mp duty with rfl | later
    · have flag := (kept.due _ List.mem_cons_self).2.1.mp mem
      cases flag
    · exact free later
  recordedKnown := kept.recordedKnown
  tunedOutKnown := kept.tunedOutKnown

end Duties

/-! ### The invariant -/

section Invariant

namespace HlsChannel

/-- Those for whom the segmenter runs. -/
def holders (s : HlsChannel) : List ℕ :=
  s.requests.flatMap Request.holds ++ s.drains.flatMap Drain.holds

/-- Those who have a phantom to tune out. -/
def duties (s : HlsChannel) : List (ℕ × Bool) :=
  s.requests.flatMap Request.duty ++ s.drains.flatMap Drain.duty

/-- The invariant: the segmenter runs for one request or drain thread, of the phantom that started it, or
does not run; the phantoms are kept track of; a request that is about to start the segmenter holds the event
loop; and none was harmed. -/
structure Sound (s : HlsChannel) : Prop where
  held : s.holders.Perm (if s.running then [s.startedBy] else [])
  kept : Kept s.phantoms s.recorded s.tuneOuts s.viewers s.duties
  starting : ∀ thread, s.requests[thread]? = some .starting →
    s.loop = some thread ∧ s.running = false
  unharmed : s.harmed = []

theorem sound_init (idleTimeout : ℕ) : Sound { idleTimeout } where
  held := List.Perm.refl _
  kept := kept_nil 0
  starting := by
    intro thread here
    cases here
  unharmed := rfl

/-- The one for whom the segmenter runs, if there is one. -/
theorem Sound.holder {s : HlsChannel} (sound : s.Sound) {phantom : ℕ} {rest : List ℕ}
    (holds : s.holders.Perm (phantom :: rest)) :
    s.running = true ∧ s.startedBy = phantom ∧ rest = [] := by
  have held := holds.symm.trans sound.held
  cases running : s.running with
  | false =>
    rw [running] at held
    exact absurd held.length_eq (by simp)
  | true =>
    rw [running] at held
    have single := List.perm_singleton.mp held
    rw [List.cons_eq_cons] at single
    exact ⟨rfl, single.1.symm, single.2⟩

/-- What the others hold while a request moves. -/
theorem holders_request {s : HlsChannel} {thread : ℕ} {request : Request}
    (here : s.requests[thread]? = some request) :
    ∃ rest, s.holders.Perm (request.holds ++ rest) ∧ ∀ moved,
      ((s.requests.set thread moved).flatMap Request.holds ++ s.drains.flatMap Drain.holds).Perm
        (moved.holds ++ rest) := by
  obtain ⟨rest, before, after⟩ := flatMap_set_perm Request.holds here
  refine ⟨rest ++ s.drains.flatMap Drain.holds, ?_, fun moved => ?_⟩
  · rw [← List.append_assoc]
    exact before.append_right _
  · rw [← List.append_assoc]
    exact (after moved).append_right _

theorem duties_request {s : HlsChannel} {thread : ℕ} {request : Request}
    (here : s.requests[thread]? = some request) :
    ∃ rest, s.duties.Perm (request.duty ++ rest) ∧ ∀ moved,
      ((s.requests.set thread moved).flatMap Request.duty ++ s.drains.flatMap Drain.duty).Perm
        (moved.duty ++ rest) := by
  obtain ⟨rest, before, after⟩ := flatMap_set_perm Request.duty here
  refine ⟨rest ++ s.drains.flatMap Drain.duty, ?_, fun moved => ?_⟩
  · rw [← List.append_assoc]
    exact before.append_right _
  · rw [← List.append_assoc]
    exact (after moved).append_right _

/-- What the others hold while a drain thread moves. -/
theorem holders_drain {s : HlsChannel} {thread : ℕ} {drain : Drain}
    (here : s.drains[thread]? = some drain) :
    ∃ rest, s.holders.Perm (drain.holds ++ rest) ∧ ∀ moved,
      (s.requests.flatMap Request.holds ++ (s.drains.set thread moved).flatMap Drain.holds).Perm
        (moved.holds ++ rest) := by
  obtain ⟨rest, before, after⟩ := flatMap_set_perm Drain.holds here
  refine ⟨s.requests.flatMap Request.holds ++ rest, ?_, fun moved => ?_⟩
  · exact (before.append_left _).trans (List.perm_append_comm_assoc _ _ _)
  · exact ((after moved).append_left _).trans (List.perm_append_comm_assoc _ _ _)

theorem duties_drain {s : HlsChannel} {thread : ℕ} {drain : Drain}
    (here : s.drains[thread]? = some drain) :
    ∃ rest, s.duties.Perm (drain.duty ++ rest) ∧ ∀ moved,
      (s.requests.flatMap Request.duty ++ (s.drains.set thread moved).flatMap Drain.duty).Perm
        (moved.duty ++ rest) := by
  obtain ⟨rest, before, after⟩ := flatMap_set_perm Drain.duty here
  refine ⟨s.requests.flatMap Request.duty ++ rest, ?_, fun moved => ?_⟩
  · exact (before.append_left _).trans (List.perm_append_comm_assoc _ _ _)
  · exact ((after moved).append_left _).trans (List.perm_append_comm_assoc _ _ _)

/-- A request that comes has nothing to do yet. -/
theorem Sound.comes {s : HlsChannel} (sound : s.Sound) {request : Request}
    (duty : request.duty = []) (holds : request.holds = []) (other : request ≠ .starting) :
    Sound { s with requests := s.requests ++ [request] } where
  held := by
    unfold holders
    dsimp only
    rw [List.flatMap_append, List.flatMap_singleton, holds, List.append_nil]
    exact sound.held
  kept := by
    unfold duties
    dsimp only
    rw [List.flatMap_append, List.flatMap_singleton, duty, List.append_nil]
    exact sound.kept
  starting := by
    intro thread here
    dsimp only at here
    rw [List.getElem?_append, List.getElem?_singleton] at here
    split_ifs at here
    · exact sound.starting thread here
    · exact absurd (Option.some.inj here) other
  unharmed := sound.unharmed

/-- **A request goes on**, in its turn. -/
theorem Sound.goOn {s : HlsChannel} (sound : s.Sound) {thread : ℕ} {request : Request}
    (here : s.requests[thread]? = some request)
    (turn : s.loop = if request.onLoop then some thread else none) {after : Request × HlsChannel}
    (held : ((s.requests.set thread after.1).flatMap Request.holds ++
      after.2.drains.flatMap Drain.holds).Perm (if after.2.running then [after.2.startedBy] else []))
    (kept : Kept after.2.phantoms after.2.recorded after.2.tuneOuts after.2.viewers
      ((s.requests.set thread after.1).flatMap Request.duty ++ after.2.drains.flatMap Drain.duty))
    (starting : after.1 = .starting → after.2.running = false)
    (unharmed : after.2.harmed = []) : (s.goOn thread after).Sound where
  held := held
  kept := kept
  starting := by
    intro other there
    have there' : (s.requests.set thread after.1)[other]? = some .starting := there
    by_cases same : thread = other
    · subst same
      rw [List.getElem?_set_self (List.getElem?_eq_some_iff.mp here).1] at there'
      have isStarting := Option.some.inj there'
      refine ⟨?_, starting isStarting⟩
      unfold HlsChannel.goOn
      dsimp only
      rw [isStarting]
      rfl
    · -- another one that is about to start would hold the event loop
      rw [List.getElem?_set_ne same] at there'
      have holder := (sound.starting other there').1
      rw [turn] at holder
      split_ifs at holder
      exact absurd (Option.some.inj holder) same
  unharmed := unharmed

/-- A request goes on with the same duty. -/
theorem Sound.goOn_same {s : HlsChannel} (sound : s.Sound) {thread : ℕ} {request moved : Request}
    (here : s.requests[thread]? = some request)
    (turn : s.loop = if request.onLoop then some thread else none) {next : HlsChannel}
    (holds : moved.holds = request.holds) (duty : moved.duty = request.duty)
    (starting : moved = .starting → s.running = false)
    (frame : next.running = s.running ∧ next.startedBy = s.startedBy ∧ next.drains = s.drains ∧
      next.phantoms = s.phantoms ∧ next.recorded = s.recorded ∧ next.tuneOuts = s.tuneOuts ∧
        next.viewers = s.viewers ∧ next.harmed = s.harmed) :
    (s.goOn thread (moved, next)).Sound := by
  obtain ⟨running, startedBy, drains, phantoms, recorded, tuneOuts, viewers, harmed⟩ := frame
  refine sound.goOn here turn ?_ ?_ ?_ ?_
  · dsimp only
    rw [running, startedBy, drains, flatMap_set_of_eq here holds]
    exact sound.held
  · dsimp only
    rw [drains, phantoms, recorded, tuneOuts, viewers, flatMap_set_of_eq here duty]
    exact sound.kept
  · dsimp only
    rw [running]
    exact starting
  · exact harmed.trans sound.unharmed

/-- **The segmenter is started** for a new phantom. -/
theorem Sound.start {s : HlsChannel} (sound : s.Sound) {thread : ℕ}
    (here : s.requests[thread]? = some .starting) (turn : s.loop = some thread) :
    (s.goOn thread (.started s.phantoms,
      { s.startSegmenter with phantoms := s.phantoms + 1 })).Sound := by
  have idle := (sound.starting thread here).2
  have started : s.startSegmenter = { s with
      running := true
      startedBy := s.phantoms } := by
    unfold startSegmenter
    rw [if_neg (by simp [idle])]
  rw [started]
  obtain ⟨others, isHeld, holds⟩ := holders_request here
  obtain ⟨rest, isDue, duty⟩ := duties_request here
  have alone : others = [] := by
    have held := sound.held
    rw [idle] at held
    exact List.perm_nil.mp (isHeld.symm.trans held)
  refine sound.goOn here turn ?_ ?_ (fun isStarting => by cases isStarting) sound.unharmed
  · rw [alone] at holds
    exact holds (.started s.phantoms)
  · exact (sound.kept.perm isDue).start.perm (duty (.started s.phantoms)).symm

/-- **A drain thread is started** for the phantom of the request. -/
theorem Sound.drains {s : HlsChannel} (sound : s.Sound) {thread phantom : ℕ}
    (here : s.requests[thread]? = some (.draining phantom)) (turn : s.loop = some thread) :
    (s.goOn thread (.waiting, { s with drains := s.drains ++ [⟨phantom, .looping⟩] })).Sound := by
  obtain ⟨others, isHeld, holds⟩ := holders_request here
  obtain ⟨rest, isDue, duty⟩ := duties_request here
  refine sound.goOn here turn ?_ ?_ (fun isStarting => by cases isStarting) sound.unharmed
  · dsimp only
    rw [List.flatMap_append, ← List.append_assoc]
    exact (((holds .waiting).append_right [phantom]).trans List.perm_append_comm).trans
      (isHeld.symm.trans sound.held)
  · dsimp only
    rw [List.flatMap_append, ← List.append_assoc]
    exact sound.kept.perm (isDue.trans
      (((duty .waiting).append_right [(phantom, true)]).trans List.perm_append_comm).symm)

/-- **The segmenter of a startup that failed is stopped.** -/
theorem Sound.stop {s : HlsChannel} (sound : s.Sound) {thread phantom : ℕ} {manager : Bool}
    (here : s.requests[thread]? = some (.failing phantom manager)) (turn : s.loop = some thread) :
    (s.goOn thread (.clearing phantom manager, { s with running := false })).Sound := by
  obtain ⟨others, isHeld, holds⟩ := holders_request here
  have alone : others = [] := (sound.holder isHeld).2.2
  have duty : (Request.clearing phantom manager).duty = (Request.failing phantom manager).duty := rfl
  refine sound.goOn here turn ?_ ?_ (fun isStarting => by cases isStarting) sound.unharmed
  · rw [alone] at holds
    exact holds (.clearing phantom manager)
  · dsimp only
    rw [flatMap_set_of_eq here duty]
    exact sound.kept

/-- **A step of a request.** -/
theorem Sound.request {s next : HlsChannel} (sound : s.Sound) {thread : ℕ} {meets : Meets}
    (cleanly : Cleanly s (.request thread meets))
    (taken : s.step (.request thread meets) = some next) : next.Sound := by
  obtain ⟨request, here, moves⟩ := Option.bind_eq_some_iff.mp taken
  by_cases turn : s.loop = if request.onLoop then some thread else none
  swap
  · rw [if_neg turn] at moves
    cases moves
  rw [if_pos turn] at moves
  obtain ⟨after, stepped, rfl⟩ := Option.map_eq_some_iff.mp moves
  cases request with
  | arrived =>
    unfold requestStep at stepped
    dsimp only at stepped
    by_cases running : s.running = true
    · rw [if_pos running] at stepped
      cases stepped
      exact sound.goOn_same here turn rfl rfl (by simp) ⟨rfl, rfl, rfl, rfl, rfl, rfl, rfl, rfl⟩
    · rw [if_neg running] at stepped
      split_ifs at stepped
      · cases stepped
        exact sound.goOn_same here turn rfl rfl (by simp) ⟨rfl, rfl, rfl, rfl, rfl, rfl, rfl, rfl⟩
      · cases stepped
        exact sound.goOn_same here turn rfl rfl (fun _ => by simpa using running) ⟨rfl, rfl, rfl, rfl, rfl, rfl, rfl, rfl⟩
  | starting =>
    cases stepped
    exact sound.start here turn
  | started phantom =>
    cases stepped
    exact sound.goOn_same here turn rfl rfl (by simp) ⟨rfl, rfl, rfl, rfl, rfl, rfl, rfl, rfl⟩
  | tuning phantom => cases stepped
  | tuned phantom => cases stepped
  | tuneDone phantom manager =>
    cases stepped
    cases manager with
    | true => exact sound.goOn_same here turn rfl rfl (by simp) ⟨rfl, rfl, rfl, rfl, rfl, rfl, rfl, rfl⟩
    | false => exact sound.goOn_same here turn rfl rfl (by simp) ⟨rfl, rfl, rfl, rfl, rfl, rfl, rfl, rfl⟩
  | trying phantom tries =>
    have answers := cleanly (by rw [here]; rfl)
    unfold requestStep at stepped
    dsimp only at stepped
    cases reply : meets.fanout with
    | stream =>
      rw [reply] at stepped
      cases stepped
      exact sound.goOn_same here turn rfl rfl (by simp) ⟨rfl, rfl, rfl, rfl, rfl, rfl, rfl, rfl⟩
    | none =>
      rw [reply] at stepped
      cases stepped
      exact sound.goOn_same here turn rfl rfl (by simp) ⟨rfl, rfl, rfl, rfl, rfl, rfl, rfl, rfl⟩
    | raises => exact absurd reply answers
  | sleeping phantom tries =>
    cases stepped
    by_cases last : tries = 0
    · rw [if_pos last]
      exact sound.goOn_same here turn rfl rfl (by simp) ⟨rfl, rfl, rfl, rfl, rfl, rfl, rfl, rfl⟩
    · rw [if_neg last]
      exact sound.goOn_same here turn rfl rfl (by simp) ⟨rfl, rfl, rfl, rfl, rfl, rfl, rfl, rfl⟩
  | draining phantom =>
    cases stepped
    exact sound.drains here turn
  | waiting =>
    cases stepped
    exact sound.goOn_same here turn rfl rfl (by simp) ⟨rfl, rfl, rfl, rfl, rfl, rfl, rfl, rfl⟩
  | failing phantom manager =>
    cases stepped
    exact sound.stop here turn
  | clearing phantom manager =>
    cases stepped
    cases manager with
    | true => exact sound.goOn_same here turn rfl rfl (by simp) ⟨rfl, rfl, rfl, rfl, rfl, rfl, rfl, rfl⟩
    | false =>
      -- the phantom was never recorded
      obtain ⟨rest, isDue, duty⟩ := duties_request here
      have holds : Request.dropping.holds = (Request.clearing phantom false).holds := rfl
      refine sound.goOn here turn ?_ ?_ (fun isStarting => by cases isStarting) sound.unharmed
      · dsimp only
        rw [if_neg Bool.false_ne_true, flatMap_set_of_eq here holds]
        exact sound.held
      · exact (sound.kept.perm isDue).drop.perm (duty .dropping).symm
  | leaving phantom =>
    cases stepped
    obtain ⟨rest, isDue, duty⟩ := duties_request here
    have holds : Request.dropping.holds = (Request.leaving phantom).holds := rfl
    refine sound.goOn here turn ?_ ?_ (fun isStarting => by cases isStarting) sound.unharmed
    · dsimp only [HlsChannel.tuneOut]
      rw [flatMap_set_of_eq here holds]
      exact sound.held
    · exact (sound.kept.perm isDue).tuneOut.perm (duty .dropping).symm
  | dropping =>
    cases stepped
    exact sound.goOn_same here turn rfl rfl (by simp) ⟨rfl, rfl, rfl, rfl, rfl, rfl, rfl, rfl⟩
  | serving =>
    cases stepped
    by_cases served : s.hasSegments = true
    · rw [if_pos served]
      exact sound.goOn_same here turn rfl rfl (by simp) ⟨rfl, rfl, rfl, rfl, rfl, rfl, rfl, rfl⟩
    · rw [if_neg served]
      exact sound.goOn_same here turn rfl rfl (by simp) ⟨rfl, rfl, rfl, rfl, rfl, rfl, rfl, rfl⟩
  | serves =>
    cases stepped
    exact sound.goOn_same here turn rfl rfl (by simp) ⟨rfl, rfl, rfl, rfl, rfl, rfl, rfl, rfl⟩
  | fetching =>
    cases stepped
    by_cases found : (s.hasSegments && meets.segment) = true
    · rw [if_pos found]
      exact sound.goOn_same here turn rfl rfl (by simp) ⟨rfl, rfl, rfl, rfl, rfl, rfl, rfl, rfl⟩
    · rw [if_neg found]
      exact sound.goOn_same here turn rfl rfl (by simp) ⟨rfl, rfl, rfl, rfl, rfl, rfl, rfl, rfl⟩
  | answered status => cases stepped

/-- A tune-in in the executor does not start the segmenter. -/
theorem Sound.onExecutor {s : HlsChannel} (sound : s.Sound) {thread : ℕ} {request moved : Request}
    (here : s.requests[thread]? = some request) (other : moved ≠ .starting) :
    ∀ place, (s.requests.set thread moved)[place]? = some .starting →
      s.loop = some place ∧ s.running = false := by
  intro place there
  by_cases same : thread = place
  · subst same
    rw [List.getElem?_set_self (List.getElem?_eq_some_iff.mp here).1] at there
    exact absurd (Option.some.inj there) other
  · rw [List.getElem?_set_ne same] at there
    exact sound.starting place there

/-- **A step of a tune-in.** -/
theorem Sound.executor {s next : HlsChannel} (sound : s.Sound) {thread : ℕ} {raises : Bool}
    (cleanly : Cleanly s (.executor thread raises))
    (taken : s.step (.executor thread raises) = some next) : next.Sound := by
  obtain ⟨request, here, moves⟩ := Option.bind_eq_some_iff.mp taken
  obtain ⟨after, stepped, rfl⟩ := Option.map_eq_some_iff.mp moves
  have same : ∀ moved : Request, moved ≠ .starting → moved.holds = request.holds →
      moved.duty = request.duty → Sound { s with requests := s.requests.set thread moved } := by
    intro moved other holds duty
    refine ⟨?_, ?_, sound.onExecutor here other, sound.unharmed⟩
    · unfold holders
      dsimp only
      rw [flatMap_set_of_eq here holds]
      exact sound.held
    · unfold duties
      dsimp only
      rw [flatMap_set_of_eq here duty]
      exact sound.kept
  cases request with
  | tuning phantom =>
    cases raises with
    | true =>
      cases stepped
      exact same _ (by simp) rfl rfl
    | false =>
      cases stepped
      obtain ⟨rest, isDue, duty⟩ := duties_request here
      have holds : (Request.tuned phantom).holds = (Request.tuning phantom).holds := rfl
      refine ⟨?_, ?_, sound.onExecutor here (by simp), sound.unharmed⟩
      · unfold holders
        dsimp only
        rw [flatMap_set_of_eq here holds]
        exact sound.held
      · exact (sound.kept.perm isDue).record.perm (duty (.tuned phantom)).symm
  | tuned phantom =>
    cases stepped
    have works := cleanly (by rw [here]; rfl)
    rw [works]
    exact same _ (by simp) rfl rfl
  | _ => cases stepped

/-- **A step of a drain thread.** -/
theorem Sound.drain {s next : HlsChannel} (sound : s.Sound) {thread : ℕ} {chunk : Bool}
    (cleanly : Cleanly s (.drain thread chunk))
    (taken : s.step (.drain thread chunk) = some next) : next.Sound := by
  obtain ⟨⟨phantom, place⟩, here, moves⟩ := Option.bind_eq_some_iff.mp taken
  obtain ⟨after, stepped, rfl⟩ := Option.map_eq_some_iff.mp moves
  have same : ∀ moved : Draining, Drain.holds ⟨phantom, moved⟩ = Drain.holds ⟨phantom, place⟩ →
      Drain.duty ⟨phantom, moved⟩ = Drain.duty ⟨phantom, place⟩ →
        Sound { s with drains := s.drains.set thread ⟨phantom, moved⟩ } := by
    intro moved holds duty
    refine ⟨?_, ?_, sound.starting, sound.unharmed⟩
    · unfold holders
      dsimp only
      rw [flatMap_set_of_eq here holds]
      exact sound.held
    · unfold duties
      dsimp only
      rw [flatMap_set_of_eq here duty]
      exact sound.kept
  cases place with
  | looping =>
    cases stepped
    by_cases goesOn : (s.running && chunk) = true
    · rw [if_pos goesOn]
      exact same _ rfl rfl
    · rw [if_neg goesOn]
      exact same _ rfl rfl
  | checking =>
    cases stepped
    by_cases idle : s.idleTimeout < s.clock - s.lastActivity
    · rw [if_pos idle]
      exact same _ rfl rfl
    · rw [if_neg idle]
      exact same _ rfl rfl
  | leaving =>
    cases stepped
    obtain ⟨rest, isDue, duty⟩ := duties_drain here
    have holds : Drain.holds ⟨phantom, .unsubscribing⟩ = Drain.holds ⟨phantom, .leaving⟩ := rfl
    refine ⟨?_, ?_, sound.starting, sound.unharmed⟩
    · unfold holders
      dsimp only [HlsChannel.tuneOut]
      rw [flatMap_set_of_eq here holds]
      exact sound.held
    · exact (sound.kept.perm isDue).tuneOut.perm (duty ⟨phantom, .unsubscribing⟩).symm
  | unsubscribing =>
    cases stepped
    exact same _ rfl rfl
  | stopping =>
    cases stepped
    obtain ⟨others, isHeld, holds⟩ := holders_drain here
    obtain ⟨running, startedBy, alone⟩ : s.running = true ∧ s.startedBy = phantom ∧ others = [] :=
      sound.holder isHeld
    have duty : Drain.duty ⟨phantom, .clearing⟩ = Drain.duty ⟨phantom, .stopping⟩ := rfl
    refine ⟨?_, ?_, fun place there => ⟨(sound.starting place there).1, rfl⟩, ?_⟩
    · rw [alone] at holds
      exact holds ⟨phantom, .clearing⟩
    · unfold duties
      dsimp only
      rw [flatMap_set_of_eq here duty]
      exact sound.kept
    · dsimp only
      rw [if_neg (by simp [startedBy])]
      exact sound.unharmed
  | clearing =>
    cases stepped
    have cleared := same .dropping rfl rfl
    exact { cleared with }
  | dropping =>
    cases stepped
    have dropped := same .ended rfl rfl
    have own : s.phantomSession.filter (fun other => decide (other ≠ phantom)) = none := by
      have isOwn := cleanly _ here rfl
      cases session : s.phantomSession with
      | none => rfl
      | some other =>
        have isIt := isOwn other session
        simp [Option.filter, isIt]
    refine { dropped with unharmed := ?_ }
    dsimp only
    rw [own]
    exact sound.unharmed
  | ended => cases stepped

/-- **Every clean step keeps the invariant.** -/
theorem Sound.step {s next : HlsChannel} (sound : s.Sound) (action : HlsAction)
    (cleanly : Cleanly s action) (taken : s.step action = some next) : next.Sound := by
  cases action with
  | playlist =>
    cases taken
    exact sound.comes rfl rfl (by simp)
  | fetchSegment =>
    cases taken
    exact sound.comes rfl rfl (by simp)
  | tuneOutPost =>
    dsimp only [HlsChannel.step] at taken
    split_ifs at taken
    · cases taken
      exact { sound with }
    · cases taken
      exact sound
  | request thread meets => exact sound.request cleanly taken
  | executor thread raises => exact sound.executor cleanly taken
  | drain thread chunk => exact sound.drain cleanly taken
  | feed =>
    dsimp only [HlsChannel.step] at taken
    split_ifs at taken
    cases taken
    exact { sound with }
  | fed stores =>
    dsimp only [HlsChannel.step] at taken
    split_ifs at taken
    cases taken
    exact { sound with }
  | tick duration =>
    cases taken
    exact { sound with }

end HlsChannel

end Invariant

/-! ### What raises the activity time -/

section Activity

namespace HlsChannel

/-- A request raises the activity time when it creates a phantom, or answers 200. -/
theorem requestStep_lastActivity {s : HlsChannel} {meets : Meets} {request : Request}
    {after : Request × HlsChannel} (stepped : s.requestStep meets request = some after)
    (raised : s.lastActivity < after.2.lastActivity) :
    request = .serves ∨ ∃ phantom, request = .started phantom := by
  unfold requestStep at stepped
  cases request with
  | serves => exact .inl rfl
  | started phantom => exact .inr ⟨phantom, rfl⟩
  | arrived =>
    dsimp only at stepped
    split_ifs at stepped <;> cases stepped <;> exact absurd raised (lt_irrefl _)
  | starting =>
    cases stepped
    unfold startSegmenter at raised
    split_ifs at raised <;> exact absurd raised (lt_irrefl _)
  | tuning phantom => cases stepped
  | tuned phantom => cases stepped
  | trying phantom tries =>
    dsimp only at stepped
    cases reply : meets.fanout <;> rw [reply] at stepped <;> cases stepped <;>
      exact absurd raised (lt_irrefl _)
  | dropping =>
    cases stepped
    exact absurd raised (Nat.not_lt_zero _)
  | answered status => cases stepped
  | _ =>
    cases stepped
    exact absurd raised (lt_irrefl _)

theorem executorStep_lastActivity {s : HlsChannel} {raises : Bool} {request : Request}
    {after : Request × HlsChannel} (stepped : s.executorStep raises request = some after) :
    after.2.lastActivity = s.lastActivity := by
  unfold executorStep at stepped
  cases request with
  | tuning phantom =>
    dsimp only at stepped
    split_ifs at stepped <;> cases stepped <;> rfl
  | tuned phantom =>
    cases stepped
    rfl
  | _ => cases stepped

theorem drainStep_lastActivity {s : HlsChannel} {chunk : Bool} {phantom : ℕ} {place : Draining}
    {after : Draining × HlsChannel} (stepped : s.drainStep chunk phantom place = some after) :
    after.2.lastActivity ≤ s.lastActivity := by
  unfold drainStep at stepped
  cases place with
  | dropping =>
    cases stepped
    exact Nat.zero_le _
  | ended => cases stepped
  | _ =>
    cases stepped
    exact le_refl _

/-- **The activity time is raised** by the creation of a phantom and by answers 200. -/
theorem raised_by_answers {s next : HlsChannel} {action : HlsAction}
    (taken : s.step action = some next) (raised : s.lastActivity < next.lastActivity) :
    ∃ thread meets, action = .request thread meets ∧
      (s.requests[thread]? = some .serves ∨
        ∃ phantom, s.requests[thread]? = some (.started phantom)) := by
  cases action with
  | request thread meets =>
    obtain ⟨request, here, moves⟩ := Option.bind_eq_some_iff.mp taken
    split_ifs at moves
    all_goals
      obtain ⟨after, stepped, rfl⟩ := Option.map_eq_some_iff.mp moves
      refine ⟨thread, meets, rfl, ?_⟩
      rcases requestStep_lastActivity stepped raised with rfl | ⟨phantom, rfl⟩
      · exact .inl here
      · exact .inr ⟨phantom, here⟩
  | executor thread raises =>
    obtain ⟨request, _, moves⟩ := Option.bind_eq_some_iff.mp taken
    obtain ⟨after, stepped, rfl⟩ := Option.map_eq_some_iff.mp moves
    exact absurd raised (executorStep_lastActivity stepped).le.not_gt
  | drain thread chunk =>
    obtain ⟨drain, _, moves⟩ := Option.bind_eq_some_iff.mp taken
    obtain ⟨after, stepped, rfl⟩ := Option.map_eq_some_iff.mp moves
    exact absurd raised (drainStep_lastActivity stepped).not_gt
  | tuneOutPost =>
    dsimp only [HlsChannel.step] at taken
    split_ifs at taken
    · cases taken
      exact absurd raised (Nat.not_lt_zero _)
    · cases taken
      exact absurd raised (lt_irrefl _)
  | playlist =>
    cases taken
    exact absurd raised (lt_irrefl _)
  | fetchSegment =>
    cases taken
    exact absurd raised (lt_irrefl _)
  | feed =>
    dsimp only [HlsChannel.step] at taken
    split_ifs at taken
    cases taken
    exact absurd raised (lt_irrefl _)
  | fed stores =>
    dsimp only [HlsChannel.step] at taken
    split_ifs at taken
    cases taken
    exact absurd raised (lt_irrefl _)
  | tick duration =>
    cases taken
    exact absurd raised (lt_irrefl _)

end HlsChannel

end Activity

/-! ### Runs -/

section Runs

/-- A request with a duty starts that phantom. -/
theorem Request.phantom_of_duty {request : Request} {duty : ℕ × Bool} (mem : duty ∈ request.duty) :
    request.phantom = some duty.1 := by
  cases request with
  | started phantom => cases List.mem_singleton.mp mem; rfl
  | tuning phantom => cases List.mem_singleton.mp mem; rfl
  | tuned phantom => cases List.mem_singleton.mp mem; rfl
  | tuneDone phantom manager => cases List.mem_singleton.mp mem; rfl
  | trying phantom tries => cases List.mem_singleton.mp mem; rfl
  | sleeping phantom tries => cases List.mem_singleton.mp mem; rfl
  | draining phantom => cases List.mem_singleton.mp mem; rfl
  | failing phantom manager => cases List.mem_singleton.mp mem; rfl
  | clearing phantom manager => cases List.mem_singleton.mp mem; rfl
  | leaving phantom => cases List.mem_singleton.mp mem; rfl
  | _ => cases mem

/-- A drain thread with a duty drains that phantom, and has not ended. -/
theorem Drain.of_duty {drain : Drain} {duty : ℕ × Bool} (mem : duty ∈ drain.duty) :
    drain.phantom = duty.1 ∧ drain.place ≠ .ended := by
  obtain ⟨phantom, place⟩ := drain
  cases place with
  | looping => cases List.mem_singleton.mp mem; exact ⟨rfl, by simp⟩
  | checking => cases List.mem_singleton.mp mem; exact ⟨rfl, by simp⟩
  | leaving => cases List.mem_singleton.mp mem; exact ⟨rfl, by simp⟩
  | _ => cases mem

/-- **What the invariant is for.** -/
theorem HlsChannel.Sound.cleanedUp {s : HlsChannel} (sound : s.Sound) : s.CleanedUp where
  tunedOut := by
    intro phantom recorded noRequest noDrain
    refine sound.kept.done phantom recorded fun due => ?_
    obtain ⟨duty, mem, rfl⟩ := List.mem_map.mp due
    rcases List.mem_append.mp mem with ofRequest | ofDrain
    · obtain ⟨request, listed, has⟩ := List.mem_flatMap.mp ofRequest
      exact noRequest request listed (Request.phantom_of_duty has)
    · obtain ⟨drain, listed, has⟩ := List.mem_flatMap.mp ofDrain
      obtain ⟨isIt, goesOn⟩ := Drain.of_duty has
      exact goesOn (noDrain drain listed isIt)
  stopped := by
    intro noRequest noDrain
    have nobody : s.holders = [] := by
      refine List.append_eq_nil_iff.mpr ⟨?_, ?_⟩
      · refine List.flatMap_eq_nil_iff.mpr fun request listed => ?_
        have starts := noRequest request listed
        cases request <;> first | rfl | cases starts
      · refine List.flatMap_eq_nil_iff.mpr fun drain listed => ?_
        unfold Drain.holds
        rw [noDrain drain listed]
    have held := sound.held
    rw [nobody] at held
    by_contra running
    rw [if_pos (by simpa using running)] at held
    exact absurd held.length_eq (by simp)
  unharmed := sound.unharmed
  raised := fun _ _ taken raised => HlsChannel.raised_by_answers taken raised

/-- **In every run of clean steps the phantoms are cleaned up.** -/
theorem phantoms_cleaned_up (idleTimeout : ℕ) (actions : List HlsAction) {final : HlsChannel}
    (cleanly : Along HlsChannel.step Cleanly { idleTimeout } actions)
    (ran : runActions HlsChannel.step { idleTimeout } actions = some final) : final.CleanedUp := by
  have sound : final.Sound := invariant_along HlsChannel.step HlsChannel.Sound Cleanly
    (fun _ action _ here cleanly taken => here.step action cleanly taken) actions
    (HlsChannel.sound_init _) cleanly ran
  exact sound.cleanedUp

/-- A playlist request starts a phantom, is answered 200, and the phantom goes when nobody asks again. -/
def onePhantom : List HlsAction :=
  [.playlist, .request 0 {}, .request 0 {}, .request 0 {}, .executor 0 false, .executor 0 false,
    .request 0 {}, .request 0 {}, .request 0 {}, .feed, .fed true, .request 0 {}, .request 0 {},
    .request 0 {}, .tick 21, .drain 0 true, .drain 0 true, .drain 0 true, .drain 0 true,
    .drain 0 true, .drain 0 true, .drain 0 true]

/-- The phantom is tuned out once, and its segmenter does not run. -/
theorem phantoms_cleaned_up_one :
    ∃ final, runActions HlsChannel.step { idleTimeout := 20 } onePhantom = some final ∧
      final.recorded = [0] ∧ final.answers = 1 ∧ final.tuneOuts = [0] ∧ final.running = false ∧
        final.CleanedUp := by
  obtain ⟨final, ran, recorded, answers, tuneOuts, running⟩ := exists_run HlsChannel.step
    { idleTimeout := 20 } onePhantom
    (fun final => final.recorded = [0] ∧ final.answers = 1 ∧ final.tuneOuts = [0] ∧
      final.running = false) (by decide)
  exact ⟨final, ran, recorded, answers, tuneOuts, running,
    phantoms_cleaned_up 20 onePhantom (by decide) ran⟩

/-- A tune-in raises after the manager recorded the viewer: the request is answered, and the phantom stays
a viewer. -/
theorem phantom_left_behind :
    ∃ final, runActions HlsChannel.step { idleTimeout := 20 }
        [.playlist, .request 0 {}, .request 0 {}, .request 0 {}, .executor 0 false,
          .executor 0 true, .request 0 {}, .request 0 {}, .request 0 {}, .request 0 {}] =
          some final ∧
      ¬ final.CleanedUp := by
  obtain ⟨final, ran, recorded, requests, drains, viewers⟩ := exists_run HlsChannel.step
    { idleTimeout := 20 }
    [.playlist, .request 0 {}, .request 0 {}, .request 0 {}, .executor 0 false,
      .executor 0 true, .request 0 {}, .request 0 {}, .request 0 {}, .request 0 {}]
    (fun final => 0 ∈ final.recorded ∧ final.requests = [.answered 503] ∧ final.drains = [] ∧
      0 ∈ final.viewers) (by decide)
  refine ⟨final, ran, fun cleanedUp => ?_⟩
  refine (cleanedUp.tunedOut 0 recorded ?_ ?_).2 viewers
  · rw [requests]
    simp [Request.phantom]
  · rw [drains]
    simp

end Runs

end Retrovue.Core.Viewers
