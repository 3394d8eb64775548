/-
**Publishing a file by a temporary one**, over a map from paths to contents.

A stage creates a temporary file, appends its lines, flushes, and renames it over the final path. One of
its operations may fail: then those before it have taken effect, and it and those after it have not.

* `FileOp.apply`, `run`: what operations do;
* `attempt`: operations of which the one with a given number fails;
* `stage`: the operations of one publication;
* `run_stage_final`, `run_stage_take`: a whole stage leaves its lines at the final path, and a part of
  one touches only the temporary file.
-/

import Mathlib

namespace Retrovue.Foundation.FilePublish

variable {Path Line : Type}

/-! ### Operations -/

section Operations

/-- The files, by path: the lines of each. -/
abbrev Files (Path Line : Type) := Path → Option (List Line)

/-- A file operation. -/
inductive FileOp (Path Line : Type)
  /-- One that changes no content: a test of existence, a new directory, a flush, a close. -/
  | probe (path : Path)
  | create (path : Path)
  | append (path : Path) (line : Line)
  | rename (source target : Path)
  | unlink (path : Path)

/-- An operation on one path only. -/
def FileOp.Within (path : Path) : FileOp Path Line → Prop
  | .probe _ => True
  | .create other => other = path
  | .append other _ => other = path
  | .rename _ _ => False
  | .unlink other => other = path

variable [DecidableEq Path]

/-- The path that holds something else now. -/
def Files.set (files : Files Path Line) (path : Path) (content : Option (List Line)) :
    Files Path Line :=
  fun other => if other = path then content else files other

@[simp] theorem Files.set_self (files : Files Path Line) (path : Path)
    (content : Option (List Line)) : files.set path content path = content :=
  if_pos rfl

theorem Files.set_of_ne (files : Files Path Line) {path other : Path} (ne : other ≠ path)
    (content : Option (List Line)) : files.set path content other = files other :=
  if_neg ne

/-- **What an operation does.** -/
def FileOp.apply (files : Files Path Line) : FileOp Path Line → Files Path Line
  | .probe _ => files
  | .create path => files.set path (some [])
  | .append path line => files.set path (some ((files path).getD [] ++ [line]))
  | .rename source target => (files.set target (files source)).set source none
  | .unlink path => files.set path none

/-- The operations, one after another. -/
def run (files : Files Path Line) (ops : List (FileOp Path Line)) : Files Path Line :=
  ops.foldl FileOp.apply files

theorem run_append (files : Files Path Line) (first second : List (FileOp Path Line)) :
    run files (first ++ second) = run (run files first) second :=
  List.foldl_append

/-- Operations on one path leave the others alone. -/
theorem run_within {path other : Path} (ne : other ≠ path) {ops : List (FileOp Path Line)}
    (within : ∀ op ∈ ops, op.Within path) (files : Files Path Line) :
    run files ops other = files other := by
  induction ops generalizing files with
  | nil => rfl
  | cons op rest ih =>
    obtain ⟨here, later⟩ := List.forall_mem_cons.mp within
    have kept : op.apply files other = files other := by
      cases op with
      | probe _ => rfl
      | rename _ _ => exact here.elim
      | create _ | append _ _ | unlink _ =>
        cases here
        exact files.set_of_ne ne _
    exact (ih later (op.apply files)).trans kept

/-- What remains of an attempt: whether it went through, the files, and the number of the operation that
is still to fail. -/
inductive Attempt (Path Line : Type)
  | done (files : Files Path Line) (fails : Option Nat)
  | failed (files : Files Path Line)

/-- **Operations of which one may fail**: those before it have taken effect. -/
def attempt (files : Files Path Line) (ops : List (FileOp Path Line)) :
    Option Nat → Attempt Path Line
  | none => .done (run files ops) none
  | some n =>
    if n < ops.length then .failed (run files (ops.take n))
    else .done (run files ops) (some (n - ops.length))

end Operations

/-! ### A stage -/

section Stage

variable (temporary final : Path) (lines : List Line)

/-- What is written before the rename. -/
def writes : List (FileOp Path Line) :=
  .create temporary :: lines.map (.append temporary) ++
    [.probe temporary, .probe temporary, .probe temporary]

/-- **A stage**: open, the lines, flush, sync, close, rename. -/
def stage : List (FileOp Path Line) := writes temporary lines ++ [.rename temporary final]

theorem stage_length : (stage temporary final lines).length = lines.length + 5 := by
  simp [stage, writes]

/-- The writes are on the temporary file. -/
theorem writes_within : ∀ op ∈ writes temporary lines, op.Within temporary := by
  intro op among
  simp only [writes, List.cons_append, List.mem_cons, List.mem_append, List.mem_map,
    List.not_mem_nil, or_false] at among
  rcases among with rfl | ⟨line, -, rfl⟩ | rfl | rfl | rfl
  · rfl
  · rfl
  · trivial
  · trivial
  · trivial

variable [DecidableEq Path]

/-- The lines collect in the file they are appended to. -/
theorem run_appends (files : Files Path Line) (before : List Line)
    (there : files temporary = some before) :
    run files (lines.map (.append temporary)) temporary = some (before ++ lines) := by
  induction lines generalizing files before with
  | nil => rw [List.append_nil]; exact there
  | cons line rest ih =>
    have next := ih ((FileOp.append temporary line).apply files) (before ++ [line])
      (by simp [FileOp.apply, there])
    rw [List.append_assoc] at next
    exact next

theorem run_writes (files : Files Path Line) :
    run files (writes temporary lines) temporary = some lines := by
  have appended := run_appends temporary lines ((FileOp.create temporary).apply files) []
    (Files.set_self ..)
  rw [List.nil_append] at appended
  rw [writes, run_append]
  exact appended

variable {temporary final lines}

/-- **A whole stage leaves its lines at the final path.** -/
theorem run_stage_final (apart : final ≠ temporary) (files : Files Path Line) :
    run files (stage temporary final lines) final = some lines := by
  rw [stage, run_append]
  show ((run files (writes temporary lines)).set final
    (run files (writes temporary lines) temporary)).set temporary none final = some lines
  rw [Files.set_of_ne _ apart, Files.set_self, run_writes]

/-- A whole stage leaves the other paths alone. -/
theorem run_stage_other {other : Path} (notTemporary : other ≠ temporary) (notFinal : other ≠ final)
    (files : Files Path Line) : run files (stage temporary final lines) other = files other := by
  rw [stage, run_append]
  show ((run files (writes temporary lines)).set final
    (run files (writes temporary lines) temporary)).set temporary none other = files other
  rw [Files.set_of_ne _ notTemporary, Files.set_of_ne _ notFinal,
    run_within notTemporary (writes_within temporary lines)]

/-- **A stage that is cut off touches only its temporary file.** -/
theorem run_stage_take {other : Path} (notTemporary : other ≠ temporary) {n : Nat}
    (cut : n < (stage temporary final lines).length) (files : Files Path Line) :
    run files ((stage temporary final lines).take n) other = files other := by
  have early : n ≤ (writes temporary lines).length := by
    rw [stage, List.length_append, List.length_singleton] at cut
    exact Nat.lt_add_one_iff.mp cut
  rw [stage, List.take_append_of_le_length early]
  exact run_within notTemporary
    (fun op among => writes_within temporary lines op (List.mem_of_mem_take among)) files

end Stage

end Retrovue.Foundation.FilePublish
