import Mathlib.Data.List.Induction
import ScriptHost.Proofs.Failure.Wrapping

/-!
# Snapshots of the call stack

While a script runs, frames are entered and left, and every now and then a failure is raised and
gets a copy of the call stack.  The copy has to outlive the calls that it shows.

* `Execution` — the live call stack and the failures raised so far, and what a run of steps makes of
  them.
* `Execution.openFrames` — the frames that were entered and not left, read off the steps of a run
  from the last one back, without a stack.
* `Execution.reverse_frames_afterAll` — those are the frames in the call stack after the run.
* `Execution.raised_capture` — a failure keeps the call stack of the moment in which it was raised.
-/

set_option autoImplicit false

namespace ScriptHost

/-- What the interpreter of a running script keeps: its live call stack, and the failures that were
raised so far, the earliest first. -/
structure Execution where
  stack : CallStack := {}
  raised : List Failure := []

namespace Execution

/-- What happens next to the call stack. -/
inductive Step where
  /-- A frame is entered. -/
  | enter (frame : Frame)
  /-- The newest frame is left. -/
  | leave
  /-- A failure is raised and gets a copy of the call stack. -/
  | capture (f : Failure)

/-- What a step leads to. -/
def after (e : Execution) : Step → Execution
  | .enter frame => { e with stack := e.stack.push frame }
  | .leave => { e with stack := e.stack.pop }
  | .capture f => { e with raised := e.raised ++ [f.withCallStack e.stack] }

/-- What a run of steps leads to. -/
def afterAll (e : Execution) (steps : List Step) : Execution := steps.foldl after e

theorem afterAll_append (e : Execution) (before later : List Step) :
    e.afterAll (before ++ later) = (e.afterAll before).afterAll later :=
  List.foldl_append

theorem afterAll_concat (e : Execution) (steps : List Step) (step : Step) :
    e.afterAll (steps ++ [step]) = (e.afterAll steps).after step :=
  e.afterAll_append steps [step]

/-! ## The frames of a run -/

/-- The frames that a run has entered and not left, newest first.  The steps are those of the run
from the last one back.  After them, `left` more frames were left: the last ones that these steps
have entered and not left themselves. -/
def openFrames : List Step → (left : Nat) → List Frame
  | [], _ => []
  | .enter frame :: earlier, 0 => frame :: openFrames earlier 0
  | .enter _ :: earlier, left + 1 => openFrames earlier left
  | .leave :: earlier, left => openFrames earlier (left + 1)
  | .capture _ :: earlier, left => openFrames earlier left

/-- The call stack without its newest frames.  That the number of these is arbitrary is what makes
the induction go through a `leave`. -/
theorem drop_frames_afterAll (steps : List Step) (left : Nat) :
    (afterAll {} steps).stack.frames.reverse.drop left = openFrames steps.reverse left := by
  induction steps using List.reverseRecOn generalizing left with
  | nil => exact List.drop_nil
  | append_singleton steps step ih =>
    rw [afterAll_concat, List.reverse_concat]
    cases step with
    | capture f => exact ih left
    | leave =>
      have hpop : ((afterAll {} steps).after .leave).stack.frames.reverse =
          (afterAll {} steps).stack.frames.reverse.tail := List.tail_reverse.symm
      rw [hpop, List.drop_tail, ih (left + 1), openFrames]
    | enter frame =>
      have hpush : ((afterAll {} steps).after (.enter frame)).stack.frames.reverse =
          frame :: (afterAll {} steps).stack.frames.reverse := List.reverse_concat
      rw [hpush]
      cases left with
      | zero => rw [List.drop_zero, openFrames, ← ih 0, List.drop_zero]
      | succ left => rw [List.drop_succ_cons, ih left, openFrames]

/-- **The call stack shows what is open.** -/
theorem reverse_frames_afterAll (steps : List Step) :
    (afterAll {} steps).stack.frames.reverse = openFrames steps.reverse 0 :=
  drop_frames_afterAll steps 0

/-! ## What was raised stays -/

theorem raised_prefix_after (e : Execution) (step : Step) : e.raised <+: (e.after step).raised := by
  cases step with
  | capture f => exact List.prefix_append _ _
  | _ => exact List.prefix_rfl

theorem raised_prefix_afterAll (e : Execution) (steps : List Step) :
    e.raised <+: (e.afterAll steps).raised := by
  induction steps generalizing e with
  | nil => exact List.prefix_rfl
  | cons step rest ih => exact (e.raised_prefix_after step).trans (ih (e.after step))

/-- **A snapshot outlives its call stack.**  Whatever happens after a failure was raised, its copy
is of the call stack as it was then. -/
theorem raised_capture (e : Execution) (before later : List Step) (f : Failure) :
    (e.afterAll (before ++ .capture f :: later)).raised[(e.afterAll before).raised.length]? =
      some (f.withCallStack (e.afterAll before).stack) := by
  obtain ⟨more, hmore⟩ :=
    ((e.afterAll before).after (.capture f)).raised_prefix_afterAll later
  have hraised : (e.afterAll (before ++ .capture f :: later)).raised =
      (e.afterAll before).raised ++ [f.withCallStack (e.afterAll before).stack] ++ more := by
    rw [afterAll_append]
    exact hmore.symm
  rw [hraised, List.append_assoc, List.getElem?_append_right (Nat.le_refl _), Nat.sub_self]
  rfl

end Execution

end ScriptHost
