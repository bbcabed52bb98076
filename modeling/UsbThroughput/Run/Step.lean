import UsbThroughput.Run.Drain
import UsbThroughput.Run.Flow

/-!
# Runs step by step

`Run.step` does what the stage of a run asks for, and `Run.steps` repeats it. How long a run takes
depends on the device, so the number of steps is limited by the caller; a run that is not over
after that many steps can be recognised by its stage.
-/

namespace UsbThroughput.Run

variable {σ : Type} (rig : Rig σ)

/-- The next step of a run. -/
def step (run : Run σ) : Run σ :=
  match run.stage with
  | .filling => run.fill rig
  | .starting => run.sendStart rig
  | .waiting => run.wait rig
  | .handling => run.handleNext rig
  | .cancelling => run.cancelQueue rig
  | .draining deadline => run.drain rig deadline
  | .settling deadline => run.settle rig deadline
  | .abandoning => run.abandonQueue rig
  | .closing => run.close rig
  | .ended _ | .broken _ => run

/-- At most `limit` steps of a run. -/
def steps : Nat → Run σ → Run σ
  | 0, run => run
  | limit + 1, run => if run.stage.isOver then run else steps limit (run.step rig)

end UsbThroughput.Run
