/-! # Signals

A signal is a double. NaN stands for a signal that is missing, and an infinity counts as missing as
soon as it enters a computation.
-/
namespace Gauge.Signal

def missing : Float := Float.ofBits 0x7FF8000000000000

def settle (v : Float) : Float := if v.isFinite then v else missing

@[simp] theorem settle_missing : settle missing = missing := ite_self missing

@[simp] theorem settle_settle (v : Float) : settle (settle v) = settle v := by
  by_cases h : v.isFinite = true
  · have hv : settle v = v := if_pos h
    rw [hv, hv]
  · have hv : settle v = missing := if_neg h
    rw [hv, settle_missing]

/-- A signal holds when it is neither zero nor missing. -/
def holds (v : Float) : Bool := v != 0 && !v.isNaN

def ofBool (b : Bool) : Float := if b then 1 else 0

/-- The sign bit is set: also for negative zero. -/
def isNegative (v : Float) : Bool := 0x8000000000000000 ≤ v.toBits

def withSignOf (v size : Float) : Float := if isNegative v then -size else size

def anyMissing (vs : List Float) : Bool := vs.any Float.isNaN

end Gauge.Signal
