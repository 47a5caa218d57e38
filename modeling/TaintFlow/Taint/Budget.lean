import TaintFlow.Error

namespace TaintFlow

structure Budget where
  limitMs : Option Nat
  cancelled : Nat → Bool
  elapsedMs : Nat → Nat

namespace Budget

def still (limitMs : Option Nat) (cancelled : Bool) : Budget where
  limitMs := limitMs
  cancelled _ := cancelled
  elapsedMs _ := 0

def unlimited : Budget := still none false

/-- What stops a pass after `expanded` states, if anything does. Cancelling goes before time. -/
def interruption? (b : Budget) (expanded : Nat) : Option Interruption :=
  if b.cancelled expanded then some .cancelled
  else match b.limitMs with
    | some limit =>
      if limit ≤ b.elapsedMs expanded then some (.timeout (b.elapsedMs expanded) limit) else none
    | none => none

end Budget

end TaintFlow
