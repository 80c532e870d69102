/-
  Powers of natural numbers.
-/

namespace EventFlow

/- A power of a natural number. -/
def power (base exponent : Nat) : Nat :=
  Nat.pow base exponent

end EventFlow
