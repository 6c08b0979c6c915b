import RemoteStreams.Action

/-!
# Machine words

Sizes, counts and positions are natural numbers below `Word.bound`. Sums that
may reach the bound are formed with `Word.add`, which ends in a breach there,
or with `Word.saturate`, which stops at the largest word.
-/

namespace RemoteStreams

namespace Word

/-- One more than the largest unsigned machine word: two to the power of 64. -/
def bound : Nat := 18446744073709551616

/-- One more than the largest signed machine word: two to the power of 63. -/
def signedBound : Nat := 9223372036854775808

/-- The largest word that is not above `number`. -/
def saturate (number : Nat) : Nat := min number (bound - 1)

/-- The word that a number of any size or sign leaves when it wraps around. -/
def wrap (number : Int) : Nat := (number % (bound : Int)).toNat

/-- The word equal to `number`, if there is one. -/
def ofInt? (number : Int) : Option Nat :=
  if 0 ≤ number ∧ number < (bound : Int) then some number.toNat else none

/-- The sum of two words, which must be a word again. -/
def add {σ ε : Type} (first second : Nat) : Action σ ε Nat :=
  if first + second < bound then pure (first + second) else .abandon .additionOverflow

/-- A sum that fits into a word is delivered. -/
theorem add_apply {σ ε : Type} {first second : Nat} (fits : first + second < bound) (state : σ) :
    (add first second : Action σ ε Nat) state = (.ok (first + second), state) := by
  simp [add, fits]

/-- A number that fits into a word is the word. -/
theorem ofInt?_natCast {number : Nat} (fits : number < bound) :
    ofInt? (number : Int) = some number := by
  have lower : (0 : Int) ≤ number := Int.natCast_nonneg number
  have upper : (number : Int) < (bound : Int) := Int.ofNat_lt.mpr fits
  simp [ofInt?, lower, upper]

end Word

end RemoteStreams
