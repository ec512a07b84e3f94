set_option autoImplicit false

/-! # Numbers of 64 bits

Counts and floor numbers are words of 64 bits. They are kept as natural numbers; what is read from
text is checked against the limit, and the one sum that could pass it wraps around. -/

namespace Floorplan

/-- The number of values of a word. -/
def wordLimit : Nat := Nat.pow 2 64

/-- What a word holds of a sum. -/
def wrap (n : Nat) : Nat := n % wordLimit

theorem wrap_of_lt {n : Nat} (h : n < wordLimit) : wrap n = n := Nat.mod_eq_of_lt h

end Floorplan
