/-!
# Powers of two and of ten

The bases that numbers are stored and written to.
-/

namespace SetupScript

def twoTo (n : Nat) : Nat := Nat.pow 2 n

def tenTo (n : Nat) : Nat := Nat.pow 10 n

end SetupScript
