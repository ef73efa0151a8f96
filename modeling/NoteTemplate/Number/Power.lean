/-!
# Powers of two and of ten

The powers that binary and decimal numbers are made of.
-/

namespace NoteTemplate.Number

/-- A power of two. -/
def twoTo (exponent : Nat) : Nat := Nat.pow 2 exponent

/-- A power of ten. -/
def tenTo (exponent : Nat) : Nat := Nat.pow 10 exponent

end NoteTemplate.Number
