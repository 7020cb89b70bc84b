/-
This file holds classes of characters given as runs of code points, the form in
which the tables of the Unicode character database are written here.
-/

namespace TreeSchema.Text

/-- Runs of code points, each given by its first and its last member. -/
abbrev Ranges := List (Nat × Nat)

/-- Whether some run holds the character. -/
def Ranges.covers (ranges : Ranges) (character : Char) : Bool :=
  ranges.any fun run => run.1 ≤ character.toNat && character.toNat ≤ run.2

end TreeSchema.Text
