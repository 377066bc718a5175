namespace AsmNotebook
namespace Text

/-!
Classes of characters given by their borders.  A class is written as the
ascending list of code points at which it begins and ends by turns, so that a
character belongs to it exactly when an odd number of borders is not above it.
-/

/-- Membership of a character in the class with the given borders. -/
def within (bounds : Array Nat) (c : Char) : Bool :=
  bounds.countP (fun bound => bound ≤ c.toNat) % 2 == 1

end Text
end AsmNotebook
