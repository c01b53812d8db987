/-!
# Sets of code points

A property of characters is kept as the ascending list of the code points at which membership
changes, starting from "not a member".
-/

namespace NameRouting.Text

/-- Whether `n` belongs to the set that starts empty and changes sides at each of the ascending
points `changes`. -/
def memberOf : (changes : List Nat) → (n : Nat) → Bool
  | [], _ => false
  | point :: later, n => if n < point then false else !memberOf later n

end NameRouting.Text
