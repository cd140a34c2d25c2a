import RowLoader.Text.Quoted

/-!
Unique ids: 122 bits in the form of a random universally unique id, version 4.
-/

namespace RowLoader.UniqueId

open RowLoader.Text

/-- The id of a number below 2 ^ 122: thirty hexadecimal digits in five groups, with the version in
front of the third group and two bits of the number in front of the fourth. -/
def ofNumber (n : Nat) : String :=
  let digits := hexPadded 30 (n % Nat.pow 2 120)
  let variant := ['8', '9', 'a', 'b'].getD (n / Nat.pow 2 120 % 4) '8'
  let group := fun (start length : Nat) => (digits.drop start).take length
  String.ofList (group 0 8 ++ '-' :: group 8 4 ++ '-' :: '4' :: group 12 3
    ++ '-' :: variant :: group 15 3 ++ '-' :: group 18 12)

end RowLoader.UniqueId
