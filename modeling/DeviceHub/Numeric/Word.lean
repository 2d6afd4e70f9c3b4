/-
  The integers that fit into words of a number of bits.

  Key definitions include:
    * `Word.count`
    * `Word.least`
    * `Word.greatest`
    * `Word.isSigned`
-/

namespace DeviceHub

namespace Word

/- The number of words of so many bits. -/
def count
    (bits : Nat) : Nat :=
  Nat.pow 2 bits

/- The least signed integer of so many bits. -/
def least
    (bits : Nat) : Int :=
  -Int.ofNat (count (bits - 1))

/- The greatest signed integer of so many bits. -/
def greatest
    (bits : Nat) : Int :=
  Int.ofNat (count (bits - 1)) - 1

/- Whether a signed integer has so many bits. -/
def isSigned
    (bits : Nat)
    (n : Int) : Bool :=
  least bits ≤ n && n ≤ greatest bits

end Word

end DeviceHub
