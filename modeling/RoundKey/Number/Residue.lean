import RoundKey.Bits

/-!
# Residues

Powers of numbers modulo another number, and inverses modulo a prime, which are powers.
-/
namespace RoundKey.Residue

/-- The power of a number modulo another. -/
def power (modulus base exponent : Nat) : Nat :=
  Bits.multiple (fun first second => first * second % modulus) (1 % modulus) base exponent

/-- The inverse of a number that is not divisible by a prime, modulo that prime. -/
def inverse (prime value : Nat) : Nat := power prime value (prime - 2)

end RoundKey.Residue
