/-!
# Arithmetic modulo a prime

Sums, differences, powers and inverses of natural numbers modulo a prime.
-/

namespace Webhook.Tls.Modular

/-- The difference of two numbers below the modulus. -/
def sub (p a b : Nat) : Nat := (a + (p - b % p)) % p

/-- The bits of a number, the most significant one first. -/
def bits (n : Nat) : List Bool := (List.range (n.log2 + 1)).reverse.map n.testBit

/-- A power. -/
def pow (p base exponent : Nat) : Nat :=
  (bits exponent).foldl (fun acc bit => if bit then acc * acc % p * base % p else acc * acc % p) 1

/-- The inverse of a number that the modulus, a prime, does not divide. -/
def inverse (p a : Nat) : Nat := pow p (a % p) (p - 2)

example : pow 13 2 10 = 10 := by decide +kernel
example : inverse 13 5 = 8 := by decide +kernel

end Webhook.Tls.Modular
