/-!
# Arithmetic modulo a number
-/

namespace BackendLink.Residue

/-- `b ^ e` modulo `m`, by squaring. -/
def power (m b e : Nat) : Nat :=
  if _ : e = 0 then 1 % m
  else
    let half := power m (b * b % m) (e / 2)
    if e % 2 = 1 then b * half % m else half
decreasing_by omega

/-- The inverse modulo a prime, which is the power before the one that gives 1. -/
def inverse (p a : Nat) : Nat := power p a (p - 2)

/-- `a - b` modulo `p`, for `b` below `p`. -/
def sub (p a b : Nat) : Nat := (a + (p - b)) % p

def divide (p a b : Nat) : Nat := a * inverse p b % p

end BackendLink.Residue
