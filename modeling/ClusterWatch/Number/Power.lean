/-
Powers of natural numbers.

A power is the one of core in every module, whatever other structures on numbers are in scope, so
that it always computes.
-/
namespace ClusterWatch

/-- The power of natural numbers. -/
@[default_instance 20000]
instance (priority := 2000) naturalPower : Pow Nat Nat := instPowNat

end ClusterWatch
