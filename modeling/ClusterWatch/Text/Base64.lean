/-
Base64: bytes in groups of three as four letters, digits or signs.
-/
namespace ClusterWatch.Text.Base64

/-- The sixty-four signs. -/
def alphabet : List Char :=
  "ABCDEFGHIJKLMNOPQRSTUVWXYZabcdefghijklmnopqrstuvwxyz0123456789+/".toList

def sign (n : Nat) : Char := (alphabet[n % 64]?).getD '='

def encode : List UInt8 → List Char
  | a :: b :: c :: r =>
      let n := a.toNat * 65536 + b.toNat * 256 + c.toNat
      sign (n / 262144) :: sign (n / 4096) :: sign (n / 64) :: sign n :: encode r
  | [a, b] =>
      let n := a.toNat * 65536 + b.toNat * 256
      [sign (n / 262144), sign (n / 4096), sign (n / 64), '=']
  | [a] =>
      let n := a.toNat * 65536
      [sign (n / 262144), sign (n / 4096), '=', '=']
  | [] => []

end ClusterWatch.Text.Base64
