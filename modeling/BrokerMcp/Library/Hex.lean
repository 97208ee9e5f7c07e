import Mathlib.Data.List.Basic

namespace Hex

def digit (n : Nat) : UInt8 := if n < 10 then UInt8.ofNat (48 + n) else UInt8.ofNat (87 + n)

def encode (bytes : List UInt8) : List UInt8 :=
  bytes.flatMap fun b => [digit (b.toNat / 16), digit (b.toNat % 16)]

def isDigit (c : UInt8) : Bool := (48 ≤ c && c ≤ 57) || (97 ≤ c && c ≤ 102)

theorem isDigit_digit : ∀ n < 16, isDigit (digit n) = true := by
  decide

theorem length_encode (bytes : List UInt8) : (encode bytes).length = 2 * bytes.length := by
  induction bytes with
  | nil => rfl
  | cons b bytes ih =>
      rw [encode, List.flatMap_cons, List.length_append]
      change 2 + (encode bytes).length = 2 * (bytes.length + 1)
      rw [ih, Nat.mul_add, Nat.add_comm]

theorem isDigit_of_mem_encode {bytes : List UInt8} {c : UInt8} (member : c ∈ encode bytes) :
    isDigit c = true := by
  obtain ⟨b, -, written⟩ := List.mem_flatMap.mp member
  have small : b.toNat < 256 := b.toNat_lt
  rcases List.mem_cons.mp written with rfl | low
  · exact isDigit_digit _ (Nat.div_lt_of_lt_mul small)
  · obtain rfl := List.mem_singleton.mp low
    exact isDigit_digit _ (Nat.mod_lt _ (by decide))

end Hex
