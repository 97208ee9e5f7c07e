import Mathlib.Data.List.Basic

namespace Percent

def hexDigit (n : Nat) : Char := if n < 10 then Char.ofNat (48 + n) else Char.ofNat (55 + n)

def hexValue (c : Char) : Option Nat :=
  if 48 ≤ c.toNat ∧ c.toNat ≤ 57 then some (c.toNat - 48)
  else if 65 ≤ c.toNat ∧ c.toNat ≤ 70 then some (c.toNat - 55)
  else if 97 ≤ c.toNat ∧ c.toNat ≤ 102 then some (c.toNat - 87)
  else none

def escapeByte (code : UInt8 → Option Char) (b : UInt8) : List Char :=
  match code b with
  | some c => [c]
  | none => ['%', hexDigit (b.toNat / 16), hexDigit (b.toNat % 16)]

def escape (code : UInt8 → Option Char) (bytes : List UInt8) : List Char :=
  bytes.flatMap (escapeByte code)

def unescape (read : Char → Option UInt8) : List Char → Option (List UInt8)
  | [] => some []
  | '%' :: high :: low :: rest => do
      let high ← hexValue high
      let low ← hexValue low
      let bytes ← unescape read rest
      return UInt8.ofNat (16 * high + low) :: bytes
  | c :: rest => do
      let b ← read c
      let bytes ← unescape read rest
      return b :: bytes

theorem hexValue_hexDigit : ∀ n < 16, hexValue (hexDigit n) = some n := by decide

/-- The reading of a code: no character stands for two bytes, and none is the escape. -/
structure Reads (code : UInt8 → Option Char) (read : Char → Option UInt8) : Prop where
  back : ∀ b c, code b = some c → read c = some b
  plain : ∀ b, code b ≠ some '%'

section Escape

variable {code : UInt8 → Option Char} {read : Char → Option UInt8}

theorem unescape_escape (reads : Reads code read) (bytes : List UInt8) :
    unescape read (escape code bytes) = some bytes := by
  induction bytes with
  | nil => rfl
  | cons b bytes ih =>
      rw [escape, List.flatMap_cons, escapeByte, ← escape]
      cases written : code b with
      | some c =>
          have plain : c ≠ '%' := by
            rintro rfl
            exact reads.plain b written
          have step : unescape read (c :: escape code bytes) =
              (do let b ← read c; let bytes ← unescape read (escape code bytes); return b :: bytes) := by
            rw [unescape]
            intro high low rest same
            exact absurd same plain
          simp [step, ih, reads.back b c written]
      | none =>
          have small := b.toNat_lt
          have high := hexValue_hexDigit (b.toNat / 16) (by omega)
          have low := hexValue_hexDigit (b.toNat % 16) (by omega)
          have whole : UInt8.ofNat (16 * (b.toNat / 16) + b.toNat % 16) = b := by
            rw [Nat.div_add_mod]
            exact UInt8.ofNat_toNat
          simp only [List.cons_append, List.nil_append, unescape, high, low, ih, Option.bind_eq_bind,
            Option.bind_some, Option.pure_def, whole]

theorem escape_injective (reads : Reads code read) : Function.Injective (escape code) := by
  intro a b same
  apply Option.some.inj
  rw [← unescape_escape reads a, same, unescape_escape reads b]

theorem mem_escape {bytes : List UInt8} {c : Char} (member : c ∈ escape code bytes) :
    c = '%' ∨ (∃ n < 16, c = hexDigit n) ∨ ∃ b, code b = some c := by
  obtain ⟨b, -, member⟩ := List.mem_flatMap.mp member
  unfold escapeByte at member
  cases written : code b with
  | some d =>
      rw [written] at member
      obtain rfl := List.mem_singleton.mp member
      exact .inr (.inr ⟨b, written⟩)
  | none =>
      rw [written] at member
      have small := b.toNat_lt
      rcases List.mem_cons.mp member with rfl | member
      · exact .inl rfl
      · refine .inr (.inl ?_)
        rcases List.mem_cons.mp member with rfl | member
        · exact ⟨_, by omega, rfl⟩
        · obtain rfl := List.mem_singleton.mp member
          exact ⟨_, by omega, rfl⟩

theorem not_mem_escape {c : Char} (other : c ≠ '%') (digit : ∀ n < 16, c ≠ hexDigit n)
    (unused : ∀ b, code b ≠ some c) (bytes : List UInt8) : c ∉ escape code bytes := by
  intro member
  rcases mem_escape member with escaped | ⟨n, small, same⟩ | ⟨b, written⟩
  · exact other escaped
  · exact digit n small same
  · exact unused b written

theorem escape_ne_nil {bytes : List UInt8} (some : bytes ≠ []) : escape code bytes ≠ [] := by
  obtain ⟨b, rest, rfl⟩ := List.exists_cons_of_ne_nil some
  rw [escape, List.flatMap_cons]
  apply List.append_ne_nil_of_left_ne_nil
  unfold escapeByte
  split <;> exact List.cons_ne_nil _ _

end Escape

end Percent
