import Mathlib.Data.List.Basic
import Mathlib.Tactic.IntervalCases

namespace Utf8

def encode (chars : List Char) : List UInt8 := chars.flatMap String.utf8EncodeChar

def isStart (b : UInt8) : Bool := b &&& 0xC0 ≠ 0x80

theorem encode_cons (c : Char) (chars : List Char) :
    encode (c :: chars) = String.utf8EncodeChar c ++ encode chars := rfl

theorem encode_append (front back : List Char) :
    encode (front ++ back) = encode front ++ encode back := List.flatMap_append

theorem isStart_ofNat {n : Nat} (small : n < 256) :
    isStart (UInt8.ofNat n) = true ↔ n < 128 ∨ 192 ≤ n := by
  have all : ∀ m : Fin 256, isStart (UInt8.ofNat m) = true ↔ m.val < 128 ∨ 192 ≤ m.val := by
    decide +kernel
  exact all ⟨n, small⟩

theorem isStart_first (c : Char) {b : UInt8} (here : (String.utf8EncodeChar c)[0]? = some b) :
    isStart b = true := by
  unfold String.utf8EncodeChar at here
  dsimp only at here
  split_ifs at here with one two three
  all_goals
    obtain rfl := Option.some.inj here
    rw [isStart_ofNat (by omega)]
    omega

theorem isStart_later (c : Char) {i : Nat} {b : UInt8}
    (here : (String.utf8EncodeChar c)[i + 1]? = some b) : isStart b = false := by
  have tail : ∀ v : Nat, isStart (UInt8.ofNat (v % 64 + 128)) = false := by
    intro v
    rw [Bool.eq_false_iff, ne_eq, isStart_ofNat (by omega)]
    omega
  have short : i < 3 := by
    have inside := (List.getElem?_eq_some_iff.mp here).1
    rw [String.length_utf8EncodeChar] at inside
    have size := c.utf8Size_le_four
    omega
  unfold String.utf8EncodeChar at here
  dsimp only at here
  split_ifs at here with one two three <;> interval_cases i <;>
    simp only [List.getElem?_cons_succ, List.getElem?_cons_zero, List.getElem?_nil, reduceCtorEq,
      Option.some.injEq] at here <;> subst here <;> exact tail _

theorem toList_loop (bs : ByteArray) (i : Nat) (r : List UInt8) :
    ByteArray.toList.loop bs i r = r.reverse ++ bs.data.toList.drop i := by
  fun_induction ByteArray.toList.loop bs i r with
  | case1 i r short ih =>
      have inside : i < bs.data.toList.length := short
      have byte : bs.get! i = bs.data.toList[i] := by
        cases bs
        simp_all [ByteArray.get!, ByteArray.size]
      rw [ih, List.reverse_cons, byte, List.append_assoc, List.singleton_append,
        List.getElem_cons_drop]
  | case2 i r long =>
      have outside : bs.data.toList.length ≤ i := Nat.le_of_not_lt long
      rw [List.drop_of_length_le outside, List.append_nil]

theorem toUTF8_eq (s : String) : s.toUTF8 = (encode s.toList).toByteArray := by
  conv_lhs => rw [← String.ofList_toList (s := s)]
  exact String.toByteArray_ofList

theorem toUTF8_toList (s : String) : s.toUTF8.toList = encode s.toList := by
  rw [toUTF8_eq, ByteArray.toList, toList_loop, List.toList_data_toByteArray]
  rfl

theorem utf8ByteSize_eq (s : String) : s.utf8ByteSize = (encode s.toList).length := by
  rw [← List.size_toByteArray, ← toUTF8_eq]
  rfl

theorem getElem?_inside (front back : List Char) {c : Char} {i : Nat} (small : i < c.utf8Size) :
    (encode (front ++ c :: back))[(encode front).length + i]? = (String.utf8EncodeChar c)[i]? := by
  rw [encode_append, encode_cons, List.getElem?_append_right (Nat.le_add_right _ _),
    Nat.add_sub_cancel_left, List.getElem?_append_left]
  rwa [String.length_utf8EncodeChar]

theorem isStart_at (front back : List Char) (c : Char) :
    (encode (front ++ c :: back))[(encode front).length]?.any isStart = true := by
  have first := getElem?_inside front back c.utf8Size_pos
  rw [Nat.add_zero] at first
  have present : 0 < (String.utf8EncodeChar c).length := by
    rw [String.length_utf8EncodeChar]
    exact c.utf8Size_pos
  rw [first, List.getElem?_eq_getElem present, Option.any_some]
  exact isStart_first c (List.getElem?_eq_getElem present)

theorem not_isStart_inside {front back : List Char} {c : Char} {i : Nat}
    (inside : (encode front).length < i) (before : i < (encode front).length + c.utf8Size) :
    (encode (front ++ c :: back))[i]?.any isStart = false := by
  obtain ⟨k, rfl⟩ : ∃ k, i = (encode front).length + (k + 1) :=
    ⟨i - (encode front).length - 1, by omega⟩
  rw [getElem?_inside front back (by omega)]
  cases here : (String.utf8EncodeChar c)[k + 1]? with
  | none => rfl
  | some b => exact isStart_later c here

end Utf8
