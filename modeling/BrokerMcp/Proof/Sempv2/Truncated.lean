import BrokerMcp.Library.Utf8
import BrokerMcp.Sempv2.Client

namespace BrokerMcp.Proof.Sempv2
open BrokerMcp.Sempv2 Utf8

theorem takeRunes_split {n : Nat} {chars : List Char} (long : n < (encode chars).length) :
    ∃ c back, chars = takeRunes n chars ++ c :: back ∧ (encode (takeRunes n chars)).length ≤ n ∧
      n < (encode (takeRunes n chars)).length + c.utf8Size := by
  induction chars generalizing n with
  | nil => simp [encode] at long
  | cons c chars ih =>
      rw [encode_cons, List.length_append, String.length_utf8EncodeChar] at long
      rw [takeRunes]
      split_ifs with fits
      · obtain ⟨d, back, split, within, beyond⟩ := ih (n := n - c.utf8Size) (by omega)
        refine ⟨d, back, by rw [List.cons_append, ← split], ?_, ?_⟩
        · rw [encode_cons, List.length_append, String.length_utf8EncodeChar]
          omega
        · rw [encode_cons, List.length_append, String.length_utf8EncodeChar]
          omega
      · exact ⟨c, chars, rfl, Nat.zero_le n, by simpa [encode] using fits⟩

theorem runeCut_eq {b : List UInt8} {cut start : Nat} (le : start ≤ cut)
    (starts : start = 0 ∨ b[start]?.any runeStart = true)
    (inside : ∀ i, start < i → i ≤ cut → b[i]?.any runeStart = false) : runeCut b cut = start := by
  induction cut with
  | zero => exact (Nat.le_zero.mp le).symm
  | succ cut ih =>
      rw [runeCut]
      by_cases here : start = cut + 1
      · rcases starts with rfl | starts
        · cases here
        · rw [here] at starts
          rw [if_pos starts, here]
      · have next := inside (cut + 1) (by omega) le_rfl
        rw [if_neg (by simp [next])]
        refine ih (by omega) ?_
        intro i after before
        exact inside i after (by omega)

theorem take_runeCut {n : Nat} {chars : List Char} (long : n < (encode chars).length) :
    (encode chars).take (runeCut (encode chars) n) = encode (takeRunes n chars) := by
  obtain ⟨c, back, split, within, beyond⟩ := takeRunes_split long
  obtain ⟨front, kept⟩ : ∃ front, takeRunes n chars = front := ⟨_, rfl⟩
  rw [kept] at split within beyond ⊢
  rw [split]
  have cut : runeCut (encode (front ++ c :: back)) n = (encode front).length := by
    refine runeCut_eq within (.inr (isStart_at front back c)) ?_
    intro i after before
    exact not_isStart_inside after (by omega)
  rw [cut, encode_append]
  exact List.take_left

theorem truncateErrorText_size (s : String) :
    (truncateErrorText s).utf8ByteSize ≤ maxErrorTextLen + truncationMarker.utf8ByteSize := by
  unfold truncateErrorText
  split_ifs with fits
  · omega
  · have long : maxErrorTextLen < (encode s.toList).length := by
      rw [← utf8ByteSize_eq]
      omega
    obtain ⟨-, -, -, within, -⟩ := takeRunes_split long
    rw [String.utf8ByteSize_append]
    refine Nat.add_le_add_right ?_ _
    rwa [utf8ByteSize_eq, String.toList_ofList]

structure Truncated (s : String) : Prop where
  bytes : truncateErrorBytes s.toUTF8.toList = (truncateErrorText s).toUTF8.toList
  short : s.utf8ByteSize ≤ maxErrorTextLen → truncateErrorText s = s
  long : maxErrorTextLen < s.utf8ByteSize → ∃ front c back, s.toList = front ++ c :: back ∧
    truncateErrorText s = String.ofList front ++ truncationMarker ∧
    (String.ofList front).utf8ByteSize ≤ maxErrorTextLen ∧
    maxErrorTextLen < (String.ofList front).utf8ByteSize + c.utf8Size

theorem error_text_truncated (s : String) : Truncated s := by
  by_cases fits : s.utf8ByteSize ≤ maxErrorTextLen
  · have kept : truncateErrorText s = s := if_pos fits
    refine ⟨?_, fun _ => kept, fun long => absurd fits (Nat.not_le.mpr long)⟩
    rw [kept, toUTF8_toList, truncateErrorBytes, if_pos (by rwa [← utf8ByteSize_eq])]
  · have cut : truncateErrorText s =
        String.ofList (takeRunes maxErrorTextLen s.toList) ++ truncationMarker := if_neg fits
    have long : maxErrorTextLen < (encode s.toList).length := by
      rw [← utf8ByteSize_eq]
      omega
    refine ⟨?_, fun short => absurd short fits, ?_⟩
    · rw [cut, toUTF8_toList, toUTF8_toList, truncateErrorBytes, if_neg (Nat.not_le.mpr long),
        take_runeCut long, String.toList_append, encode_append, String.toList_ofList, toUTF8_toList]
    · intro _
      obtain ⟨c, back, split, within, beyond⟩ := takeRunes_split long
      refine ⟨_, c, back, split, cut, ?_, ?_⟩
      · rwa [utf8ByteSize_eq, String.toList_ofList]
      · rwa [utf8ByteSize_eq, String.toList_ofList]

end BrokerMcp.Proof.Sempv2
