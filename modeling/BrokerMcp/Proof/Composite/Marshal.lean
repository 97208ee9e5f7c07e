import BrokerMcp.Composite.Marshal

namespace BrokerMcp.Proof.Composite
open BrokerMcp.Composite

theorem escapedLens_append (s t : String) :
    escapedLens (s ++ t) = escapedLens s + escapedLens t := by
  rw [escapedLens, String.toList_append, List.map_append, List.sum_append]
  rfl

theorem digit_bounds {c : Char} (digit : c.isDigit = true) : 48 ≤ c.toNat ∧ c.toNat ≤ 57 := by
  simpa [Char.isDigit, UInt32.le_iff_toNat_le] using digit

theorem utf8Size_digit {c : Char} (digit : c.isDigit = true) : c.utf8Size = 1 := by
  rw [Char.utf8Size_eq_one_iff, UInt32.le_iff_toNat_le]
  exact le_trans (digit_bounds digit).2 (by decide)

theorem escapedLen_digit {c : Char} (digit : c.isDigit = true) : escapedLen c = 1 := by
  obtain ⟨least, most⟩ := digit_bounds digit
  have plain : ∀ d : Char, d.toNat < 48 ∨ 57 < d.toNat → c ≠ d := by
    rintro d outside rfl
    omega
  unfold escapedLen
  rw [if_neg (by simp [plain]), if_neg (by omega), if_neg (by simp [plain]), if_neg (by omega),
    utf8Size_digit digit]

theorem escapedLens_toString (n : Nat) : escapedLens (toString n) = (Nat.toDigits 10 n).length := by
  have digits : ∀ c ∈ Nat.toDigits 10 n, escapedLen c = 1 := by
    intro c member
    exact escapedLen_digit (Nat.isDigit_of_mem_toDigits (by decide) (by decide) member)
  rw [escapedLens, Nat.toString_eq_ofList_toDigits, String.toList_ofList,
    List.map_congr_left digits]
  simp

theorem digits_succ_le (n : Nat) :
    (Nat.toDigits 10 (n + 1)).length ≤ (Nat.toDigits 10 n).length + 1 := by
  have short := (Nat.length_toDigits_le_iff (b := 10) (by decide) Nat.length_toDigits_pos).mp
    (le_refl (Nat.toDigits 10 n).length)
  rw [Nat.length_toDigits_le_iff (by decide) (Nat.succ_pos _), Nat.pow_succ]
  omega

theorem digits_add_le (n k : Nat) :
    (Nat.toDigits 10 (n + k)).length ≤ (Nat.toDigits 10 n).length + k := by
  induction k with
  | zero => exact le_rfl
  | succ k ih => exact (digits_succ_le (n + k)).trans (Nat.add_le_add_right ih 1)

section Members

variable {enc : Encoder} {depth : Nat}

variable (enc depth) in
def Marshals (v : Value) : Prop := (textLen enc depth v).isSome = true

variable (enc depth) in
def size (v : Value) : Nat := (textLen enc depth v).getD 0

theorem size_nat (n : Nat) : size enc depth (.int n) = (Nat.toDigits 10 n).length := by
  have ascii : ∀ l : List Char, (∀ c ∈ l, c.isDigit = true) →
      (String.ofList l).utf8ByteSize = l.length := by
    intro l
    induction l with
    | nil => exact fun _ => rfl
    | cons c l ih =>
        intro digits
        obtain ⟨first, rest⟩ := List.forall_mem_cons.mp digits
        rw [String.ofList_cons, String.utf8ByteSize_append, String.utf8ByteSize_singleton,
          utf8Size_digit first, ih rest, List.length_cons]
        omega
  have same : toString (n : Int) = toString n := rfl
  rw [size, textLen, Option.getD_some, same, Nat.toString_eq_ofList_toDigits]
  refine ascii _ fun c member => ?_
  exact Nat.isDigit_of_mem_toDigits (by decide) (by decide) member

theorem textLen_of_marshals {v : Value} (marshals : Marshals enc depth v) :
    textLen enc depth v = some (size enc depth v) := by
  obtain ⟨n, found⟩ := Option.isSome_iff_exists.mp marshals
  rw [size, found, Option.getD_some]

theorem itemLens_isSome_iff {items : List Value} :
    (itemLens enc depth items).isSome = true ↔ ∀ v ∈ items, Marshals enc depth v := by
  induction items with
  | nil => simp [itemLens]
  | cons v items ih =>
      rw [List.forall_mem_cons, ← ih, Marshals, itemLens]
      cases textLen enc depth v <;> cases itemLens enc depth items <;> simp

theorem itemLens_of {items : List Value} (all : ∀ v ∈ items, Marshals enc depth v) :
    itemLens enc depth items = some (items.map (size enc depth)) := by
  induction items with
  | nil => rfl
  | cons v items ih =>
      obtain ⟨first, rest⟩ := List.forall_mem_cons.mp all
      rw [itemLens, ih rest, textLen_of_marshals first]
      rfl

theorem fieldLens_isSome_iff {fields : Object} :
    (fieldLens enc depth fields).isSome = true ↔ ∀ e ∈ fields, Marshals enc depth e.2 := by
  induction fields with
  | nil => simp [fieldLens]
  | cons e fields ih =>
      obtain ⟨key, v⟩ := e
      rw [List.forall_mem_cons, ← ih, Marshals, fieldLens]
      cases textLen enc depth v <;> cases fieldLens enc depth fields <;> simp

theorem fieldLens_of {fields : Object} (all : ∀ e ∈ fields, Marshals enc depth e.2) :
    fieldLens enc depth fields =
      some (fields.map fun e => quotedLen e.1 + 2 + size enc depth e.2) := by
  induction fields with
  | nil => rfl
  | cons e fields ih =>
      obtain ⟨first, rest⟩ := List.forall_mem_cons.mp all
      rw [fieldLens, ih rest, textLen_of_marshals first]
      rfl

theorem marshals_arr {items : List Value} :
    Marshals enc depth (.arr items) ↔ ∀ v ∈ items, Marshals enc (depth + 1) v := by
  rw [Marshals, textLen, Option.isSome_map, itemLens_isSome_iff]

theorem marshals_obj {fields : Object} :
    Marshals enc depth (.obj fields) ↔ ∀ e ∈ fields, Marshals enc (depth + 1) e.2 := by
  rw [Marshals, textLen, Option.isSome_map, fieldLens_isSome_iff]

/-- A member pays for its own line and the comma; the first comma is missing. -/
theorem block_eq (members : List Nat) (some : members ≠ []) :
    block depth members = 2 + 2 * depth + (members.map fun n => n + (2 * depth + 4)).sum := by
  have lines : ∀ members : List Nat,
      (members.map fun n => lineBreak (depth + 1) + n).sum + members.length =
        (members.map fun n => n + (2 * depth + 4)).sum := by
    intro members
    induction members with
    | nil => rfl
    | cons n rest ih =>
        simp only [List.map_cons, List.sum_cons, List.length_cons, lineBreak] at ih ⊢
        omega
  have counted := lines members
  have positive := List.length_pos_iff.mpr some
  rw [block, if_neg some]
  simp only [lineBreak] at counted ⊢
  omega

variable (enc depth) in
def weight (e : String × Value) : Nat :=
  quotedLen e.1 + 2 + size enc (depth + 1) e.2 + (2 * depth + 4)

theorem size_obj {fields : Object} (marshals : Marshals enc depth (.obj fields)) (some : fields ≠ []) :
    size enc depth (.obj fields) = 2 + 2 * depth + (fields.map (weight enc depth)).sum := by
  rw [size, textLen, fieldLens_of (marshals_obj.mp marshals), Option.map_some, Option.getD_some,
    block_eq _ (by simpa using some), List.map_map]
  rfl

theorem size_arr_nil : size enc depth (.arr []) = 2 := rfl

theorem le_size_arr {items : List Value} (marshals : Marshals enc depth (.arr items))
    (some : items ≠ []) : 2 + 2 * depth + items.length * (2 * depth + 4) ≤
      size enc depth (.arr items) := by
  rw [size, textLen, itemLens_of (marshals_arr.mp marshals), Option.map_some, Option.getD_some,
    block_eq _ (by simpa using some), List.map_map]
  have rows : ∀ items : List Value, items.length * (2 * depth + 4) ≤
      (items.map ((fun n => n + (2 * depth + 4)) ∘ size enc (depth + 1))).sum := by
    intro items
    induction items with
    | nil => simp
    | cons v rest ih =>
        simp only [List.length_cons, List.map_cons, List.sum_cons, Function.comp_apply,
          Nat.add_mul] at ih ⊢
        omega
  exact Nat.add_le_add_left (rows items) _

end Members

end BrokerMcp.Proof.Composite
