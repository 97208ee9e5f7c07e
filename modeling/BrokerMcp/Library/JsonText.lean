import Mathlib.Data.List.Basic

namespace JsonText

def escapeChar (c : Char) : List Char :=
  if c = '"' ∨ c = '\\' then ['\\', c]
  else if c = '\x08' then ['\\', 'b']
  else if c = '\x0c' then ['\\', 'f']
  else if c = '\n' then ['\\', 'n']
  else if c = '\r' then ['\\', 'r']
  else if c = '\t' then ['\\', 't']
  else if c.toNat < 0x20 ∨ c ∈ ['<', '>', '&', '\u2028', '\u2029'] then
    let n := c.toNat
    ['\\', 'u', (n / 4096).digitChar, (n / 256 % 16).digitChar, (n / 16 % 16).digitChar,
      (n % 16).digitChar]
  else [c]

def escape (s : List Char) : List Char := s.flatMap escapeChar

def quote (s : String) : List Char := '"' :: (escape s.toList ++ ['"'])

def elements : List String → List Char
  | [] => []
  | [s] => quote s
  | s :: rest => quote s ++ ',' :: elements rest

def array (l : List String) : List Char := '[' :: (elements l ++ [']'])

def digitValue (c : Char) : Nat := if c.toNat < 58 then c.toNat - 48 else c.toNat - 87

def readChar : List Char → Option (Char × List Char)
  | '\\' :: 'u' :: a :: b :: c :: d :: rest =>
      some (Char.ofNat (digitValue a * 4096 + digitValue b * 256 + digitValue c * 16 + digitValue d),
        rest)
  | '\\' :: 'b' :: rest => some ('\x08', rest)
  | '\\' :: 'f' :: rest => some ('\x0c', rest)
  | '\\' :: 'n' :: rest => some ('\n', rest)
  | '\\' :: 'r' :: rest => some ('\r', rest)
  | '\\' :: 't' :: rest => some ('\t', rest)
  | '\\' :: c :: rest => some (c, rest)
  | c :: rest => some (c, rest)
  | [] => none

theorem digitValue_digitChar : ∀ n < 16, digitValue n.digitChar = n := by
  decide

theorem readChar_hex (n : Nat) (small : n < 65536) (rest : List Char) :
    readChar ('\\' :: 'u' :: (n / 4096).digitChar :: (n / 256 % 16).digitChar ::
      (n / 16 % 16).digitChar :: (n % 16).digitChar :: rest) = some (Char.ofNat n, rest) := by
  have digits : n / 4096 * 4096 + n / 256 % 16 * 256 + n / 16 % 16 * 16 + n % 16 = n := by omega
  rw [readChar, digitValue_digitChar _ (by omega), digitValue_digitChar _ (by omega),
    digitValue_digitChar _ (by omega), digitValue_digitChar _ (by omega), digits]

theorem readChar_escapeChar (c : Char) (rest : List Char) :
    readChar (escapeChar c ++ rest) = some (c, rest) := by
  unfold escapeChar
  split_ifs with quoted back feed line ret tab coded
  · rcases quoted with rfl | rfl <;> rfl
  · rw [back]; rfl
  · rw [feed]; rfl
  · rw [line]; rfl
  · rw [ret]; rfl
  · rw [tab]; rfl
  · have small : c.toNat < 65536 := by
      rcases coded with low | listed
      · omega
      · simp only [List.mem_cons, List.not_mem_nil, or_false] at listed
        rcases listed with rfl | rfl | rfl | rfl | rfl <;> decide
    have read := readChar_hex c.toNat small rest
    rw [Char.ofNat_toNat] at read
    exact read
  · have plain : c ≠ '\\' := fun same => quoted (.inr same)
    rw [List.singleton_append]
    unfold readChar
    split <;> simp_all

theorem escapeChar_ne_quote (c : Char) (rest tail : List Char) :
    escapeChar c ++ rest ≠ '"' :: tail := by
  intro same
  have read := readChar_escapeChar c rest
  rw [same] at read
  obtain ⟨rfl, -⟩ : '"' = c ∧ tail = rest := by simpa [readChar] using read
  simp [escapeChar] at same

theorem escape_inj {s t r r' : List Char} (same : escape s ++ '"' :: r = escape t ++ '"' :: r') :
    s = t ∧ r = r' := by
  induction s generalizing t with
  | nil =>
      cases t with
      | nil => simpa [escape] using same
      | cons d t =>
          rw [escape, escape, List.flatMap_nil, List.flatMap_cons, List.append_assoc] at same
          exact absurd same.symm (escapeChar_ne_quote _ _ _)
  | cons c s ih =>
      rw [escape, List.flatMap_cons, List.append_assoc] at same
      cases t with
      | nil => exact absurd same (escapeChar_ne_quote _ _ _)
      | cons d t =>
          rw [escape, List.flatMap_cons, List.append_assoc] at same
          have read := congrArg readChar same
          rw [readChar_escapeChar, readChar_escapeChar] at read
          obtain ⟨rfl, rest⟩ := Prod.mk.inj (Option.some.inj read)
          obtain ⟨rfl, rfl⟩ := ih rest
          exact ⟨rfl, rfl⟩

theorem quote_inj {s t : String} {r r' : List Char} (same : quote s ++ r = quote t ++ r') :
    s = t ∧ r = r' := by
  simp only [quote, List.cons_append, List.append_assoc, List.nil_append] at same
  obtain ⟨text, rest⟩ := escape_inj (List.cons.inj same).2
  exact ⟨String.toList_inj.mp text, rest⟩

theorem elements_cons (s : String) (l : List String) :
    elements (s :: l) = quote s ++ if l = [] then [] else ',' :: elements l := by
  cases l <;> simp [elements]

theorem elements_inj {l m : List String} {r r' : List Char}
    (same : elements l ++ ']' :: r = elements m ++ ']' :: r') : l = m ∧ r = r' := by
  induction l generalizing m with
  | nil =>
      cases m with
      | nil => simpa [elements] using same
      | cons t m =>
          rw [elements_cons] at same
          simp [elements, quote] at same
  | cons s l ih =>
      cases m with
      | nil =>
          rw [elements_cons] at same
          simp [elements, quote] at same
      | cons t m =>
          rw [elements_cons, elements_cons, List.append_assoc, List.append_assoc] at same
          obtain ⟨rfl, rest⟩ := quote_inj same
          by_cases last : l = [] <;> by_cases last' : m = []
          · simpa [last, last'] using rest
          · simp [last, last'] at rest
          · simp [last, last'] at rest
          · rw [if_neg last, if_neg last'] at rest
            obtain ⟨rfl, rfl⟩ := ih (List.cons.inj rest).2
            exact ⟨rfl, rfl⟩

theorem array_inj {l m : List String} {r r' : List Char} (same : array l ++ r = array m ++ r') :
    l = m ∧ r = r' := by
  simp only [array, List.cons_append, List.append_assoc, List.nil_append] at same
  exact elements_inj (List.cons.inj same).2

end JsonText
