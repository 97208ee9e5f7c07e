import BrokerMcp.Config.EnvVars
import Mathlib.Data.List.TakeWhile

namespace BrokerMcp.Proof.Config
open BrokerMcp.Config
open Text (Bytes)

def IsName (name : Bytes) : Prop := name ≠ [] ∧ ∀ b ∈ name, isNameByte b = true

def Occurs (name s : Bytes) : Prop :=
  IsName name ∧ ∃ before after, s = before ++ (reference name ++ after)

inductive Trimmed : Bytes → Bytes → Prop where
  | crlf {v : Bytes} : Trimmed (v ++ [0x0d, 0x0a]) v
  | lf {v : Bytes} (alone : ¬ [0x0d] <:+ v) : Trimmed (v ++ [0x0a]) v
  | cr {v : Bytes} : Trimmed (v ++ [0x0d]) v
  | none {v : Bytes} (noLf : ¬ [0x0a] <:+ v) (noCr : ¬ [0x0d] <:+ v) : Trimmed v v

/-- Every reference is replaced by the trimmed value of its variable, and what is put in is not looked
at again. -/
inductive Expands (env : Environment) : Bytes → Bytes → Prop where
  | plain {s : Bytes} (free : ∀ name, ¬ Occurs name s) : Expands env s s
  | reference {before name after raw value out : Bytes} (free : ∀ other, ¬ Occurs other before)
      (isName : IsName name) (isSet : env name = some raw) (trimmed : Trimmed raw value)
      (rest : Expands env after out) :
      Expands env (before ++ (reference name ++ after)) (before ++ (value ++ out))

theorem trimmed_trimOneTrailingLineBreak (raw : Bytes) :
    Trimmed raw (trimOneTrailingLineBreak raw) := by
  unfold trimOneTrailingLineBreak
  split_ifs with crlf single
  · obtain ⟨v, rfl⟩ := crlf
    have cut : (v ++ [0x0d, 0x0a]).dropLast.dropLast = v := by simp
    rw [cut]
    exact .crlf
  · rw [Bool.or_eq_true, decide_eq_true_eq, decide_eq_true_eq] at single
    rcases single with ⟨v, rfl⟩ | ⟨v, rfl⟩
    · rw [List.dropLast_concat]
      apply Trimmed.lf
      rintro ⟨u, rfl⟩
      exact crlf ⟨u, by simp⟩
    · rw [List.dropLast_concat]
      exact .cr
  · simp only [Bool.or_eq_true, decide_eq_true_eq, not_or] at single
    exact .none single.1 single.2

theorem reference_cons (name after : Bytes) :
    reference name ++ after = 0x24 :: (0x7b :: (name ++ 0x7d :: after)) := by
  simp [reference]

theorem reference?_reference {name after : Bytes} (isName : IsName name) :
    reference? (reference name ++ after) = some (name, after) := by
  obtain ⟨nonempty, bytes⟩ := isName
  have taken : (name ++ 0x7d :: after).takeWhile isNameByte = name := by
    rw [List.takeWhile_append_of_pos bytes, List.takeWhile_cons_of_neg (by decide), List.append_nil]
  have dropped : (name ++ 0x7d :: after).dropWhile isNameByte = 0x7d :: after := by
    rw [List.dropWhile_append_of_pos bytes, List.dropWhile_cons_of_neg (by decide)]
  simp [reference_cons, reference?, taken, dropped, nonempty]

theorem reference?_eq_some {s name after : Bytes} (found : reference? s = some (name, after)) :
    IsName name ∧ s = reference name ++ after := by
  unfold reference? at found
  split at found
  · rename_i rest
    split at found
    · rename_i tail dropped
      dsimp only at found
      split_ifs at found with empty
      obtain ⟨rfl, rfl⟩ := Prod.mk.inj (Option.some.inj found)
      have text := List.takeWhile_append_dropWhile (p := isNameByte) (l := rest)
      rw [dropped] at text
      refine ⟨⟨empty, fun b member => List.mem_takeWhile_imp member⟩, ?_⟩
      rw [reference_cons, text]
    · cases found
  · cases found

theorem reference_inj {name name' after after' : Bytes} (isName : IsName name) (isName' : IsName name')
    (same : reference name ++ after = reference name' ++ after') : name = name' ∧ after = after' := by
  have read := congrArg reference? same
  rw [reference?_reference isName, reference?_reference isName'] at read
  exact Prod.mk.inj (Option.some.inj read)

theorem eq_nil_of_reference {name before after : Bytes} (isName : IsName name)
    (split : reference name = before ++ 0x24 :: after) : before = [] := by
  cases before with
  | nil => rfl
  | cons b before =>
      have member : (0x24 : UInt8) ∈ 0x7b :: (name ++ [0x7d]) := by
        have tails := (List.cons.inj split).2
        rw [tails]
        simp
      have isByte : isNameByte 0x24 = false := by decide
      simp only [List.mem_cons, List.mem_append, List.not_mem_nil, or_false] at member
      rcases member with brace | inName | brace
      · exact absurd brace (by decide)
      · exact absurd (isName.2 _ inName) (by simp [isByte])
      · exact absurd brace (by decide)

/-- Where a `$` comes after the start of a reference, it comes after the whole reference. -/
theorem skip_reference {name after before rest : Bytes} (isName : IsName name)
    (split : reference name ++ after = before ++ 0x24 :: rest) :
    before = [] ∨ ∃ between, before = reference name ++ between ∧ after = between ++ 0x24 :: rest := by
  rcases List.append_eq_append_iff.mp split with ⟨between, eq, tail⟩ | ⟨inside, eq, tail⟩
  · exact .inr ⟨between, eq, tail⟩
  · cases inside with
    | nil => exact .inr ⟨[], by simpa using eq.symm, by simpa using tail.symm⟩
    | cons b inside =>
        obtain ⟨rfl, -⟩ := List.cons.inj tail
        exact .inl (eq_nil_of_reference isName eq)

theorem occurs_append_reference {name first before after : Bytes} (isName : IsName first)
    (free : ∀ other, ¬ Occurs other before) :
    Occurs name (before ++ (reference first ++ after)) ↔ name = first ∨ Occurs name after := by
  constructor
  · rintro ⟨isName', u, v, split⟩
    rcases List.append_eq_append_iff.mp split with ⟨w, rfl, tail⟩ | ⟨w, rfl, tail⟩
    · rw [reference_cons name] at tail
      rcases skip_reference isName tail with rfl | ⟨between, rfl, rest⟩
      · rw [List.nil_append, ← reference_cons] at tail
        exact .inl (reference_inj isName isName' tail).1.symm
      · rw [← reference_cons] at rest
        exact .inr ⟨isName', between, v, rest⟩
    · rw [reference_cons first] at tail
      rcases skip_reference isName' tail with rfl | ⟨between, rfl, rest⟩
      · rw [List.nil_append, ← reference_cons] at tail
        exact .inl (reference_inj isName' isName tail).1
      · exact absurd ⟨isName', u, between, rfl⟩ (free name)
  · rintro (rfl | ⟨isName', u, v, rfl⟩)
    · exact ⟨isName, before, after, rfl⟩
    · exact ⟨isName', before ++ (reference first ++ u), v, by simp⟩

theorem occurs_cons {name s : Bytes} {b : UInt8} (occurs : Occurs name (b :: s)) :
    (∃ after, b :: s = reference name ++ after) ∨ Occurs name s := by
  obtain ⟨isName, before, after, split⟩ := occurs
  cases before with
  | nil => exact .inl ⟨after, split⟩
  | cons c before => exact .inr ⟨isName, before, after, (List.cons.inj split).2⟩

theorem firstReference_eq_none {s : Bytes} (missed : firstReference s = none) (name : Bytes) :
    ¬ Occurs name s := by
  induction s with
  | nil =>
      rintro ⟨-, before, after, split⟩
      simp [reference] at split
  | cons b s ih =>
      rw [firstReference] at missed
      cases here : reference? (b :: s) with
      | some found => simp [here] at missed
      | none =>
          intro occurs
          rcases occurs_cons occurs with ⟨after, starts⟩ | later
          · rw [starts, reference?_reference occurs.1] at here
            cases here
          · exact ih (by simpa [here] using missed) later

theorem firstReference_eq_some {s before name after : Bytes}
    (found : firstReference s = some (before, name, after)) :
    s = before ++ (reference name ++ after) ∧ IsName name ∧ ∀ other, ¬ Occurs other before := by
  induction s generalizing before with
  | nil => cases found
  | cons b s ih =>
      rw [firstReference] at found
      cases here : reference? (b :: s) with
      | some hit =>
          simp only [here, Option.some.injEq, Prod.mk.injEq] at found
          obtain ⟨rfl, rfl, rfl⟩ := found
          obtain ⟨isName, text⟩ := reference?_eq_some here
          refine ⟨text, isName, ?_⟩
          rintro other ⟨-, u, v, split⟩
          simp [reference] at split
      | none =>
          simp only [here, Option.map_eq_some_iff, Prod.mk.injEq, Prod.exists] at found
          obtain ⟨u, n, rest, found, rfl, rfl, rfl⟩ := found
          obtain ⟨rfl, isName, free⟩ := ih found
          refine ⟨rfl, isName, ?_⟩
          intro other occurs
          rcases occurs_cons occurs with ⟨tail, starts⟩ | later
          · have text : b :: (u ++ (reference n ++ rest)) =
                reference other ++ (tail ++ (reference n ++ rest)) := by
              rw [← List.cons_append, starts, List.append_assoc]
            rw [text, reference?_reference occurs.1] at here
            cases here
          · exact free other later

theorem length_after {before name after : Bytes} :
    after.length + 1 ≤ (before ++ (reference name ++ after)).length := by
  simp [reference]
  omega

theorem mem_splitReferences_iff {fuel : Nat} {s name : Bytes} (enough : s.length ≤ fuel) :
    name ∈ (splitReferences fuel s).1.map Prod.snd ↔ Occurs name s := by
  induction fuel generalizing s with
  | zero =>
      obtain rfl := List.eq_nil_of_length_eq_zero (Nat.le_zero.mp enough)
      simp [splitReferences, firstReference_eq_none (s := []) rfl name]
  | succ fuel ih =>
      cases found : firstReference s with
      | none => simp [splitReferences, found, firstReference_eq_none found name]
      | some hit =>
          obtain ⟨before, first, after⟩ := hit
          obtain ⟨rfl, isName, free⟩ := firstReference_eq_some found
          have shorter : after.length ≤ fuel :=
            Nat.le_of_succ_le_succ (Nat.le_trans length_after enough)
          rw [occurs_append_reference isName free, ← ih shorter]
          simp [splitReferences, found]

theorem expands_splitReferences {env : Environment} {fuel : Nat} {s : Bytes}
    (enough : s.length ≤ fuel) (allSet : ∀ name, Occurs name s → env name ≠ none) :
    Expands env s (((splitReferences fuel s).1.flatMap fun (before, name) =>
      before ++ resolved env name) ++ (splitReferences fuel s).2) := by
  induction fuel generalizing s with
  | zero =>
      obtain rfl := List.eq_nil_of_length_eq_zero (Nat.le_zero.mp enough)
      exact .plain (firstReference_eq_none rfl)
  | succ fuel ih =>
      cases found : firstReference s with
      | none =>
          simp only [splitReferences, found, List.flatMap_nil, List.nil_append]
          exact .plain (firstReference_eq_none found)
      | some hit =>
          obtain ⟨before, name, after⟩ := hit
          obtain ⟨rfl, isName, free⟩ := firstReference_eq_some found
          have occurs (other : Bytes) :
              Occurs other (before ++ (reference name ++ after)) ↔ other = name ∨ Occurs other after :=
            occurs_append_reference isName free
          have shorter : after.length ≤ fuel :=
            Nat.le_of_succ_le_succ (Nat.le_trans length_after enough)
          obtain ⟨raw, isSet⟩ := Option.ne_none_iff_exists'.mp (allSet name ((occurs _).mpr (.inl rfl)))
          have rest := ih shorter fun other later => allSet other ((occurs _).mpr (.inr later))
          simp only [splitReferences, found, List.flatMap_cons, List.append_assoc, resolved, isSet]
          exact .reference free isName isSet (trimmed_trimOneTrailingLineBreak raw) rest

theorem mem_namesIn_iff {name s : Bytes} : name ∈ namesIn s ↔ Occurs name s :=
  mem_splitReferences_iff (Nat.le_refl _)

theorem hasReference_iff {s : Bytes} : hasReference s = true ↔ ∃ name, Occurs name s := by
  have nonempty : hasReference s = true ↔ ∃ name, name ∈ namesIn s := by
    simp [hasReference, List.eq_nil_iff_forall_not_mem]
  rw [nonempty]
  exact exists_congr fun _ => mem_namesIn_iff

theorem expands_replaceAll {env : Environment} {s : Bytes}
    (allSet : ∀ name, Occurs name s → env name ≠ none) :
    Expands env s (replaceAll (resolved env) s) :=
  expands_splitReferences (Nat.le_refl _) allSet

end BrokerMcp.Proof.Config
