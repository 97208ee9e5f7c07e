import Mathlib.Data.List.Basic
import Mathlib.Logic.Function.Basic

/-!
# Text with holes

A template is a text with named holes, written in braces. Replacing one name after the other fills it, in
whatever order: as long as no value has a brace in it, a value neither makes nor completes a hole. If
there is a separator between any two holes and none in a value, the values can be read back.
-/

namespace Holes

/-- Replaces each occurrence of `old`, from left to right; `skip` characters belong to the last one. -/
def replaceFrom (old new : List Char) : Nat → List Char → List Char
  | _, [] => []
  | skip + 1, _ :: rest => replaceFrom old new skip rest
  | 0, c :: rest =>
      if old <+: c :: rest then new ++ replaceFrom old new (old.length - 1) rest
      else c :: replaceFrom old new 0 rest

def replaceAll (old new text : List Char) : List Char := replaceFrom old new 0 text

inductive Symbol where
  | text (c : Char)
  | hole (name : String)
deriving DecidableEq

def braced (name : String) : List Char := '{' :: (name.toList ++ ['}'])

def Symbol.fill (values : String → Option (List Char)) : Symbol → List Char
  | .text c => [c]
  | .hole name => (values name).getD (braced name)

def render (values : String → Option (List Char)) (template : List Symbol) : List Char :=
  template.flatMap (Symbol.fill values)

def Plain (text : List Char) : Prop := '{' ∉ text ∧ '}' ∉ text

instance (text : List Char) : Decidable (Plain text) := inferInstanceAs (Decidable (_ ∧ _))

def Symbol.Plain : Symbol → Prop
  | .text c => Holes.Plain [c]
  | .hole name => Holes.Plain name.toList

instance : DecidablePred Symbol.Plain
  | .text _ => inferInstanceAs (Decidable (Holes.Plain _))
  | .hole _ => inferInstanceAs (Decidable (Holes.Plain _))

def WellFormed (template : List Symbol) : Prop := ∀ s ∈ template, s.Plain

instance (template : List Symbol) : Decidable (WellFormed template) :=
  inferInstanceAs (Decidable (∀ s ∈ template, s.Plain))

section Replacing

variable {old new : List Char}

theorem replaceFrom_skip (passed rest : List Char) :
    replaceFrom old new passed.length (passed ++ rest) = replaceFrom old new 0 rest := by
  induction passed with
  | nil => rfl
  | cons c passed ih => exact ih

theorem prefix_braced {key name : String} (plain : Plain key.toList) (plain' : Plain name.toList)
    (rest : List Char) : braced key <+: braced name ++ rest ↔ key = name := by
  have names : ∀ k n : List Char, '}' ∉ k → '}' ∉ n → (k ++ ['}'] <+: n ++ '}' :: rest ↔ k = n) := by
    intro k
    induction k with
    | nil =>
        intro n _ free
        cases n with
        | nil => simp
        | cons c n =>
            have apart : '}' ≠ c := fun same => free (same ▸ List.mem_cons_self)
            simp [apart]
    | cons d k ih =>
        intro n free free'
        cases n with
        | nil =>
            have apart : d ≠ '}' := fun same => free (same ▸ List.mem_cons_self)
            simp [apart]
        | cons c n =>
            have tails := ih n (fun member => free (.tail _ member)) fun member =>
              free' (.tail _ member)
            simp [List.cons_prefix_cons, tails]
  rw [braced, braced, List.cons_append, List.cons_prefix_cons, List.append_assoc, List.singleton_append,
    names _ _ plain.2 plain'.2, String.toList_inj]
  simp

theorem replaceFrom_text {key : String} {text : List Char} (plain : '{' ∉ text) (rest : List Char) :
    replaceFrom (braced key) new 0 (text ++ rest) = text ++ replaceFrom (braced key) new 0 rest := by
  induction text with
  | nil => rfl
  | cons c text ih =>
      obtain ⟨apart, plain⟩ := not_or.mp (mt List.mem_cons.mpr plain)
      rw [List.cons_append, replaceFrom, if_neg, ih plain, List.cons_append]
      rw [braced, List.cons_prefix_cons]
      exact fun ⟨same, _⟩ => apart same

theorem replaceFrom_braced {key name : String} (plain : Plain key.toList)
    (plain' : Plain name.toList) (rest : List Char) :
    replaceFrom (braced key) new 0 (braced name ++ rest) =
      (if key = name then new else braced name) ++ replaceFrom (braced key) new 0 rest := by
  have first : braced name ++ rest = '{' :: (name.toList ++ ['}'] ++ rest) := rfl
  by_cases same : key = name
  · have here := (prefix_braced plain plain' rest).mpr same
    rw [if_pos same, first, replaceFrom, ← first, if_pos here]
    subst same
    congr 1
    have length : (braced key).length - 1 = (key.toList ++ ['}']).length := rfl
    rw [length, replaceFrom_skip]
  · have other := mt (prefix_braced plain plain' rest).mp same
    rw [if_neg same, first, replaceFrom, ← first, if_neg other, replaceFrom_text]
    · rfl
    · simpa using plain'.1

end Replacing

section Filling

variable {values : String → Option (List Char)} {template : List Symbol}

theorem render_cons (s : Symbol) (rest : List Symbol) :
    render values (s :: rest) = s.fill values ++ render values rest := rfl

theorem render_congr {others : String → Option (List Char)}
    (same : ∀ name, .hole name ∈ template → values name = others name) :
    render values template = render others template := by
  induction template with
  | nil => rfl
  | cons s rest ih =>
      rw [render_cons, render_cons, ih fun name member => same name (.tail _ member)]
      congr 1
      cases s with
      | text c => rfl
      | hole name => rw [Symbol.fill, Symbol.fill, same name (.head _)]

theorem fill_plain (wellFormed : WellFormed template)
    (plain : ∀ name value, values name = some value → Plain value) {s : Symbol} (member : s ∈ template) :
    (∃ name, s = .hole name ∧ values name = none ∧ Plain name.toList) ∨ Plain (s.fill values) := by
  have shape := wellFormed s member
  cases s with
  | text c => exact .inr shape
  | hole name =>
      cases found : values name with
      | none => exact .inl ⟨name, rfl, found, shape⟩
      | some value =>
          rw [Symbol.fill, found]
          exact .inr (plain name value found)

section Steps

variable (wellFormed : WellFormed template)
  (plain : ∀ name value, values name = some value → Plain value) {key : String}
  (named : Plain key.toList)
include wellFormed plain named

/-- Replacing a name that is not filled yet fills its holes and no others. -/
theorem replaceAll_render (unfilled : values key = none) (new : List Char) :
    replaceAll (braced key) new (render values template) =
      render (Function.update values key (some new)) template := by
  rw [replaceAll]
  induction template with
  | nil => rfl
  | cons s rest ih =>
      obtain ⟨first, later⟩ := List.forall_mem_cons.mp wellFormed
      rw [render_cons, render_cons, ← ih later]
      rcases fill_plain wellFormed plain (.head _) with ⟨name, rfl, missing, shape⟩ | shape
      · have here : Symbol.fill values (.hole name) = braced name := by
          rw [Symbol.fill, missing, Option.getD_none]
        rw [here, replaceFrom_braced named shape, Symbol.fill, Function.update_apply]
        congr 1
        by_cases same : key = name
        · rw [if_pos same, if_pos same.symm, Option.getD_some]
        · rw [if_neg same, if_neg (Ne.symm same), missing, Option.getD_none]
      · rw [replaceFrom_text shape.1]
        congr 1
        cases s with
        | text c => rfl
        | hole name =>
            rw [Symbol.fill, Symbol.fill, Function.update_apply]
            split_ifs with same
            · -- An unfilled hole is in braces, which plain text is not.
              rw [Symbol.fill, same, unfilled] at shape
              exact absurd List.mem_cons_self shape.1
            · rfl

theorem braced_infix_render (unfilled : values key = none) :
    braced key <:+: render values template ↔ .hole key ∈ template := by
  have passed : ∀ {text rest : List Char}, '{' ∉ text →
      (braced key <:+: text ++ rest ↔ braced key <:+: rest) := by
    intro text rest free
    induction text with
    | nil => rfl
    | cons c text ih =>
        obtain ⟨apart, free⟩ := not_or.mp (mt List.mem_cons.mpr free)
        rw [List.cons_append, List.infix_cons_iff, ih free, braced, List.cons_prefix_cons]
        simp [apart]
  induction template with
  | nil => simp [render, braced]
  | cons s rest ih =>
      have tail : braced key <:+: render values rest ↔ .hole key ∈ rest :=
        ih (List.forall_mem_cons.mp wellFormed).2
      rw [render_cons, List.mem_cons]
      rcases fill_plain wellFormed plain (.head _) with ⟨name, rfl, missing, shape⟩ | shape
      · have here : Symbol.fill values (.hole name) ++ render values rest =
            '{' :: (name.toList ++ ['}'] ++ render values rest) := by
          rw [Symbol.fill, missing, Option.getD_none]
          rfl
        have free : '{' ∉ name.toList ++ ['}'] := by simpa using shape.1
        have first := prefix_braced named shape (render values rest)
        rw [here, List.infix_cons_iff, passed free, tail, Symbol.hole.injEq, ← first]
        rfl
      · rw [passed shape.1, tail]
        refine ⟨.inr, fun member => member.resolve_left ?_⟩
        rintro rfl
        rw [Symbol.fill, unfilled] at shape
        exact shape.1 List.mem_cons_self

end Steps

def Symbol.isHole : Symbol → Bool
  | .hole _ => true
  | .text _ => false

def Symbol.separates (sep : Char → Bool) : Symbol → Bool
  | .text c => sep c
  | .hole _ => false

def pieces (sep : Char → Bool) (template : List Symbol) : List (List Symbol) :=
  template.splitOnP (Symbol.separates sep)

def Separated (sep : Char → Bool) (template : List Symbol) : Prop :=
  ∀ piece ∈ pieces sep template, piece.countP Symbol.isHole ≤ 1

instance (sep : Char → Bool) (template : List Symbol) : Decidable (Separated sep template) :=
  inferInstanceAs (Decidable (∀ piece ∈ pieces sep template, piece.countP Symbol.isHole ≤ 1))

def FilledFree (sep : Char → Bool) (values : String → Option (List Char)) (template : List Symbol) :
    Prop :=
  ∀ name, .hole name ∈ template → ∃ value, values name = some value ∧ ∀ c ∈ value, sep c = false

variable {sep : Char → Bool}

theorem FilledFree.tail {s : Symbol} {rest : List Symbol} (free : FilledFree sep values (s :: rest)) :
    FilledFree sep values rest := fun name member => free name (.tail _ member)

theorem splitOnP_append_free {text : List Char} (free : ∀ c ∈ text, sep c = false) (rest : List Char) :
    (text ++ rest).splitOnP sep = (rest.splitOnP sep).modifyHead (text ++ ·) := by
  induction text with
  | nil =>
      rw [List.nil_append]
      cases rest.splitOnP sep <;> rfl
  | cons c text ih =>
      obtain ⟨first, later⟩ := List.forall_mem_cons.mp free
      rw [List.cons_append, List.splitOnP_cons_eq_if_modifyHead, first, ih later]
      cases rest.splitOnP sep <;> rfl

theorem map_modifyHead {α β : Type*} {f : α → β} {g : α → α} {h : β → β}
    (same : ∀ x, f (g x) = h (f x)) (l : List α) :
    (l.modifyHead g).map f = (l.map f).modifyHead h := by
  cases l with
  | nil => rfl
  | cons x l => simp [same]

theorem splitOnP_render (free : FilledFree sep values template) :
    (render values template).splitOnP sep = (pieces sep template).map (render values) := by
  induction template with
  | nil => rfl
  | cons s rest ih =>
      have rest := ih free.tail
      rw [pieces, List.splitOnP_cons_eq_if_modifyHead, render_cons]
      cases s with
      | text c =>
          rw [Symbol.fill, List.singleton_append, List.splitOnP_cons_eq_if_modifyHead, rest,
            Symbol.separates]
          split_ifs
          · rfl
          · refine (map_modifyHead (fun piece => ?_) _).symm
            rw [render_cons, Symbol.fill, List.singleton_append]
      | hole name =>
          obtain ⟨value, found, clear⟩ := free name (.head _)
          have fill : Symbol.fill values (.hole name) = value := by
            rw [Symbol.fill, found, Option.getD_some]
          rw [fill, splitOnP_append_free clear, rest, Symbol.separates, if_neg Bool.false_ne_true]
          refine (map_modifyHead (fun piece => ?_) _).symm
          rw [render_cons, fill]

theorem exists_piece {name : String} (member : .hole name ∈ template) :
    ∃ piece ∈ pieces sep template, .hole name ∈ piece := by
  induction template with
  | nil => cases member
  | cons s rest ih =>
      rw [pieces, List.splitOnP_cons_eq_if_modifyHead, ← pieces]
      obtain ⟨first, others, split⟩ := List.exists_cons_of_ne_nil
        (List.splitOnP_ne_nil (Symbol.separates sep) rest)
      rw [← pieces] at split
      rcases List.mem_cons.mp member with rfl | later
      · rw [Symbol.separates, if_neg Bool.false_ne_true, split]
        exact ⟨_, .head _, .head _⟩
      · obtain ⟨piece, listed, inside⟩ := ih later
        rw [split] at listed ⊢
        split_ifs
        · exact ⟨piece, .tail _ listed, inside⟩
        · rcases List.mem_cons.mp listed with rfl | listed
          · exact ⟨_, .head _, .tail _ inside⟩
          · exact ⟨piece, .tail _ listed, inside⟩

theorem mem_of_mem_piece {piece : List Symbol} (listed : piece ∈ pieces sep template) {s : Symbol}
    (inside : s ∈ piece) : s ∈ template := by
  induction template generalizing piece with
  | nil =>
      obtain rfl := List.mem_singleton.mp listed
      exact inside
  | cons t rest ih =>
      rw [pieces, List.splitOnP_cons_eq_if_modifyHead, ← pieces] at listed
      obtain ⟨first, others, split⟩ := List.exists_cons_of_ne_nil
        (List.splitOnP_ne_nil (Symbol.separates sep) rest)
      rw [← pieces] at split
      rw [split] at listed ih
      split_ifs at listed
      · rcases List.mem_cons.mp listed with rfl | listed
        · cases inside
        · exact .tail _ (ih listed inside)
      · rcases List.mem_cons.mp listed with rfl | listed
        · rcases List.mem_cons.mp inside with rfl | inside
          · exact .head _
          · exact .tail _ (ih (.head _) inside)
        · exact .tail _ (ih (.tail _ listed) inside)

theorem render_piece_injective {others : String → Option (List Char)} {piece : List Symbol}
    (one : piece.countP Symbol.isHole ≤ 1) {name : String} (inside : .hole name ∈ piece)
    (same : render values piece = render others piece) :
    (values name).getD (braced name) = (others name).getD (braced name) := by
  induction piece with
  | nil => cases inside
  | cons s rest ih =>
      rw [render_cons, render_cons] at same
      rcases List.mem_cons.mp inside with rfl | later
      · have none : ∀ other, .hole other ∉ rest := by
          intro other member
          have counted : 0 < rest.countP Symbol.isHole := List.countP_pos_iff.mpr ⟨_, member, rfl⟩
          rw [List.countP_cons_of_pos rfl] at one
          omega
        rw [render_congr fun other member => absurd member (none other)] at same
        exact List.append_cancel_right same
      · cases s with
        | text c => exact ih (by simpa [Symbol.isHole] using one) later (List.append_cancel_left same)
        | hole other =>
            have counted : 0 < rest.countP Symbol.isHole := List.countP_pos_iff.mpr ⟨_, later, rfl⟩
            rw [List.countP_cons_of_pos rfl] at one
            omega

/-- With a separator between any two holes, different values give different texts. -/
theorem render_injective {others : String → Option (List Char)} (separated : Separated sep template)
    (free : FilledFree sep values template) (free' : FilledFree sep others template)
    (same : render values template = render others template) :
    ∀ name, .hole name ∈ template → values name = others name := by
  intro name member
  have split := congrArg (List.splitOnP sep) same
  rw [splitOnP_render free, splitOnP_render free', List.map_inj_left] at split
  obtain ⟨piece, listed, inside⟩ := @exists_piece template sep name member
  have equal := render_piece_injective (separated piece listed) inside (split piece listed)
  obtain ⟨value, found, -⟩ := free name member
  obtain ⟨other, found', -⟩ := free' name member
  rw [found, found', Option.getD_some, Option.getD_some] at equal
  rw [found, found', equal]

end Filling

end Holes
