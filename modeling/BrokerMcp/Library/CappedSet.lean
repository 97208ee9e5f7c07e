import BrokerMcp.Library.Cells
import BrokerMcp.Library.Counting
import BrokerMcp.Library.Trace
import Mathlib.Data.List.Nodup
import Mathlib.Data.List.Perm.Basic

/-!
# A capped set of keys under concurrent callers

Any number of callers share a set and a counter of its keys. A caller looks its key up; if the key is
not there it reads the counter, gives up at the cap, else stores the key if it is still not there, and
then counts it. Each of these is a step of its own, and the steps of the callers interleave. So the cap
can be passed, by as many keys as other callers are between their check and their count.
-/

namespace CappedSet
open Transition

/-- How a caller ended: the key was there, the cap was reached, another caller stored the key first,
or it stored the key itself. -/
inductive Outcome where
  | known
  | full
  | beaten
  | first
deriving DecidableEq

inductive Phase where
  | entered
  | missed
  | admitted
  | stored
  | done (outcome : Outcome)
deriving DecidableEq

structure Caller (κ : Type*) where
  key : κ
  phase : Phase

structure State (κ : Type*) where
  remembered : List κ
  count : Nat
  callers : List (Caller κ)

inductive Action (κ : Type*) where
  | enter (key : κ)
  | load (i : Nat)
  | check (i : Nat)
  | store (i : Nat)
  | add (i : Nat)

variable {κ : Type*}

def State.start : State κ := ⟨[], 0, []⟩

def State.standing (s : State κ) (i : Nat) (phase : Phase) : Option (Caller κ) :=
  s.callers[i]?.filter fun c => c.phase = phase

def State.move (s : State κ) (i : Nat) (c : Caller κ) (phase : Phase) : State κ :=
  { s with callers := s.callers.set i { c with phase := phase } }

def step [DecidableEq κ] (cap : Nat) (s : State κ) : Action κ → Option (State κ)
  | .enter key => some { s with callers := s.callers ++ [⟨key, .entered⟩] }
  | .load i => do
      let c ← s.standing i .entered
      return s.move i c (if c.key ∈ s.remembered then .done .known else .missed)
  | .check i => do
      let c ← s.standing i .missed
      return s.move i c (if s.count ≥ cap then .done .full else .admitted)
  | .store i => do
      let c ← s.standing i .admitted
      if c.key ∈ s.remembered then return s.move i c (.done .beaten)
      else return { s.move i c .stored with remembered := s.remembered ++ [c.key] }
  | .add i => do
      let c ← s.standing i .stored
      return { s.move i c (.done .first) with count := s.count + 1 }

def Action.entered : Action κ → List κ
  | .enter key => [key]
  | _ => []

def Phase.owns : Phase → Bool
  | .stored | .done .first => true
  | _ => false

def Phase.races : Phase → Bool
  | .admitted | .stored => true
  | _ => false

def Phase.uncounted : Phase → Bool
  | .stored => true
  | _ => false

def Caller.owned (c : Caller κ) : List κ := if c.phase.owns then [c.key] else []

def State.counting (s : State κ) (p : Phase → Bool) : Nat := s.callers.countP fun c => p c.phase

def State.racing (s : State κ) : Nat := s.counting Phase.races

structure Sound (s : State κ) : Prop where
  nodup : s.remembered.Nodup
  owners : (s.callers.flatMap Caller.owned).Perm s.remembered
  counted : s.count + s.counting Phase.uncounted = s.remembered.length

section callers

variable {s : State κ} {i j : Nat} {c d : Caller κ} {old new : Phase}

theorem sound_start : Sound (State.start : State κ) :=
  ⟨List.nodup_nil, List.Perm.refl _, rfl⟩

theorem counting_move (here : s.callers[i]? = some c) (stands : c.phase = old) (new : Phase)
    (p : Phase → Bool) :
    (s.move i c new).counting p + (p old).toNat = s.counting p + (p new).toNat := by
  rw [← stands]
  exact Counting.countP_set here { c with phase := new } fun c => p c.phase

theorem owned_of_owns (owns : c.phase.owns = true) : c.owned = [c.key] := if_pos owns

theorem Sound.owners_move (sound : Sound s) (here : s.callers[i]? = some c) (stands : c.phase = old)
    (owns : new.owns = old.owns) :
    ((s.move i c new).callers.flatMap Caller.owned).Perm s.remembered := by
  have same : ({ c with phase := new } : Caller κ).owned = c.owned := by
    simp [Caller.owned, stands, owns]
  rw [State.move, List.flatMap_def, Cells.map_set_same here same, ← List.flatMap_def]
  exact sound.owners

theorem Sound.move (sound : Sound s) (here : s.callers[i]? = some c) (stands : c.phase = old)
    (owns : new.owns = old.owns) (uncounted : new.uncounted = old.uncounted) :
    Sound (s.move i c new) := by
  refine ⟨sound.nodup, sound.owners_move here stands owns, ?_⟩
  have total := counting_move here stands new Phase.uncounted
  rw [uncounted] at total
  rw [Nat.add_right_cancel total]
  exact sound.counted

theorem Sound.store (sound : Sound s) (here : s.callers[i]? = some c) (stands : c.phase = .admitted)
    (absent : c.key ∉ s.remembered) :
    Sound { s.move i c .stored with remembered := s.remembered ++ [c.key] } := by
  refine ⟨?_, ?_, ?_⟩
  · simpa using sound.nodup.concat absent
  · have nothing : c.owned = [] := by simp [Caller.owned, stands, Phase.owns]
    have given := Cells.flatMap_set_perm (b := { c with phase := .stored }) here nothing
    exact given.trans (sound.owners.append_right _)
  · have total : _ + 0 = _ + 1 := counting_move here stands .stored Phase.uncounted
    have counted := sound.counted
    change s.count + (s.move i c .stored).counting Phase.uncounted = (s.remembered ++ [c.key]).length
    rw [List.length_append, List.length_singleton, ← counted, ← Nat.add_zero (State.counting _ _), total]
    rfl

theorem Sound.count (sound : Sound s) (here : s.callers[i]? = some c) (stands : c.phase = .stored) :
    Sound { s.move i c (.done .first) with count := s.count + 1 } := by
  refine ⟨sound.nodup, sound.owners_move here stands rfl, ?_⟩
  have total : _ + 1 = _ + 0 := counting_move here stands (.done .first) Phase.uncounted
  have counted := sound.counted
  change s.count + 1 + (s.move i c (.done .first)).counting Phase.uncounted = s.remembered.length
  omega

theorem Sound.exists_owner (sound : Sound s) {key : κ} (known : key ∈ s.remembered) :
    ∃ (i : Nat) (c : Caller κ), s.callers[i]? = some c ∧ c.key = key ∧ c.phase.owns = true := by
  obtain ⟨c, member, own⟩ := List.mem_flatMap.mp (sound.owners.mem_iff.mpr known)
  obtain ⟨i, here⟩ := List.getElem?_of_mem member
  unfold Caller.owned at own
  split_ifs at own with owns
  · exact ⟨i, c, here, (List.mem_singleton.mp own).symm, owns⟩
  · cases own

theorem Sound.owner_unique (sound : Sound s) (here : s.callers[i]? = some c)
    (there : s.callers[j]? = some d) (same : c.key = d.key) (mine : c.phase.owns = true)
    (yours : d.phase.owns = true) : i = j := by
  have nodup : (s.callers.flatMap Caller.owned).Nodup := sound.owners.nodup_iff.mpr sound.nodup
  apply Cells.eq_of_mem_flatMap nodup here there (b := c.key)
  · simp [owned_of_owns mine]
  · simp [owned_of_owns yours, same]

theorem Sound.mem_of_owner (sound : Sound s) (here : s.callers[i]? = some c)
    (mine : c.phase.owns = true) : c.key ∈ s.remembered := by
  apply sound.owners.mem_iff.mp
  exact List.mem_flatMap.mpr ⟨c, List.mem_of_getElem? here, by simp [owned_of_owns mine]⟩

theorem standing_bind {β : Type*} {f : Caller κ → Option β} {b : β}
    (taken : (s.standing i old).bind f = some b) :
    ∃ c, s.callers[i]? = some c ∧ c.phase = old ∧ f c = some b := by
  obtain ⟨c, found, result⟩ := Option.bind_eq_some_iff.mp taken
  obtain ⟨here, stands⟩ := Option.filter_eq_some_iff.mp found
  exact ⟨c, here, of_decide_eq_true stands, result⟩

end callers

inductive Moves (cap : Nat) (s : State κ) : Action κ → State κ → Prop where
  | enter {key : κ} : Moves cap s (.enter key) { s with callers := s.callers ++ [⟨key, .entered⟩] }
  | known {i : Nat} {c : Caller κ} (here : s.callers[i]? = some c) (stands : c.phase = .entered)
      (present : c.key ∈ s.remembered) : Moves cap s (.load i) (s.move i c (.done .known))
  | missed {i : Nat} {c : Caller κ} (here : s.callers[i]? = some c) (stands : c.phase = .entered)
      (absent : c.key ∉ s.remembered) : Moves cap s (.load i) (s.move i c .missed)
  | full {i : Nat} {c : Caller κ} (here : s.callers[i]? = some c) (stands : c.phase = .missed)
      (reached : cap ≤ s.count) : Moves cap s (.check i) (s.move i c (.done .full))
  | admitted {i : Nat} {c : Caller κ} (here : s.callers[i]? = some c) (stands : c.phase = .missed)
      (room : s.count < cap) : Moves cap s (.check i) (s.move i c .admitted)
  | beaten {i : Nat} {c : Caller κ} (here : s.callers[i]? = some c) (stands : c.phase = .admitted)
      (present : c.key ∈ s.remembered) : Moves cap s (.store i) (s.move i c (.done .beaten))
  | stored {i : Nat} {c : Caller κ} (here : s.callers[i]? = some c) (stands : c.phase = .admitted)
      (absent : c.key ∉ s.remembered) :
      Moves cap s (.store i) { s.move i c .stored with remembered := s.remembered ++ [c.key] }
  | counted {i : Nat} {c : Caller κ} (here : s.callers[i]? = some c) (stands : c.phase = .stored) :
      Moves cap s (.add i) { s.move i c (.done .first) with count := s.count + 1 }

variable {cap : Nat} {s t : State κ} {a : Action κ}

theorem step_moves [DecidableEq κ] (taken : step cap s a = some t) : Moves cap s a t := by
  cases a with
  | enter key =>
      obtain rfl := Option.some.inj taken
      exact .enter
  | load i =>
      obtain ⟨c, here, stands, taken⟩ := standing_bind taken
      obtain rfl := Option.some.inj taken
      split_ifs with present
      · exact .known here stands present
      · exact .missed here stands present
  | check i =>
      obtain ⟨c, here, stands, taken⟩ := standing_bind taken
      obtain rfl := Option.some.inj taken
      split_ifs with reached
      · exact .full here stands reached
      · exact .admitted here stands (by omega)
  | store i =>
      obtain ⟨c, here, stands, taken⟩ := standing_bind taken
      split_ifs at taken with present
      · obtain rfl := Option.some.inj taken
        exact .beaten here stands present
      · obtain rfl := Option.some.inj taken
        exact .stored here stands present
  | add i =>
      obtain ⟨c, here, stands, taken⟩ := standing_bind taken
      obtain rfl := Option.some.inj taken
      exact .counted here stands

theorem sound_step [DecidableEq κ] (sound : Sound s) (taken : step cap s a = some t) : Sound t := by
  cases step_moves taken with
  | enter =>
      refine ⟨sound.nodup, ?_, ?_⟩
      · simpa [Caller.owned, Phase.owns] using sound.owners
      · simpa [State.counting, Phase.uncounted] using sound.counted
  | known here stands => exact sound.move here stands rfl rfl
  | missed here stands => exact sound.move here stands rfl rfl
  | full here stands => exact sound.move here stands rfl rfl
  | admitted here stands => exact sound.move here stands rfl rfl
  | beaten here stands => exact sound.move here stands rfl rfl
  | stored here stands absent => exact sound.store here stands absent
  | counted here stands => exact sound.count here stands

theorem keys_step [DecidableEq κ] (taken : step cap s a = some t) :
    t.callers.map Caller.key = s.callers.map Caller.key ++ a.entered := by
  have moved {i : Nat} {c : Caller κ} {new : Phase} (here : s.callers[i]? = some c) :
      (s.move i c new).callers.map Caller.key = s.callers.map Caller.key ++ [] := by
    rw [List.append_nil]
    exact Cells.map_set_same here rfl
  cases step_moves taken with
  | enter => exact List.map_append
  | known here => exact moved here
  | missed here => exact moved here
  | full here => exact moved here
  | admitted here => exact moved here
  | beaten here => exact moved here
  | stored here => exact moved here
  | counted here => exact moved here

theorem done_step [DecidableEq κ] {i : Nat} {c : Caller κ} {outcome : Outcome}
    (here : s.callers[i]? = some c) (ended : c.phase = .done outcome)
    (taken : step cap s a = some t) : t.callers[i]? = some c := by
  have moved {j : Nat} {d : Caller κ} {old new : Phase} (there : s.callers[j]? = some d)
      (stands : d.phase = old) (active : old ≠ .done outcome) :
      (s.move j d new).callers[i]? = some c := by
    have other : i ≠ j := by
      rintro rfl
      obtain rfl := Option.some.inj (here.symm.trans there)
      exact active (stands.symm.trans ended)
    rw [State.move, Cells.getElem?_set_of_some there, if_neg other, here]
  cases step_moves taken with
  | enter => exact (List.getElem?_append_left (Cells.lt_of_some here)).trans here
  | known there stands => exact moved there stands (by simp)
  | missed there stands => exact moved there stands (by simp)
  | full there stands => exact moved there stands (by simp)
  | admitted there stands => exact moved there stands (by simp)
  | beaten there stands => exact moved there stands (by simp)
  | stored there stands => exact moved there stands (by simp)
  | counted there stands => exact moved there stands (by simp)

def Bounded (cap more : Nat) (s : State κ) : Prop := s.count + s.racing ≤ cap + more

section racing

variable {more : Nat}

theorem Bounded.move {i : Nat} {c : Caller κ} {old new : Phase} (bounded : Bounded cap more s)
    (here : s.callers[i]? = some c) (stands : c.phase = old) (same : new.races = old.races) :
    Bounded cap more (s.move i c new) := by
  have moved := counting_move here stands new Phase.races
  rw [same] at moved
  rw [Bounded, State.racing, Nat.add_right_cancel moved]
  exact bounded

theorem bounded_step [DecidableEq κ] (bounded : Bounded cap more s)
    (few : ∀ i, a = .check i → s.racing ≤ more) (taken : step cap s a = some t) :
    Bounded cap more t := by
  have start : s.count + s.counting Phase.races ≤ cap + more := bounded
  cases step_moves taken with
  | enter => simpa [Bounded, State.racing, State.counting, Phase.races] using bounded
  | known here stands => exact bounded.move here stands rfl
  | missed here stands => exact bounded.move here stands rfl
  | full here stands => exact bounded.move here stands rfl
  | @admitted i c here stands room =>
      -- one more caller races; the counter is below the cap, and the others are within `more`
      have moved : _ + 0 = _ + 1 := counting_move here stands .admitted Phase.races
      have others : s.counting Phase.races ≤ more := few i rfl
      change s.count + (s.move i c .admitted).counting Phase.races ≤ cap + more
      omega
  | @beaten i c here stands =>
      have moved : _ + 1 = _ + 0 := counting_move here stands (.done .beaten) Phase.races
      change s.count + (s.move i c (.done .beaten)).counting Phase.races ≤ cap + more
      omega
  | stored here stands => exact bounded.move here stands rfl
  | @counted i c here stands =>
      have moved : _ + 1 = _ + 0 := counting_move here stands (.done .first) Phase.races
      change s.count + 1 + (s.move i c (.done .first)).counting Phase.races ≤ cap + more
      omega

theorem Sound.length_le (sound : Sound s) (bounded : Bounded cap more s) :
    s.remembered.length ≤ cap + more := by
  have fewer : s.counting Phase.uncounted ≤ s.counting Phase.races := by
    apply List.countP_mono_left
    intro c _
    cases c.phase <;> simp [Phase.uncounted, Phase.races]
  have counted := sound.counted
  have total : s.count + s.counting Phase.races ≤ cap + more := bounded
  omega

end racing

/-- The key is there, and the callers from the `n`th on find it. -/
structure Late (n : Nat) (key : κ) (s : State κ) : Prop where
  known : key ∈ s.remembered
  finds : ∀ (i : Nat) (c : Caller κ), s.callers[i]? = some c → n ≤ i → c.key = key →
    c.phase = .entered ∨ c.phase = .done .known

section late

variable {n i : Nat} {key : κ} {c : Caller κ} {old new : Phase}

theorem Late.move (late : Late n key s) (here : s.callers[i]? = some c)
    (finds : n ≤ i → c.key = key → new = .entered ∨ new = .done .known) :
    Late n key (s.move i c new) :=
  ⟨late.known, Cells.forall_set here late.finds finds⟩

theorem Late.move_past (late : Late n key s) (here : s.callers[i]? = some c) (stands : c.phase = old)
    (past : old ≠ .entered ∧ old ≠ .done .known) (new : Phase) : Late n key (s.move i c new) := by
  apply late.move here
  intro isLate same
  rcases late.finds i c here isLate same with entered | known
  · exact absurd (stands.symm.trans entered) past.1
  · exact absurd (stands.symm.trans known) past.2

theorem late_step [DecidableEq κ] (late : Late n key s) (taken : step cap s a = some t) :
    Late n key t := by
  cases step_moves taken with
  | enter => exact ⟨late.known, Cells.forall_snoc late.finds fun _ _ => .inl rfl⟩
  | known here stands => exact late.move here fun _ _ => .inr rfl
  | missed here stands absent =>
      apply late.move here
      intro _ same
      exact absurd (same ▸ late.known) absent
  | full here stands => exact late.move_past here stands (by decide) _
  | admitted here stands => exact late.move_past here stands (by decide) _
  | beaten here stands => exact late.move_past here stands (by decide) _
  | stored here stands =>
      have moved := late.move_past here stands (by decide) .stored
      exact ⟨List.mem_append_left _ moved.known, moved.finds⟩
  | counted here stands =>
      have moved := late.move_past here stands (by decide) (.done .first)
      exact ⟨moved.known, moved.finds⟩

theorem late_start (known : key ∈ s.remembered) : Late s.callers.length key s := by
  refine ⟨known, ?_⟩
  intro i c here outside
  exact absurd (Cells.lt_of_some here) (by omega)

end late

end CappedSet
