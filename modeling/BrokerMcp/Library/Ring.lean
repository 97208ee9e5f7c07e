import BrokerMcp.Library.Trace
import Mathlib.Data.List.Chain
import Mathlib.Data.List.Nodup

namespace RoundRobin

variable {α : Type*}

/-- One change of the ring, with the member it serves and the members it could have served. -/
inductive Turn (servable : α → Prop) : List α → Option α → List α → Prop where
  | arrive {ring : List α} {a : α} (absent : a ∉ ring) : Turn servable ring none (ring ++ [a])
  | leave {ring ring' : List α} (stay : ring'.Sublist ring) : Turn servable ring none ring'
  | serve {a : α} {passed behind : List α} (skipped : ∀ b ∈ passed, ¬ servable b)
      (eligible : servable a) :
      Turn servable (passed ++ a :: behind) (some a) (behind ++ (passed ++ [a]))

theorem Turn.nodup {servable : α → Prop} {ring next : List α} {chosen : Option α}
    (turn : Turn servable ring chosen next) (nodup : ring.Nodup) : next.Nodup := by
  cases turn with
  | arrive absent => simpa using nodup.concat absent
  | leave stay => exact nodup.sublist stay
  | @serve a passed behind _ _ =>
      have moved : (behind ++ (passed ++ [a])).Perm (passed ++ a :: behind) := by
        rw [List.append_cons passed a behind]
        exact List.perm_append_comm
      exact moved.nodup_iff.mpr nodup

theorem Turn.mem_of_served {servable : α → Prop} {ring next : List α} {a b : α}
    (turn : Turn servable ring (some a) next) (member : b ∈ ring) : b ∈ next := by
  cases turn with
  | serve => simpa [or_comm, or_assoc, or_left_comm] using member

structure Round (α : Type*) where
  ring : List α
  servable : α → Prop
  chosen : Option α
  next : List α

inductive Rounds : List α → List (Round α) → List α → Prop where
  | nil {ring : List α} : Rounds ring [] ring
  | cons {servable : α → Prop} {ring middle last : List α} {chosen : Option α}
      {rounds : List (Round α)} : Turn servable ring chosen middle → Rounds middle rounds last →
      Rounds ring (⟨ring, servable, chosen, middle⟩ :: rounds) last

def served (rounds : List (Round α)) : List α :=
  rounds.filterMap Round.chosen

section Projection

variable {σ β : Type*} {step : σ → β → Option σ} {ring : σ → List α} {servable : σ → α → Prop}
  {chosen : σ → β → Option α}

def roundOf (step : σ → β → Option σ) (ring : σ → List α) (servable : σ → α → Prop)
    (chosen : σ → β → Option α) (p : σ × β) : Round α :=
  ⟨ring p.1, servable p.1, chosen p.1 p.2, ((step p.1 p.2).map ring).getD []⟩

theorem rounds_of_run (Inv : σ → Prop) {s t : σ} {history : List (σ × β)}
    (run : Transition.Run step s history t) (start : Inv s)
    (preserved : ∀ s a t, Inv s → step s a = some t → Inv t)
    (turn : ∀ s a t, Inv s → step s a = some t →
      Turn (servable s) (ring s) (chosen s a) (ring t)) :
    Rounds (ring s) (history.map (roundOf step ring servable chosen)) (ring t) := by
  induction run with
  | nil => exact .nil
  | @cons s t u a history taken _ ih =>
      have next : roundOf step ring servable chosen (s, a) =
          ⟨ring s, servable s, chosen s a, ring t⟩ := by
        simp [roundOf, taken]
      rw [List.map_cons, next]
      exact .cons (turn s a t start taken) (ih (preserved s a t start taken))

theorem served_roundOf (history : List (σ × β)) :
    served (history.map (roundOf step ring servable chosen)) =
      history.filterMap fun p => chosen p.1 p.2 := by
  simp [served, List.filterMap_map, Function.comp_def, roundOf]

end Projection

variable [DecidableEq α]

def ahead (ring : List α) (a : α) : List α :=
  ring.takeWhile (· ≠ a)

theorem ahead_append_of_mem {ring rest : List α} {a : α} (member : a ∈ ring) :
    ahead (ring ++ rest) a = ahead ring a := by
  induction ring with
  | nil => cases member
  | cons b ring ih =>
      by_cases same : b = a
      · simp [ahead, same]
      · have member' : a ∈ ring := (List.mem_cons.mp member).resolve_left (Ne.symm same)
        simpa [ahead, same] using ih member'

theorem ahead_append_of_notMem {passed rest : List α} {a : α} (absent : a ∉ passed) :
    ahead (passed ++ rest) a = passed ++ ahead rest a := by
  apply List.takeWhile_append_of_pos
  intro b member
  simpa using fun same : b = a => absent (same ▸ member)

theorem ahead_cons_of_ne {ring : List α} {a b : α} (different : b ≠ a) :
    ahead (b :: ring) a = b :: ahead ring a := by
  simp [ahead, different]

theorem ahead_split {passed behind : List α} {a : α} (nodup : (passed ++ a :: behind).Nodup) :
    ahead (passed ++ a :: behind) a = passed := by
  have absent : a ∉ passed :=
    fun member => (List.nodup_append.mp nodup).2.2 a member a (.head _) rfl
  rw [ahead_append_of_notMem absent]
  simp [ahead]

theorem mem_ahead_of_passed {passed behind : List α} {a b : α} (absent : a ∉ passed)
    (different : b ≠ a) : b ∈ ahead (passed ++ b :: behind) a := by
  rw [ahead_append_of_notMem absent, ahead_cons_of_ne different]
  simp

theorem ahead_sublist {ring ring' : List α} {a : α} (stay : ring'.Sublist ring)
    (nodup : ring.Nodup) (member : a ∈ ring') : (ahead ring' a).Sublist (ahead ring a) := by
  induction stay with
  | slnil => exact List.Sublist.refl _
  | cons b stay ih =>
      obtain ⟨fresh, nodup⟩ := List.nodup_cons.mp nodup
      have different : b ≠ a := fun same => fresh (same ▸ stay.subset member)
      rw [ahead_cons_of_ne different]
      exact (ih nodup member).cons b
  | cons_cons b stay ih =>
      by_cases same : b = a
      · simp [ahead, same]
      · rw [ahead_cons_of_ne same, ahead_cons_of_ne same]
        have member' := (List.mem_cons.mp member).resolve_left (Ne.symm same)
        exact (ih (List.nodup_cons.mp nodup).2 member').cons_cons b

/-- While `a` is in the ring and could be served, and until it is served, the members served were
in front of `a` at the start and keep their order: nobody is served twice, and nobody who arrived
later is served. -/
theorem bypass {ring last : List α} {rounds : List (Round α)} (run : Rounds ring rounds last)
    {a : α} (nodup : ring.Nodup) (waits : ∀ r ∈ rounds, a ∈ r.ring)
    (able : ∀ r ∈ rounds, r.chosen.isSome → r.servable a) :
    ((served rounds).takeWhile (· ≠ a)).Sublist (ahead ring a) := by
  induction run with
  | nil => exact List.nil_sublist _
  | @cons servable ring middle last chosen rounds turn rest ih =>
      have bound := ih (turn.nodup nodup) (fun r h => waits r (.tail _ h))
        (fun r h => able r (.tail _ h))
      have member : a ∈ ring := waits _ (.head _)
      have stays : served rounds = [] ∨ a ∈ middle := by
        cases rest with
        | nil => exact .inl rfl
        | cons => exact .inr (waits _ (.tail _ (.head _)))
      cases turn with
      | @arrive _ b absent =>
          rw [ahead_append_of_mem member] at bound
          exact bound
      | leave stay =>
          rcases stays with nobody | member'
          · have same : served (⟨ring, servable, none, middle⟩ :: rounds) = served rounds := rfl
            rw [same, nobody]
            exact List.nil_sublist _
          · exact bound.trans (ahead_sublist stay nodup member')
      | @serve b passed behind skipped eligible =>
          have absent : a ∉ passed := fun h => skipped a h (able _ (.head _) rfl)
          by_cases same : b = a
          · simp [served, same]
          · have member' : a ∈ behind := by simpa [absent, Ne.symm same] using member
            rw [ahead_append_of_mem member'] at bound
            have first (next : List α) :
                (served (⟨passed ++ b :: behind, servable, some b, next⟩ :: rounds)).takeWhile
                  (· ≠ a) = b :: (served rounds).takeWhile (· ≠ a) := by
              simp [served, same]
            rw [first, ahead_append_of_notMem absent, ahead_cons_of_ne same]
            exact (bound.cons_cons b).trans (List.sublist_append_right _ _)

def Precedes (a b : α) (ring : List α) : Prop :=
  a ∈ ring ∧ b ∉ ahead ring a

theorem Precedes.append {a b : α} {ring : List α} (precedes : Precedes a b ring)
    (rest : List α) : Precedes a b (ring ++ rest) := by
  refine ⟨List.mem_append_left _ precedes.1, ?_⟩
  rw [ahead_append_of_mem precedes.1]
  exact precedes.2

theorem Precedes.sublist {a b : α} {ring ring' : List α} (precedes : Precedes a b ring)
    (stay : ring'.Sublist ring) (nodup : ring.Nodup) (member : a ∈ ring') : Precedes a b ring' :=
  ⟨member, fun h => precedes.2 ((ahead_sublist stay nodup member).subset h)⟩

theorem Precedes.serve_other {a b c : α} {passed behind : List α}
    (precedes : Precedes a b (passed ++ c :: behind)) (absent : a ∉ passed) (different : c ≠ a) :
    Precedes a b (behind ++ (passed ++ [c])) := by
  obtain ⟨member, clear⟩ := precedes
  have member' : a ∈ behind := by simpa [absent, Ne.symm different] using member
  rw [ahead_append_of_notMem absent, ahead_cons_of_ne different] at clear
  refine ⟨List.mem_append_left _ member', ?_⟩
  rw [ahead_append_of_mem member']
  exact fun h => clear (by simp [h])

theorem Precedes.not_served {a b : α} {passed behind : List α}
    (precedes : Precedes a b (passed ++ b :: behind)) (absent : a ∉ passed) (different : b ≠ a) :
    False :=
  precedes.2 (mem_ahead_of_passed absent different)

def turns (a b : α) (rounds : List (Round α)) : List α :=
  (served rounds).filter fun c => c = a ∨ c = b

def other (a b c : α) : α :=
  if c = a then b else a

theorem other_choice (a b c : α) : other a b c = a ∨ other a b c = b := by
  unfold other
  split_ifs <;> simp

theorem other_ne {a b : α} (different : a ≠ b) (c : α) : other a b c ≠ c := by
  unfold other
  split_ifs with same
  · exact fun h => different (same.symm.trans h.symm)
  · exact Ne.symm same

def KeepsTurn (a b : α) (rounds : List (Round α)) : Prop :=
  ∀ before r after c, rounds = before ++ r :: after → (c = a ∨ c = b) → c ∈ r.ring → c ∉ r.next →
    turns a b after ≠ [] → ∀ d ∈ (turns a b before).getLast?, d = c

def Owes (a b : α) (prior : List (Round α)) (ring : List α) : Prop :=
  ∀ c ∈ (turns a b prior).getLast?, Precedes (other a b c) c ring

theorem turns_concat (a b : α) (prior : List (Round α)) (r : Round α) :
    turns a b (prior ++ [r]) =
      turns a b prior ++ r.chosen.toList.filter fun c => c = a ∨ c = b := by
  unfold turns served
  rw [List.filterMap_append, List.filter_append]
  cases chosen : r.chosen <;> simp [chosen]

theorem Turn.alternate {servable : α → Prop} {ring next : List α} {chosen : Option α}
    (turn : Turn servable ring chosen next) {a b : α} {prior : List (Round α)} (different : a ≠ b)
    (nodup : ring.Nodup) (owes : Owes a b prior ring)
    (keeps : ∀ c, c = a ∨ c = b → c ∈ ring → c ∉ next → ∀ d ∈ (turns a b prior).getLast?, d = c)
    (able : chosen.isSome → (servable a ∧ servable b) ∧ a ∈ ring ∧ b ∈ ring)
    (alternate : (turns a b prior).IsChain (· ≠ ·)) :
    Owes a b (prior ++ [⟨ring, servable, chosen, next⟩]) next ∧
      (turns a b (prior ++ [⟨ring, servable, chosen, next⟩])).IsChain (· ≠ ·) := by
  rw [Owes, turns_concat]
  cases turn with
  | arrive absent =>
      rw [Option.toList_none, List.filter_nil, List.append_nil]
      exact ⟨fun c last => (owes c last).append _, alternate⟩
  | leave stay =>
      rw [Option.toList_none, List.filter_nil, List.append_nil]
      refine ⟨fun c last => (owes c last).sublist stay nodup ?_, alternate⟩
      by_contra gone
      have kept := keeps _ (other_choice a b c) (owes c last).1 gone c last
      exact other_ne different c kept.symm
  | @serve c passed behind skipped eligible =>
      obtain ⟨⟨ableA, ableB⟩, memberA, memberB⟩ := able rfl
      have absent : ∀ d, d = a ∨ d = b → d ∉ passed := by
        rintro d (rfl | rfl)
        · exact fun h => skipped _ h ableA
        · exact fun h => skipped _ h ableB
      have member : ∀ d, d = a ∨ d = b → d ∈ passed ++ c :: behind := by
        rintro d (rfl | rfl)
        · exact memberA
        · exact memberB
      by_cases turn : c = a ∨ c = b
      · have one : (some c).toList.filter (fun d => d = a ∨ d = b) = [c] := by simp [turn]
        rw [one]
        constructor
        · intro d last
          rw [List.getLast?_concat, Option.mem_some_iff] at last
          subst last
          have waiting : other a b c ∈ behind := by
            have inside := member _ (other_choice a b c)
            simpa [absent _ (other_choice a b c), other_ne different c] using inside
          have fresh : c ∉ behind := (List.nodup_cons.mp (List.nodup_append.mp nodup).2.1).1
          refine Precedes.append ⟨waiting, fun h => fresh ?_⟩ _
          exact (List.takeWhile_sublist _).subset h
        · rw [List.isChain_append]
          refine ⟨alternate, List.isChain_singleton _, ?_⟩
          rintro d last e front rfl
          simp only [List.head?_cons, Option.mem_some_iff] at front
          subst front
          exact (owes c last).not_served (absent _ (other_choice a b c)) (other_ne different c).symm
      · have none : (some c).toList.filter (fun d => d = a ∨ d = b) = [] := by simpa using turn
        rw [none, List.append_nil]
        refine ⟨fun d last => (owes d last).serve_other (absent _ (other_choice a b d)) ?_,
          alternate⟩
        exact fun same => turn (same ▸ other_choice a b d)

theorem Rounds.turns_alternate {ring last : List α} {rounds : List (Round α)}
    (run : Rounds ring rounds last) {a b : α} (prior : List (Round α)) (different : a ≠ b)
    (nodup : ring.Nodup) (owes : Owes a b prior ring) (keeps : KeepsTurn a b (prior ++ rounds))
    (able : ∀ r ∈ rounds, r.chosen.isSome →
      (r.servable a ∧ r.servable b) ∧ a ∈ r.ring ∧ b ∈ r.ring)
    (alternate : (turns a b prior).IsChain (· ≠ ·)) :
    (turns a b (prior ++ rounds)).IsChain (· ≠ ·) := by
  induction run generalizing prior with
  | nil => simpa using alternate
  | @cons servable ring middle last chosen rounds turn _ ih =>
      by_cases finished : chosen = none ∧ turns a b rounds = []
      · have same : turns a b (prior ++ ⟨ring, servable, chosen, middle⟩ :: rounds) =
            turns a b prior ++ turns a b rounds := by
          simp [turns, served, finished.1]
        rw [same, finished.2, List.append_nil]
        exact alternate
      · have keepsOne : ∀ c, c = a ∨ c = b → c ∈ ring → c ∉ middle →
            ∀ d ∈ (turns a b prior).getLast?, d = c := by
          intro c choice member gone
          cases chosen with
          | some e => exact absurd (turn.mem_of_served member) gone
          | none =>
              have later : turns a b rounds ≠ [] := fun none => finished ⟨rfl, none⟩
              exact keeps prior _ rounds c rfl choice member gone later
        obtain ⟨owes', alternate'⟩ := turn.alternate different nodup owes keepsOne
          (able _ (.head _)) alternate
        have rest := ih (prior ++ [⟨ring, servable, chosen, middle⟩]) (turn.nodup nodup) owes'
          (by simpa using keeps) (fun r h => able r (.tail _ h)) alternate'
        simpa using rest

theorem count_le_of_alternate {a b : α} (different : a ≠ b) :
    ∀ {l : List α}, (∀ c ∈ l, c = a ∨ c = b) → l.IsChain (· ≠ ·) → l.count a ≤ l.count b + 1
  | [], _, _ => by simp
  | [c], _, _ => by
      have bound := List.count_le_length (a := a) (l := [c])
      simp only [List.length_singleton] at bound
      omega
  | c :: d :: l, choice, alternate => by
      have rest : l.count a ≤ l.count b + 1 := count_le_of_alternate different
        (fun e h => choice e (.tail _ (.tail _ h))) alternate.tail.tail
      have distinct : c ≠ d := (List.isChain_cons_cons.mp alternate).1
      rcases choice c (by simp) with rfl | rfl <;> rcases choice d (by simp) with rfl | rfl
      · exact absurd rfl distinct
      · simpa [distinct, Ne.symm distinct] using rest
      · simpa [distinct, Ne.symm distinct] using rest
      · exact absurd rfl distinct

/-- Two members that could be served whenever anyone was are served equally often, give or take
one. -/
theorem served_balanced {ring last : List α} {rounds : List (Round α)}
    (run : Rounds ring rounds last) {a b : α} (different : a ≠ b) (nodup : ring.Nodup)
    (keeps : KeepsTurn a b rounds)
    (able : ∀ r ∈ rounds, r.chosen.isSome →
      (r.servable a ∧ r.servable b) ∧ a ∈ r.ring ∧ b ∈ r.ring) :
    (served rounds).count a ≤ (served rounds).count b + 1 := by
  have alternate : (turns a b rounds).IsChain (· ≠ ·) := by
    simpa using run.turns_alternate [] different nodup
      (by simp [Owes, turns, served]) (by simpa using keeps) able (by simp [turns, served])
  have choice : ∀ c ∈ turns a b rounds, c = a ∨ c = b := by
    intro c member
    simpa using (List.mem_filter.mp member).2
  have bound := count_le_of_alternate different choice alternate
  rwa [turns, List.count_filter (by simp), List.count_filter (by simp)] at bound

theorem KeepsTurn.symm {a b : α} {rounds : List (Round α)} (keeps : KeepsTurn a b rounds) :
    KeepsTurn b a rounds := by
  have swap : ∀ rounds : List (Round α), turns b a rounds = turns a b rounds := by
    intro rounds
    simp [turns, or_comm]
  intro before r after c split choice
  rw [swap, swap]
  exact keeps before r after c split choice.symm

end RoundRobin
