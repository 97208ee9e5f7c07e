import BrokerMcp.Proof.Scheduler.Granting

namespace BrokerMcp.Proof.Scheduler
open Resilience

def sessionCeiling (s : Scheduler) (subj : SubjectState) : Nat :=
  max 1 ((s.subjectCeilingLocked + max 1 subj.sessions.size - 1) / max 1 subj.sessions.size)

theorem subjectCeiling_pos (s : Scheduler) : 0 < s.subjectCeilingLocked := by
  unfold Scheduler.subjectCeilingLocked
  dsimp only
  split_ifs <;> omega

theorem subjectCeiling_congr {s s' : Scheduler} (limit : s'.limit = s.limit)
    (size : s'.subjects.size = s.subjects.size) :
    s'.subjectCeilingLocked = s.subjectCeilingLocked := by
  simp only [Scheduler.subjectCeilingLocked, limit, size]

section Subject

variable {s : Scheduler} {k : String} {subj : SubjectState}

theorem eligible_iff : s.eligibleLocked k subj = true ↔
    s.inFlight < s.limit ∧ subj.inFlight < s.subjectCeilingLocked ∧
      ¬ (1 < s.limit ∧ s.limit - s.inFlight = 1 ∧ 0 < subj.inFlight ∧
        s.hasStarvedSubjectLocked k = true) := by
  unfold Scheduler.eligibleLocked
  dsimp only
  split_ifs with full above reserved
  · simp only [false_iff]
    omega
  · simp only [false_iff]
    omega
  · simp only [Bool.and_eq_true, decide_eq_true_eq] at reserved
    simp only [false_iff]
    exact fun free => free.2.2 ⟨reserved.1.1.1, reserved.1.1.2, reserved.1.2, reserved.2⟩
  · simp only [Bool.and_eq_true, decide_eq_true_eq] at reserved
    simp only [true_iff]
    exact ⟨by omega, by omega, fun held => reserved ⟨⟨⟨held.1, held.2.1⟩, held.2.2.1⟩, held.2.2.2⟩⟩

def Starved (s : Scheduler) (k : String) : Prop :=
  ∃ subj, s.subjects.lookup k = some subj ∧ subj.hasQueued = true ∧ subj.inFlight = 0

instance : Decidable (Starved s k) :=
  decidable_of_iff ((s.subjects.lookup k).any fun subj => subj.hasQueued && subj.inFlight = 0)
    (by simp [Starved, Option.any_eq_true])

theorem hasStarvedSubject_iff :
    s.hasStarvedSubjectLocked k = true ↔ ∃ j, j ≠ k ∧ Starved s j := by
  unfold Scheduler.hasStarvedSubjectLocked
  rw [AList.any_iff]
  constructor
  · rintro ⟨j, subj, found, holds⟩
    simp only [ne_eq, decide_not, Bool.and_eq_true, Bool.not_eq_true', decide_eq_false_iff_not,
      decide_eq_true_eq] at holds
    exact ⟨j, holds.1.1, subj, found, holds.2, holds.1.2⟩
  · rintro ⟨j, different, subj, found, queued, none⟩
    exact ⟨j, subj, found, by simp [different, none, queued]⟩

theorem eligible_of_starved (room : s.inFlight < s.limit) (none : subj.inFlight = 0) :
    s.eligibleLocked k subj = true := by
  have positive := subjectCeiling_pos s
  exact eligible_iff.mpr ⟨room, by omega, fun held => by omega⟩

theorem eligible_of_nobody_starved (nobody : ∀ j, ¬ Starved s j) :
    s.eligibleLocked k subj = true ↔
      s.inFlight < s.limit ∧ subj.inFlight < s.subjectCeilingLocked := by
  have unreserved : ¬ s.hasStarvedSubjectLocked k = true := fun held => by
    obtain ⟨j, -, starved⟩ := hasStarvedSubject_iff.mp held
    exact nobody j starved
  rw [eligible_iff]
  constructor
  · exact fun free => ⟨free.1, free.2.1⟩
  · exact fun free => ⟨free.1, free.2, fun held => unreserved held.2.2.2⟩

end Subject

section Session

variable {s : Scheduler} {subj : SubjectState} {m : String} {cs : SessionState}

theorem sessionEligible_iff : s.sessionEligibleLocked subj m cs = true ↔
    cs.inFlight < sessionCeiling s subj ∧
      ¬ (1 < s.subjectCeilingLocked ∧ s.subjectCeilingLocked - subj.inFlight = 1 ∧
        0 < cs.inFlight ∧ subj.hasStarvedSession m = true) := by
  have clamp (n : Nat) : (if n < 1 then 1 else n) = max 1 n := by
    split_ifs <;> omega
  unfold Scheduler.sessionEligibleLocked
  simp only [clamp]
  rw [← sessionCeiling]
  split_ifs with above reserved
  · simp only [false_iff]
    omega
  · simp only [Bool.and_eq_true, decide_eq_true_eq] at reserved
    simp only [false_iff]
    exact fun free => free.2 ⟨reserved.1.1.1, reserved.1.1.2, reserved.1.2, reserved.2⟩
  · simp only [Bool.and_eq_true, decide_eq_true_eq] at reserved
    simp only [true_iff]
    exact ⟨by omega, fun held => reserved ⟨⟨⟨held.1, held.2.1⟩, held.2.2.1⟩, held.2.2.2⟩⟩

def StarvedSession (subj : SubjectState) (m : String) : Prop :=
  ∃ cs, subj.sessions.lookup m = some cs ∧ cs.queue ≠ [] ∧ cs.inFlight = 0

theorem hasStarvedSession_iff :
    subj.hasStarvedSession m = true ↔ ∃ j, j ≠ m ∧ StarvedSession subj j := by
  unfold SubjectState.hasStarvedSession
  rw [AList.any_iff]
  constructor
  · rintro ⟨j, cs, entry, holds⟩
    simp only [ne_eq, decide_not, Bool.and_eq_true, Bool.not_eq_true', decide_eq_false_iff_not,
      decide_eq_true_eq, List.isEmpty_eq_false_iff] at holds
    exact ⟨j, holds.1.1, cs, entry, holds.2, holds.1.2⟩
  · rintro ⟨j, different, cs, entry, queued, none⟩
    exact ⟨j, cs, entry, by simp [different, none, queued]⟩

theorem sessionEligible_of_idle (none : cs.inFlight = 0) :
    s.sessionEligibleLocked subj m cs = true := by
  have positive : 0 < sessionCeiling s subj := lt_of_lt_of_le Nat.one_pos (le_max_left _ _)
  exact sessionEligible_iff.mpr ⟨by omega, fun held => by omega⟩

theorem servable_of_starved (starved : StarvedSession subj m) : Servable s subj m := by
  obtain ⟨cs, entry, queued, none⟩ := starved
  exact ⟨cs, entry, queued, sessionEligible_of_idle none⟩

theorem sessionEligible_of_nobody_starved (nobody : ∀ j, ¬ StarvedSession subj j) :
    s.sessionEligibleLocked subj m cs = true ↔ cs.inFlight < sessionCeiling s subj := by
  have unreserved : ¬ subj.hasStarvedSession m = true := fun held => by
    obtain ⟨j, -, starved⟩ := hasStarvedSession_iff.mp held
    exact nobody j starved
  rw [sessionEligible_iff]
  constructor
  · exact fun free => free.1
  · exact fun free => ⟨free, fun held => unreserved held.2.2.2⟩

end Session

section Grantable

variable {s : Scheduler} (ok : Ok s)
include ok

theorem starvedSession_of_starved {k : String} {subj : SubjectState}
    (found : s.subjects.lookup k = some subj) (queued : subj.hasQueued = true)
    (none : subj.inFlight = 0) : ∃ m, StarvedSession subj m := by
  obtain ⟨m, cs, entry, waiting⟩ := AList.any_iff.mp queued
  have bound : cs.inFlight ≤ subj.inFlight := by
    rw [(ok.inner k subj found).total]
    exact AList.le_total entry _
  exact ⟨m, cs, entry, by simpa using waiting, by omega⟩

theorem grantable_of_starved {k : String} (room : s.inFlight < s.limit) (starved : Starved s k) :
    Grantable s k := by
  obtain ⟨subj, found, queued, none⟩ := starved
  obtain ⟨m, inside⟩ := starvedSession_of_starved ok found queued none
  exact ⟨subj, found, eligible_of_starved room none, m, servable_of_starved inside⟩

theorem nobody_starved (room : s.inFlight < s.limit) (nobody : ∀ k, ¬ Grantable s k) (k : String) :
    ¬ Starved s k :=
  fun starved => nobody k (grantable_of_starved ok room starved)

end Grantable

end BrokerMcp.Proof.Scheduler
