import BrokerMcp.Composite.RdpStatus
import BrokerMcp.Proof.Composite.Scrubbed
import Mathlib.Data.List.TakeWhile

/-!
# What a redacted target shows

The first pass over a target rewrites what the second one splits. Both come down to the path: its
userinfo is masked as if the path stood alone, and of what follows only the marks are left.
-/

namespace BrokerMcp.Proof.Composite
open BrokerMcp.Composite BrokerMcp.Composite.Handlers

/-! ## Scanning -/

theorem mark_prefix_iff {s : List Char} : schemeMark <+: s ↔ ∃ rest, s = ':' :: '/' :: '/' :: rest := by
  constructor
  · rintro ⟨rest, rfl⟩
    exact ⟨rest, rfl⟩
  · rintro ⟨rest, rfl⟩
    exact ⟨rest, rfl⟩

theorem index_eq_none {s : List Char} (absent : ¬ schemeMark <:+: s) : index schemeMark s = none := by
  induction s with
  | nil => rfl
  | cons c rest ih =>
      rw [List.infix_cons_iff, not_or] at absent
      rw [index, if_neg absent.1, ih absent.2, Option.map_none]

theorem mark_apart {c : Char} {before : List Char} (apart : ¬ schemeMark <+: c :: before)
    (after : List Char) : ¬ schemeMark <+: c :: (before ++ schemeMark ++ after) := by
  rw [mark_prefix_iff]
  rintro ⟨rest, same⟩
  obtain ⟨rfl, tail⟩ := List.cons_eq_cons.mp same
  match before with
  | [] => cases tail
  | [d] => cases (List.cons_eq_cons.mp tail).2
  | d :: e :: before =>
      obtain ⟨rfl, second⟩ := List.cons_eq_cons.mp tail
      obtain ⟨rfl, -⟩ := List.cons_eq_cons.mp second
      exact apart ⟨before, rfl⟩

theorem index_mark {before : List Char} (first : ¬ schemeMark <:+: before) (after : List Char) :
    index schemeMark (before ++ schemeMark ++ after) = some before.length := by
  induction before with
  | nil =>
      rw [List.nil_append, schemeMark, List.cons_append, index, if_pos ⟨after, rfl⟩]
      rfl
  | cons c before ih =>
      rw [List.infix_cons_iff, not_or] at first
      rw [List.cons_append, List.cons_append, index, if_neg (mark_apart first.1 after),
        ih first.2]
      rfl

theorem exists_first {s : List Char} (present : schemeMark <:+: s) :
    ∃ before after, s = before ++ schemeMark ++ after ∧ ¬ schemeMark <:+: before := by
  induction s with
  | nil => exact absurd (List.infix_nil.mp present) (by decide)
  | cons c rest ih =>
      by_cases here : schemeMark <+: c :: rest
      · obtain ⟨after, same⟩ := here
        exact ⟨[], after, same.symm, by decide⟩
      · obtain ⟨before, after, rfl, first⟩ := ih ((List.infix_cons_iff.mp present).resolve_left here)
        refine ⟨c :: before, after, rfl, ?_⟩
        rw [List.infix_cons_iff, not_or]
        refine ⟨fun start => here ?_, first⟩
        exact start.trans ⟨schemeMark ++ after, by simp⟩

theorem take_indexAny (s chars : List Char) :
    (match indexAny s chars with | some j => s.take j | none => s) =
      s.takeWhile fun c => decide (c ∉ chars) := by
  unfold indexAny
  induction s with
  | nil => rfl
  | cons c rest ih =>
      rw [List.findIdx?_cons, List.takeWhile_cons]
      by_cases here : c ∈ chars
      · simp [here]
      · simp only [here, decide_false, Bool.false_eq_true, if_false, not_false_eq_true, decide_true,
          if_true, ← ih]
        cases rest.findIdx? (· ∈ chars) <;> rfl

theorem lastIndex_eq_none {c : Char} {s : List Char} (absent : c ∉ s) : lastIndex c s = none := by
  induction s with
  | nil => rfl
  | cons d rest ih =>
      obtain ⟨apart, absent⟩ := not_or.mp (mt List.mem_cons.mpr absent)
      rw [lastIndex, ih absent]
      exact if_neg (Ne.symm apart)

theorem lastIndex_append {c : Char} (before : List Char) {after : List Char} (last : c ∉ after) :
    lastIndex c (before ++ c :: after) = some before.length := by
  induction before with
  | nil => simp [lastIndex, lastIndex_eq_none last]
  | cons d before ih => rw [List.cons_append, lastIndex, ih, List.length_cons]

theorem exists_last {c : Char} {s : List Char} (present : c ∈ s) :
    ∃ before after, s = before ++ c :: after ∧ c ∉ after := by
  induction s with
  | nil => cases present
  | cons d rest ih =>
      by_cases later : c ∈ rest
      · obtain ⟨before, after, rfl, last⟩ := ih later
        exact ⟨d :: before, after, rfl, last⟩
      · obtain rfl := (List.mem_cons.mp present).resolve_right later
        exact ⟨[], rest, rfl, later⟩

/-! ## The userinfo -/

def inAuthority (c : Char) : Bool := decide (c ∉ ['/', '?', '#'])

def authority (s : List Char) : List Char := s.takeWhile inAuthority

def maskAuthority (s : List Char) : List Char :=
  match lastIndex '@' (authority s) with
  | some k => redactedComponent ++ s.drop k
  | none => s

theorem maskUserinfo_none {s : List Char} (absent : ¬ schemeMark <:+: s) : maskUserinfo s = s := by
  rw [maskUserinfo, index_eq_none absent]

theorem maskUserinfo_first {before : List Char} (first : ¬ schemeMark <:+: before)
    (after : List Char) :
    maskUserinfo (before ++ schemeMark ++ after) = before ++ schemeMark ++ maskAuthority after := by
  have start : before.length + schemeMark.length = (before ++ schemeMark).length := by simp
  have span : ∀ j, ((before ++ schemeMark ++ after).take ((before ++ schemeMark).length + j)).drop
      (before ++ schemeMark).length = after.take j := by
    intro j
    rw [List.take_length_add_append, List.drop_left]
  have masked : (match lastIndex '@' (authority after) with
      | some k => (before ++ schemeMark ++ after).take (before ++ schemeMark).length ++
          redactedComponent ++ (before ++ schemeMark ++ after).drop ((before ++ schemeMark).length + k)
      | none => before ++ schemeMark ++ after) = before ++ schemeMark ++ maskAuthority after := by
    rw [maskAuthority]
    cases lastIndex '@' (authority after) with
    | none => rfl
    | some k =>
        dsimp only
        rw [List.take_left, List.drop_append]
        simp
  have auth : _ = authority after := take_indexAny after ['/', '?', '#']
  rw [maskUserinfo, index_mark first]
  dsimp only
  rw [start, List.drop_left]
  cases found : indexAny after ['/', '?', '#'] with
  | some j =>
      rw [found] at auth
      dsimp only at auth ⊢
      rw [span j, auth]
      exact masked
  | none =>
      rw [found] at auth
      dsimp only at auth ⊢
      rw [← auth] at masked
      rw [List.take_length, List.drop_left]
      exact masked

theorem lastIndex_authority {user host rest : List Char}
    (free : ∀ c ∈ user ++ '@' :: host, inAuthority c = true) (last : '@' ∉ host ++ authority rest) :
    lastIndex '@' (authority (user ++ '@' :: host ++ rest)) = some user.length := by
  rw [authority, List.takeWhile_append_of_pos free, ← authority, List.append_assoc,
    List.cons_append, lastIndex_append user last]

theorem maskAuthority_user {user host rest : List Char}
    (free : ∀ c ∈ user ++ '@' :: host, inAuthority c = true) (last : '@' ∉ host ++ authority rest) :
    maskAuthority (user ++ '@' :: host ++ rest) = redactedComponent ++ '@' :: host ++ rest := by
  rw [maskAuthority, lastIndex_authority free last]
  simp [List.append_assoc]

theorem maskAuthority_none {s : List Char} (absent : '@' ∉ authority s) : maskAuthority s = s := by
  rw [maskAuthority, lastIndex_eq_none absent]

theorem authority_dropWhile (s : List Char) : authority (s.dropWhile inAuthority) = [] :=
  List.takeWhile_eq_nil_iff.mpr fun some => List.dropWhile_get_zero_not inAuthority s some

theorem exists_user {s : List Char} (present : '@' ∈ authority s) :
    ∃ user host rest, s = user ++ '@' :: host ++ rest ∧
      (∀ c ∈ user ++ '@' :: host, inAuthority c = true) ∧ '@' ∉ host ∧ authority rest = [] := by
  obtain ⟨user, host, split, last⟩ := exists_last present
  refine ⟨user, host, s.dropWhile inAuthority, ?_, ?_, last, authority_dropWhile s⟩
  · rw [← split, authority, List.takeWhile_append_dropWhile]
  · rw [← split]
    exact fun c member => List.mem_takeWhile_imp member

theorem last_of_ends {host rest : List Char} (last : '@' ∉ host) (ends : authority rest = []) :
    '@' ∉ host ++ authority rest := by
  rwa [ends, List.append_nil]

/-! ## The query and the fragment -/

def inPath (c : Char) : Bool := decide (c ∉ ['?', '#'])

def Tail (tail : List Char) : Prop := ∀ c, tail.head? = some c → inPath c = false

def maskTail : List Char → List Char
  | [] => []
  | '?' :: rest =>
      '?' :: mask (cut '#' rest).1 ++
        if (cut '#' rest).2.2 then '#' :: mask (cut '#' rest).2.1 else []
  | _ :: fragment => '#' :: mask fragment

theorem indexAny_path {path tail : List Char} (free : ∀ c ∈ path, inPath c = true) (marked : Tail tail) :
    indexAny (path ++ tail) ['?', '#'] = if tail = [] then none else some path.length := by
  unfold indexAny
  induction path with
  | nil =>
      cases tail with
      | nil => rfl
      | cons c tail =>
          have mark := marked c rfl
          rw [inPath, decide_eq_false_iff_not, not_not] at mark
          rw [List.nil_append, List.findIdx?_cons, if_pos (decide_eq_true mark),
            if_neg (List.cons_ne_nil c tail)]
          rfl
  | cons c path ih =>
      obtain ⟨first, rest⟩ := List.forall_mem_cons.mp free
      have plain : c ∉ ['?', '#'] := by simpa [inPath] using first
      rw [List.cons_append, List.findIdx?_cons, if_neg (by simpa using plain), ih rest]
      split_ifs <;> rfl

theorem maskQueryAndFragment_split {path tail : List Char} (free : ∀ c ∈ path, inPath c = true)
    (marked : Tail tail) : maskQueryAndFragment (path ++ tail) = path ++ maskTail tail := by
  rw [maskQueryAndFragment, indexAny_path free marked]
  cases tail with
  | nil => simp [maskTail]
  | cons c rest =>
      rw [if_neg (List.cons_ne_nil c rest)]
      dsimp only
      rw [List.take_left, List.drop_left]
      by_cases query : c = '?'
      · subst query
        simp only [maskTail]
        split_ifs <;> simp
      · have other : maskTail (c :: rest) = '#' :: mask rest := by
          rw [maskTail]
          rintro same
          exact query same
        rw [other]
        split
        · rename_i same
          exact absurd (List.cons.inj same).1 query
        · rfl

/-! ## Both passes -/

theorem mark_infix_append {path tail : List Char} (marked : Tail tail) :
    schemeMark <:+: path ++ tail ↔ schemeMark <:+: path ∨ schemeMark <:+: tail := by
  constructor
  · intro present
    induction path with
    | nil => exact .inr present
    | cons c path ih =>
        rcases List.infix_cons_iff.mp present with here | later
        · left
          have head : ∀ d, tail.head? = some d → d ≠ ':' ∧ d ≠ '/' := by
            intro d first
            have mark := marked d first
            constructor
            · rintro rfl
              exact absurd mark (by decide)
            · rintro rfl
              exact absurd mark (by decide)
          obtain ⟨rest, same⟩ := mark_prefix_iff.mp here
          obtain ⟨rfl, second⟩ := List.cons_eq_cons.mp same
          match path, tail with
          | [], [] => cases second
          | [], d :: tail =>
              obtain ⟨rfl, -⟩ := List.cons_eq_cons.mp second
              exact absurd rfl (head _ rfl).2
          | [a], [] => cases (List.cons_eq_cons.mp second).2
          | [a], d :: tail =>
              obtain ⟨rfl, -⟩ := List.cons_eq_cons.mp (List.cons_eq_cons.mp second).2
              exact absurd rfl (head _ rfl).2
          | a :: b :: path, tail =>
              obtain ⟨rfl, third⟩ := List.cons_eq_cons.mp second
              obtain ⟨rfl, -⟩ := List.cons_eq_cons.mp third
              exact (mark_prefix_iff.mpr ⟨path, rfl⟩).isInfix
        · rcases ih later with inside | after
          · exact .inl (List.infix_cons_iff.mpr (.inr inside))
          · exact .inr after
  · rintro (inside | after)
    · exact inside.trans (List.infix_append' [] path tail)
    · exact after.trans (List.suffix_append path tail).isInfix

theorem authority_append {path tail : List Char} (free : ∀ c ∈ path, inPath c = true)
    (marked : Tail tail) : authority (path ++ tail) = authority path := by
  induction path with
  | nil =>
      cases tail with
      | nil => rfl
      | cons c tail =>
          have ends : inAuthority c = false := by
            have mark := marked c rfl
            simp only [inPath, inAuthority, decide_eq_false_iff_not, not_not] at mark ⊢
            exact .tail _ mark
          rw [List.nil_append, authority, List.takeWhile_cons, ends]
          rfl
  | cons c path ih =>
      have rest : authority (path ++ tail) = authority path := ih (List.forall_mem_cons.mp free).2
      rw [authority] at rest ⊢
      rw [List.cons_append, List.takeWhile_cons, rest, authority, authority, List.takeWhile_cons]

theorem maskUserinfo_path {path tail : List Char} (free : ∀ c ∈ path, inPath c = true)
    (marked : Tail tail) (present : schemeMark <:+: path) :
    maskUserinfo (path ++ tail) = maskUserinfo path ++ tail := by
  obtain ⟨before, after, rfl, first⟩ := exists_first present
  have clear : ∀ c ∈ after, inPath c = true := fun c member => free c (List.mem_append_right _ member)
  rw [List.append_assoc, maskUserinfo_first first, maskUserinfo_first first]
  by_cases secret : '@' ∈ authority after
  · obtain ⟨user, host, rest, rfl, part, last, ends⟩ := exists_user secret
    have ends' : authority (rest ++ tail) = [] := by
      rw [authority_append (fun c member => clear c (List.mem_append_right _ member)) marked, ends]
    have longer : user ++ '@' :: host ++ rest ++ tail = user ++ '@' :: host ++ (rest ++ tail) := by
      simp
    rw [maskAuthority_user part (last_of_ends last ends), longer,
      maskAuthority_user part (last_of_ends last ends')]
    simp
  · have secret' : '@' ∉ authority (after ++ tail) := by rwa [authority_append clear marked]
    rw [maskAuthority_none secret, maskAuthority_none secret']
    simp

theorem maskUserinfo_tail {path tail : List Char} (marked : Tail tail)
    (absent : ¬ schemeMark <:+: path) : maskUserinfo (path ++ tail) = path ++ maskUserinfo tail := by
  by_cases present : schemeMark <:+: tail
  · obtain ⟨before, after, rfl, first⟩ := exists_first present
    have marked' : Tail before := by
      intro c head
      refine marked c ?_
      rw [List.append_assoc, List.head?_append, head]
      rfl
    have outer : ¬ schemeMark <:+: path ++ before := by
      rw [mark_infix_append marked', not_or]
      exact ⟨absent, first⟩
    have whole : path ++ (before ++ schemeMark ++ after) = path ++ before ++ schemeMark ++ after := by
      simp
    rw [whole, maskUserinfo_first outer, maskUserinfo_first first]
    simp
  · rw [maskUserinfo_none present, maskUserinfo_none]
    rw [mark_infix_append marked, not_or]
    exact ⟨absent, present⟩

theorem cut_of_mem {c : Char} {before : List Char} (present : c ∈ before) (after : List Char) :
    cut c (before ++ after) = ((cut c before).1, (cut c before).2.1 ++ after, true) := by
  induction before with
  | nil => cases present
  | cons d before ih =>
      rw [List.cons_append, cut, cut]
      split_ifs with here
      · rfl
      · rw [ih ((List.mem_cons.mp present).resolve_left (Ne.symm here))]

theorem cut_of_not_mem {c : Char} {before : List Char} (absent : c ∉ before) (after : List Char) :
    cut c (before ++ after) = (before ++ (cut c after).1, (cut c after).2) := by
  induction before with
  | nil => rfl
  | cons d before ih =>
      obtain ⟨apart, absent⟩ := not_or.mp (mt List.mem_cons.mpr absent)
      rw [List.cons_append, cut, if_neg (Ne.symm apart), ih absent]
      rfl

theorem mask_eq {v w : List Char} (v_some : v ≠ []) (w_some : w ≠ []) : mask v = mask w := by
  rw [mask, mask, if_neg v_some, if_neg w_some]

theorem cut_maskAuthority (s : List Char) : (cut '#' (maskAuthority s)).2 = (cut '#' s).2 := by
  by_cases secret : '@' ∈ authority s
  · obtain ⟨user, host, rest, rfl, part, last, ends⟩ := exists_user secret
    have free : '#' ∉ user := by
      intro member
      exact absurd (part _ (List.mem_append_left _ member)) (by decide)
    rw [maskAuthority_user part (last_of_ends last ends), List.append_assoc, List.append_assoc,
      cut_of_not_mem free, cut_of_not_mem (by decide)]
  · rw [maskAuthority_none secret]

/-- Rewriting a userinfo after the path changes nothing that is left of it. -/
theorem maskTail_maskUserinfo {tail : List Char} (marked : Tail tail) :
    Tail (maskUserinfo tail) ∧ maskTail (maskUserinfo tail) = maskTail tail := by
  by_cases present : schemeMark <:+: tail
  · obtain ⟨before, after, rfl, first⟩ := exists_first present
    rw [maskUserinfo_first first]
    cases before with
    | nil => exact absurd (marked ':' rfl) (by decide)
    | cons c before =>
        refine ⟨fun d head => marked d head, ?_⟩
        have some : ∀ x y : List Char, x ++ schemeMark ++ y ≠ [] := by simp [schemeMark]
        by_cases query : c = '?'
        · subst query
          simp only [List.cons_append, maskTail]
          by_cases hash : '#' ∈ before
          · rw [List.append_assoc, List.append_assoc, cut_of_mem hash, cut_of_mem hash,
              ← List.append_assoc, ← List.append_assoc, mask_eq (some _ _) (some _ _)]
          · have free : '#' ∉ before ++ schemeMark := by
              rw [List.mem_append, not_or]
              exact ⟨hash, by decide⟩
            rw [cut_of_not_mem free, cut_of_not_mem free, cut_maskAuthority,
              mask_eq (some _ _) (some _ _)]
        · have other : ∀ rest, maskTail (c :: rest) = '#' :: mask rest := by
            intro rest
            rw [maskTail]
            exact query
          rw [List.cons_append, List.cons_append, List.cons_append, other, other,
            mask_eq (some _ _) (some _ _)]
  · rw [maskUserinfo_none present]
    exact ⟨marked, rfl⟩

theorem maskUserinfo_inPath {path : List Char} (free : ∀ c ∈ path, inPath c = true) :
    ∀ c ∈ maskUserinfo path, inPath c = true := by
  by_cases present : schemeMark <:+: path
  · obtain ⟨before, after, rfl, first⟩ := exists_first present
    rw [maskUserinfo_first first]
    by_cases secret : '@' ∈ authority after
    · obtain ⟨user, host, rest, rfl, part, last, ends⟩ := exists_user secret
      rw [maskAuthority_user part (last_of_ends last ends)]
      intro c member
      simp only [List.mem_append] at member free
      rcases member with prior | (redacted | kept) | kept
      · exact free c (.inl prior)
      · exact List.all_eq_true.mp (by decide : redactedComponent.all inPath = true) c redacted
      · exact free c (.inr (.inl (.inr kept)))
      · exact free c (.inr (.inr kept))
    · rwa [maskAuthority_none secret]
  · rwa [maskUserinfo_none present]

theorem redact_split {path tail : List Char} (free : ∀ c ∈ path, inPath c = true)
    (marked : Tail tail) :
    redactRequestTarget (path ++ tail) = maskUserinfo path ++ maskTail tail := by
  rw [redactRequestTarget]
  by_cases present : schemeMark <:+: path
  · rw [maskUserinfo_path free marked present,
      maskQueryAndFragment_split (maskUserinfo_inPath free) marked]
  · rw [maskUserinfo_tail marked present, maskUserinfo_none present]
    obtain ⟨marked', same⟩ := maskTail_maskUserinfo marked
    rw [maskQueryAndFragment_split free marked', same]

/-! ## The parts of a target -/

structure Parts where
  before : List Char
  userinfo : Option (List Char)
  after : List Char
  query : Option (List Char)
  fragment : Option (List Char)

def Parts.marked (query fragment : Option (List Char)) : List Char :=
  (query.elim [] fun q => '?' :: q) ++ fragment.elim [] fun f => '#' :: f

inductive Userinfo (path : List Char) : List Char → Option (List Char) → List Char → Prop
  | some {scheme user host rest : List Char} (first : ¬ schemeMark <:+: scheme)
      (free : ∀ c ∈ user ++ '@' :: host, inAuthority c = true) (last : '@' ∉ host)
      (ends : authority rest = [])
      (split : path = scheme ++ schemeMark ++ (user ++ '@' :: host ++ rest)) :
      Userinfo path (scheme ++ schemeMark) (.some user) ('@' :: host ++ rest)
  | none (absent : ∀ scheme after, path = scheme ++ schemeMark ++ after →
      ¬ schemeMark <:+: scheme → '@' ∉ authority after) : Userinfo path path .none []

structure Divides (s : List Char) (p : Parts) : Prop where
  text : ∃ path, Userinfo path p.before p.userinfo p.after ∧ (∀ c ∈ path, inPath c = true) ∧
    s = path ++ Parts.marked p.query p.fragment
  query : ∀ q ∈ p.query, '#' ∉ q

def Parts.shown (p : Parts) : List Char :=
  p.before ++ (p.userinfo.elim [] fun _ => redactedComponent) ++ p.after ++
    Parts.marked (p.query.map mask) (p.fragment.map mask)

theorem userinfo_exists (path : List Char) :
    ∃ before user after, Userinfo path before user after := by
  by_cases present : schemeMark <:+: path
  · obtain ⟨scheme, after, rfl, first⟩ := exists_first present
    by_cases secret : '@' ∈ authority after
    · obtain ⟨user, host, rest, rfl, free, last, ends⟩ := exists_user secret
      exact ⟨_, _, _, .some first free last ends rfl⟩
    · refine ⟨_, _, _, .none fun scheme' after' same first' => ?_⟩
      have start := index_mark first after
      rw [same, index_mark first' after', Option.some.injEq] at start
      obtain ⟨-, rfl⟩ := List.append_inj same (by simp [start])
      exact secret
  · refine ⟨_, _, _, .none fun scheme after same _ => absurd ?_ present⟩
    rw [same]
    exact List.infix_append _ _ _

theorem Userinfo.mask {path before after : List Char} {user : Option (List Char)}
    (parts : Userinfo path before user after) :
    maskUserinfo path = before ++ (user.elim [] fun _ => redactedComponent) ++ after := by
  cases parts with
  | @some scheme user host rest first free last ends split =>
      rw [split, maskUserinfo_first first, maskAuthority_user free (last_of_ends last ends)]
      simp
  | none absent =>
      by_cases present : schemeMark <:+: path
      · obtain ⟨scheme, after, rfl, first⟩ := exists_first present
        rw [maskUserinfo_first first, maskAuthority_none (absent scheme after rfl first)]
        simp
      · rw [maskUserinfo_none present]
        simp

theorem tail_marked (query fragment : Option (List Char)) : Tail (Parts.marked query fragment) := by
  intro c head
  cases query with
  | some q =>
      obtain rfl : '?' = c := by simpa [Parts.marked] using head
      decide
  | none =>
      cases fragment with
      | some f =>
          obtain rfl : '#' = c := by simpa [Parts.marked] using head
          decide
      | none => simp [Parts.marked] at head

theorem maskTail_marked {query fragment : Option (List Char)} (free : ∀ q ∈ query, '#' ∉ q) :
    maskTail (Parts.marked query fragment) = Parts.marked (query.map mask) (fragment.map mask) := by
  cases query with
  | none =>
      cases fragment with
      | none => rfl
      | some f => simp [Parts.marked, maskTail]
  | some q =>
      cases fragment with
      | none =>
          have whole : cut '#' q = (q, [], false) := by
            have step := cut_of_not_mem (free q rfl) []
            rwa [List.append_nil, cut, List.append_nil] at step
          simp [Parts.marked, maskTail, whole]
      | some f =>
          have split : cut '#' (q ++ '#' :: f) = (q, f, true) := by
            rw [cut_of_not_mem (free q rfl), cut, if_pos rfl, List.append_nil]
          simp [Parts.marked, maskTail, split]

theorem marked_exists {tail : List Char} (marked : Tail tail) :
    ∃ query fragment, tail = Parts.marked query fragment ∧ ∀ q ∈ query, '#' ∉ q := by
  match tail with
  | [] => exact ⟨none, none, rfl, nofun⟩
  | c :: rest =>
      have mark : c = '?' ∨ c = '#' := by
        have outside := marked c rfl
        rw [inPath, decide_eq_false_iff_not, not_not] at outside
        simpa using outside
      rcases mark with rfl | rfl
      · by_cases hash : '#' ∈ rest
        · obtain ⟨query, fragment, rfl, free⟩ := List.eq_append_cons_of_mem hash
          exact ⟨some query, some fragment, rfl, by simpa using free⟩
        · exact ⟨some rest, none, by simp [Parts.marked], by simpa using hash⟩
      · exact ⟨none, some rest, rfl, nofun⟩

theorem divides_exists (s : List Char) : ∃ p, Divides s p := by
  obtain ⟨before, user, after, parts⟩ := userinfo_exists (s.takeWhile inPath)
  have marked : Tail (s.dropWhile inPath) := by
    intro c head
    have outside := List.head?_dropWhile_not inPath s
    rw [head] at outside
    simpa using outside
  obtain ⟨query, fragment, tail, free⟩ := marked_exists marked
  refine ⟨⟨before, user, after, query, fragment⟩, ⟨_, parts, ?_, ?_⟩, free⟩
  · exact fun c member => List.mem_takeWhile_imp member
  · rw [← tail, List.takeWhile_append_dropWhile]

theorem Divides.redact {s : List Char} {p : Parts} (divides : Divides s p) :
    redactRequestTarget s = p.shown := by
  obtain ⟨⟨path, parts, free, rfl⟩, query⟩ := divides
  rw [redact_split free (tail_marked _ _), parts.mask, maskTail_marked query, Parts.shown]

theorem mask_mask (v : List Char) : mask (mask v) = mask v := by
  have fixed : mask redactedComponent = redactedComponent := by decide
  by_cases empty : v = []
  · rw [empty]
    rfl
  · have masked : mask v = redactedComponent := if_neg empty
    rw [masked, fixed]

theorem hash_not_mem_mask (v : List Char) : '#' ∉ mask v := by
  unfold mask
  split_ifs
  · simp
  · decide

theorem Userinfo.masked {path before after : List Char} {user : Option (List Char)}
    (parts : Userinfo path before user after) :
    Userinfo (maskUserinfo path) before (user.map fun _ => redactedComponent) after := by
  have text := parts.mask
  cases parts with
  | @some scheme user host rest first free last ends split =>
      have free' : ∀ c ∈ redactedComponent ++ '@' :: host, inAuthority c = true := by
        intro c member
        rcases List.mem_append.mp member with redacted | kept
        · exact List.all_eq_true.mp (by decide : redactedComponent.all inAuthority = true) c redacted
        · exact free c (List.mem_append_right _ kept)
      refine .some first free' last ends ?_
      rw [text]
      simp
  | none absent =>
      have same : maskUserinfo path = path := by simpa using text
      rw [same]
      exact .none absent

def Parts.masked (p : Parts) : Parts where
  before := p.before
  userinfo := p.userinfo.map fun _ => redactedComponent
  after := p.after
  query := p.query.map mask
  fragment := p.fragment.map mask

theorem Divides.masked {s : List Char} {p : Parts} (divides : Divides s p) :
    Divides p.shown p.masked := by
  obtain ⟨⟨path, parts, free, rfl⟩, query⟩ := divides
  refine ⟨⟨maskUserinfo path, parts.masked, maskUserinfo_inPath free, ?_⟩, ?_⟩
  · rw [parts.mask, Parts.shown]
    rfl
  · intro q member
    obtain ⟨original, -, rfl⟩ := Option.map_eq_some_iff.mp member
    exact hash_not_mem_mask original

theorem redact_idempotent (s : List Char) :
    redactRequestTarget (redactRequestTarget s) = redactRequestTarget s := by
  obtain ⟨p, divides⟩ := divides_exists s
  have twice : mask ∘ mask = mask := funext mask_mask
  rw [divides.redact, divides.masked.redact, Parts.shown, Parts.shown, Parts.masked]
  simp only [Option.map_map, twice]
  cases p.userinfo <;> rfl

structure AgreeOutside (p p' : Parts) : Prop where
  before : p.before = p'.before
  userinfo : p.userinfo.isSome = p'.userinfo.isSome
  after : p.after = p'.after
  query : p.query.map List.isEmpty = p'.query.map List.isEmpty
  fragment : p.fragment.map List.isEmpty = p'.fragment.map List.isEmpty

theorem AgreeOutside.shown {p p' : Parts} (agree : AgreeOutside p p') : p.shown = p'.shown := by
  have masks : ∀ {v w : Option (List Char)}, v.map List.isEmpty = w.map List.isEmpty →
      v.map mask = w.map mask := by
    intro v w same
    cases v with
    | none =>
        cases w with
        | none => rfl
        | some w => cases same
    | some v =>
        cases w with
        | none => cases same
        | some w =>
            have same : v.isEmpty = w.isEmpty := Option.some.inj same
            simp only [Option.map_some, mask, ← List.isEmpty_iff, same]
  have users : (p.userinfo.elim [] fun _ => redactedComponent) =
      p'.userinfo.elim [] fun _ => redactedComponent := by
    have same := agree.userinfo
    cases user : p.userinfo <;> cases user' : p'.userinfo <;> simp_all
  rw [Parts.shown, Parts.shown, agree.before, agree.after, users, masks agree.query,
    masks agree.fragment]

/-! ## The rows of a result -/

def Redacted (step : Object) : Prop :=
  ∀ items, step.arr? "data" = some items → ∀ r, .obj r ∈ items →
    ∀ target, stringField r "postRequestTarget" = some target →
      ∃ original, target = String.ofList (redactRequestTarget original)

theorem redactRow_target {raw : Value} {r : Object} (made : redactRow raw = .obj r) {target : String}
    (found : stringField r "postRequestTarget" = some target) :
    ∃ original, target = String.ofList (redactRequestTarget original) := by
  cases raw with
  | obj row =>
      rw [redactRow] at made
      cases source : stringField row "postRequestTarget" with
      | none =>
          rw [source] at made
          obtain rfl := Value.obj.inj made
          rw [source] at found
          cases found
      | some original =>
          rw [source] at made
          obtain rfl := Value.obj.inj made
          rw [stringField, Object.str?, Assoc.lookup_put, if_pos rfl] at found
          exact ⟨original.toList, (Option.some.inj found).symm⟩
  | null | bool | float | int | str | arr => cases made

theorem redactBindingTargets_redacted {stepResults : StepResults} {step : Object}
    (found : (redactBindingTargets stepResults).lookup rdpStatusBindingsStepID = some step) :
    Redacted step := by
  intro items rows r member target shown
  unfold redactBindingTargets at found
  split at found
  · rename_i missing
    rw [missing] at found
    cases found
  · rename_i original present
    split at found
    · rename_i none
      rw [present] at found
      obtain rfl := Option.some.inj found
      rw [none] at rows
      cases rows
    · rw [Assoc.lookup_put, if_pos rfl] at found
      obtain rfl := Option.some.inj found
      rw [Object.arr?, Assoc.lookup_put, if_pos rfl] at rows
      obtain rfl := Option.some.inj rows
      obtain ⟨raw, -, made⟩ := List.mem_map.mp member
      exact redactRow_target made shown

theorem getRdpStatus_redacted {stepResults left : StepResults} {summary : Object}
    (done : getRdpStatus stepResults = .ok (summary, left)) {step : Object}
    (found : left.lookup rdpStatusBindingsStepID = some step) : Redacted step := by
  unfold getRdpStatus at done
  obtain ⟨bindings, -, done⟩ := bind_ok done
  obtain ⟨consumers, -, done⟩ := bind_ok done
  obtain ⟨-, rfl⟩ := Prod.mk.inj (Except.ok.inj done)
  exact redactBindingTargets_redacted found

theorem redacted_scrubEnvelope {step : Object} (redacted : Redacted step) :
    Redacted (scrubEnvelope step) := by
  intro items rows
  rw [Object.arr?, lookup_scrubEnvelope] at rows
  exact redacted items rows

theorem shown_redacted {registry : Registry} {omitRawSteps : Bool} {stepResults : StepResults}
    {out : Object}
    (done : applyResultStrategy (getRdpStatusHandler :: registry)
      ⟨"postProcess", "getRdpStatus", omitRawSteps⟩ stepResults = .ok out) {step : Object}
    (found : out.obj? rdpStatusBindingsStepID = some step) : Redacted step := by
  obtain ⟨slots, left, leaves, read, placed⟩ := applyResultStrategy_ok done
  cases leaves with
  | collect collects => exact absurd collects (by simp)
  | @postProcess summary left processes applied shown =>
      have here := Object.obj?_eq_some.mp found
      have redacted : ∀ source, left.lookup rdpStatusBindingsStepID = some source → Redacted source :=
        fun source present => getRdpStatus_redacted applied present
      by_cases shows : Shows ⟨"postProcess", "getRdpStatus", omitRawSteps⟩ rdpStatusBindingsStepID
      · cases present : left.lookup rdpStatusBindingsStepID with
        | none =>
            rw [read, (placed _).1 shows, present] at here
            cases here
        | some source =>
            rw [shown_step (read _) ((placed _).1 shows) present] at here
            obtain rfl := Value.obj.inj (Option.some.inj here)
            exact redacted_scrubEnvelope (redacted source present)
      · have slotted : (slots.lookup rdpStatusBindingsStepID).isSome = true := by
          rw [read] at here
          obtain ⟨slot, found, -⟩ := Option.map_eq_some_iff.mp here
          rw [found]
          rfl
        exact absurd ((placed _).2 shows slotted).2 (by decide)

/-! ## The statement -/

theorem redacted_targets_reveal_nothing :
    (∀ s, ∃ p, Divides s p) ∧
    (∀ s p, Divides s p → redactRequestTarget s = p.shown) ∧
    (∀ s s' p p', Divides s p → Divides s' p' → AgreeOutside p p' →
      redactRequestTarget s = redactRequestTarget s') ∧
    (∀ s, redactRequestTarget (redactRequestTarget s) = redactRequestTarget s) ∧
    ∀ (registry : Registry) (omitRawSteps : Bool) (stepResults : StepResults) (out step : Object),
      applyResultStrategy (getRdpStatusHandler :: registry)
        ⟨"postProcess", "getRdpStatus", omitRawSteps⟩ stepResults = .ok out →
      out.obj? rdpStatusBindingsStepID = some step → Redacted step := by
  refine ⟨divides_exists, fun s p divides => divides.redact, ?_, redact_idempotent, ?_⟩
  · intro s s' p p' divides divides' agree
    rw [divides.redact, divides'.redact, agree.shown]
  · intro registry omitRawSteps stepResults out step done found
    exact shown_redacted done found

theorem redacted_targets_reveal_nothing_two :
    redactRequestTarget "http://a@h/p?k".toList = redactRequestTarget "http://b:c@h/p?kk".toList := by
  refine redacted_targets_reveal_nothing.2.2.1 _ _
    ⟨"http://".toList, some ['a'], "@h/p".toList, some ['k'], none⟩
    ⟨"http://".toList, some "b:c".toList, "@h/p".toList, some ['k', 'k'], none⟩
    ⟨⟨"http://a@h/p".toList, ?_, List.all_eq_true.mp (by decide +kernel), by decide +kernel⟩, ?_⟩
    ⟨⟨"http://b:c@h/p".toList, ?_, List.all_eq_true.mp (by decide +kernel), by decide +kernel⟩, ?_⟩
    ⟨rfl, rfl, rfl, rfl, rfl⟩
  · exact @Userinfo.some _ "http".toList ['a'] ['h'] ['/', 'p']
      (by decide +kernel) (List.all_eq_true.mp (by decide +kernel)) (by decide +kernel)
      (by decide +kernel) (by decide +kernel)
  · simp
  · exact @Userinfo.some _ "http".toList "b:c".toList ['h'] ['/', 'p']
      (by decide +kernel) (List.all_eq_true.mp (by decide +kernel)) (by decide +kernel)
      (by decide +kernel) (by decide +kernel)
  · simp

end BrokerMcp.Proof.Composite
