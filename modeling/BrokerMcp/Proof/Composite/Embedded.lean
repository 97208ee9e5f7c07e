import BrokerMcp.Proof.Composite.Redacted

namespace BrokerMcp.Proof.Composite
open BrokerMcp.Composite BrokerMcp.Composite.Handlers

/-- The path with a hole for the userinfo of each URL in it; `skip` characters belong to one. -/
def skeleton : Nat → List Char → List (Option Char)
  | _, [] => []
  | skip + 1, _ :: rest => skeleton skip rest
  | 0, ':' :: '/' :: '/' :: rest =>
      some ':' :: some '/' :: some '/' ::
        match lastIndex '@' (authority rest) with
        | some k => none :: skeleton k rest
        | none => skeleton 0 rest
  | 0, c :: rest => some c :: skeleton 0 rest

def afterMark (rest : List Char) : List (Option Char) :=
  match lastIndex '@' (authority rest) with
  | some k => none :: skeleton k rest
  | none => skeleton 0 rest

theorem skeleton_mark (rest : List Char) :
    skeleton 0 (schemeMark ++ rest) = schemeMark.map some ++ afterMark rest := rfl

theorem skeleton_text {c : Char} {rest : List Char} (text : ¬ schemeMark <+: c :: rest) :
    skeleton 0 (c :: rest) = some c :: skeleton 0 rest := by
  rw [skeleton]
  rintro tail rfl rfl
  exact text ⟨tail, rfl⟩

theorem skeleton_skip (user rest : List Char) :
    skeleton user.length (user ++ rest) = skeleton 0 rest := by
  induction user with
  | nil => rfl
  | cons c user ih => exact ih

theorem afterMark_user {user host rest : List Char}
    (free : ∀ c ∈ user ++ '@' :: host, inAuthority c = true) (last : '@' ∉ host ++ authority rest) :
    afterMark (user ++ '@' :: host ++ rest) = none :: skeleton 0 ('@' :: host ++ rest) := by
  rw [afterMark, lastIndex_authority free last]
  dsimp only
  rw [List.append_assoc, skeleton_skip]

theorem afterMark_none {rest : List Char} (absent : '@' ∉ authority rest) :
    afterMark rest = skeleton 0 rest := by
  rw [afterMark, lastIndex_eq_none absent]

theorem skeleton_induct {motive : List Char → Prop} (nil : motive [])
    (text : ∀ c rest, ¬ schemeMark <+: c :: rest → motive rest → motive (c :: rest))
    (user : ∀ user host rest, (∀ c ∈ user ++ '@' :: host, inAuthority c = true) → '@' ∉ host →
      authority rest = [] → motive ('@' :: host ++ rest) →
      motive (schemeMark ++ (user ++ '@' :: host ++ rest)))
    (bare : ∀ rest, '@' ∉ authority rest → motive rest → motive (schemeMark ++ rest)) :
    ∀ s, motive s := by
  intro s
  -- by length, as a mark and the userinfo after it are passed over at once
  induction length : s.length using Nat.strong_induction_on generalizing s with
  | _ n ih =>
      cases s with
      | nil => exact nil
      | cons c rest =>
          by_cases mark : schemeMark <+: c :: rest
          · obtain ⟨after, same⟩ := mark
            rw [← same] at length ⊢
            rw [List.length_append] at length
            by_cases secret : '@' ∈ authority after
            · obtain ⟨u, host, tail, rfl, free, last, ends⟩ := exists_user secret
              refine user u host tail free last ends (ih _ ?_ _ rfl)
              simp only [List.length_append, schemeMark, List.length_cons] at length ⊢
              omega
            · refine bare after secret (ih _ ?_ _ rfl)
              simp only [schemeMark, List.length_cons] at length
              omega
          · refine text c rest mark (ih _ ?_ _ rfl)
            simp only [List.length_cons] at length
            omega

theorem skeleton_user {user host rest : List Char}
    (free : ∀ c ∈ user ++ '@' :: host, inAuthority c = true) (last : '@' ∉ host)
    (ends : authority rest = []) :
    skeleton 0 (schemeMark ++ (user ++ '@' :: host ++ rest)) =
      schemeMark.map some ++ none :: skeleton 0 ('@' :: host ++ rest) := by
  rw [skeleton_mark, afterMark_user free (last_of_ends last ends)]

theorem skeleton_bare {rest : List Char} (absent : '@' ∉ authority rest) :
    skeleton 0 (schemeMark ++ rest) = schemeMark.map some ++ skeleton 0 rest := by
  rw [skeleton_mark, afterMark_none absent]

theorem skeleton_of_no_hole (s : List Char) (whole : none ∉ skeleton 0 s) :
    skeleton 0 s = s.map some := by
  induction s using skeleton_induct with
  | nil => rfl
  | text c rest apart ih =>
      rw [skeleton_text apart] at whole ⊢
      rw [ih fun member => whole (.tail _ member), List.map_cons]
  | user user host rest free last ends ih =>
      rw [skeleton_user free last ends] at whole
      exact absurd (List.mem_append_right _ (.head _)) whole
  | bare rest absent ih =>
      rw [skeleton_bare absent] at whole ⊢
      rw [ih fun member => whole (List.mem_append_right _ member), List.map_append]

theorem url_of_hole (s : List Char) (hole : none ∈ skeleton 0 s) :
    ∃ before after, s = before ++ schemeMark ++ after ∧ '@' ∈ authority after := by
  induction s using skeleton_induct with
  | nil => cases hole
  | text c rest apart ih =>
      rw [skeleton_text apart] at hole
      obtain ⟨before, after, rfl, secret⟩ := ih ((List.mem_cons.mp hole).resolve_left nofun)
      exact ⟨c :: before, after, rfl, secret⟩
  | user user host rest free last ends ih =>
      refine ⟨[], user ++ '@' :: host ++ rest, rfl, ?_⟩
      rw [authority, List.takeWhile_append_of_pos free]
      simp
  | bare rest absent ih =>
      rw [skeleton_bare absent] at hole
      have later : none ∈ skeleton 0 rest := (List.mem_append.mp hole).resolve_left (by decide)
      obtain ⟨before, after, rfl, secret⟩ := ih later
      exact ⟨schemeMark ++ before, after, by simp, secret⟩

theorem peel {c : Char} {b : List Char} {x t : List (Option Char)}
    (same : some c :: x = b.map some ++ none :: t) :
    ∃ b', b = c :: b' ∧ x = b'.map some ++ none :: t := by
  cases b with
  | nil => cases same
  | cons d b =>
      obtain ⟨here, rest⟩ := List.cons_eq_cons.mp same
      obtain rfl := Option.some.inj here
      exact ⟨b, rfl, rest⟩

theorem first_hole (s : List Char) {b : List Char} {t : List (Option Char)}
    (split : skeleton 0 s = b.map some ++ none :: t) :
    ∃ scheme user host rest, b = scheme ++ schemeMark ∧ s = b ++ (user ++ '@' :: host ++ rest) ∧
      (∀ c ∈ user ++ '@' :: host, inAuthority c = true) ∧ '@' ∉ host ∧ authority rest = [] ∧
      t = skeleton 0 ('@' :: host ++ rest) := by
  induction s using skeleton_induct generalizing b with
  | nil => simp [skeleton] at split
  | text c rest apart ih =>
      rw [skeleton_text apart] at split
      obtain ⟨b₁, rfl, split₁⟩ := peel split
      obtain ⟨scheme, user, host, tail, rfl, rfl, found⟩ := ih split₁
      exact ⟨c :: scheme, user, host, tail, rfl, rfl, found⟩
  | user user host rest free last ends ih =>
      rw [skeleton_user free last ends] at split
      obtain ⟨b₁, rfl, split₁⟩ := peel split
      obtain ⟨b₂, rfl, split₂⟩ := peel split₁
      obtain ⟨b₃, rfl, split₃⟩ := peel split₂
      cases b₃ with
      | nil => exact ⟨[], user, host, rest, rfl, rfl, free, last, ends, (List.cons.inj split₃).2.symm⟩
      | cons d b => cases (List.cons.inj split₃).1
  | bare rest absent ih =>
      rw [skeleton_bare absent] at split
      obtain ⟨b₁, rfl, split₁⟩ := peel split
      obtain ⟨b₂, rfl, split₂⟩ := peel split₁
      obtain ⟨b₃, rfl, split₃⟩ := peel split₂
      obtain ⟨scheme, user, host, tail, rfl, rfl, found⟩ := ih split₃
      exact ⟨schemeMark ++ scheme, user, host, tail, rfl, rfl, found⟩

theorem at_not_mem_authority {r : List Char} (absent : '@' ∉ authority r) (after : List Char) :
    '@' ∉ authority (r ++ schemeMark ++ after) := by
  induction r with
  | nil =>
      show '@' ∉ [':']
      decide
  | cons c r ih =>
      rw [authority, List.takeWhile_cons] at absent
      rw [List.cons_append, List.cons_append, authority, List.takeWhile_cons]
      split_ifs at absent ⊢ with inside
      · obtain ⟨apart, absent⟩ := not_or.mp (mt List.mem_cons.mpr absent)
        have rest := ih absent
        rw [List.mem_cons, not_or]
        exact ⟨apart, rest⟩
      · simp

theorem skeleton_append (before : List Char) : ∃ scanned, ∀ after,
    skeleton 0 (before ++ schemeMark ++ after) =
      scanned ++ (schemeMark.map some ++ afterMark after) := by
  induction before using skeleton_induct with
  | nil => exact ⟨[], skeleton_mark⟩
  | text c rest apart ih =>
      obtain ⟨scanned, same⟩ := ih
      refine ⟨some c :: scanned, fun after => ?_⟩
      rw [List.cons_append, List.cons_append, skeleton_text (mark_apart apart after), same]
      rfl
  | user user host rest free last ends ih =>
      obtain ⟨scanned, same⟩ := ih
      refine ⟨schemeMark.map some ++ none :: scanned, fun after => ?_⟩
      have last' : '@' ∉ host ++ authority (rest ++ schemeMark ++ after) := by
        rw [List.mem_append, not_or]
        exact ⟨last, at_not_mem_authority (by rw [ends]; simp) after⟩
      have text : schemeMark ++ (user ++ '@' :: host ++ rest) ++ schemeMark ++ after =
          schemeMark ++ (user ++ '@' :: host ++ (rest ++ schemeMark ++ after)) := by simp
      have tail : '@' :: host ++ (rest ++ schemeMark ++ after) =
          '@' :: host ++ rest ++ schemeMark ++ after := by simp
      rw [text, skeleton_mark, afterMark_user free last', tail, same]
      simp
  | bare rest absent ih =>
      obtain ⟨scanned, same⟩ := ih
      refine ⟨schemeMark.map some ++ scanned, fun after => ?_⟩
      have text : schemeMark ++ rest ++ schemeMark ++ after =
          schemeMark ++ (rest ++ schemeMark ++ after) := by simp
      rw [text, skeleton_bare (at_not_mem_authority absent after), same]
      simp

theorem maskAuthority_append (r : List Char) : ∃ kept, ∀ after,
    maskAuthority (r ++ schemeMark ++ after) = kept ++ schemeMark ++ after := by
  by_cases secret : '@' ∈ authority r
  · obtain ⟨user, host, rest, rfl, free, last, ends⟩ := exists_user secret
    refine ⟨redactedComponent ++ '@' :: host ++ rest, fun after => ?_⟩
    have last' : '@' ∉ host ++ authority (rest ++ schemeMark ++ after) := by
      rw [List.mem_append, not_or]
      exact ⟨last, at_not_mem_authority (by rw [ends]; simp) after⟩
    have text : user ++ '@' :: host ++ rest ++ schemeMark ++ after =
        user ++ '@' :: host ++ (rest ++ schemeMark ++ after) := by simp
    rw [text, maskAuthority_user free last']
    simp
  · exact ⟨r, fun after => maskAuthority_none (at_not_mem_authority secret after)⟩

/-- The redacted target does not depend on the userinfo of any URL in its path. -/
def HidesUserinfos (s : List Char) : Prop :=
  ∀ path, (∀ c ∈ path, inPath c = true) → skeleton 0 path = skeleton 0 (s.takeWhile inPath) →
    redactRequestTarget (path ++ s.dropWhile inPath) = redactRequestTarget s

def OneUserinfo (path : List Char) : Prop :=
  ∀ before after, path = before ++ schemeMark ++ after → '@' ∈ authority after →
    ¬ schemeMark <:+: before

theorem redact_path (s path : List Char) (free : ∀ c ∈ path, inPath c = true) :
    redactRequestTarget (path ++ s.dropWhile inPath) =
      maskUserinfo path ++ maskTail (s.dropWhile inPath) := by
  refine redact_split free fun c head => ?_
  have outside := List.head?_dropWhile_not inPath s
  rw [head] at outside
  simpa using outside

theorem redact_self (s : List Char) :
    redactRequestTarget s =
      maskUserinfo (s.takeWhile inPath) ++ maskTail (s.dropWhile inPath) := by
  have split := redact_path s (s.takeWhile inPath) fun c member => List.mem_takeWhile_imp member
  rwa [List.takeWhile_append_dropWhile] at split

theorem hidesUserinfos_iff (s : List Char) :
    HidesUserinfos s ↔ ∀ path, (∀ c ∈ path, inPath c = true) →
      skeleton 0 path = skeleton 0 (s.takeWhile inPath) →
      maskUserinfo path = maskUserinfo (s.takeWhile inPath) := by
  refine forall_congr' fun path => forall_congr' fun free => imp_congr_right fun same => ?_
  rw [redact_path s path free, redact_self s, List.append_left_inj]

theorem exists_map_some {x : List (Option Char)} (whole : none ∉ x) : ∃ b : List Char, x = b.map some := by
  induction x with
  | nil => exact ⟨[], rfl⟩
  | cons o x ih =>
      obtain ⟨here, rest⟩ := not_or.mp (mt List.mem_cons.mpr whole)
      obtain ⟨c, rfl⟩ := Option.ne_none_iff_exists'.mp (Ne.symm here)
      obtain ⟨b, rfl⟩ := ih rest
      exact ⟨c :: b, rfl⟩

theorem maskUserinfo_of_skeleton {path path' : List Char} (one : OneUserinfo path)
    (same : skeleton 0 path' = skeleton 0 path) : maskUserinfo path' = maskUserinfo path := by
  by_cases hole : none ∈ skeleton 0 path
  · obtain ⟨x, t, split, whole⟩ := List.eq_append_cons_of_mem hole
    obtain ⟨b, rfl⟩ := exists_map_some whole
    obtain ⟨scheme, user, host, rest, rfl, text, free, last, ends, left⟩ := first_hole path split
    obtain ⟨scheme', user', host', rest', mark, text', free', last', ends', left'⟩ :=
      first_hole path' (same.trans split)
    have first : ¬ schemeMark <:+: scheme := by
      refine one _ _ text ?_
      rw [authority, List.takeWhile_append_of_pos free]
      simp
    -- what follows the userinfo has no hole of its own
    have plain : ∀ y, t = skeleton 0 y → skeleton 0 y = y.map some := by
      rintro y rfl
      refine skeleton_of_no_hole y fun later => ?_
      rw [left] at later
      obtain ⟨before, after, more, secret⟩ := url_of_hole _ later
      refine one (scheme ++ schemeMark ++ user ++ before) after ?_ secret ?_
      · rw [text, List.append_assoc user, more]
        simp
      · exact ⟨scheme, user ++ before, by simp⟩
    have tails : '@' :: host' ++ rest' = '@' :: host ++ rest := by
      have maps := (plain _ left').symm.trans ((left'.symm.trans left).trans (plain _ left))
      exact List.map_injective_iff.mpr (fun _ _ => Option.some.inj) maps
    obtain rfl := List.append_cancel_right mark
    rw [text, text', maskUserinfo_first first, maskUserinfo_first first,
      maskAuthority_user free (last_of_ends last ends),
      maskAuthority_user free' (last_of_ends last' ends'), List.append_assoc redactedComponent,
      List.append_assoc redactedComponent, tails]
  · have whole' : none ∉ skeleton 0 path' := by rwa [same]
    rw [skeleton_of_no_hole path hole, skeleton_of_no_hole path' whole'] at same
    rw [List.map_injective_iff.mpr (fun _ _ => Option.some.inj) same]

theorem exists_other {before after : List Char} (later : schemeMark <:+: before)
    (secret : '@' ∈ authority after) :
    ∃ after', (∀ c ∈ after', c = 'x' ∨ c ∈ after) ∧
      skeleton 0 (before ++ schemeMark ++ after') = skeleton 0 (before ++ schemeMark ++ after) ∧
      maskUserinfo (before ++ schemeMark ++ after') ≠ maskUserinfo (before ++ schemeMark ++ after) := by
  obtain ⟨user, host, rest, rfl, free, last, ends⟩ := exists_user secret
  -- a longer userinfo, in a part of the path that is not masked
  refine ⟨'x' :: (user ++ '@' :: host ++ rest), fun c member => List.mem_cons.mp member, ?_, ?_⟩
  · have free' : ∀ c ∈ 'x' :: user ++ '@' :: host, inAuthority c = true := by
      intro c member
      rcases List.mem_cons.mp member with rfl | rest
      · decide
      · exact free c rest
    obtain ⟨scanned, scan⟩ := skeleton_append before
    have longer := @afterMark_user ('x' :: user) host rest free' (last_of_ends last ends)
    rw [scan, scan, afterMark_user free (last_of_ends last ends)]
    rw [List.cons_append, List.cons_append] at longer
    rw [longer]
  · obtain ⟨scheme, middle, rfl, first⟩ := exists_first later
    obtain ⟨kept, mask⟩ := maskAuthority_append middle
    intro same
    have text : ∀ y, scheme ++ schemeMark ++ middle ++ schemeMark ++ y =
        scheme ++ schemeMark ++ (middle ++ schemeMark ++ y) := by simp
    rw [text, text, maskUserinfo_first first, maskUserinfo_first first, mask, mask] at same
    have lengths := congrArg List.length same
    simp at lengths

theorem hides_userinfos_iff_one (s : List Char) :
    HidesUserinfos s ↔ OneUserinfo (s.takeWhile inPath) := by
  rw [hidesUserinfos_iff]
  constructor
  · intro hides before after split secret later
    obtain ⟨after', clear, same, differ⟩ := exists_other later secret
    rw [← split] at same differ
    refine differ (hides _ ?_ same)
    have free : ∀ c ∈ before ++ schemeMark ++ after, inPath c = true := by
      rw [← split]
      exact fun c member => List.mem_takeWhile_imp member
    intro c member
    rcases List.mem_append.mp member with prior | within
    · exact free c (List.mem_append_left _ prior)
    · rcases clear c within with rfl | kept
      · decide
      · exact free c (List.mem_append_right _ kept)
  · intro one path free same
    exact maskUserinfo_of_skeleton one same

theorem second_userinfo_shown : ¬ HidesUserinfos "https://h/fwd/https://user:pw@x/".toList := by
  intro hides
  have same := hides "https://h/fwd/https://user:pass@x/".toList
    (List.all_eq_true.mp (by decide +kernel)) (by decide +kernel)
  exact absurd same (by decide +kernel)

end BrokerMcp.Proof.Composite
