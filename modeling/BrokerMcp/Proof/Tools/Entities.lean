import BrokerMcp.Tools.TopicValidation
import Mathlib.Data.List.TakeWhile
import Mathlib.Tactic

/-!
# What the topic check rejects

`Spells` lists the ways of writing one of the five characters as an entity, given the text that follows.
`findHTMLEntity` returns the leftmost one (`findHTMLEntity_leftmost`), so that a topic is rejected if and
only if an escaper can have written a part of it. The corrected topic that a rejection asks for passes
the check (`correction_accepted`): undoing one layer of escaping after the other ends, and it ends at a
text without an entity.
-/

namespace BrokerMcp.Proof.Tools
open BrokerMcp.Tools BrokerMcp.Composite

/-! ## Entities -/

inductive Spells : List Char → List Char → Prop where
  | named {name post : List Char} : name ∈ entityNames → Spells ('&' :: (name ++ [';'])) post
  | bare {name post : List Char} :
      name ∈ entityNames → post.head? ≠ some ';' → Spells ('&' :: name) post
  | apos {post : List Char} : Spells "&apos;".toList post
  | decimal {zeros : Nat} {digits post : List Char} :
      digits ∈ decimalReferences → post.head?.any isDecimalDigit = false →
      Spells ('&' :: '#' :: (List.replicate zeros '0' ++ digits)) post
  | hex {x : Char} {zeros : Nat} {digits post : List Char} :
      x = 'x' ∨ x = 'X' → digits ∈ hexReferences → post.head?.any isHexDigit = false →
      Spells ('&' :: '#' :: x :: (List.replicate zeros '0' ++ digits)) post

def PrefixFree (words : List (List Char)) : Prop :=
  ∀ v ∈ words, ∀ w ∈ words, v <+: w → v = w

instance (words : List (List Char)) : Decidable (PrefixFree words) :=
  inferInstanceAs (Decidable (∀ v ∈ words, ∀ w ∈ words, v <+: w → v = w))

theorem find_word {words : List (List Char)} (free : PrefixFree words) {text word : List Char} :
    (words.find? fun w => w.isPrefixOf text) = some word ↔ word ∈ words ∧ word <+: text := by
  constructor
  · intro found
    have matched := List.find?_some found
    exact ⟨List.mem_of_find?_eq_some found, List.isPrefixOf_iff_prefix.mp matched⟩
  · rintro ⟨member, starts⟩
    cases found : words.find? fun w => w.isPrefixOf text with
    | none =>
        have := List.find?_eq_none.mp found word member
        exact absurd (List.isPrefixOf_iff_prefix.mpr starts) this
    | some other =>
        have listed := List.mem_of_find?_eq_some found
        have matched := List.find?_some found
        have begins := List.isPrefixOf_iff_prefix.mp matched
        rcases List.prefix_or_prefix_of_prefix starts begins with shorter | shorter
        · rw [free word member other listed shorter]
        · rw [free other listed word member shorter]

theorem find_word_none {words : List (List Char)} {text : List Char} :
    (words.find? fun w => w.isPrefixOf text) = none ↔ ∀ w ∈ words, ¬ w <+: text := by
  simp [List.find?_eq_none, List.isPrefixOf_iff_prefix]

theorem takeWhile_zeros (digits : List Char) :
    ∃ zeros, (digits.takeWhile fun c => c = '0') = List.replicate zeros '0' := by
  refine ⟨_, List.eq_replicate_of_mem ?_⟩
  intro c member
  simpa using List.mem_takeWhile_imp member

theorem zeros_split (zeros : Nat) {rest : List Char} (other : rest.head? ≠ some '0') :
    ((List.replicate zeros '0' ++ rest).takeWhile fun c => c = '0') = List.replicate zeros '0' ∧
      ((List.replicate zeros '0' ++ rest).dropWhile fun c => c = '0') = rest := by
  induction zeros with
  | zero =>
      cases rest with
      | nil => simp
      | cons c rest =>
          have : c ≠ '0' := by simpa using other
          simp [this]
  | succ zeros ih => simp [List.replicate_succ, ih]

theorem reference_eq_some {references : List (List Char)} {isDigit : Char → Bool}
    {digits entity : List Char} (free : PrefixFree references)
    (leading : ∀ r ∈ references, r ≠ [] ∧ r.head? ≠ some '0') :
    reference references isDigit digits = some entity ↔
      ∃ zeros r post, digits = List.replicate zeros '0' ++ r ++ post ∧ r ∈ references ∧
        post.head?.any isDigit = false ∧ entity = List.replicate zeros '0' ++ r := by
  constructor
  · intro found
    simp only [reference] at found
    obtain ⟨zeros, taken⟩ := takeWhile_zeros digits
    have whole := List.takeWhile_append_dropWhile (p := fun c => decide (c = '0')) (l := digits)
    cases word : references.find? fun r => r.isPrefixOf (digits.dropWhile fun c => c = '0') with
    | none => simp [word] at found
    | some r =>
        obtain ⟨member, post, starts⟩ := (find_word free).mp word
        rw [word, taken, ← starts] at found
        simp only [List.drop_left] at found
        split at found
        · cases found
        · rename_i ended
          refine ⟨zeros, r, post, ?_, member, by simpa using ended, (Option.some.inj found).symm⟩
          rw [← whole, taken, ← starts, List.append_assoc]
  · rintro ⟨zeros, r, post, rfl, member, ended, rfl⟩
    obtain ⟨filled, nonzero⟩ := leading r member
    have other : (r ++ post).head? ≠ some '0' := by
      cases r with
      | nil => exact absurd rfl filled
      | cons c r => simpa using nonzero
    obtain ⟨taken, dropped⟩ := zeros_split zeros other
    have word := (find_word free).mpr ⟨member, List.prefix_append r post⟩
    simp only [reference, List.append_assoc, taken, dropped, word]
    simp [ended]

theorem entityNames_free : PrefixFree entityNames := by decide

theorem decimalReferences_leading : ∀ r ∈ decimalReferences, r ≠ [] ∧ r.head? ≠ some '0' := by
  decide

theorem hexReferences_leading : ∀ r ∈ hexReferences, r ≠ [] ∧ r.head? ≠ some '0' := by decide

theorem named_sound {text entity : List Char} (found : htmlEntityNamed text = some entity) :
    ∃ post, text = entity ++ post ∧ Spells entity post := by
  unfold htmlEntityNamed at found
  split at found
  · rename_i rest
    split at found
    · rename_i name word
      obtain ⟨member, post, starts⟩ := (find_word entityNames_free).mp word
      rw [← starts, List.drop_left] at found
      by_cases semicolon : post.head? = some ';'
      · obtain ⟨later, rfl⟩ : ∃ later, post = ';' :: later := by
          cases post with
          | nil => cases semicolon
          | cons c later => exact ⟨later, by rw [Option.some.inj semicolon]⟩
        obtain rfl : '&' :: name ++ [';'] = entity := by simpa using found
        exact ⟨later, by simp [← starts], .named member⟩
      · obtain rfl : '&' :: name = entity := by simpa [semicolon] using found
        exact ⟨post, by simp [← starts], .bare member semicolon⟩
    · split at found
      · rename_i apos
        obtain ⟨post, starts⟩ := List.isPrefixOf_iff_prefix.mp apos
        obtain rfl := Option.some.inj found
        exact ⟨post, by rw [← starts]; rfl, .apos⟩
      · cases found
  · cases found

theorem reference_sound {references : List (List Char)} {isDigit : Char → Bool}
    (start : List Char) {digits entity : List Char} (free : PrefixFree references)
    (leading : ∀ r ∈ references, r ≠ [] ∧ r.head? ≠ some '0')
    (found : (reference references isDigit digits).map (start ++ ·) = some entity) :
    ∃ zeros r post, r ∈ references ∧ post.head?.any isDigit = false ∧
      entity = start ++ (List.replicate zeros '0' ++ r) ∧ start ++ digits = entity ++ post := by
  obtain ⟨tail, matched, rfl⟩ := Option.map_eq_some_iff.mp found
  obtain ⟨zeros, r, post, rfl, member, ended, rfl⟩ := (reference_eq_some free leading).mp matched
  exact ⟨zeros, r, post, member, ended, rfl, by simp⟩

theorem numeric_sound {text entity : List Char} (found : htmlEntityNumeric text = some entity) :
    ∃ post, text = entity ++ post ∧ Spells entity post := by
  unfold htmlEntityNumeric at found
  split at found
  · rename_i rest
    obtain ⟨zeros, r, post, member, ended, rfl, split⟩ :=
      reference_sound ['&', '#', 'x'] (by decide) hexReferences_leading found
    exact ⟨post, split, .hex (.inl rfl) member ended⟩
  · rename_i rest
    obtain ⟨zeros, r, post, member, ended, rfl, split⟩ :=
      reference_sound ['&', '#', 'X'] (by decide) hexReferences_leading found
    exact ⟨post, split, .hex (.inr rfl) member ended⟩
  · rename_i rest _ _
    obtain ⟨zeros, r, post, member, ended, rfl, split⟩ :=
      reference_sound ['&', '#'] (by decide) decimalReferences_leading found
    exact ⟨post, split, .decimal member ended⟩
  · cases found

def entityAt (text : List Char) : Option (List Char) :=
  (htmlEntityNamed text).or (htmlEntityNumeric text)

/-- No name begins an entity that is written with a number, nor `&apos;`. -/
theorem named_reference (rest : List Char) : htmlEntityNamed ('&' :: '#' :: rest) = none := by
  have unnamed : entityNames.find? (fun name => name.isPrefixOf ('#' :: rest)) = none := by
    rw [find_word_none]
    intro w member starts
    have other : ∀ w ∈ entityNames, w ≠ [] ∧ w.head? ≠ some '#' := by decide
    obtain ⟨filled, nonhash⟩ := other w member
    cases w with
    | nil => exact filled rfl
    | cons c w => exact nonhash (congrArg some (List.cons_prefix_cons.mp starts).1)
  simp [htmlEntityNamed, unnamed]

theorem named_apos (post : List Char) :
    htmlEntityNamed ("&apos;".toList ++ post) = some "&apos;".toList := by
  have unnamed :
      entityNames.find? (fun name => name.isPrefixOf ("apos;".toList ++ post)) = none := by
    rw [find_word_none]
    intro w member starts
    have other : ∀ w ∈ entityNames, w.length ≤ "apos;".toList.length ∧ ¬ w <+: "apos;".toList := by
      decide
    obtain ⟨short, apart⟩ := other w member
    exact apart (List.prefix_of_prefix_length_le starts (List.prefix_append _ _) short)
  have whole : "&apos;".toList ++ post = '&' :: ("apos;".toList ++ post) := rfl
  have starts : "apos;".toList.isPrefixOf ("apos;".toList ++ post) = true :=
    List.isPrefixOf_iff_prefix.mpr (List.prefix_append _ _)
  rw [whole, htmlEntityNamed, unnamed]
  simp only [starts, if_true]

theorem numeric_hex {x : Char} (marked : x = 'x' ∨ x = 'X') (rest : List Char) :
    htmlEntityNumeric ('&' :: '#' :: x :: rest) =
      (reference hexReferences isHexDigit rest).map fun digits => '&' :: '#' :: x :: digits := by
  rcases marked with rfl | rfl <;> rfl

theorem numeric_decimal {rest : List Char} (lower : rest.head? ≠ some 'x')
    (upper : rest.head? ≠ some 'X') :
    htmlEntityNumeric ('&' :: '#' :: rest) =
      (reference decimalReferences isDecimalDigit rest).map fun digits => '&' :: '#' :: digits := by
  cases rest with
  | nil => rfl
  | cons c rest =>
      have unmarked : c ≠ 'x' ∧ c ≠ 'X' := by simpa using And.intro lower upper
      rw [htmlEntityNumeric]
      · intro later same
        exact unmarked.1 (List.cons.inj same).1
      · intro later same
        exact unmarked.2 (List.cons.inj same).1

theorem zeros_head {zeros : Nat} {digits post : List Char} {c : Char} (filled : digits ≠ [])
    (other : digits.head? ≠ some c) (nonzero : c ≠ '0') :
    (List.replicate zeros '0' ++ digits ++ post).head? ≠ some c := by
  cases zeros with
  | zero =>
      cases digits with
      | nil => exact absurd rfl filled
      | cons d digits => simpa using other
  | succ zeros => simpa [List.replicate_succ] using nonzero.symm

theorem entityAt_of_spells {entity post : List Char} (spells : Spells entity post) :
    entityAt (entity ++ post) = some entity := by
  unfold entityAt
  cases spells with
  | @named name _ member =>
      have word := (find_word entityNames_free).mpr
        ⟨member, List.prefix_append name (';' :: post)⟩
      simp [htmlEntityNamed, word]
  | @bare name _ member ended =>
      have word := (find_word entityNames_free).mpr ⟨member, List.prefix_append name post⟩
      simp [htmlEntityNamed, word, ended]
  | apos => rw [named_apos, Option.some_or]
  | @decimal zeros digits _ member ended =>
      have matched :
          reference decimalReferences isDecimalDigit (List.replicate zeros '0' ++ digits ++ post) =
            some (List.replicate zeros '0' ++ digits) :=
        (reference_eq_some (by decide) decimalReferences_leading).mpr
          ⟨zeros, digits, post, rfl, member, ended, rfl⟩
      have unmarked : ∀ r ∈ decimalReferences, r ≠ [] ∧ r.head? ≠ some 'x' ∧ r.head? ≠ some 'X' := by
        decide
      obtain ⟨filled, lower, upper⟩ := unmarked digits member
      simp only [List.cons_append]
      rw [named_reference, Option.none_or, numeric_decimal (zeros_head filled lower (by decide))
        (zeros_head filled upper (by decide)), matched, Option.map_some]
  | @hex x zeros digits _ marked member ended =>
      have matched : reference hexReferences isHexDigit (List.replicate zeros '0' ++ digits ++ post) =
          some (List.replicate zeros '0' ++ digits) :=
        (reference_eq_some (by decide) hexReferences_leading).mpr
          ⟨zeros, digits, post, rfl, member, ended, rfl⟩
      simp only [List.cons_append]
      rw [named_reference, Option.none_or, numeric_hex marked, matched, Option.map_some]

theorem entityAt_eq_some {text entity : List Char} :
    entityAt text = some entity ↔ ∃ post, text = entity ++ post ∧ Spells entity post := by
  constructor
  · intro found
    rcases Option.or_eq_some_iff.mp found with named | ⟨-, numeric⟩
    · exact named_sound named
    · exact numeric_sound numeric
  · rintro ⟨post, rfl, spells⟩
    exact entityAt_of_spells spells

/-! ## The leftmost entity -/

theorem Spells.begins {entity post : List Char} (spells : Spells entity post) :
    ∃ rest, entity = '&' :: rest := by
  cases spells with
  | named member => exact ⟨_, rfl⟩
  | bare member ended => exact ⟨_, rfl⟩
  | apos => exact ⟨"apos;".toList, rfl⟩
  | decimal member ended => exact ⟨_, rfl⟩
  | hex marked member ended => exact ⟨_, rfl⟩

theorem findHTMLEntity_eq (value : String) :
    findHTMLEntity value =
      (((Scan.find entityAt value.toList).map Prod.snd).map String.ofList).getD "" := by
  have both := Scan.leftmost_find htmlEntityNamed htmlEntityNumeric value.toList
  change _ = Scan.find entityAt value.toList at both
  rw [← both]
  unfold findHTMLEntity
  cases Scan.find htmlEntityNamed value.toList with
  | none => cases Scan.find htmlEntityNumeric value.toList <;> rfl
  | some named =>
      cases Scan.find htmlEntityNumeric value.toList with
      | none => rfl
      | some numeric =>
          simp only [Scan.leftmost]
          split <;> rfl

/-- What is found is written in the topic as one of the entities, no entity starts before it, and
where nothing is found there is none. -/
theorem findHTMLEntity_leftmost (value : String) :
    (findHTMLEntity value = "" ∧
        ∀ passed entity post, value.toList = passed ++ entity ++ post → ¬ Spells entity post) ∨
      ∃ passed entity post, findHTMLEntity value = String.ofList entity ∧
        value.toList = passed ++ entity ++ post ∧ Spells entity post ∧
        ∀ before other after, value.toList = before ++ other ++ after → Spells other after →
          passed.length ≤ before.length := by
  rw [findHTMLEntity_eq]
  cases found : Scan.find entityAt value.toList with
  | none =>
      refine .inl ⟨rfl, ?_⟩
      intro passed entity post split spells
      have absent := Scan.find_eq_none.mp found (entity ++ post)
        ⟨passed, by rw [split, List.append_assoc]⟩
      rw [entityAt_of_spells spells] at absent
      cases absent
  | some first =>
      obtain ⟨i, entity⟩ := first
      obtain ⟨passed, rest, split, rfl, here, unmatched⟩ := Scan.find_eq_some.mp found
      obtain ⟨post, rfl, spells⟩ := entityAt_eq_some.mp here
      refine .inr ⟨passed, entity, post, rfl, by rw [split, List.append_assoc], spells, ?_⟩
      intro before other after split' spells'
      by_contra longer
      -- An entity that started before it would have been matched there.
      rw [split, List.append_assoc] at split'
      rcases List.append_eq_append_iff.mp split' with ⟨early, rfl, -⟩ | ⟨early, rfl, rest⟩
      · simp at longer
      · have nonempty : early ≠ [] := by
          rintro rfl
          simp at longer
        have absent := unmatched early (List.suffix_append _ _) nonempty
        rw [← rest, entityAt_of_spells spells'] at absent
        cases absent

/-! ## Escapers -/

def Written (text : List Char) : Prop :=
  ∃ entity tail, text = entity ++ tail ∧ ∀ post, Spells entity (tail ++ post)

def escapeWith (spell : Char → Option (List Char)) (text : List Char) : List Char :=
  text.flatMap fun c => (spell c).getD [c]

theorem escapeWith_append (spell : Char → Option (List Char)) (text rest : List Char) :
    escapeWith spell (text ++ rest) = escapeWith spell text ++ escapeWith spell rest := by
  simp [escapeWith]

theorem escapeWith_of_none {spell : Char → Option (List Char)} {text : List Char}
    (unescaped : ∀ c ∈ text, spell c = none) : escapeWith spell text = text := by
  induction text with
  | nil => rfl
  | cons c text ih =>
      have first := unescaped c List.mem_cons_self
      have rest := ih fun d member => unescaped d (List.mem_cons_of_mem c member)
      simp only [escapeWith, List.flatMap_cons, first, Option.getD_none] at rest ⊢
      rw [rest, List.singleton_append]

theorem findHTMLEntity_eq_empty {value : String} :
    findHTMLEntity value = "" ↔
      ∀ passed entity post, value.toList = passed ++ entity ++ post → ¬ Spells entity post := by
  rcases findHTMLEntity_leftmost value with ⟨empty, absent⟩ | ⟨passed, entity, post, found, split, spells, -⟩
  · exact iff_of_true empty absent
  · apply iff_of_false
    · obtain ⟨rest, rfl⟩ := spells.begins
      rw [found]
      simp
    · intro absent
      exact absent passed entity post split spells

/-- However an escaper writes the characters it escapes, the ampersand among them, a text that it
has changed is rejected and a text that it has left as it was is not. -/
theorem escaped_rejected {spell : Char → Option (List Char)}
    (written : ∀ c text, spell c = some text → Written text) (ampersand : (spell '&').isSome)
    (topic : List Char) :
    findHTMLEntity (String.ofList (escapeWith spell topic)) ≠ "" ↔ ∃ c ∈ topic, (spell c).isSome := by
  constructor
  · intro found
    by_contra none
    have unescaped : ∀ c ∈ topic, spell c = Option.none := by simpa using none
    apply found
    rw [escapeWith_of_none unescaped, findHTMLEntity_eq_empty]
    intro passed entity post split spells
    obtain ⟨rest, rfl⟩ := spells.begins
    have member : '&' ∈ topic := by
      rw [String.toList_ofList] at split
      rw [split]
      simp
    rw [unescaped '&' member] at ampersand
    cases ampersand
  · rintro ⟨c, member, escaped⟩ empty
    obtain ⟨before, after, rfl⟩ := List.append_of_mem member
    obtain ⟨text, spelled⟩ := Option.isSome_iff_exists.mp escaped
    obtain ⟨entity, tail, rfl, spells⟩ := written c text spelled
    refine findHTMLEntity_eq_empty.mp empty (escapeWith spell before) entity
      (tail ++ escapeWith spell after) ?_ (spells _)
    rw [String.toList_ofList, escapeWith_append]
    simp [escapeWith, spelled]

def escapeString (c : Char) : Option (List Char) :=
  [('&', "&amp;".toList), ('\'', "&#39;".toList), ('<', "&lt;".toList), ('>', "&gt;".toList),
    ('"', "&#34;".toList)].lookup c

theorem written_named (name : List Char) (member : name ∈ entityNames) :
    Written ('&' :: (name ++ [';'])) :=
  ⟨_, [], (List.append_nil _).symm, fun _ => .named member⟩

theorem written_decimal (digits : List Char) (member : digits ∈ decimalReferences) :
    Written ('&' :: '#' :: (digits ++ [';'])) :=
  ⟨'&' :: '#' :: (List.replicate 0 '0' ++ digits), [';'], by simp, fun _ => .decimal member rfl⟩

theorem escapeString_written (c : Char) (text : List Char) (spelled : escapeString c = some text) :
    Written text := by
  have listed : (c, text) ∈ [('&', "&amp;".toList), ('\'', "&#39;".toList), ('<', "&lt;".toList),
      ('>', "&gt;".toList), ('"', "&#34;".toList)] := Assoc.mem_of_lookup spelled
  simp only [List.mem_cons, Prod.mk.injEq, List.not_mem_nil, or_false] at listed
  rcases listed with ⟨-, rfl⟩ | ⟨-, rfl⟩ | ⟨-, rfl⟩ | ⟨-, rfl⟩ | ⟨-, rfl⟩
  · exact written_named "amp".toList (by decide)
  · exact written_decimal "39".toList (by decide)
  · exact written_named "lt".toList (by decide)
  · exact written_named "gt".toList (by decide)
  · exact written_decimal "34".toList (by decide)

theorem escapeString_rejected :
    findHTMLEntity (String.ofList (escapeWith escapeString "a/>".toList)) ≠ "" ↔
      ∃ c ∈ "a/>".toList, (escapeString c).isSome :=
  escaped_rejected escapeString_written rfl _

/-! ## The correction -/

section correction

variable {unescapeString : String → String}

theorem unescapeLoop_fixed
    (shrinks : ∀ s, unescapeString s ≠ s → (unescapeString s).length < s.length) (fuel : Nat)
    (s : String) (enough : s.length ≤ fuel) :
    unescapeString (unescapeLoop unescapeString fuel s) = unescapeLoop unescapeString fuel s := by
  induction fuel generalizing s with
  | zero =>
      by_contra changed
      have := shrinks s changed
      omega
  | succ fuel ih =>
      rw [unescapeLoop]
      split
      · assumption
      · rename_i changed
        apply ih
        have := shrinks s changed
        omega

/-- The topic that a rejection asks for is accepted, whatever the other parameters are. -/
theorem correction_accepted
    (shrinks : ∀ s, unescapeString s ≠ s → (unescapeString s).length < s.length)
    (decodes : ∀ s, findHTMLEntity s ≠ "" → unescapeString s ≠ s) {toolName : String}
    {params corrected : Object} {e : HtmlEntityTopicError}
    (rejected : validateHTMLEntityTopic unescapeString toolName params = some e)
    (followed : corrected.str? e.param = some e.fullyDecoded) :
    validateHTMLEntityTopic unescapeString toolName corrected = none := by
  simp only [validateHTMLEntityTopic, Option.bind_eq_bind, Option.bind_eq_some_iff] at rejected
  obtain ⟨param, guarded, value, supplied, rejected⟩ := rejected
  split at rejected
  · cases rejected
  · obtain rfl := Option.some.inj rejected
    have fixed := unescapeLoop_fixed shrinks value.length value le_rfl
    have accepted : findHTMLEntity (fullyUnescapeHTML unescapeString value) = "" := by
      by_contra found
      exact decodes _ found fixed
    simp only at followed
    simp [validateHTMLEntityTopic, guarded, followed, accepted]

end correction

def decodeEntity (entity : List Char) : Char :=
  let stem := entity.filter fun c => c ≠ ';'
  let ends := fun word : String => word.toList.isSuffixOf (stem.map Char.toLower)
  if ends "lt" || ends "60" || ends "3c" then '<'
  else if ends "gt" || ends "62" || ends "3e" then '>'
  else if ends "quot" || ends "34" || ends "22" then '"'
  else if ends "apos" || ends "39" || ends "27" then '\''
  else '&'

def unescapeFirst (s : String) : String :=
  match Scan.find entityAt s.toList with
  | none => s
  | some (i, entity) =>
      String.ofList (s.toList.take i ++ decodeEntity entity :: s.toList.drop (i + entity.length))

theorem Spells.long {entity post : List Char} (spells : Spells entity post) : 2 ≤ entity.length := by
  cases spells with
  | named member => simp
  | bare member ended =>
      have filled : ∀ w ∈ entityNames, 1 ≤ w.length := by decide
      have := filled _ member
      rw [List.length_cons]
      omega
  | apos => decide
  | decimal member ended => simp
  | hex marked member ended => simp

theorem unescapeFirst_shorter {s : String} (found : findHTMLEntity s ≠ "") :
    (unescapeFirst s).length < s.length := by
  unfold unescapeFirst
  cases first : Scan.find entityAt s.toList with
  | none => simp [findHTMLEntity_eq, first] at found
  | some found =>
      obtain ⟨i, entity⟩ := found
      obtain ⟨passed, rest, split, rfl, here, -⟩ := Scan.find_eq_some.mp first
      obtain ⟨post, rfl, spells⟩ := entityAt_eq_some.mp here
      have long := spells.long
      have length : s.length = passed.length + (entity.length + post.length) := by
        rw [← String.length_toList, split]
        simp
      simp only [String.length_ofList, split, length]
      simp
      omega

theorem unescapeFirst_shrinks (s : String) (changed : unescapeFirst s ≠ s) :
    (unescapeFirst s).length < s.length := by
  apply unescapeFirst_shorter
  intro empty
  apply changed
  unfold unescapeFirst
  cases first : Scan.find entityAt s.toList with
  | none => rfl
  | some found =>
      obtain ⟨i, entity⟩ := found
      obtain ⟨passed, rest, split, -, here, -⟩ := Scan.find_eq_some.mp first
      obtain ⟨post, rfl, spells⟩ := entityAt_eq_some.mp here
      exact absurd spells (findHTMLEntity_eq_empty.mp empty passed entity post (by simp [split]))

theorem unescapeFirst_decodes (s : String) (found : findHTMLEntity s ≠ "") :
    unescapeFirst s ≠ s := by
  intro same
  have := unescapeFirst_shorter found
  rw [same] at this
  omega

theorem correction_accepted_gt :
    ∃ e, validateHTMLEntityTopic unescapeFirst "create-queue-subscription"
        [("subscriptionTopic", .str "ABC/&amp;gt;")] = some e ∧ e.fullyDecoded = "ABC/>" ∧
      validateHTMLEntityTopic unescapeFirst "create-queue-subscription"
        [("subscriptionTopic", .str "ABC/>")] = none := by
  have rejected : validateHTMLEntityTopic unescapeFirst "create-queue-subscription"
      [("subscriptionTopic", .str "ABC/&amp;gt;")] =
        some ⟨"create-queue-subscription", "subscriptionTopic", "ABC/&amp;gt;", "&amp;", "&", "ABC/>"⟩ :=
    rfl
  exact ⟨_, rejected, rfl,
    correction_accepted unescapeFirst_shrinks unescapeFirst_decodes rejected rfl⟩

end BrokerMcp.Proof.Tools
