import BrokerMcp.Sempv2.Request

/-!
# The path of a request

The arguments are replaced one after the other, in the order of a map. The path they leave is the
template with every value escaped in its place.
-/

namespace BrokerMcp.Proof.Sempv2
open BrokerMcp.Sempv2 BrokerMcp.Resilience Holes

theorem utf8_injective : Function.Injective utf8 := by
  intro s t same
  apply String.toByteArray_inj.mp
  apply ByteArray.ext
  exact Array.toList_inj.mp same

theorem utf8_ne_nil {s : String} (some : s ≠ "") : utf8 s ≠ [] := by
  intro empty
  exact some (utf8_injective (empty.trans rfl))

def readByte (c : Char) : Option UInt8 := some (UInt8.ofNat c.toNat)

theorem toNat_ofNat_byte (b : UInt8) : (Char.ofNat b.toNat).toNat = b.toNat := by
  have small := b.toNat_lt
  have valid : b.toNat.isValidChar := .inl (by omega)
  rw [Char.ofNat, dif_pos valid]
  rfl

theorem pathCode_some {b : UInt8} {c : Char} (written : pathCode b = some c) :
    c = Char.ofNat b.toNat ∧ (unreserved c || c ∈ ['$', '&', '+', ':', '=', '@']) = true := by
  unfold pathCode at written
  dsimp only at written
  split_ifs at written with kept
  obtain rfl := Option.some.inj written
  exact ⟨rfl, kept⟩

theorem path_reads : Percent.Reads pathCode readByte where
  back := by
    intro b c written
    obtain ⟨rfl, -⟩ := pathCode_some written
    rw [readByte, toNat_ofNat_byte, UInt8.ofNat_toNat]
  plain := by
    intro b written
    exact absurd (pathCode_some written).2 (by decide)

theorem pathEscape_injective : Function.Injective pathEscape :=
  (Percent.escape_injective path_reads).comp utf8_injective

theorem not_mem_pathEscape {c : Char} (reserved : c ∈ ['/', ',', ';', '?', '#', '{', '}']) (s : String) :
    c ∉ pathEscape s := by
  apply Percent.not_mem_escape
  · rintro rfl
    exact absurd reserved (by decide)
  · simp only [List.mem_cons, List.not_mem_nil, or_false] at reserved
    rcases reserved with rfl | rfl | rfl | rfl | rfl | rfl | rfl <;> decide
  · intro b written
    have kept := (pathCode_some written).2
    simp only [List.mem_cons, List.not_mem_nil, or_false] at reserved
    rcases reserved with rfl | rfl | rfl | rfl | rfl | rfl | rfl <;> exact absurd kept (by decide)

theorem pathEscape_plain (s : String) : Plain (pathEscape s) :=
  ⟨not_mem_pathEscape (by decide) s, not_mem_pathEscape (by decide) s⟩

section Substitute

variable {α : Type} (fmt : Format α)

def Proper (s : String) : Prop := ¬ (s = "" ∨ s = "." ∨ s = "..")

def escapedArg (args : List (String × Arg α)) (name : String) : Option (List Char) :=
  (args.lookup name).map fun value => pathEscape (fmt.value value)

section Escaped

variable {rest : List (String × Arg α)} {key : String} {values : String → Option (List Char)}

theorem escapedArg_cons (value : Arg α) (name : String) : escapedArg fmt ((key, value) :: rest) name =
    if name = key then some (pathEscape (fmt.value value)) else escapedArg fmt rest name := by
  rw [escapedArg, Assoc.lookup_cons_eq]
  split_ifs <;> rfl

theorem escapedArg_eq_none (apart : ∀ e ∈ rest, e.1 ≠ key) : escapedArg fmt rest key = none := by
  rw [escapedArg, Option.map_eq_none_iff]
  cases found : rest.lookup key with
  | none => rfl
  | some v => exact absurd rfl (apart _ (Assoc.mem_of_lookup found))

theorem escapedArg_or_update (apart : ∀ e ∈ rest, e.1 ≠ key) (value : Arg α) :
    (fun name => (escapedArg fmt rest name).or
      (Function.update values key (some (pathEscape (fmt.value value))) name)) =
      fun name => (escapedArg fmt ((key, value) :: rest) name).or (values name) := by
  funext name
  rw [escapedArg_cons, Function.update_apply]
  split_ifs with same
  · rw [same, escapedArg_eq_none fmt apart, Option.none_or, Option.some_or]
  · rfl

theorem plain_update (plain : ∀ name value, values name = some value → Plain value) (s name : String)
    (text : List Char) (found : Function.update values key (some (pathEscape s)) name = some text) :
    Plain text := by
  rw [Function.update_apply] at found
  split_ifs at found with same
  · obtain rfl := Option.some.inj found
    exact pathEscape_plain _
  · exact plain name text found

end Escaped

theorem substitute_ok_iff (op : Endpoint) {template : List Symbol} (wellFormed : WellFormed template)
    {values : String → Option (List Char)}
    (plain : ∀ name value, values name = some value → Plain value) {args : List (String × Arg α)}
    (distinct : (args.map Prod.fst).Nodup) (named : ∀ e ∈ args, Plain e.1.toList)
    (unfilled : ∀ e ∈ args, values e.1 = none) {path : List Char} :
    substitute fmt op args (render values template) = .ok path ↔
      (∀ e ∈ args, .hole e.1 ∈ template → Proper (fmt.value e.2)) ∧
        path = render (fun name => (escapedArg fmt args name).or (values name)) template := by
  induction args generalizing values with
  | nil =>
      have same : (fun name => (escapedArg fmt ([] : List (String × Arg α)) name).or (values name)) =
          values := rfl
      rw [same]
      simp [substitute, eq_comm]
  | cons e rest ih =>
      obtain ⟨key, value⟩ := e
      obtain ⟨fresh, distinct⟩ := List.nodup_cons.mp distinct
      obtain ⟨here, later⟩ := List.forall_mem_cons.mp named
      obtain ⟨missing, others⟩ := List.forall_mem_cons.mp unfilled
      have apart : ∀ e ∈ rest, e.1 ≠ key := by
        intro e member same
        exact fresh (List.mem_map.mpr ⟨e, member, same⟩)
      rw [substitute, List.forall_mem_cons]
      by_cases present : .hole key ∈ template
      · rw [if_pos ((braced_infix_render wellFormed plain here missing).mpr present)]
        dsimp only
        by_cases improper : fmt.value value = "" ∨ fmt.value value = "." ∨ fmt.value value = ".."
        · rw [if_pos improper]
          simp [present, Proper, improper]
        · have others' : ∀ e ∈ rest, Function.update values key
              (some (pathEscape (fmt.value value))) e.1 = none := by
            intro e member
            rw [Function.update_of_ne (apart e member), others e member]
          rw [if_neg improper, replaceAll_render wellFormed plain here missing,
            ih (plain_update plain _) distinct later others', escapedArg_or_update fmt apart]
          simp [Proper, improper]
      · rw [if_neg (mt (braced_infix_render wellFormed plain here missing).mp present),
          ih plain distinct later others]
        have same : render (fun name => (escapedArg fmt rest name).or (values name)) template =
            render (fun name => (escapedArg fmt ((key, value) :: rest) name).or (values name))
              template := by
          refine render_congr fun name member => ?_
          rw [escapedArg_cons, if_neg]
          rintro rfl
          exact present member
        rw [same]
        simp [present]

end Substitute

theorem bracedNames_text {text : List Char} (plain : '{' ∉ text) (rest : List Char) :
    bracedNames none (text ++ rest) = bracedNames none rest := by
  induction text with
  | nil => rfl
  | cons c text ih =>
      obtain ⟨apart, plain⟩ := not_or.mp (mt List.mem_cons.mpr plain)
      rw [List.cons_append, bracedNames, if_neg (Ne.symm apart), ih plain]

theorem bracedNames_braced {name : String} (plain : Plain name.toList) (rest : List Char) :
    bracedNames none (braced name ++ rest) = name :: bracedNames none rest := by
  have reading : ∀ read text : List Char, '}' ∉ text →
      bracedNames (some read) (text ++ '}' :: rest) =
        String.ofList (read ++ text) :: bracedNames none rest := by
    intro read text
    induction text generalizing read with
    | nil => simp [bracedNames]
    | cons c text ih =>
        intro free
        obtain ⟨apart, free⟩ := not_or.mp (mt List.mem_cons.mpr free)
        rw [List.cons_append, bracedNames, if_neg (Ne.symm apart), ih _ free, List.append_assoc]
        rfl
  have opened := reading [] name.toList plain.2
  rw [List.nil_append, String.ofList_toList] at opened
  rw [← opened, braced, List.cons_append, bracedNames, if_pos rfl, List.append_assoc]
  rfl

theorem bracedNames_render {template : List Symbol} (wellFormed : WellFormed template)
    {values : String → Option (List Char)}
    (plain : ∀ name value, values name = some value → Plain value) {name : String} :
    name ∈ bracedNames none (render values template) ↔ .hole name ∈ template ∧ values name = none := by
  induction template with
  | nil => simp [render, bracedNames]
  | cons s rest ih =>
      have tail : name ∈ bracedNames none (render values rest) ↔
          .hole name ∈ rest ∧ values name = none := ih (List.forall_mem_cons.mp wellFormed).2
      rw [render_cons]
      rcases fill_plain wellFormed plain (.head _) with ⟨other, rfl, missing, shape⟩ | shape
      · have here : Symbol.fill values (.hole other) = braced other := by
          rw [Symbol.fill, missing, Option.getD_none]
        rw [here, bracedNames_braced shape, List.mem_cons, List.mem_cons, Symbol.hole.injEq, tail]
        constructor
        · rintro (rfl | ⟨member, unfilled⟩)
          · exact ⟨.inl rfl, missing⟩
          · exact ⟨.inr member, unfilled⟩
        · rintro ⟨rfl | member, unfilled⟩
          · exact .inl rfl
          · exact .inr ⟨member, unfilled⟩
      · rw [bracedNames_text shape.1, tail, List.mem_cons]
        refine ⟨fun found => ⟨.inr found.1, found.2⟩, fun found => ⟨found.1.resolve_left ?_, found.2⟩⟩
        rintro rfl
        rw [Symbol.fill, found.2] at shape
        exact shape.1 List.mem_cons_self

theorem firsts_eq_nil {names : List String} : firsts names = [] ↔ names = [] := by
  have kept : ∀ seen : List String, seen ≠ [] → names.foldl (fun seen name =>
      if name ∈ seen then seen else seen ++ [name]) seen ≠ [] := by
    induction names with
    | nil => exact fun _ some => some
    | cons name names ih =>
        intro seen some
        refine ih _ ?_
        dsimp only
        split_ifs
        · exact some
        · simp
  cases names with
  | nil => simp [firsts]
  | cons name names => simpa [firsts] using kept [name] (by simp)

theorem unfilledPlaceholders_eq_nil {template : List Symbol} (wellFormed : WellFormed template)
    {values : String → Option (List Char)}
    (plain : ∀ name value, values name = some value → Plain value) :
    unfilledPlaceholders (render values template) = [] ↔
      ∀ name, .hole name ∈ template → values name ≠ none := by
  rw [unfilledPlaceholders, firsts_eq_nil, List.map_eq_nil_iff, List.eq_nil_iff_forall_not_mem]
  simp only [bracedNames_render wellFormed plain, not_and, ne_eq]

section Url

variable {α : Type} (fmt : Format α) (baseURL : String) {op : Endpoint} {template : List Symbol}
  (shape : op.path.toList = render (fun _ => none) template) (wellFormed : WellFormed template)

theorem escapedArg_plain (args : List (String × Arg α)) :
    ∀ name value, escapedArg fmt args name = some value → Plain value := by
  intro name value found
  obtain ⟨v, -, rfl⟩ := Option.map_eq_some_iff.mp found
  exact pathEscape_plain _

section Ok

variable {args : List (String × Arg α)} (distinct : (args.map Prod.fst).Nodup)
  (named : ∀ e ∈ args, Plain e.1.toList)
include shape wellFormed distinct named

theorem buildURL_ok_iff {url : String} :
    buildURL fmt baseURL op args = .ok url ↔
      (∀ name, .hole name ∈ template → ∃ value, args.lookup name = some value ∧
        Proper (fmt.value value)) ∧
      url = baseURL ++ "/" ++ String.ofList (trimSlash (render (escapedArg fmt args) template)) := by
  have done : ∀ path, substitute fmt op args op.path.toList = .ok path ↔
      (∀ e ∈ args, .hole e.1 ∈ template → Proper (fmt.value e.2)) ∧
        path = render (escapedArg fmt args) template := by
    intro path
    have started := @substitute_ok_iff α fmt op template wellFormed (fun _ => none)
      (fun _ _ none => nomatch none) args distinct named (fun _ _ => rfl) path
    simpa only [Option.or_none, ← shape] using started
  have filled : (∀ e ∈ args, .hole e.1 ∈ template → Proper (fmt.value e.2)) ∧
      unfilledPlaceholders (render (escapedArg fmt args) template) = [] ↔
      ∀ name, .hole name ∈ template → ∃ value, args.lookup name = some value ∧
        Proper (fmt.value value) := by
    rw [unfilledPlaceholders_eq_nil wellFormed (escapedArg_plain fmt args)]
    constructor
    · intro ⟨proper, all⟩ name member
      obtain ⟨text, found⟩ := Option.ne_none_iff_exists'.mp (all name member)
      obtain ⟨value, found, -⟩ := Option.map_eq_some_iff.mp found
      exact ⟨value, found, proper _ (Assoc.mem_of_lookup found) member⟩
    · intro all
      constructor
      · intro e listed member
        obtain ⟨value, found, proper⟩ := all e.1 member
        rw [(Assoc.lookup_eq_some_iff distinct).mpr listed] at found
        obtain rfl := Option.some.inj found
        exact proper
      · intro name member
        obtain ⟨value, found, -⟩ := all name member
        rw [escapedArg, found]
        exact Option.some_ne_none _
  rw [← filled, buildURL]
  cases ran : substitute fmt op args op.path.toList with
  | error err =>
      refine iff_of_false (by simp [bind, Except.bind]) fun ⟨⟨proper, _⟩, _⟩ => ?_
      rw [(done _).mpr ⟨proper, rfl⟩] at ran
      cases ran
  | ok path =>
      obtain ⟨proper, rfl⟩ := (done path).mp ran
      simp only [bind, Except.bind, pure, Except.pure]
      split_ifs with missing
      · exact iff_of_false (by simp) fun ⟨⟨_, spent⟩, _⟩ => missing spent
      · rw [Except.ok.injEq, eq_comm]
        exact ⟨fun same => ⟨⟨proper, not_not.mp missing⟩, same⟩, fun result => result.2⟩

end Ok

def isSlash (c : Char) : Bool := c == '/'

def isSlashOrComma (c : Char) : Bool := c == '/' || c == ','

def dotSegments : List (List Char) := [[], ['.'], ['.', '.']]

/-- What becomes of the template: each of its segments is filled on its own. -/
structure Substituted (args : List (String × Arg α)) (template : List Symbol) (path : List Char) :
    Prop where
  simultaneous : path = render (escapedArg fmt args) template
  segments : path.splitOnP isSlash = (pieces isSlash template).map (render (escapedArg fmt args))
  filled : ∀ piece ∈ pieces isSlash template, (∃ name, .hole name ∈ piece) →
    render (escapedArg fmt args) piece ∉ dotSegments
  literal : ∀ piece ∈ pieces isSlash template, (∀ name, .hole name ∉ piece) →
    render (escapedArg fmt args) piece = render (fun _ => none) piece
  placeholders : unfilledPlaceholders path = []

theorem mem_dotSegments {segment : List Char} :
    segment ∈ dotSegments ↔ segment.length ≤ 2 ∧ ∀ c ∈ segment, c = '.' := by
  match segment with
  | [] => simp [dotSegments]
  | [a] => simp [dotSegments]
  | [a, b] => simp [dotSegments]
  | a :: b :: c :: rest => simp [dotSegments]

theorem proper_pathEscape {s : String} (proper : Proper s) : pathEscape s ∉ dotSegments := by
  have texts : dotSegments = ["", ".", ".."].map pathEscape := by decide +kernel
  rw [texts, List.mem_map_of_injective pathEscape_injective]
  simpa [Proper] using proper

theorem filledFree_escapedArg {sep : Char → Bool} (reserved : ∀ c, sep c = true → c = '/' ∨ c = ',')
    {args : List (String × Arg α)}
    (all : ∀ name, .hole name ∈ template → ∃ value, args.lookup name = some value ∧
      Proper (fmt.value value)) : FilledFree sep (escapedArg fmt args) template := by
  intro name member
  obtain ⟨value, found, -⟩ := all name member
  refine ⟨pathEscape (fmt.value value), by rw [escapedArg, found]; rfl, fun c inside => ?_⟩
  by_contra separator
  rw [Bool.not_eq_false] at separator
  rcases reserved c separator with rfl | rfl
  · exact not_mem_pathEscape (by decide) _ inside
  · exact not_mem_pathEscape (by decide) _ inside

section Path

variable {args : List (String × Arg α)} (all : ∀ name, .hole name ∈ template →
  ∃ value, args.lookup name = some value ∧ Proper (fmt.value value))
include wellFormed all

theorem substituted : Substituted fmt args template (render (escapedArg fmt args) template) where
  simultaneous := rfl
  segments := by
    refine splitOnP_render (filledFree_escapedArg fmt (fun c slash => .inl ?_) all)
    simpa [isSlash] using slash
  filled := by
    rintro piece listed ⟨name, inside⟩ dots
    obtain ⟨value, found, proper⟩ := all name (mem_of_mem_piece listed inside)
    obtain ⟨before, after, rfl⟩ := List.append_of_mem inside
    have text : render (escapedArg fmt args) (before ++ .hole name :: after) =
        render (escapedArg fmt args) before ++ pathEscape (fmt.value value) ++
          render (escapedArg fmt args) after := by
      simp [render, Symbol.fill, escapedArg, found]
    rw [text, mem_dotSegments] at dots
    apply proper_pathEscape proper
    rw [mem_dotSegments]
    simp only [List.length_append, List.mem_append] at dots
    exact ⟨by omega, fun c member => dots.2 c (.inl (.inr member))⟩
  literal := by
    intro piece _ none
    exact render_congr fun name inside => absurd inside (none name)
  placeholders := by
    rw [unfilledPlaceholders_eq_nil wellFormed (escapedArg_plain fmt args)]
    intro name member
    obtain ⟨value, found, -⟩ := all name member
    rw [escapedArg, found]
    exact Option.some_ne_none _

end Path

theorem args_of_path {args args' : List (String × Arg α)}
    (separated : Separated isSlashOrComma template)
    (all : ∀ name, .hole name ∈ template → ∃ value, args.lookup name = some value ∧
      Proper (fmt.value value))
    (all' : ∀ name, .hole name ∈ template → ∃ value, args'.lookup name = some value ∧
      Proper (fmt.value value))
    (same : render (escapedArg fmt args) template = render (escapedArg fmt args') template) :
    ∀ name, .hole name ∈ template →
      (args.lookup name).map fmt.value = (args'.lookup name).map fmt.value := by
  intro name member
  have reserved : ∀ c, isSlashOrComma c = true → c = '/' ∨ c = ',' := by
    intro c separator
    simpa [isSlashOrComma] using separator
  have equal := render_injective separated (filledFree_escapedArg fmt reserved all)
    (filledFree_escapedArg fmt reserved all') same name member
  obtain ⟨value, found, -⟩ := all name member
  obtain ⟨value', found', -⟩ := all' name member
  rw [escapedArg, escapedArg, found, found', Option.map_some, Option.map_some] at equal
  rw [found, found', Option.map_some, Option.map_some,
    pathEscape_injective (Option.some.inj equal)]

/-- The slash that is trimmed is one of the template, for no value starts with one. -/
theorem trimSlash_render {args : List (String × Arg α)}
    (all : ∀ name, .hole name ∈ template → ∃ value, args.lookup name = some value ∧
      Proper (fmt.value value)) :
    render (escapedArg fmt args) template =
      (if template.head? = some (.text '/') then ['/'] else []) ++
        trimSlash (render (escapedArg fmt args) template) := by
  have kept : ∀ {c : Char} {rest : List Char}, c ≠ '/' → trimSlash (c :: rest) = c :: rest := by
    intro c rest other
    rw [trimSlash]
    intro tail same
    exact other (List.cons.inj same).1
  cases template with
  | nil => rfl
  | cons s rest =>
      rw [render_cons]
      cases s with
      | text c =>
          by_cases slash : c = '/'
          · simp [slash, Symbol.fill, trimSlash]
          · simp [slash, Symbol.fill, kept slash]
      | hole name =>
          obtain ⟨value, found, proper⟩ := all name (.head _)
          have fill : Symbol.fill (escapedArg fmt args) (.hole name) = pathEscape (fmt.value value) := by
            rw [Symbol.fill, escapedArg, found]
            rfl
          have some : pathEscape (fmt.value value) ≠ [] :=
            Percent.escape_ne_nil (utf8_ne_nil fun empty => proper (.inl empty))
          obtain ⟨c, text, split⟩ := List.exists_cons_of_ne_nil some
          have other : c ≠ '/' := by
            rintro rfl
            have free : '/' ∉ pathEscape (fmt.value value) := not_mem_pathEscape (by decide) _
            rw [split] at free
            exact free (.head _)
          rw [fill, split, List.cons_append, kept other]
          simp

end Url

end BrokerMcp.Proof.Sempv2
