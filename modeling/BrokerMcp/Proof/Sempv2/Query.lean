import BrokerMcp.Proof.Sempv2.Url
import Mathlib.Data.List.Sort
import Mathlib.Data.String.Basic

namespace BrokerMcp.Proof.Sempv2
open BrokerMcp.Sempv2 BrokerMcp.Resilience Holes

/-! ## Escaping -/

def readQueryByte (c : Char) : Option UInt8 := if c = '+' then some 32 else readByte c

theorem queryCode_some {b : UInt8} {c : Char} (written : queryCode b = some c) :
    b = 32 ∧ c = '+' ∨ c = Char.ofNat b.toNat ∧ unreserved c = true := by
  unfold queryCode at written
  dsimp only at written
  split_ifs at written with blank kept
  · refine .inl ⟨?_, (Option.some.inj written).symm⟩
    have same := congrArg Char.toNat blank
    rw [toNat_ofNat_byte] at same
    exact UInt8.toNat_inj.mp same
  · obtain rfl := Option.some.inj written
    exact .inr ⟨rfl, kept⟩

theorem query_reads : Percent.Reads queryCode readQueryByte where
  back := by
    intro b c written
    rcases queryCode_some written with ⟨rfl, rfl⟩ | ⟨rfl, kept⟩
    · rfl
    · rw [readQueryByte, if_neg, readByte, toNat_ofNat_byte, UInt8.ofNat_toNat]
      intro plus
      rw [plus] at kept
      exact absurd kept (by decide)
  plain := by
    intro b written
    rcases queryCode_some written with ⟨-, same⟩ | ⟨-, kept⟩
    · exact absurd same (by decide)
    · exact absurd kept (by decide)

theorem not_mem_queryEscape {c : Char} (reserved : c ∈ ['&', '=', '#', ',']) (s : String) :
    c ∉ queryEscape s := by
  apply Percent.not_mem_escape
  · rintro rfl
    exact absurd reserved (by decide)
  · simp only [List.mem_cons, List.not_mem_nil, or_false] at reserved
    rcases reserved with rfl | rfl | rfl | rfl <;> decide
  · intro b written
    rcases queryCode_some written with ⟨-, rfl⟩ | ⟨-, kept⟩
    · exact absurd reserved (by decide)
    · simp only [List.mem_cons, List.not_mem_nil, or_false] at reserved
      rcases reserved with rfl | rfl | rfl | rfl <;> exact absurd kept (by decide)

/-! ## Reading a query -/

def decodeText : List Char → Option (List UInt8) := Percent.unescape readQueryByte

def decodePair (pair : List Char) : Option (List UInt8 × List (List UInt8)) := do
  let name ← decodeText (pair.takeWhile (· ≠ '='))
  let value := (pair.dropWhile (· ≠ '=')).drop 1
  let elements ← if value = [] then some [] else (value.splitOn ',').mapM decodeText
  return (name, elements)

def decodeQuery (query : List Char) : Option (List (List UInt8 × List (List UInt8))) :=
  if query = [] then some [] else (query.splitOn '&').mapM decodePair

theorem decodeText_queryEscape (s : String) : decodeText (queryEscape s) = some (utf8 s) :=
  Percent.unescape_escape query_reads _

theorem mapM_decode {α β γ : Type} {f : β → Option γ} {g : α → β} {h : α → γ} {l : List α}
    (each : ∀ x ∈ l, f (g x) = some (h x)) : (l.map g).mapM f = some (l.map h) := by
  induction l with
  | nil => rfl
  | cons x l ih =>
      obtain ⟨first, rest⟩ := List.forall_mem_cons.mp each
      rw [List.map_cons, List.mapM_cons, first, ih rest]
      rfl

def encodePair (name : String) (elements : List String) : List Char :=
  queryEscape name ++ '=' :: [','].intercalate (elements.map queryEscape)

theorem decodePair_encodePair (name : String) {elements : List String}
    (some : ∀ e ∈ elements, e ≠ "") :
    decodePair (encodePair name elements) = .some (utf8 name, elements.map utf8) := by
  have free : ∀ c ∈ queryEscape name, decide (c ≠ '=') = true := by
    intro c member
    rw [decide_eq_true_eq]
    rintro rfl
    exact not_mem_queryEscape (by decide) name member
  have cut : decodePair (encodePair name elements) = (do
      let elements ← if [','].intercalate (elements.map queryEscape) = [] then .some [] else
        ([','].intercalate (elements.map queryEscape)).splitOn ','  |>.mapM decodeText
      return (utf8 name, elements)) := by
    rw [decodePair, encodePair, List.takeWhile_append_of_pos free, List.dropWhile_append_of_pos free]
    simp [decodeText_queryEscape]
  rw [cut]
  cases elements with
  | nil => rfl
  | cons e rest =>
      have nonempty : [','].intercalate ((e :: rest).map queryEscape) ≠ [] := by
        have first : queryEscape e ≠ [] := Percent.escape_ne_nil (utf8_ne_nil (some e (.head _)))
        cases rest with
        | nil => simpa using first
        | cons f rest => simp
      have separate : ([','].intercalate ((e :: rest).map queryEscape)).splitOn ',' =
          (e :: rest).map queryEscape := by
        refine List.splitOn_intercalate ',' (List.forall_mem_map.mpr fun f _ => ?_) (by simp)
        exact not_mem_queryEscape (by decide) f
      rw [if_neg nonempty, separate, mapM_decode fun f _ => decodeText_queryEscape f]
      rfl

def encodePairs (pairs : List (String × List String)) : List Char :=
  ['&'].intercalate (pairs.map fun p => encodePair p.1 p.2)

theorem encodePair_ne_nil (name : String) (elements : List String) : encodePair name elements ≠ [] := by
  simp [encodePair]

theorem not_mem_encodePair (name : String) (elements : List String) :
    '&' ∉ encodePair name elements := by
  have values : ∀ texts : List (List Char), (∀ text ∈ texts, '&' ∉ text) →
      '&' ∉ [','].intercalate texts := by
    intro texts
    induction texts with
    | nil => simp
    | cons text rest ih =>
        intro free
        obtain ⟨first, later⟩ := List.forall_mem_cons.mp free
        cases rest with
        | nil => simpa using first
        | cons next rest => simpa [List.intercalate_cons_cons, first] using ih later
  have elements := values (elements.map queryEscape)
    (List.forall_mem_map.mpr fun e _ => not_mem_queryEscape (by decide) e)
  have name := not_mem_queryEscape (c := '&') (by decide) name
  simp [encodePair, name, elements]

theorem encodePairs_ne_nil (p : String × List String) (rest : List (String × List String)) :
    encodePairs (p :: rest) ≠ [] := by
  cases rest with
  | nil => simpa [encodePairs] using encodePair_ne_nil p.1 p.2
  | cons q rest => simp [encodePairs]

theorem encodePairs_append {pairs others : List (String × List String)} (first : pairs ≠ [])
    (second : others ≠ []) :
    encodePairs (pairs ++ others) = encodePairs pairs ++ '&' :: encodePairs others := by
  induction pairs with
  | nil => exact absurd rfl first
  | cons p rest ih =>
      have head : ∀ {l : List (String × List String)}, l ≠ [] →
          encodePairs (p :: l) = encodePair p.1 p.2 ++ '&' :: encodePairs l := by
        intro l some
        rw [encodePairs, List.map_cons, List.intercalate_cons_of_ne_nil (by simpa using some)]
        simp [encodePairs]
      cases rest with
      | nil =>
          rw [List.singleton_append, head second]
          simp [encodePairs]
      | cons q rest => rw [List.cons_append, head (by simp), ih (by simp), head (by simp)]; simp

theorem decodeQuery_encodePairs {pairs : List (String × List String)}
    (some : ∀ p ∈ pairs, ∀ e ∈ p.2, e ≠ "") :
    decodeQuery (encodePairs pairs) = .some (pairs.map fun p => (utf8 p.1, p.2.map utf8)) := by
  cases pairs with
  | nil => rfl
  | cons p rest =>
      have separate : (encodePairs (p :: rest)).splitOn '&' =
          (p :: rest).map fun p => encodePair p.1 p.2 := by
        refine List.splitOn_intercalate '&' (List.forall_mem_map.mpr fun q _ => ?_) (by simp)
        exact not_mem_encodePair q.1 q.2
      rw [decodeQuery, if_neg (encodePairs_ne_nil p rest), separate]
      exact mapM_decode fun q member => decodePair_encodePair q.1 (some q member)

/-! ## Writing a query -/

def scalarElements (v : String) : List String := if v = "" then [] else [v]

theorem ne_empty_of_mem_scalarElements {v e : String} (inside : e ∈ scalarElements v) : e ≠ "" := by
  unfold scalarElements at inside
  split_ifs at inside with empty
  · cases inside
  · obtain rfl := List.mem_singleton.mp inside
    exact empty

def sortedScalars (params : List (String × String)) : List (String × List String) :=
  ((params.map Prod.fst).mergeSort fun a b => decide (a ≤ b)).map fun key =>
    (key, scalarElements ((params.lookup key).getD ""))

theorem encodeValues_eq (params : List (String × String)) :
    encodeValues params = encodePairs (sortedScalars params) := by
  have one : ∀ v, queryEscape v = [','].intercalate ((scalarElements v).map queryEscape) := by
    intro v
    unfold scalarElements
    split_ifs with empty
    · rw [empty]
      decide +kernel
    · simp
  rw [encodeValues, encodePairs, sortedScalars, List.map_map]
  congr 1
  refine List.map_congr_left fun key _ => ?_
  rw [Function.comp_apply, encodePair, ← one]

theorem queryString_eq {got : Collected} {arrays : List (String × List String)}
    (parts : got.arrayQueryParts = arrays.map fun p => encodePair p.1 p.2) :
    queryString got = encodePairs (sortedScalars got.queryParams ++ arrays) := by
  rw [queryString, encodeValues_eq, parts, List.length_map]
  dsimp only
  rw [← encodePairs]
  cases arrays with
  | nil => simp
  | cons a arrays =>
      rw [if_pos (by simp)]
      cases sortedScalars got.queryParams with
      | nil => simp [encodePairs]
      | cons p scalars =>
          rw [if_pos (encodePairs_ne_nil p scalars), encodePairs_append (by simp) (by simp)]

section Collect

variable {α : Type} (fmt : Format α) (args : List (String × Arg α))

def suppliedArrays (params : List Parameter) : List (String × List String) :=
  params.filterMap fun p =>
    if p.location = "query" ∧ p.type = "array" then
      (args.lookup p.name).map fun v => (p.name, csvElements fmt v)
    else none

def suppliedScalars (params : List Parameter) : List (String × String) :=
  params.filterMap fun p =>
    if p.location = "query" ∧ p.type ≠ "array" then
      (args.lookup p.name).map fun v => (p.name, fmt.value v)
    else none

theorem collect_ok {lib : RequestLib α} {p : Parameter} {start next : Collected}
    (turn : collect fmt lib args start p = .ok next) :
    next.arrayQueryParts = start.arrayQueryParts ++
        (suppliedArrays fmt args [p]).map (fun p => encodePair p.1 p.2) ∧
      next.queryParams = (suppliedScalars fmt args [p]).foldl
        (fun acc e => Assoc.put e.1 e.2 acc) start.queryParams := by
  unfold collect at turn
  by_cases query : p.location = "query"
  · rw [if_pos query] at turn
    cases found : args.lookup p.name with
    | none =>
        rw [found] at turn
        obtain rfl := Except.ok.inj turn
        simp [suppliedArrays, suppliedScalars, found]
    | some val =>
        rw [found] at turn
        by_cases list : p.type = "array"
        · obtain rfl := Except.ok.inj ((if_pos list).symm.trans turn)
          simp [suppliedArrays, suppliedScalars, found, query, list, encodeCSVQueryParam, encodePair]
        · obtain rfl := Except.ok.inj ((if_neg list).symm.trans turn)
          simp [suppliedArrays, suppliedScalars, found, query, list]
  · have unread : suppliedArrays fmt args [p] = [] ∧ suppliedScalars fmt args [p] = [] := by
      simp [suppliedArrays, suppliedScalars, query]
    have same : next.arrayQueryParts = start.arrayQueryParts ∧
        next.queryParams = start.queryParams := by
      rw [if_neg query] at turn
      split_ifs at turn
      · split at turn
        · obtain rfl := Except.ok.inj turn
          exact ⟨rfl, rfl⟩
        · obtain rfl := Except.ok.inj turn
          exact ⟨rfl, rfl⟩
        · split at turn
          · cases turn
          · obtain rfl := Except.ok.inj turn
            exact ⟨rfl, rfl⟩
      · obtain rfl := Except.ok.inj turn
        exact ⟨rfl, rfl⟩
    rw [unread.1, unread.2, same.1, same.2]
    simp

theorem collected {lib : RequestLib α} {params : List Parameter} {start got : Collected}
    (ran : params.foldlM (collect fmt lib args) start = .ok got) :
    got.arrayQueryParts = start.arrayQueryParts ++
        (suppliedArrays fmt args params).map (fun p => encodePair p.1 p.2) ∧
      got.queryParams = (suppliedScalars fmt args params).foldl
        (fun acc e => Assoc.put e.1 e.2 acc) start.queryParams := by
  induction params generalizing start with
  | nil =>
      obtain rfl := Except.ok.inj ran
      simp [suppliedArrays, suppliedScalars]
  | cons p params ih =>
      have arrayParts : suppliedArrays fmt args (p :: params) =
          suppliedArrays fmt args [p] ++ suppliedArrays fmt args params := by
        rw [← List.singleton_append]
        exact List.filterMap_append
      have scalarParts : suppliedScalars fmt args (p :: params) =
          suppliedScalars fmt args [p] ++ suppliedScalars fmt args params := by
        rw [← List.singleton_append]
        exact List.filterMap_append
      rw [List.foldlM_cons] at ran
      cases turn : collect fmt lib args start p with
      | error err =>
          rw [turn] at ran
          cases ran
      | ok next =>
          rw [turn] at ran
          obtain ⟨arrays, scalars⟩ := ih ran
          obtain ⟨part, put⟩ := collect_ok fmt args turn
          rw [arrays, scalars, part, put, arrayParts, scalarParts, List.map_append,
            List.foldl_append, List.append_assoc]
          exact ⟨rfl, rfl⟩

theorem mem_suppliedScalars {params : List Parameter} {name text : String} :
    (name, text) ∈ suppliedScalars fmt args params ↔
      ∃ p ∈ params, p.location = "query" ∧ p.type ≠ "array" ∧ p.name = name ∧
        ∃ v, args.lookup name = some v ∧ fmt.value v = text := by
  rw [suppliedScalars, List.mem_filterMap]
  constructor
  · rintro ⟨p, member, found⟩
    split_ifs at found with scalar
    obtain ⟨v, here, same⟩ := Option.map_eq_some_iff.mp found
    obtain ⟨rfl, rfl⟩ := Prod.mk.inj same
    exact ⟨p, member, scalar.1, scalar.2, rfl, v, here, rfl⟩
  · rintro ⟨p, member, query, scalar, rfl, v, here, rfl⟩
    exact ⟨p, member, by rw [if_pos ⟨query, scalar⟩, here, Option.map_some]⟩

theorem lookup_set {values acc : List (String × String)} (value : String → Option String)
    (agree : ∀ e ∈ values, value e.1 = some e.2) (name : String) :
    (values.foldl (fun acc e => Assoc.put e.1 e.2 acc) acc).lookup name =
      if name ∈ values.map Prod.fst then value name else acc.lookup name := by
  induction values generalizing acc with
  | nil => simp
  | cons e rest ih =>
      obtain ⟨first, later⟩ := List.forall_mem_cons.mp agree
      rw [List.foldl_cons, ih later, Assoc.lookup_put, List.map_cons]
      by_cases here : name = e.1
      · rw [here, first, if_pos rfl, if_pos List.mem_cons_self, ite_self]
      · rw [if_neg here]
        simp only [List.mem_cons, here, false_or]

theorem nodup_set {values acc : List (String × String)} (distinct : (acc.map Prod.fst).Nodup) :
    ((values.foldl (fun acc e => Assoc.put e.1 e.2 acc) acc).map Prod.fst).Nodup := by
  induction values generalizing acc with
  | nil => exact distinct
  | cons e rest ih => exact ih (Assoc.nodup_put _ _ distinct)

theorem ne_empty_of_mem_suppliedArrays {params : List Parameter} {p : String × List String} {e : String}
    (listed : p ∈ suppliedArrays fmt args params) (inside : e ∈ p.2) : e ≠ "" := by
  obtain ⟨param, -, found⟩ := List.mem_filterMap.mp listed
  split_ifs at found
  obtain ⟨v, -, rfl⟩ := Option.map_eq_some_iff.mp found
  have kept := (List.mem_filter.mp inside).2
  simpa using kept

structure ReadsBack (params : List Parameter) (query : List Char) (names : List String) : Prop where
  sorted : names.Pairwise (· < ·)
  scalars : ∀ name, name ∈ names ↔ ∃ p ∈ params,
    p.location = "query" ∧ p.type ≠ "array" ∧ p.name = name ∧ (args.lookup name).isSome = true
  pairs : decodeQuery query = some
    (((names.map fun name => (name, scalarElements (((args.lookup name).map fmt.value).getD ""))) ++
      suppliedArrays fmt args params).map fun p => (utf8 p.1, p.2.map utf8))

theorem queryString_readsBack {lib : RequestLib α} {params : List Parameter} {got : Collected}
    (ran : params.foldlM (collect fmt lib args) ⟨[], [], none⟩ = .ok got) :
    ∃ names, ReadsBack fmt args params (queryString got) names := by
  obtain ⟨arrays, scalars⟩ := collected fmt args ran
  have agree : ∀ e ∈ suppliedScalars fmt args params,
      (args.lookup e.1).map fmt.value = some e.2 := by
    rintro ⟨name, text⟩ member
    obtain ⟨-, -, -, -, -, v, here, rfl⟩ := (mem_suppliedScalars fmt args).mp member
    rw [here, Option.map_some]
  have set : ∀ name, got.queryParams.lookup name =
      if name ∈ (suppliedScalars fmt args params).map Prod.fst then
        (args.lookup name).map fmt.value else none := by
    intro name
    rw [scalars]
    exact lookup_set (fun name => (args.lookup name).map fmt.value) agree name
  have keys : ∀ name, name ∈ got.queryParams.map Prod.fst ↔
      name ∈ (suppliedScalars fmt args params).map Prod.fst := by
    intro name
    rw [Assoc.mem_keys_iff, set]
    split_ifs with member
    · obtain ⟨e, listed, rfl⟩ := List.mem_map.mp member
      exact iff_of_true ⟨_, agree e listed⟩ member
    · exact iff_of_false (by simp) member
  have distinct : (got.queryParams.map Prod.fst).Nodup := by
    rw [scalars]
    exact nodup_set List.nodup_nil
  refine ⟨(got.queryParams.map Prod.fst).mergeSort fun a b => decide (a ≤ b), ?_, ?_, ?_⟩
  · have once : ((got.queryParams.map Prod.fst).mergeSort fun a b => decide (a ≤ b)).Nodup :=
      (List.mergeSort_perm _ _).nodup_iff.mpr distinct
    exact (List.sortedLE_mergeSort.sortedLT_of_nodup once).pairwise
  · intro name
    rw [(List.mergeSort_perm _ _).mem_iff, keys, List.mem_map]
    constructor
    · rintro ⟨⟨name, text⟩, member, rfl⟩
      obtain ⟨p, listed, query, scalar, named, v, here, -⟩ := (mem_suppliedScalars fmt args).mp member
      exact ⟨p, listed, query, scalar, named, by rw [here]; rfl⟩
    · rintro ⟨p, listed, query, scalar, named, supplied⟩
      obtain ⟨v, here⟩ := Option.isSome_iff_exists.mp supplied
      exact ⟨(name, fmt.value v), (mem_suppliedScalars fmt args).mpr
        ⟨p, listed, query, scalar, named, v, here, rfl⟩, rfl⟩
  · have values : sortedScalars got.queryParams =
        ((got.queryParams.map Prod.fst).mergeSort fun a b => decide (a ≤ b)).map fun name =>
          (name, scalarElements (((args.lookup name).map fmt.value).getD "")) := by
      refine List.map_congr_left fun name member => ?_
      rw [(List.mergeSort_perm _ _).mem_iff, keys] at member
      rw [set, if_pos member]
    rw [queryString_eq (arrays.trans (List.nil_append _)), values]
    refine decodeQuery_encodePairs fun p member => ?_
    rcases List.mem_append.mp member with scalar | list
    · obtain ⟨name, -, rfl⟩ := List.mem_map.mp scalar
      exact fun e => ne_empty_of_mem_scalarElements
    · exact fun e => ne_empty_of_mem_suppliedArrays fmt args list

end Collect

/-! ## The request -/

section Request

variable {α : Type}

/-- An operation whose placeholders are between slashes or commas. -/
structure Templated (op : Endpoint) (template : List Symbol) : Prop where
  shape : op.path.toList = render (fun _ => none) template
  wellFormed : WellFormed template
  separated : Separated isSlashOrComma template

structure ArgMap (args : List (String × Arg α)) : Prop where
  distinct : (args.map Prod.fst).Nodup
  plain : ∀ e ∈ args, Plain e.1.toList

structure PathSafe (fmt : Format α) (baseURL : String) (op : Endpoint) (template : List Symbol)
    (args : List (String × Arg α)) (url : String) : Prop where
  substituted : ∃ path, Substituted fmt args template path ∧
    url = baseURL ++ "/" ++ String.ofList (trimSlash path)
  anyOrder : ∀ others, others.Perm args → buildURL fmt baseURL op others = .ok url
  injective : ∀ others, ArgMap others → buildURL fmt baseURL op others = .ok url →
    ∀ name, .hole name ∈ template →
      (others.lookup name).map fmt.value = (args.lookup name).map fmt.value

theorem request_injection_free (fmt : Format α) (lib : RequestLib α) (baseURL : String) {op : Endpoint}
    {template : List Symbol} (templated : Templated op template) {args : List (String × Arg α)}
    (map : ArgMap args) :
    (∀ url, buildURL fmt baseURL op args = .ok url → PathSafe fmt baseURL op template args url) ∧
    ∀ reqURL req, buildRequest fmt lib op reqURL args = .ok req →
      ∃ query names, ReadsBack fmt args op.parameters query names ∧
        req.url = if query = [] then reqURL else reqURL ++ "?" ++ String.ofList query := by
  obtain ⟨shape, wellFormed, separated⟩ := templated
  constructor
  · intro url built
    obtain ⟨all, rfl⟩ := (buildURL_ok_iff fmt baseURL shape wellFormed map.distinct map.plain).mp built
    refine ⟨⟨_, substituted fmt wellFormed all, rfl⟩, ?_, ?_⟩
    · intro others perm
      have distinct : (others.map Prod.fst).Nodup := (perm.map Prod.fst).nodup_iff.mpr map.distinct
      have same : ∀ name, others.lookup name = args.lookup name :=
        Assoc.lookup_perm perm map.distinct
      rw [buildURL_ok_iff fmt baseURL shape wellFormed distinct
        fun e member => map.plain e (perm.mem_iff.mp member)]
      refine ⟨fun name member => ?_, ?_⟩
      · rw [same]
        exact all name member
      · rw [show escapedArg fmt others = escapedArg fmt args by
          funext name
          rw [escapedArg, escapedArg, same]]
    · intro others map' built' name member
      obtain ⟨all', same⟩ :=
        (buildURL_ok_iff fmt baseURL shape wellFormed map'.distinct map'.plain).mp built'
      have paths : trimSlash (render (escapedArg fmt args) template) =
          trimSlash (render (escapedArg fmt others) template) := by
        have texts := congrArg String.toList same
        simpa using texts
      refine args_of_path fmt separated all' all ?_ name member
      rw [trimSlash_render fmt all', trimSlash_render fmt all, paths]
  · intro reqURL req built
    unfold buildRequest at built
    cases ran : op.parameters.foldlM (collect fmt lib args) ⟨[], [], none⟩ with
    | error err =>
        rw [ran] at built
        cases built
    | ok got =>
        rw [ran] at built
        obtain ⟨names, reads⟩ := queryString_readsBack fmt args ran
        refine ⟨_, names, reads, ?_⟩
        dsimp only [bind, Except.bind] at built
        split at built
        · cases built
        · obtain rfl := Except.ok.inj built
          simp [ite_not]

def numbers : Format Nat := ⟨fun _ => "", toString, fun s => s⟩

def noLib : RequestLib Nat := ⟨fun _ => .ok [], fun _ _ _ => none, "dev"⟩

def bridge : Endpoint where
  id := "getBridge"
  method := "GET"
  path := "/{name},{router}"
  parameters := [⟨"select", "query", "array"⟩]

def bridgeArgs : List (String × Arg Nat) :=
  [("router", .text "auto"), ("name", .text "a/b"), ("select", .text "bridgeName, up")]

theorem request_injection_free_bridge :
    PathSafe numbers "http://b" bridge [.text '/', .hole "name", .text ',', .hole "router"] bridgeArgs
      "http://b/a%2Fb,auto" ∧
    ∃ req, buildRequest numbers noLib bridge "http://b/a%2Fb,auto" bridgeArgs = .ok req ∧
      req.url = "http://b/a%2Fb,auto?select=bridgeName,up" ∧
      ∃ query names, ReadsBack numbers bridgeArgs bridge.parameters query names ∧
        req.url = if query = [] then "http://b/a%2Fb,auto" else
          "http://b/a%2Fb,auto" ++ "?" ++ String.ofList query := by
  have safe := @request_injection_free Nat numbers noLib "http://b" bridge
    [.text '/', .hole "name", .text ',', .hole "router"]
    ⟨by decide +kernel, by decide +kernel, by decide +kernel⟩ bridgeArgs
    ⟨by decide, by decide +kernel⟩
  refine ⟨safe.1 _ (by decide +kernel), ?_⟩
  have url : (buildRequest numbers noLib bridge "http://b/a%2Fb,auto" bridgeArgs).toOption.map
      Request.url = some "http://b/a%2Fb,auto?select=bridgeName,up" := by decide +kernel
  cases built : buildRequest numbers noLib bridge "http://b/a%2Fb,auto" bridgeArgs with
  | error err =>
      rw [built] at url
      cases url
  | ok req =>
      rw [built] at url
      exact ⟨req, rfl, Option.some.inj url, safe.2 _ req built⟩

def getBroker : Endpoint where
  id := "getBroker"
  method := "GET"
  path := "/SEMP/v2/__private_config__/"
  parameters := []

/-- The path of the broker itself ends in a slash, and so in an empty segment. -/
theorem broker_path_ends_empty :
    Templated getBroker (getBroker.path.toList.map .text) ∧ ArgMap ([] : List (String × Arg Nat)) ∧
    buildURL numbers "http://b" getBroker [] =
      .ok ("http://b" ++ "/" ++ "SEMP/v2/__private_config__/") ∧
    [] ∈ "SEMP/v2/__private_config__/".toList.splitOnP isSlash :=
  ⟨⟨by decide +kernel, by decide +kernel, by decide +kernel⟩, ⟨by decide, by simp⟩, by decide +kernel,
    by decide +kernel⟩

end Request

end BrokerMcp.Proof.Sempv2
