import BrokerMcp.Observability.SlogHandler

namespace BrokerMcp.Proof.Observability
open BrokerMcp.Observability
open Text (Bytes)

variable {σ α μ ω : Type}

mutual

def settleAttr (key : String) : AttrValue α → List (Attr α)
  | .group attrs =>
      if key = "" then settle attrs
      else if (settle attrs).isEmpty then []
      else [(key, .group (settle attrs))]
  | .zero => if key = "" then [] else [(key, .zero)]
  | .string s => [(key, .string s)]
  | .other v => [(key, .other v)]

def settle : List (Attr α) → List (Attr α)
  | [] => []
  | (key, value) :: attrs => settleAttr key value ++ settle attrs

end

/-- A handler writes its attributes as if they were all in the record, under the groups that are open. -/
structure Contract (H : Handler σ α μ ω) (next : σ) (view : σ → List (Attr α) → List (Attr α))
    (emit : Context → μ → List (Attr α) → ω) : Prop where
  root : ∀ attrs, view next attrs = settle attrs
  withAttrs : ∀ h bound attrs, view (H.withAttrs h bound) attrs = view h (bound ++ attrs)
  withGroup : ∀ h name attrs, name ≠ "" →
    view (H.withGroup h name) attrs = view h [(name, .group attrs)]
  noGroup : ∀ h, H.withGroup h "" = h
  handle : ∀ h ctx rec, H.handle h ctx rec = emit ctx rec.header (view h rec.attrs)

def qualify : List (Call α) → List (Attr α) → List (Attr α)
  | [], attrs => attrs
  | .withAttrs bound :: calls, attrs => bound ++ qualify calls attrs
  | .withGroup name :: calls, attrs =>
      if name = "" then qualify calls attrs else [(name, .group (qualify calls attrs))]

theorem settle_append (attrs more : List (Attr α)) : settle (attrs ++ more) = settle attrs ++ settle more := by
  induction attrs with
  | nil => rfl
  | cons a attrs ih =>
      obtain ⟨key, value⟩ := a
      rw [List.cons_append, settle, settle, ih, List.append_assoc]

section Wrapping

variable {H : Handler σ α μ ω} {next : σ} {view : σ → List (Attr α) → List (Attr α)}
  {emit : Context → μ → List (Attr α) → ω}

theorem view_derive (contract : Contract H next view emit) (calls : List (Call α)) (h : σ)
    (attrs : List (Attr α)) : view (calls.foldl H.derive h) attrs = view h (qualify calls attrs) := by
  induction calls generalizing h with
  | nil => rfl
  | cons call calls ih =>
      rw [List.foldl_cons, ih]
      cases call with
      | withAttrs bound => exact contract.withAttrs h bound _
      | withGroup name =>
          by_cases empty : name = ""
          · rw [empty, Handler.derive, contract.noGroup, qualify, if_pos rfl]
          · rw [Handler.derive, contract.withGroup _ _ _ empty, qualify, if_neg empty]

def goaOf : Call α → List (Goa α)
  | .withAttrs attrs => if attrs.length = 0 then [] else [⟨"", attrs⟩]
  | .withGroup name => if name = "" then [] else [⟨name, []⟩]

def recorded (calls : List (Call α)) : List (Goa α) := calls.flatMap goaOf

theorem derive_recorded (h : SlogHandler H) (call : Call α) :
    (h.derive call).next = h.next ∧ (h.derive call).goas = h.goas ++ goaOf call := by
  cases call with
  | withAttrs attrs =>
      rw [SlogHandler.derive, SlogHandler.withAttrs, goaOf]
      split_ifs
      · exact ⟨rfl, (List.append_nil _).symm⟩
      · exact ⟨rfl, rfl⟩
  | withGroup name =>
      rw [SlogHandler.derive, SlogHandler.withGroup, goaOf]
      split_ifs
      · exact ⟨rfl, (List.append_nil _).symm⟩
      · exact ⟨rfl, rfl⟩

theorem derived (calls : List (Call α)) (h : SlogHandler H) :
    (calls.foldl SlogHandler.derive h).next = h.next ∧
      (calls.foldl SlogHandler.derive h).goas = h.goas ++ recorded calls := by
  induction calls generalizing h with
  | nil => exact ⟨rfl, (List.append_nil _).symm⟩
  | cons call calls ih =>
      obtain ⟨same, steps⟩ := ih (h.derive call)
      obtain ⟨next, goas⟩ := derive_recorded h call
      rw [List.foldl_cons, same, steps, next, goas, List.append_assoc]
      exact ⟨rfl, rfl⟩

theorem view_replay (contract : Contract H next view emit) (calls : List (Call α)) (h : σ)
    (attrs : List (Attr α)) : view (replay H h (recorded calls)) attrs = view h (qualify calls attrs) := by
  induction calls generalizing h with
  | nil => rfl
  | cons call calls ih =>
      have split : replay H h (recorded (call :: calls)) =
          replay H (replay H h (goaOf call)) (recorded calls) := by
        rw [recorded, List.flatMap_cons, replay, List.foldl_append]
        rfl
      rw [split, ih]
      cases call with
      | withAttrs bound =>
          rw [goaOf, qualify]
          split_ifs with empty
          · rw [List.length_eq_zero_iff.mp empty]
            rfl
          · exact contract.withAttrs h bound _
      | withGroup name =>
          rw [goaOf, qualify]
          split_ifs with empty
          · rfl
          · have opened : applyGoa H h ⟨name, []⟩ = H.withGroup h name := if_pos empty
            rw [replay, List.foldl_cons, List.foldl_nil, opened, contract.withGroup _ _ _ empty]

def Named (calls : List (Call α)) (rec : Record α μ) : Prop :=
  hasCorrelationID rec = true ∨ hasRootCorrelationID (recorded calls) = true

instance (calls : List (Call α)) (rec : Record α μ) : Decidable (Named calls rec) :=
  inferInstanceAs (Decidable (_ ∨ _))

def stamp (id : Bytes) : Attr α := (attrKey, .string id)

theorem settle_stamp (id : Bytes) : settle [(stamp id : Attr α)] = [stamp id] := rfl

variable (H next) in
def wrapper (calls : List (Call α)) : SlogHandler H :=
  calls.foldl SlogHandler.derive (newSlogHandler H next [])

theorem wrapper_next (calls : List (Call α)) : (wrapper H next calls).next = next := (derived calls _).1

theorem wrapper_goas (calls : List (Call α)) : (wrapper H next calls).goas = recorded calls :=
  (derived calls _).2

theorem addID_iff (calls : List (Call α)) (ctx : Context) (rec : Record α μ) :
    (wrapper H next calls).addID ctx rec = true ↔ ctx.from ≠ [] ∧ ¬ Named calls rec := by
  rw [SlogHandler.addID, SlogHandler.rootHasID_eq, wrapper_goas, Named]
  simp [and_assoc]

theorem delivered (contract : Contract H next view emit) (calls : List (Call α)) (ctx : Context)
    (rec : Record α μ) :
    let delivery := (wrapper H next calls).deliver ctx rec
    let plain := settle (qualify calls rec.attrs)
    delivery.2.header = rec.header ∧
      ((ctx.from = [] ∨ Named calls rec) ∧ view delivery.1 delivery.2.attrs = plain ∨
        (ctx.from ≠ [] ∧ ¬ Named calls rec) ∧
          (view delivery.1 delivery.2.attrs = plain ++ [stamp ctx.from] ∨
            view delivery.1 delivery.2.attrs = stamp ctx.from :: plain)) := by
  intro delivery plain
  have replayed := view_replay contract calls
  by_cases adds : (wrapper H next calls).addID ctx rec = true
  · have unnamed := (addID_iff calls ctx rec).mp adds
    by_cases bare : (wrapper H next calls).goas.length = 0
    · have same : delivery = (next, { rec with attrs := rec.attrs ++ [stamp ctx.from] }) := by
        show SlogHandler.deliver _ _ _ = _
        rw [SlogHandler.deliver, adds, if_neg (by decide), if_pos bare, wrapper_next]
        rfl
      have whole : settle rec.attrs = plain := by
        have steps := replayed next rec.attrs
        rw [← wrapper_goas calls, List.length_eq_zero_iff.mp bare, contract.root] at steps
        rw [← contract.root rec.attrs]
        exact steps
      rw [same]
      refine ⟨rfl, .inr ⟨unnamed, .inl ?_⟩⟩
      rw [contract.root, settle_append, whole, settle_stamp]
    · have same : delivery = (replay H (H.withAttrs next [stamp ctx.from]) (recorded calls), rec) := by
        show SlogHandler.deliver _ _ _ = _
        rw [SlogHandler.deliver, adds, if_neg (by decide), if_neg bare, wrapper_next, wrapper_goas]
        rfl
      rw [same]
      refine ⟨rfl, .inr ⟨unnamed, .inr ?_⟩⟩
      rw [replayed, contract.withAttrs, contract.root, settle_append, settle_stamp]
      rfl
  · have same : delivery = (replay H next (recorded calls), rec) := by
      show SlogHandler.deliver _ _ _ = _
      rw [SlogHandler.deliver, Bool.eq_false_iff.mpr adds, Bool.not_false, if_pos rfl,
        SlogHandler.built_eq, wrapper_next, wrapper_goas]
    have kept : ctx.from = [] ∨ Named calls rec := by
      by_contra neither
      exact adds ((addID_iff calls ctx rec).mpr ⟨mt .inl neither, mt .inr neither⟩)
    rw [same]
    refine ⟨rfl, .inl ⟨kept, ?_⟩⟩
    rw [replayed, contract.root]

def roots (attrs : List (Attr α)) : List (Attr α) := attrs.filter fun a => a.1 = attrKey

def others (attrs : List (Attr α)) : List (Attr α) := attrs.filter fun a => a.1 ≠ attrKey

structure OneRoot (id : Bytes) (plain delivered : List (Attr α)) : Prop where
  one : ∃ a, roots delivered = [a] ∧ (a ∈ roots plain ∨ roots plain = [] ∧ a = stamp id)
  others : others delivered = others plain

theorem roots_stamp (id : Bytes) : roots [(stamp id : Attr α)] = [stamp id] := by
  simp [roots, stamp]

theorem others_stamp (id : Bytes) : others [(stamp id : Attr α)] = [] := by
  simp [others, stamp]

theorem roots_append (attrs more : List (Attr α)) : roots (attrs ++ more) = roots attrs ++ roots more :=
  List.filter_append _ _

theorem others_append (attrs more : List (Attr α)) :
    others (attrs ++ more) = others attrs ++ others more :=
  List.filter_append _ _

theorem oneRoot_plain (id : Bytes) (plain : List (Attr α)) :
    OneRoot id plain plain ↔ (roots plain).length = 1 := by
  constructor
  · rintro ⟨⟨a, one, -⟩, -⟩
    rw [one]
    rfl
  · intro length
    obtain ⟨a, one⟩ := List.length_eq_one_iff.mp length
    refine ⟨⟨a, one, .inl ?_⟩, rfl⟩
    rw [one]
    exact .head _

theorem oneRoot_stamped {id : Bytes} {plain delivered : List (Attr α)}
    (ids : (roots delivered).Perm (stamp id :: roots plain)) (rest : others delivered = others plain) :
    OneRoot id plain delivered ↔ roots plain = [] := by
  constructor
  · rintro ⟨⟨a, one, -⟩, -⟩
    have lengths := ids.length_eq
    rw [one, List.length_cons, List.length_cons, List.length_nil] at lengths
    exact List.length_eq_zero_iff.mp (by omega)
  · intro none
    rw [none] at ids
    exact ⟨⟨stamp id, List.perm_singleton.mp ids, .inr ⟨none, rfl⟩⟩, rest⟩

theorem oneRoot_iff (contract : Contract H next view emit) (calls : List (Call α)) {ctx : Context}
    (some : ctx.from ≠ []) (rec : Record α μ) :
    let delivery := (wrapper H next calls).deliver ctx rec
    let plain := settle (qualify calls rec.attrs)
    OneRoot ctx.from plain (view delivery.1 delivery.2.attrs) ↔
      Named calls rec ∧ (roots plain).length = 1 ∨ ¬ Named calls rec ∧ roots plain = [] := by
  intro delivery plain
  rcases (delivered contract calls ctx rec).2 with ⟨kept, same⟩ | ⟨⟨-, unnamed⟩, after | before⟩
  · have named := kept.resolve_left some
    rw [same, oneRoot_plain]
    simp [named, plain]
  · rw [after, oneRoot_stamped]
    · simp [unnamed, plain]
    · rw [roots_append, roots_stamp]
      exact List.perm_append_comm
    · rw [others_append, others_stamp, List.append_nil]
  · have front : stamp ctx.from :: plain = [stamp ctx.from] ++ plain := rfl
    rw [before, front, oneRoot_stamped]
    · simp [unnamed, plain]
    · rw [roots_append, roots_stamp]
      exact .refl _
    · rw [others_append, others_stamp, List.nil_append]

theorem one_root_correlation_id_iff (contract : Contract H next view emit) (calls : List (Call α))
    (ctx : Context) (rec : Record α μ) :
    let delivery := (wrapper H next calls).deliver ctx rec
    let unwrapped := calls.foldl H.derive next
    let plain := settle (qualify calls rec.attrs)
    view unwrapped rec.attrs = plain ∧
    (wrapper H next calls).handle ctx rec =
      emit ctx rec.header (view delivery.1 delivery.2.attrs) ∧
    (ctx.from = [] → (wrapper H next calls).handle ctx rec = H.handle unwrapped ctx rec) ∧
    (ctx.from ≠ [] →
      (OneRoot ctx.from (view unwrapped rec.attrs) (view delivery.1 delivery.2.attrs) ↔
        Named calls rec ∧ (roots plain).length = 1 ∨ ¬ Named calls rec ∧ roots plain = [])) := by
  intro delivery unwrapped plain
  have seen : view unwrapped rec.attrs = plain := by
    rw [view_derive contract calls, contract.root]
  have written : (wrapper H next calls).handle ctx rec =
      emit ctx rec.header (view delivery.1 delivery.2.attrs) := by
    rw [← (delivered contract calls ctx rec).1]
    exact contract.handle _ _ _
  refine ⟨seen, written, ?_, ?_⟩
  · intro none
    rcases (delivered contract calls ctx rec).2 with ⟨-, same⟩ | ⟨⟨some, -⟩, -⟩
    · rw [written, same, contract.handle, seen]
    · exact absurd none some
  · intro some
    rw [seen]
    exact oneRoot_iff contract calls some rec

end Wrapping

def showing : Handler (List (Call α)) α μ (Context × μ × List (Attr α)) where
  withAttrs calls attrs := calls ++ [.withAttrs attrs]
  withGroup calls name := if name = "" then calls else calls ++ [.withGroup name]
  handle calls ctx rec := (ctx, rec.header, settle (qualify calls rec.attrs))

theorem qualify_append (calls more : List (Call α)) (attrs : List (Attr α)) :
    qualify (calls ++ more) attrs = qualify calls (qualify more attrs) := by
  induction calls with
  | nil => rfl
  | cons call calls ih =>
      rw [List.cons_append]
      cases call with
      | withAttrs bound => rw [qualify, qualify, ih]
      | withGroup name => rw [qualify, qualify, ih]

theorem showing_contract : Contract (showing : Handler _ α μ _) [] (fun calls => settle ∘ qualify calls)
    (fun ctx header attrs => (ctx, header, attrs)) where
  root attrs := rfl
  withAttrs calls bound attrs := by
    show settle (qualify (calls ++ [.withAttrs bound]) attrs) = _
    rw [qualify_append]
    rfl
  withGroup calls name attrs some := by
    show settle (qualify (if name = "" then calls else calls ++ [.withGroup name]) attrs) = _
    rw [if_neg some, qualify_append, qualify, if_neg some]
    rfl
  noGroup calls := rfl
  handle calls ctx rec := rfl

def written (calls : List (Call Unit)) (id : Bytes) (attrs : List (Attr Unit)) : List (Attr Unit) :=
  ((wrapper showing [] calls).handle ⟨some id, none⟩ ⟨(), attrs⟩).2.2

def unwrapped (calls : List (Call Unit)) (attrs : List (Attr Unit)) : List (Attr Unit) :=
  (showing.handle (calls.foldl (showing (μ := Unit)).derive []) ⟨none, none⟩ ⟨(), attrs⟩).2.2

theorem one_root_correlation_id_iff_group :
    OneRoot (ascii "abc") (unwrapped [.withGroup "g"] [("k", .string (ascii "v"))])
      (written [.withGroup "g"] (ascii "abc") [("k", .string (ascii "v"))]) := by
  have facts := one_root_correlation_id_iff (showing_contract (α := Unit) (μ := Unit))
    [.withGroup "g"] ⟨some (ascii "abc"), none⟩ ⟨(), [("k", .string (ascii "v"))]⟩
  refine (facts.2.2.2 (by decide)).mpr (.inr ⟨by decide, ?_⟩)
  rfl

/-- A correlation ID in a record under an open group is not at the root and keeps the other one away. -/
theorem no_root_under_group :
    ¬ OneRoot (ascii "abc") (unwrapped [.withGroup "g"] [("correlation_id", .string (ascii "x"))])
      (written [.withGroup "g"] (ascii "abc") [("correlation_id", .string (ascii "x"))]) := by
  intro holds
  have facts := @oneRoot_iff _ _ _ _ showing [] _ _ (showing_contract (α := Unit) (μ := Unit))
    [.withGroup "g"] ⟨some (ascii "abc"), none⟩ (by decide) ⟨(), [("correlation_id", .string (ascii "x"))]⟩
  rcases facts.mp holds with ⟨-, one⟩ | ⟨unnamed, -⟩
  · cases one
  · exact unnamed (by decide)

end BrokerMcp.Proof.Observability
