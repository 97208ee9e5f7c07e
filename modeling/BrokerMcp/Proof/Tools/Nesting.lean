import BrokerMcp.Proof.Composite.Pages
import BrokerMcp.Tools.DescribeSchema
import Mathlib.Logic.Relation

namespace BrokerMcp.Proof.Tools
open BrokerMcp.Composite BrokerMcp.Tools
open BrokerMcp.Proof.Composite (bind_ok)

def HasProperty (defn : Object) (name : String) (prop : Object) : Prop :=
  ∃ props, defn.obj? "properties" = some props ∧ props.obj? name = some prop

def Refers (defs defn sub : Object) : Prop :=
  ∃ name prop ref, HasProperty defn name prop ∧ prop.str? "$ref" = some ref ∧ ref ≠ "" ∧
    defs.obj? (trimPrefix ref "#/definitions/") = some sub

def RefChain (defs : Object) : Nat → Object → Prop
  | 0, _ => True
  | n + 1, defn => ∃ sub, Refers defs defn sub ∧ RefChain defs n sub

def Nested : Nat → List Object → Prop
  | 0, _ => True
  | n + 1, out => ∃ attr ∈ out, ∃ sub : List Object,
      attr.lookup "properties" = some (.arr (sub.map .obj)) ∧ Nested n sub

/-- The description of a property that is no reference has several paragraphs, and its last `</pre>`
ends before its first `<pre>` begins. -/
def Unsliceable (prop : Object) : Prop :=
  (∀ ref, prop.str? "$ref" = some ref → ref = "") ∧
    ∃ s preStart preEnd, prop.str? "description" = some s ∧ index s.toList "\n\n".toList ≠ none ∧
      index s.toList "<pre>".toList = some preStart ∧
      lastIndex s.toList "</pre>".toList = some preEnd ∧ preEnd + "</pre>".length < preStart

def Sliceable (defs defn : Object) : Prop :=
  ∀ sub, Relation.ReflTransGen (Refers defs) defn sub →
    ∀ name prop, HasProperty sub name prop → ¬ Unsliceable prop

theorem refOf_eq_some {prop : Object} {ref : String} :
    refOf prop = some ref ↔ prop.str? "$ref" = some ref ∧ ref ≠ "" := by
  simp [refOf]

theorem refOf_eq_none {prop : Object} :
    refOf prop = none ↔ ∀ ref, prop.str? "$ref" = some ref → ref = "" := by
  simp [refOf]

theorem mem_sortedProperties {defn prop : Object} {name : String} :
    (name, prop) ∈ sortedProperties defn ↔ HasProperty defn name prop := by
  unfold sortedProperties HasProperty
  cases found : defn.obj? "properties" with
  | none => simp [Object.obj?]
  | some props =>
      simp only [Option.getD_some, List.mem_filterMap, List.mem_mergeSort,
        Option.map_eq_some_iff, Prod.mk.injEq]
      constructor
      · rintro ⟨_, -, _, value, rfl, rfl⟩
        exact ⟨props, rfl, value⟩
      · rintro ⟨_, ⟨⟩, value⟩
        refine ⟨name, ?_, prop, value, rfl, rfl⟩
        have entry := Object.obj?_eq_some.mp value
        obtain ⟨before, after, rfl, -⟩ := List.lookup_eq_some_iff.mp entry
        simp

theorem mainPart_ok_iff (s : String) :
    (∃ desc, mainPart s = .ok desc) ↔ ¬ (index s.toList "\n\n".toList ≠ none ∧
      ∃ preStart preEnd, index s.toList "<pre>".toList = some preStart ∧
        lastIndex s.toList "</pre>".toList = some preEnd ∧ preEnd + "</pre>".length < preStart) := by
  unfold mainPart
  cases index s.toList "\n\n".toList with
  | none => simp
  | some i =>
      cases index s.toList "<pre>".toList with
      | none => simp
      | some preStart =>
          cases lastIndex s.toList "</pre>".toList with
          | none => simp
          | some preEnd =>
              unfold slice
              by_cases crossed : preStart > preEnd + "</pre>".length
              · simp [crossed, bind, Except.bind]
              · simp [crossed, bind, Except.bind]

theorem plainAttr_ok_iff {prop : Object} (plain : refOf prop = none) (name : String) :
    (∃ attr, plainAttr name prop = .ok attr) ↔ ¬ Unsliceable prop := by
  have step : (∃ attr, plainAttr name prop = .ok attr) ↔
      ∃ desc, mainPart ((prop.str? "description").getD "") = .ok desc := by
    unfold plainAttr descriptionOf
    cases mainPart ((prop.str? "description").getD "") <;> simp [bind, Except.bind]
  rw [step, mainPart_ok_iff, Unsliceable, refOf_eq_none.mp plain |> eq_true, true_and]
  cases prop.str? "description" with
  | none => simp [index]
  | some s => simp

theorem lookup_entry {key other : String} (value : Option Value) (apart : other ≠ key) :
    (entry key value).lookup other = none := by
  cases value <;> simp [entry, apart]

theorem plainAttr_lookup {name : String} {prop attr : Object} (ok : plainAttr name prop = .ok attr) :
    attr.lookup "properties" = none := by
  have flags : ((omitWhenFalse.filter fun f => flag prop f.2).map
      fun f => (f.1, Value.bool true)).lookup "properties" = none := by
    rw [List.lookup_eq_none_iff, List.forall_mem_map]
    intro f member
    have listed := (List.mem_filter.mp member).1
    simp only [omitWhenFalse, List.mem_cons, List.not_mem_nil, or_false] at listed
    rcases listed with rfl | rfl | rfl | rfl | rfl <;> rfl
  obtain ⟨description, described, ok⟩ := bind_ok ok
  obtain ⟨desc, -, described⟩ := bind_ok described
  obtain rfl := Except.ok.inj described
  obtain rfl := Except.ok.inj ok
  simp [-List.lookup_eq_none_iff, List.lookup_append, List.lookup_cons, flags, lookup_entry]

theorem refAttr_ok {nested : Object → Except Stop (List Object)} {defs resolved attr : Object}
    {name ref : String} (resolves : defs.obj? (trimPrefix ref "#/definitions/") = some resolved)
    (ok : refAttr nested defs name ref = .ok attr) :
    ∃ sub, nested resolved = .ok sub ∧ attr.lookup "properties" = some (.arr (sub.map .obj)) := by
  simp only [refAttr, resolves] at ok
  obtain ⟨sub, called, ok⟩ := bind_ok ok
  obtain rfl := Except.ok.inj ok
  refine ⟨sub, called, ?_⟩
  simp [-List.lookup_eq_none_iff, List.lookup_append, List.lookup_cons, lookup_entry]

theorem trimProperty_nested {nested : Object → Except Stop (List Object)} {defs prop attr : Object}
    {name : String} {value : Value} (ok : trimProperty nested defs (name, prop) = .ok attr)
    (found : attr.lookup "properties" = some value) :
    ∃ ref resolved, refOf prop = some ref ∧
      defs.obj? (trimPrefix ref "#/definitions/") = some resolved := by
  unfold trimProperty at ok
  cases isRef : refOf prop with
  | none =>
      simp only [isRef] at ok
      rw [plainAttr_lookup ok] at found
      cases found
  | some ref =>
      simp only [isRef] at ok
      cases resolves : defs.obj? (trimPrefix ref "#/definitions/") with
      | none =>
          simp only [refAttr, resolves] at ok
          obtain rfl := Except.ok.inj ok
          simp [List.lookup_cons] at found
      | some resolved => exact ⟨ref, resolved, rfl, resolves⟩

theorem mapM_eq_ok_iff {ε α β : Type} {f : α → Except ε β} {xs : List α} {ys : List β} :
    xs.mapM f = .ok ys ↔ xs.map f = ys.map .ok := by
  induction xs generalizing ys with
  | nil => simp [pure, Except.pure, eq_comm]
  | cons x xs ih =>
      rw [List.mapM_cons, List.map_cons]
      cases here : f x with
      | error e => cases ys <;> simp [bind, Except.bind]
      | ok y =>
          have rest (zs : List β) : xs.mapM f = .ok zs ↔ xs.map f = zs.map .ok := ih
          cases ys with
          | nil => cases xs.mapM f <;> simp [bind, Except.bind, pure, Except.pure]
          | cons z zs =>
              rw [List.map_cons, List.cons.injEq, ← rest]
              cases xs.mapM f <;> simp [bind, Except.bind, pure, Except.pure]

theorem attr_of_property {fuel : Nat} {defs defn prop : Object} {name : String} {out : List Object}
    (ok : trimAttributes (fuel + 1) defn defs = .ok out) (property : HasProperty defn name prop) :
    ∃ attr ∈ out, trimProperty (fun d => trimAttributes fuel d defs) defs (name, prop) = .ok attr := by
  have each := mapM_eq_ok_iff.mp ok
  have member := List.mem_map_of_mem (mem_sortedProperties.mpr property)
    (f := trimProperty (fun d => trimAttributes fuel d defs) defs)
  rw [each] at member
  obtain ⟨attr, inside, value⟩ := List.mem_map.mp member
  exact ⟨attr, inside, value.symm⟩

theorem property_of_attr {fuel : Nat} {defs defn attr : Object} {out : List Object}
    (ok : trimAttributes (fuel + 1) defn defs = .ok out) (inside : attr ∈ out) :
    ∃ name prop, HasProperty defn name prop ∧
      trimProperty (fun d => trimAttributes fuel d defs) defs (name, prop) = .ok attr := by
  have each := mapM_eq_ok_iff.mp ok
  have member := List.mem_map_of_mem inside (f := Except.ok (ε := Stop))
  rw [← each] at member
  obtain ⟨⟨name, prop⟩, listed, value⟩ := List.mem_map.mp member
  exact ⟨name, prop, mem_sortedProperties.mp listed, value⟩

theorem returns_of_properties {fuel : Nat} {defs defn : Object}
    (each : ∀ name prop, HasProperty defn name prop →
      ∃ attr, trimProperty (fun d => trimAttributes fuel d defs) defs (name, prop) = .ok attr) :
    ∃ out, trimAttributes (fuel + 1) defn defs = .ok out := by
  have exists_list : ∀ props : List (String × Object), (∀ p ∈ props, HasProperty defn p.1 p.2) →
      ∃ out : List Object, props.map (trimProperty (fun d => trimAttributes fuel d defs) defs) =
        out.map .ok := by
    intro props
    induction props with
    | nil => exact fun _ => ⟨[], rfl⟩
    | cons p props ih =>
        intro own
        obtain ⟨attr, first⟩ := each p.1 p.2 (own p (.head _))
        obtain ⟨out, rest⟩ := ih fun q member => own q (.tail _ member)
        exact ⟨attr :: out, by rw [List.map_cons, List.map_cons, first, rest]⟩
  obtain ⟨out, mapped⟩ := exists_list (sortedProperties defn) fun p => mem_sortedProperties.mp
  exact ⟨out, mapM_eq_ok_iff.mpr mapped⟩

theorem call_of_refers {fuel : Nat} {defs defn resolved : Object} {out : List Object}
    (ok : trimAttributes (fuel + 1) defn defs = .ok out) (refers : Refers defs defn resolved) :
    ∃ attr ∈ out, ∃ sub, trimAttributes fuel resolved defs = .ok sub ∧
      attr.lookup "properties" = some (.arr (sub.map .obj)) := by
  obtain ⟨name, prop, ref, property, text, nonempty, resolves⟩ := refers
  obtain ⟨attr, inside, trimmed⟩ := attr_of_property ok property
  simp only [trimProperty, refOf_eq_some.mpr ⟨text, nonempty⟩] at trimmed
  obtain ⟨sub, called, found⟩ := refAttr_ok resolves trimmed
  exact ⟨attr, inside, sub, called, found⟩

theorem refers_of_nested {fuel : Nat} {defs defn attr : Object} {out sub : List Object}
    (ok : trimAttributes (fuel + 1) defn defs = .ok out) (inside : attr ∈ out)
    (found : attr.lookup "properties" = some (.arr (sub.map .obj))) :
    ∃ resolved, Refers defs defn resolved ∧ trimAttributes fuel resolved defs = .ok sub := by
  obtain ⟨name, prop, property, trimmed⟩ := property_of_attr ok inside
  obtain ⟨ref, resolved, isRef, resolves⟩ := trimProperty_nested trimmed found
  simp only [trimProperty, isRef] at trimmed
  obtain ⟨sub', called, found'⟩ := refAttr_ok resolves trimmed
  have same : sub' = sub := by
    rw [found] at found'
    have items := Value.arr.inj (Option.some.inj found')
    exact (List.map_injective_iff.mpr (fun _ _ => Value.obj.inj) items).symm
  obtain ⟨text, nonempty⟩ := refOf_eq_some.mp isRef
  exact ⟨resolved, ⟨name, prop, ref, property, text, nonempty, resolves⟩, same ▸ called⟩

theorem nested_iff_refChain {fuel : Nat} {defs defn : Object} {out : List Object}
    (ok : trimAttributes fuel defn defs = .ok out) (n : Nat) : Nested n out ↔ RefChain defs n defn := by
  induction n generalizing fuel defn out with
  | zero => exact Iff.rfl
  | succ n ih =>
      cases fuel with
      | zero => cases ok
      | succ fuel =>
          constructor
          · rintro ⟨attr, inside, sub, found, deeper⟩
            obtain ⟨resolved, refers, called⟩ := refers_of_nested ok inside found
            exact ⟨resolved, refers, (ih called).mp deeper⟩
          · rintro ⟨resolved, refers, further⟩
            obtain ⟨attr, inside, sub, called, found⟩ := call_of_refers ok refers
            exact ⟨attr, inside, sub, found, (ih called).mpr further⟩

theorem bounded_of_returns {fuel : Nat} {defs defn : Object} {out : List Object}
    (ok : trimAttributes fuel defn defs = .ok out) : ¬ RefChain defs fuel defn := by
  induction fuel generalizing defn out with
  | zero => cases ok
  | succ fuel ih =>
      rintro ⟨resolved, refers, further⟩
      obtain ⟨_, _, sub, called, _⟩ := call_of_refers ok refers
      exact ih called further

theorem sliceable_of_returns {fuel : Nat} {defs defn : Object} {out : List Object}
    (ok : trimAttributes fuel defn defs = .ok out) : Sliceable defs defn := by
  intro sub reached
  -- each reference on the way to `sub` is a call that has returned, with less fuel
  induction reached using Relation.ReflTransGen.head_induction_on generalizing fuel out with
  | refl =>
      intro name prop property broken
      cases fuel with
      | zero => cases ok
      | succ fuel =>
          obtain ⟨attr, -, trimmed⟩ := attr_of_property ok property
          have plain : refOf prop = none := refOf_eq_none.mpr broken.1
          simp only [trimProperty, plain] at trimmed
          exact (plainAttr_ok_iff plain name).mp ⟨attr, trimmed⟩ broken
  | head refers _ ih =>
      cases fuel with
      | zero => cases ok
      | succ fuel =>
          obtain ⟨_, _, out', called, _⟩ := call_of_refers ok refers
          exact ih called

theorem returns_of_bounded {n : Nat} {defs defn : Object} (bounded : ¬ RefChain defs n defn)
    (sliceable : Sliceable defs defn) : ∃ out, trimAttributes n defn defs = .ok out := by
  induction n generalizing defn with
  | zero => exact absurd trivial bounded
  | succ n ih =>
      apply returns_of_properties
      intro name prop property
      cases isRef : refOf prop with
      | none =>
          simp only [trimProperty, isRef]
          exact (plainAttr_ok_iff isRef name).mpr (sliceable defn .refl name prop property)
      | some ref =>
          simp only [trimProperty, isRef, refAttr]
          cases resolves : defs.obj? (trimPrefix ref "#/definitions/") with
          -- a reference that does not resolve makes no call
          | none => exact ⟨_, rfl⟩
          | some resolved =>
              obtain ⟨text, nonempty⟩ := refOf_eq_some.mp isRef
              have refers : Refers defs defn resolved :=
                ⟨name, prop, ref, property, text, nonempty, resolves⟩
              have shorter : ¬ RefChain defs n resolved := fun chain => bounded ⟨resolved, refers, chain⟩
              obtain ⟨out, called⟩ :=
                ih shorter fun sub reached => sliceable sub (.head refers reached)
              simp only [called]
              exact ⟨_, rfl⟩

/-- The call returns and nests its output at most `bound` deep exactly if references cannot be
followed more often than that and every description on the way can be cut; it returns at all exactly
if there is such a bound. -/
theorem trimmed_depth_iff (defs defn : Object) :
    (∀ bound, (∃ fuel out, trimAttributes fuel defn defs = .ok out ∧ ¬ Nested (bound + 1) out) ↔
      ¬ RefChain defs (bound + 1) defn ∧ Sliceable defs defn) ∧
    ((∃ fuel out, trimAttributes fuel defn defs = .ok out) ↔
      (∃ bound, ¬ RefChain defs (bound + 1) defn) ∧ Sliceable defs defn) := by
  have bounded (bound : Nat) :
      (∃ fuel out, trimAttributes fuel defn defs = .ok out ∧ ¬ Nested (bound + 1) out) ↔
        ¬ RefChain defs (bound + 1) defn ∧ Sliceable defs defn := by
    constructor
    · rintro ⟨fuel, out, ok, flat⟩
      exact ⟨fun chain => flat ((nested_iff_refChain ok _).mpr chain), sliceable_of_returns ok⟩
    · rintro ⟨short, sliceable⟩
      obtain ⟨out, ok⟩ := returns_of_bounded short sliceable
      exact ⟨bound + 1, out, ok, fun deep => short ((nested_iff_refChain ok _).mp deep)⟩
  refine ⟨bounded, ?_⟩
  constructor
  · rintro ⟨fuel, out, ok⟩
    cases fuel with
    | zero => cases ok
    | succ fuel => exact ⟨⟨fuel, bounded_of_returns ok⟩, sliceable_of_returns ok⟩
  · rintro ⟨⟨bound, short⟩, sliceable⟩
    obtain ⟨fuel, out, ok, -⟩ := (bounded bound).mpr ⟨short, sliceable⟩
    exact ⟨fuel, out, ok⟩

example : mainPart "a\n\n</pre> <pre>" = .error .panic := by decide

def pointingTo (name : String) : Object :=
  [("properties", .obj [("next", .obj [("$ref", .str ("#/definitions/" ++ name))])])]

theorem refers_pointingTo {defs sub : Object} {name : String} (found : defs.obj? name = some sub) :
    Refers defs (pointingTo name) sub := by
  refine ⟨"next", _, _, ⟨_, rfl, rfl⟩, rfl, ?_, ?_⟩
  · simp [← String.toList_inj]
  · have length : "#/definitions/".length = 14 := rfl
    have cut : trimPrefix ("#/definitions/" ++ name) "#/definitions/" = name := by
      simp [trimPrefix, length]
    rw [cut, found]

theorem self_reference_never_returns :
    ¬ ∃ fuel out, trimAttributes fuel (pointingTo "A") [("A", .obj (pointingTo "A"))] = .ok out := by
  rintro ⟨fuel, out, ok⟩
  have loop : ∀ n, RefChain [("A", .obj (pointingTo "A"))] n (pointingTo "A") := by
    intro n
    induction n with
    | zero => trivial
    | succ n ih => exact ⟨_, refers_pointingTo rfl, ih⟩
  exact bounded_of_returns ok (loop fuel)

end BrokerMcp.Proof.Tools
