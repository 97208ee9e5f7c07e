import Mathlib.Data.List.Basic
import Mathlib.Tactic.Common

/-!
# JSON Schema

The keywords `type`, `enum`, `properties`, `required`, `additionalProperties`, `items` and `oneOf` of
draft 7, over documents of any type that can be read as JSON. `closed` is the value `false` of
`additionalProperties`, and an empty list stands for a keyword that is absent.
-/

namespace JsonSchema

inductive Kind where
  | null
  | boolean
  | integer
  | number
  | string
  | array
  | object
deriving DecidableEq

inductive Constant where
  | text (s : String)
  | truth (b : Bool)
deriving DecidableEq

/-- How a document is read. The kind of a number without a fractional part is `integer`. -/
structure View (α : Type*) where
  kind : α → Kind
  constant : α → Option Constant
  members : α → List (String × α)
  elements : α → List α

structure Schema where
  type : Option String := none
  enum : List Constant := []
  properties : List (String × Schema) := []
  required : List String := []
  closed : Bool := false
  additional : Option Schema := none
  items : Option Schema := none
  oneOf : List Schema := []

def hasType (type : String) (kind : Kind) : Bool :=
  match kind with
  | .null => type = "null"
  | .boolean => type = "boolean"
  | .integer => type = "integer" || type = "number"
  | .number => type = "number"
  | .string => type = "string"
  | .array => type = "array"
  | .object => type = "object"

variable {α : Type*} (view : View α)

def View.names (x : α) : List String := (view.members x).map Prod.fst

mutual

def accepts : Schema → α → Bool
  | ⟨type, enum, properties, required, closed, additional, items, oneOf⟩, x =>
      type.all (hasType · (view.kind x)) &&
      (enum.isEmpty || enum.any fun c => view.constant x = some c) &&
      (view.kind x != .object ||
        acceptsProperties properties x &&
        required.all (fun name => ((view.members x).lookup name).isSome) &&
        (!closed || (view.names x).all (· ∈ properties.map Prod.fst)) &&
        acceptsAll additional
          ((view.members x).filter (fun member => member.1 ∉ properties.map Prod.fst)
            |>.map Prod.snd)) &&
      (view.kind x != .array || acceptsAll items (view.elements x)) &&
      (oneOf.isEmpty || acceptsCount oneOf x == 1)

def acceptsProperties : List (String × Schema) → α → Bool
  | [], _ => true
  | (name, schema) :: rest, x =>
      ((view.members x).lookup name).all (accepts schema) && acceptsProperties rest x

def acceptsAll : Option Schema → List α → Bool
  | none, _ => true
  | some schema, xs => xs.all (accepts schema)

def acceptsCount : List Schema → α → Nat
  | [], _ => 0
  | schema :: rest, x => (accepts schema x).toNat + acceptsCount rest x

end

structure Accepted (schema : Schema) (x : α) : Prop where
  type : ∀ type, schema.type = some type → hasType type (view.kind x) = true
  enum : schema.enum ≠ [] → ∃ c ∈ schema.enum, view.constant x = some c
  properties : view.kind x = .object → ∀ property ∈ schema.properties, ∀ y,
    (view.members x).lookup property.1 = some y → accepts view property.2 y = true
  required : view.kind x = .object → ∀ name ∈ schema.required,
    ((view.members x).lookup name).isSome = true
  closed : view.kind x = .object → schema.closed = true → ∀ name ∈ view.names x,
    name ∈ schema.properties.map Prod.fst
  additional : view.kind x = .object → ∀ rest, schema.additional = some rest →
    ∀ member ∈ view.members x, member.1 ∉ schema.properties.map Prod.fst →
      accepts view rest member.2 = true
  items : view.kind x = .array → ∀ item, schema.items = some item → ∀ y ∈ view.elements x,
    accepts view item y = true
  oneOf : schema.oneOf ≠ [] → schema.oneOf.countP (accepts view · x) = 1

theorem acceptsProperties_iff (properties : List (String × Schema)) (x : α) :
    acceptsProperties view properties x = true ↔ ∀ property ∈ properties, ∀ y,
      (view.members x).lookup property.1 = some y → accepts view property.2 y = true := by
  induction properties with
  | nil => simp [acceptsProperties]
  | cons property rest ih =>
      obtain ⟨name, schema⟩ := property
      rw [acceptsProperties, Bool.and_eq_true, ih, List.forall_mem_cons, Option.all_eq_true]

theorem acceptsAll_iff (schema : Option Schema) (xs : List α) :
    acceptsAll view schema xs = true ↔
      ∀ s, schema = some s → ∀ x ∈ xs, accepts view s x = true := by
  cases schema with
  | none => simp [acceptsAll]
  | some schema => simp [acceptsAll]

theorem acceptsCount_eq (schemas : List Schema) (x : α) :
    acceptsCount view schemas x = schemas.countP (accepts view · x) := by
  induction schemas with
  | nil => rfl
  | cons schema rest ih =>
      rw [acceptsCount, List.countP_cons, ih]
      cases accepts view schema x <;> simp [Nat.add_comm]

theorem accepts_iff (schema : Schema) (x : α) :
    accepts view schema x = true ↔ Accepted view schema x := by
  obtain ⟨type, enum, properties, required, closed, additional, items, oneOf⟩ := schema
  rw [accepts]
  simp only [Bool.and_eq_true, Bool.or_eq_true, Option.all_eq_true, List.isEmpty_iff,
    List.any_eq_true, decide_eq_true_eq, bne_iff_ne, acceptsProperties_iff, List.all_eq_true,
    Bool.not_eq_true', acceptsAll_iff, acceptsCount_eq, beq_iff_eq]
  constructor
  · rintro ⟨⟨⟨⟨type, enum⟩, object⟩, array⟩, oneOf⟩
    have object := fun (isObject : view.kind x = .object) => object.resolve_left (not_not.mpr isObject)
    refine ⟨type, enum.resolve_left, fun isObject => (object isObject).1.1.1,
      fun isObject => (object isObject).1.1.2, ?_, ?_, ?_, oneOf.resolve_left⟩
    · intro isObject shut
      exact (object isObject).1.2.resolve_left (ne_of_eq_of_ne shut (by decide))
    · intro isObject rest present member inside extra
      apply (object isObject).2 rest present
      exact List.mem_map.mpr ⟨member, List.mem_filter.mpr ⟨inside, decide_eq_true extra⟩, rfl⟩
    · intro isArray
      exact array.resolve_left (not_not.mpr isArray)
  · intro accepted
    refine ⟨⟨⟨⟨accepted.type, ?_⟩, ?_⟩, ?_⟩, ?_⟩
    · exact or_iff_not_imp_left.mpr accepted.enum
    · apply or_iff_not_imp_left.mpr
      intro isObject
      have isObject := not_not.mp isObject
      refine ⟨⟨⟨accepted.properties isObject, accepted.required isObject⟩, ?_⟩, ?_⟩
      · apply or_iff_not_imp_left.mpr
        intro shut
        exact accepted.closed isObject (eq_true_of_ne_false shut)
      · intro rest present y inside
        obtain ⟨member, kept, rfl⟩ := List.mem_map.mp inside
        obtain ⟨inside, extra⟩ := List.mem_filter.mp kept
        exact accepted.additional isObject rest present member inside (of_decide_eq_true extra)
    · apply or_iff_not_imp_left.mpr
      intro isArray
      exact accepted.items (not_not.mp isArray)
    · exact or_iff_not_imp_left.mpr accepted.oneOf

theorem hasType_object (kind : Kind) : hasType "object" kind = true ↔ kind = .object := by
  cases kind <;> decide

structure Fits (schema : Schema) (x : α) : Prop where
  properties : ∀ property ∈ schema.properties, ∀ y,
    (view.members x).lookup property.1 = some y → accepts view property.2 y = true
  required : ∀ name ∈ schema.required, ((view.members x).lookup name).isSome = true
  closed : schema.closed = true → ∀ name ∈ view.names x, name ∈ schema.properties.map Prod.fst
  additional : ∀ rest, schema.additional = some rest → ∀ member ∈ view.members x,
    member.1 ∉ schema.properties.map Prod.fst → accepts view rest member.2 = true

variable {view} {schema : Schema} {x : α}

theorem accepts_object_iff (typed : schema.type = some "object") (free : schema.enum = [])
    (single : schema.oneOf = []) :
    accepts view schema x = true ↔ view.kind x = .object ∧ Fits view schema x := by
  rw [accepts_iff]
  constructor
  · intro accepted
    have isObject := (hasType_object _).mp (accepted.type _ typed)
    exact ⟨isObject, accepted.properties isObject, accepted.required isObject,
      accepted.closed isObject, accepted.additional isObject⟩
  · rintro ⟨isObject, fits⟩
    refine ⟨?_, fun some => absurd free some, fun _ => fits.properties, fun _ => fits.required,
      fun _ => fits.closed, fun _ => fits.additional, ?_, fun some => absurd single some⟩
    · intro type present
      obtain rfl := Option.some.inj (typed.symm.trans present)
      exact (hasType_object _).mpr isObject
    · intro isArray
      cases isObject.symm.trans isArray

theorem accepts_either_iff (first second : Schema) :
    accepts view { type := some "object", oneOf := [first, second] } x = true ↔
      view.kind x = .object ∧ accepts view first x ≠ accepts view second x := by
  rw [← hasType_object]
  simp only [accepts, acceptsProperties, acceptsAll, acceptsCount]
  cases accepts view first x <;> cases accepts view second x <;> simp

theorem accepts_type (type : String) :
    accepts view { type := some type } x = hasType type (view.kind x) := by
  simp [accepts, acceptsProperties, acceptsAll]

end JsonSchema
