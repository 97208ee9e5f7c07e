import BrokerMcp.Observability.Correlation

namespace BrokerMcp.Observability
open Text (Bytes)

inductive AttrValue (α : Type) where
  | zero
  | string (s : Bytes)
  | other (v : α)
  | group (attrs : List (String × AttrValue α))

abbrev Attr (α : Type) := String × AttrValue α

structure Record (α μ : Type) where
  header : μ
  attrs : List (Attr α)

structure Handler (σ α μ ω : Type) where
  withAttrs : σ → List (Attr α) → σ
  withGroup : σ → String → σ
  handle : σ → Context → Record α μ → ω

def attrKey : String := "correlation_id"

structure Goa (α : Type) where
  group : String
  attrs : List (Attr α)

variable {σ α μ ω : Type} (H : Handler σ α μ ω)

def applyGoa (h : σ) (g : Goa α) : σ :=
  if g.group ≠ "" then H.withGroup h g.group else H.withAttrs h g.attrs

def replay (h : σ) (goas : List (Goa α)) : σ := goas.foldl (applyGoa H) h

def hasCorrelationID (rec : Record α μ) : Bool := rec.attrs.any fun a => a.1 = attrKey

def hasRootCorrelationID : List (Goa α) → Bool
  | [] => false
  | g :: goas =>
      if g.group ≠ "" then false
      else if g.attrs.any fun a => a.1 = attrKey then true
      else hasRootCorrelationID goas

structure SlogHandler where
  next : σ
  goas : List (Goa α)
  built : σ
  rootHasID : Bool
  built_eq : built = replay H next goas
  rootHasID_eq : rootHasID = hasRootCorrelationID goas

def newSlogHandler (next : σ) (goas : List (Goa α)) : SlogHandler H where
  next := next
  goas := goas
  built := replay H next goas
  rootHasID := hasRootCorrelationID goas
  built_eq := rfl
  rootHasID_eq := rfl

namespace SlogHandler

variable {H} (h : SlogHandler H)

def addID (ctx : Context) (rec : Record α μ) : Bool :=
  ctx.from ≠ [] && !hasCorrelationID rec && !h.rootHasID

/-- The handler that `Handle` delegates to, and the record that it hands over. -/
def deliver (ctx : Context) (rec : Record α μ) : σ × Record α μ :=
  let id := ctx.from
  if !h.addID ctx rec then (h.built, rec)
  else if h.goas.length = 0 then
    (h.next, { rec with attrs := rec.attrs ++ [(attrKey, .string id)] })
  else (replay H (H.withAttrs h.next [(attrKey, .string id)]) h.goas, rec)

def handle (ctx : Context) (rec : Record α μ) : ω :=
  let delivery := h.deliver ctx rec
  H.handle delivery.1 ctx delivery.2

def withAttrs (attrs : List (Attr α)) : SlogHandler H :=
  if attrs.length = 0 then h else newSlogHandler H h.next (h.goas ++ [⟨"", attrs⟩])

def withGroup (name : String) : SlogHandler H :=
  if name = "" then h else newSlogHandler H h.next (h.goas ++ [⟨name, []⟩])

end SlogHandler

inductive Call (α : Type) where
  | withAttrs (attrs : List (Attr α))
  | withGroup (name : String)

def Handler.derive (h : σ) : Call α → σ
  | .withAttrs attrs => H.withAttrs h attrs
  | .withGroup name => H.withGroup h name

def SlogHandler.derive {H : Handler σ α μ ω} (h : SlogHandler H) : Call α → SlogHandler H
  | .withAttrs attrs => h.withAttrs attrs
  | .withGroup name => h.withGroup name

end BrokerMcp.Observability
