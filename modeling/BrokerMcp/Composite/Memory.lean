import BrokerMcp.Composite.Bound

/-!
# The size cap in memory

`boundResponse` over the maps and slices it is handed. A step of the result is the address of a map, and
its rows are a slice of an array; both are shared with the step results of the executor. A copy is a
new cell that is filled in place, and only the map of the result itself is overwritten.
-/

namespace BrokerMcp.Composite

inductive Field where
  | slice (array length : Nat)
  | plain (v : Value)

inductive Entry where
  | step (addr : Nat)
  | plain (v : Value)

structure Memory where
  maps : List (List (String × Field))
  arrays : List (List Value)

namespace Memory

def field (mem : Memory) : Field → Value
  | .slice array length => .arr ((mem.arrays.getD array []).take length)
  | .plain v => v

def step (mem : Memory) (addr : Nat) : Object :=
  (mem.maps.getD addr []).map fun e => (e.1, mem.field e.2)

def entry (mem : Memory) : Entry → Value
  | .step addr => .obj (mem.step addr)
  | .plain v => v

def result (mem : Memory) (out : List (String × Entry)) : Object :=
  out.map fun e => (e.1, mem.entry e.2)

def makeMap (mem : Memory) : Nat × Memory :=
  (mem.maps.length, { mem with maps := mem.maps ++ [[]] })

def makeSlice (mem : Memory) (items : List Value) : Field × Memory :=
  (.slice mem.arrays.length items.length, { mem with arrays := mem.arrays ++ [items] })

def update (mem : Memory) (addr : Nat) (f : List (String × Field) → List (String × Field)) : Memory :=
  { mem with maps := mem.maps.modify addr f }

def trimmedStep (mem : Memory) (addr : Nat) (c : BoundCandidate) (limit : Nat)
    (hasSummary resumable : Bool) : Nat × Memory :=
  let old := mem.maps.getD addr []
  let items := ((mem.step addr).arr? "data").getD []
  let prev := ((mem.step addr).str? "truncatedMessage").getD ""
  let (trimmed, mem) := mem.makeMap
  let mem := old.foldl (fun mem e => mem.update trimmed (Assoc.put e.1 e.2)) mem
  let hadCursor := ((mem.step trimmed).lookup "nextCursor").isSome
  let mem := mem.update trimmed (Assoc.drop "nextCursor")
  let (data, mem) := mem.makeSlice (items.take c.keep)
  let mem := mem.update trimmed (Assoc.put "data" data)
  let mem := mem.update trimmed (Assoc.put "truncated" (.plain (.bool true)))
  let mem := mem.update trimmed
    (Assoc.put "omittedItems" (.plain (.int (items.length - c.keep))))
  let note := boundNote prev c.keep items.length limit hasSummary (resumable || hadCursor)
  (trimmed, mem.update trimmed (Assoc.put "truncatedMessage" (.plain (.str note))))

section Run

variable (out : List (String × Entry)) (limit : Nat) (hasSummary : Bool) (resumable : String → Bool)

-- One turn of the loop of `build`, which writes to the copy `cp` of the result.
def buildStep (built : List (String × Entry) × Memory) (c : BoundCandidate) :
    List (String × Entry) × Memory :=
  if c.keep < c.items.length then
    match out.lookup c.id with
    | some (.step addr) =>
        let (trimmed, mem) := built.2.trimmedStep addr c limit hasSummary (resumable c.id)
        (Assoc.put c.id (.step trimmed) built.1, mem)
    | _ => built
  else built

def build (mem : Memory) (cands : List BoundCandidate) : List (String × Entry) × Memory :=
  cands.foldl (buildStep out limit hasSummary resumable) (out, mem)

-- Without rows left to remove the trial is the emptied result, which fits.
def exactPass (meter : Meter) : Nat → Memory → List BoundCandidate →
    List BoundCandidate × List (String × Entry) × Memory
  | 0, mem, cands => (cands, mem.build out limit hasSummary resumable cands)
  | rows + 1, mem, cands =>
      let (trial, mem) := mem.build out limit hasSummary resumable cands
      let got := (meter.textSize (mem.result trial)).getD 0
      if got ≤ limit then (cands, trial, mem)
      else
        exactPass meter rows mem (shaveExcess (rowsLeft cands) (got - limit : Int) cands)

def commit (trial : List (String × Entry)) (cands : List BoundCandidate) : List (String × Entry) :=
  cands.foldl (fun out c =>
    if c.items.length - c.keep = 0 then out
    else
      match trial.lookup c.id with
      | some e => Assoc.put c.id e out
      | none => out) out

end Run

def boundResponse (mem : Memory) (meter : Meter) (strategy : ResultStrategy)
    (resumable : String → Bool) (out : List (String × Entry)) (size limit : Nat) :
    List (String × Entry) × Memory × BoundReport :=
  if size ≤ limit then (out, mem, ⟨false, false, 0, []⟩)
  else
    let hasSummary := decide (strategy.strategy = "postProcess")
    let cands := candidates meter (mem.result out) hasSummary
    let (empty, emptied) := mem.build out limit hasSummary resumable
      (cands.map fun c => { c with keep := 0 })
    let size' := meter.textSize (emptied.result empty)
    if cands.isEmpty || !(size'.any fun n => decide (n ≤ limit)) then
      (out, emptied, ⟨false, true, 0, []⟩)
    else
      let cands := shaveExcess (rowsLeft cands) (size - limit : Int) cands
      let (cands, trial, mem) :=
        exactPass out limit hasSummary resumable meter (rowsLeft cands) emptied cands
      (commit out trial cands, mem, report cands)

end Memory

end BrokerMcp.Composite
