import BrokerMcp.Composite.Memory
import BrokerMcp.Proof.Composite.Infeasible
import Mathlib.Data.List.GetD

namespace BrokerMcp.Proof.Composite
open BrokerMcp.Composite

structure Extends (mem mem' : Memory) : Prop where
  maps : mem.maps <+: mem'.maps
  arrays : mem.arrays <+: mem'.arrays

theorem Extends.refl (mem : Memory) : Extends mem mem := ⟨List.prefix_rfl, List.prefix_rfl⟩

theorem Extends.trans {first second third : Memory} (early : Extends first second)
    (late : Extends second third) : Extends first third :=
  ⟨early.maps.trans late.maps, early.arrays.trans late.arrays⟩

def FieldIn (mem : Memory) : Field → Prop
  | .slice array _ => array < mem.arrays.length
  | .plain _ => True

structure StepIn (mem : Memory) (addr : Nat) : Prop where
  stored : addr < mem.maps.length
  fields : ∀ e ∈ mem.maps.getD addr [], FieldIn mem e.2
  distinct : ((mem.maps.getD addr []).map Prod.fst).Nodup

def EntryIn (mem : Memory) : Entry → Prop
  | .step addr => StepIn mem addr
  | .plain v => v.obj? = none

def Valid (mem : Memory) (out : List (String × Entry)) : Prop := ∀ e ∈ out, EntryIn mem e.2

theorem getD_of_prefix {α : Type*} {cells cells' : List α} (grown : cells <+: cells') {i : Nat}
    (stored : i < cells.length) (d : α) : cells'.getD i d = cells.getD i d := by
  obtain ⟨rest, rfl⟩ := grown
  exact List.getD_append _ _ _ _ stored

section Extends

variable {mem mem' : Memory} (grown : Extends mem mem')
include grown

theorem Extends.field {f : Field} (stored : FieldIn mem f) :
    FieldIn mem' f ∧ mem'.field f = mem.field f := by
  cases f with
  | plain v => exact ⟨trivial, rfl⟩
  | slice array length =>
      refine ⟨lt_of_lt_of_le stored grown.arrays.length_le, ?_⟩
      rw [Memory.field, Memory.field, getD_of_prefix grown.arrays stored]

theorem Extends.step {addr : Nat} (stored : StepIn mem addr) :
    StepIn mem' addr ∧ mem'.step addr = mem.step addr := by
  have same := getD_of_prefix grown.maps stored.stored []
  refine ⟨⟨lt_of_lt_of_le stored.stored grown.maps.length_le, ?_, by rw [same]; exact stored.distinct⟩,
    ?_⟩
  · rw [same]
    exact fun e member => (grown.field (stored.fields e member)).1
  · rw [Memory.step, Memory.step, same]
    refine List.map_congr_left fun e member => ?_
    rw [(grown.field (stored.fields e member)).2]

theorem Extends.result {out : List (String × Entry)} (valid : Valid mem out) :
    Valid mem' out ∧ mem'.result out = mem.result out := by
  have entries : ∀ e, EntryIn mem e → EntryIn mem' e ∧ mem'.entry e = mem.entry e := by
    intro e stored
    cases e with
    | plain v => exact ⟨stored, rfl⟩
    | step addr =>
        obtain ⟨stored, same⟩ := grown.step stored
        exact ⟨stored, congrArg Value.obj same⟩
  refine ⟨fun e member => (entries e.2 (valid e member)).1, ?_⟩
  refine List.map_congr_left fun e member => ?_
  rw [(entries e.2 (valid e member)).2]

end Extends

theorem update_last (maps : List (List (String × Field))) (arrays : List (List Value))
    (fields : List (String × Field)) (f : List (String × Field) → List (String × Field)) :
    Memory.update ⟨maps ++ [fields], arrays⟩ maps.length f = ⟨maps ++ [f fields], arrays⟩ := by
  rw [Memory.update, List.modify_eq_set_getElem?]
  simp

theorem copy_last (maps : List (List (String × Field))) (arrays : List (List Value))
    (old fields : List (String × Field)) :
    old.foldl (fun mem e => Memory.update mem maps.length (Assoc.put e.1 e.2))
        ⟨maps ++ [fields], arrays⟩ =
      ⟨maps ++ [old.foldl (fun acc e => Assoc.put e.1 e.2 acc) fields], arrays⟩ := by
  induction old generalizing fields with
  | nil => rfl
  | cons e old ih => rw [List.foldl_cons, List.foldl_cons, update_last, ih]

section Trimmed

variable {mem : Memory} {addr : Nat} {c : BoundCandidate} (limit : Nat) (hasSummary resumable : Bool)

variable (mem addr c) in
def trimmedFields : List (String × Field) :=
  let note := boundNote ((c.step.str? "truncatedMessage").getD "") c.keep c.items.length limit
    hasSummary (resumable || (c.step.lookup "nextCursor").isSome)
  Assoc.put "truncatedMessage" (.plain (.str note)) <|
    Assoc.put "omittedItems" (.plain (.int (c.items.length - c.keep))) <|
    Assoc.put "truncated" (.plain (.bool true)) <|
    Assoc.put "data" (.slice mem.arrays.length (c.items.take c.keep).length) <|
    Assoc.drop "nextCursor" (mem.maps.getD addr [])

theorem step_last (maps : List (List (String × Field))) (arrays : List (List Value))
    (fields : List (String × Field)) :
    Memory.step ⟨maps ++ [fields], arrays⟩ maps.length =
      fields.map fun e => (e.1, Memory.field ⟨maps ++ [fields], arrays⟩ e.2) := by
  simp [Memory.step]

theorem memory_trimmedStep (stored : StepIn mem addr) (read : c.step = mem.step addr)
    (rows : c.step.arr? "data" = some c.items) :
    mem.trimmedStep addr c limit hasSummary resumable =
      (mem.maps.length, ⟨mem.maps ++ [trimmedFields mem addr c limit hasSummary resumable],
        mem.arrays ++ [c.items.take c.keep]⟩) := by
  have copied : (mem.maps.getD addr []).foldl (fun acc e => Assoc.put e.1 e.2 acc) [] =
      mem.maps.getD addr [] := Assoc.foldl_put stored.distinct
  have same : Memory.step ⟨mem.maps ++ [mem.maps.getD addr []], mem.arrays⟩ mem.maps.length =
      c.step := by
    rw [step_last, read]
    rfl
  unfold Memory.trimmedStep Memory.makeMap Memory.makeSlice
  dsimp only
  rw [copy_last, copied, same, ← read, rows, Option.getD_some]
  simp only [update_last]
  rfl

theorem trimmedStep_refines (stored : StepIn mem addr) (read : c.step = mem.step addr)
    (rows : c.step.arr? "data" = some c.items) {trimmed : Nat} {mem' : Memory}
    (made : mem.trimmedStep addr c limit hasSummary resumable = (trimmed, mem')) :
    Extends mem mem' ∧ StepIn mem' trimmed ∧
      mem'.step trimmed = Composite.trimmedStep c limit hasSummary resumable := by
  rw [memory_trimmedStep limit hasSummary resumable stored read rows] at made
  obtain ⟨rfl, rfl⟩ := Prod.mk.inj made
  have grown : Extends mem ⟨mem.maps ++ [trimmedFields mem addr c limit hasSummary resumable],
      mem.arrays ++ [c.items.take c.keep]⟩ := ⟨List.prefix_append _ _, List.prefix_append _ _⟩
  have last : (mem.maps ++ [trimmedFields mem addr c limit hasSummary resumable]).getD
      mem.maps.length [] = trimmedFields mem addr c limit hasSummary resumable := by simp
  refine ⟨grown, ⟨by simp, ?_, ?_⟩, ?_⟩
  · rw [last]
    intro e member
    rcases Assoc.mem_of_mem_put member with rfl | member
    · trivial
    rcases Assoc.mem_of_mem_put member with rfl | member
    · trivial
    rcases Assoc.mem_of_mem_put member with rfl | member
    · trivial
    rcases Assoc.mem_of_mem_put member with rfl | member
    · show mem.arrays.length < (mem.arrays ++ [c.items.take c.keep]).length
      simp
    · exact (grown.field (stored.fields e (Assoc.mem_drop_iff.mp member).1)).1
  · rw [last]
    refine Assoc.nodup_put _ _ (Assoc.nodup_put _ _ (Assoc.nodup_put _ _ (Assoc.nodup_put _ _ ?_)))
    exact stored.distinct.sublist (List.filter_sublist.map _)
  · have kept : (mem.maps.getD addr []).map (fun e => (e.1, Memory.field
        ⟨mem.maps ++ [trimmedFields mem addr c limit hasSummary resumable],
          mem.arrays ++ [c.items.take c.keep]⟩ e.2)) = c.step := by
      rw [read, Memory.step]
      refine List.map_congr_left fun e member => ?_
      rw [(grown.field (stored.fields e member)).2]
    have sliced : Memory.field ⟨mem.maps ++ [trimmedFields mem addr c limit hasSummary resumable],
        mem.arrays ++ [c.items.take c.keep]⟩
        (.slice mem.arrays.length (c.items.take c.keep).length) = .arr (c.items.take c.keep) := by
      have last : (mem.arrays ++ [c.items.take c.keep]).getD mem.arrays.length [] =
          c.items.take c.keep := by simp
      rw [Memory.field, last, List.take_length]
    rw [step_last, trimmedFields, Assoc.map_put, Assoc.map_put, Assoc.map_put, Assoc.map_put,
      Assoc.map_drop]
    rw [← trimmedFields, kept, sliced]
    rfl

end Trimmed

theorem Valid.step {mem : Memory} {out : List (String × Entry)} (valid : Valid mem out) {id : String}
    {step : Object} (found : (mem.result out).obj? id = some step) :
    ∃ addr, out.lookup id = some (.step addr) ∧ StepIn mem addr ∧ mem.step addr = step := by
  have found := Object.obj?_eq_some.mp found
  rw [Memory.result, Assoc.lookup_map_entries fun e => mem.entry e.2] at found
  obtain ⟨e, here, shape⟩ := Option.map_eq_some_iff.mp found
  have stored := valid _ (Assoc.mem_of_lookup here)
  cases e with
  | plain v =>
      obtain rfl : v = .obj step := shape
      cases stored
  | step addr => exact ⟨addr, here, stored, Value.obj.inj shape⟩

theorem Valid.put {mem : Memory} {out : List (String × Entry)} (valid : Valid mem out) (id : String)
    {e : Entry} (stored : EntryIn mem e) : Valid mem (Assoc.put id e out) := by
  intro f member
  rcases Assoc.mem_of_mem_put member with rfl | old
  · exact stored
  · exact valid f old

section Building

variable {mem : Memory} {out : List (String × Entry)} (limit : Nat) (hasSummary : Bool)
  (resumable : String → Bool)

structure Copied (mem : Memory) (out : List (String × Entry)) (cut : List String) (value : Object)
    (built : List (String × Entry) × Memory) : Prop where
  grown : Extends mem built.2
  valid : Valid built.2 built.1
  result : built.2.result built.1 = value
  keys : built.1.map Prod.fst = out.map Prod.fst
  others : ∀ id ∉ cut, built.1.lookup id = out.lookup id

theorem Copied.step (valid : Valid mem out) {cut : List String} {value : Object}
    {built : List (String × Entry) × Memory} (copied : Copied mem out cut value built)
    {c : BoundCandidate} (drawn : Drawn (mem.result out) c) :
    Copied mem out (if c.keep < c.items.length then c.id :: cut else cut)
      (if c.keep < c.items.length then
        Assoc.put c.id (.obj (trimmedStep c limit hasSummary (resumable c.id))) value else value)
      (Memory.buildStep out limit hasSummary resumable built c) := by
  unfold Memory.buildStep
  split_ifs with short
  · obtain ⟨addr, here, stored, read⟩ := valid.step drawn.step
    obtain ⟨stored, same⟩ := copied.grown.step stored
    rw [here]
    dsimp only
    rcases made : built.2.trimmedStep addr c limit hasSummary (resumable c.id) with ⟨trimmed, mem'⟩
    obtain ⟨grown, made, reads⟩ := trimmedStep_refines limit hasSummary (resumable c.id) stored
      (read.symm.trans same.symm) drawn.items made
    obtain ⟨valid', result⟩ := grown.result copied.valid
    refine ⟨copied.grown.trans grown, valid'.put c.id made, ?_, ?_, ?_⟩
    · rw [Memory.result, Assoc.map_put, Memory.entry, reads]
      exact congrArg (Assoc.put c.id _) (result.trans copied.result)
    · rw [Assoc.keys_put, copied.keys]
      rw [copied.keys]
      exact Assoc.mem_keys_iff.mpr ⟨_, here⟩
    · intro id other
      rw [List.mem_cons, not_or] at other
      rw [Assoc.lookup_put, if_neg other.1, copied.others id other.2]
  · exact copied

theorem memory_build (valid : Valid mem out) {mem' : Memory} (grown : Extends mem mem')
    {cands : List BoundCandidate} (drawn : ∀ c ∈ cands, Drawn (mem.result out) c) :
    Copied mem out ((cands.filter fun c => c.keep < c.items.length).map BoundCandidate.id)
      (build (mem.result out) limit hasSummary resumable cands)
      (mem'.build out limit hasSummary resumable cands) := by
  have folded : ∀ cut value built, Copied mem out cut value built →
      ∃ cut', Copied mem out cut'
        (cands.foldl (fun cp c =>
          if c.keep < c.items.length then
            Assoc.put c.id (.obj (trimmedStep c limit hasSummary (resumable c.id))) cp
          else cp) value)
        (cands.foldl (Memory.buildStep out limit hasSummary resumable) built) ∧
        ∀ id ∈ cut', id ∈ cut ∨
          id ∈ (cands.filter fun c => c.keep < c.items.length).map BoundCandidate.id := by
    induction cands with
    | nil => exact fun cut value built start => ⟨cut, start, fun id member => .inl member⟩
    | cons c rest ih =>
        intro cut value built start
        obtain ⟨first, later⟩ := List.forall_mem_cons.mp drawn
        obtain ⟨cut', done, found⟩ := ih later _ _ _ (start.step limit hasSummary resumable valid first)
        refine ⟨cut', done, fun id member => ?_⟩
        rw [List.filter_cons]
        split_ifs with short
        · have short : c.keep < c.items.length := by simpa using short
          rcases found id member with old | new
          · rw [if_pos short] at old
            rcases List.mem_cons.mp old with rfl | old
            · exact .inr List.mem_cons_self
            · exact .inl old
          · exact .inr (List.mem_cons_of_mem _ new)
        · have short : ¬ c.keep < c.items.length := by simpa using short
          have found := found id member
          rwa [if_neg short] at found
  obtain ⟨valid', result⟩ := grown.result valid
  obtain ⟨cut, done, found⟩ := folded [] _ (out, mem') ⟨grown, valid', result, rfl, fun _ _ => rfl⟩
  refine ⟨done.grown, done.valid, done.result, done.keys, fun id other => done.others id ?_⟩
  intro member
  exact other ((found id member).resolve_left List.not_mem_nil)

theorem memory_exactPass (valid : Valid mem out) (meter : Meter) (rows : Nat) {mem' : Memory}
    (grown : Extends mem mem') {cands : List BoundCandidate}
    (drawn : ∀ c ∈ cands, Drawn (mem.result out) c) :
    ∃ done trial after,
      Memory.exactPass out limit hasSummary resumable meter rows mem' cands = (done, trial, after) ∧
      exactPass meter limit (build (mem.result out) limit hasSummary resumable) rows cands = done ∧
      Copied mem out ((done.filter fun c => c.keep < c.items.length).map BoundCandidate.id)
        (build (mem.result out) limit hasSummary resumable done) (trial, after) := by
  induction rows generalizing mem' cands with
  | zero => exact ⟨_, _, _, rfl, rfl, memory_build limit hasSummary resumable valid grown drawn⟩
  | succ rows ih =>
      have built := memory_build limit hasSummary resumable valid grown drawn
      unfold Memory.exactPass exactPass
      dsimp only
      rw [built.result]
      split_ifs
      · exact ⟨_, _, _, rfl, rfl, built⟩
      · exact ih built.grown ((shaveExcess_shaved _ _ _ cands).drawn drawn)

theorem commit_eq (distinct : (out.map Prod.fst).Nodup) {trial acc : List (String × Entry)}
    {cands : List BoundCandidate} (present : ∀ c ∈ cands, c.id ∈ trial.map Prod.fst)
    (keys : trial.map Prod.fst = out.map Prod.fst) (same : acc.map Prod.fst = trial.map Prod.fst)
    (others : ∀ id ∉ (cands.filter fun c => c.keep < c.items.length).map BoundCandidate.id,
      acc.lookup id = trial.lookup id) :
    Memory.commit acc trial cands = trial := by
  induction cands generalizing acc with
  | nil => exact Assoc.ext_lookup same (keys ▸ distinct) fun id => others id List.not_mem_nil
  | cons c rest ih =>
      obtain ⟨here, later⟩ := List.forall_mem_cons.mp present
      rw [Memory.commit, List.foldl_cons]
      split_ifs with full
      · refine ih later same fun id other => others id ?_
        have kept : ¬ c.keep < c.items.length := by omega
        simpa [kept] using other
      · obtain ⟨e, found⟩ := Assoc.mem_keys_iff.mp here
        rw [found]
        refine ih later ?_ fun id other => ?_
        · rw [Assoc.keys_put _ (same ▸ here), same]
        · rw [Assoc.lookup_put]
          split_ifs with this
          · rw [this, found]
          · have cut : c.keep < c.items.length := by omega
            refine others id ?_
            simpa [cut, this] using other

theorem memory_boundResponse (valid : Valid mem out) (distinct : (out.map Prod.fst).Nodup)
    (meter : Meter) (strategy : ResultStrategy) (size : Nat) :
    ∃ out' mem' rep, mem.boundResponse meter strategy resumable out size limit = (out', mem', rep) ∧
      Extends mem mem' ∧ (rep.truncated = false → out' = out) ∧
      boundResponse meter strategy resumable (mem.result out) size limit = (mem'.result out', rep) := by
  have drawn := candidates_drawn meter (mem.result out) (hasSummary strategy)
  have nothing : ∀ c ∈ (candidates meter (mem.result out) (hasSummary strategy)).map fun c =>
      { c with keep := 0 }, Drawn (mem.result out) c := by
    refine List.forall_mem_map.mpr fun c member => ?_
    exact ⟨(drawn c member).step, (drawn c member).items, Nat.zero_le _⟩
  have empty := memory_build limit (hasSummary strategy) resumable valid (Extends.refl mem) nothing
  unfold Memory.boundResponse boundResponse
  dsimp only
  rw [← hasSummary, empty.result]
  split_ifs with small stuck
  · exact ⟨_, _, _, rfl, .refl mem, fun _ => rfl, rfl⟩
  · refine ⟨_, _, _, rfl, empty.grown, fun _ => rfl, ?_⟩
    rw [(empty.grown.result valid).2]
  · obtain ⟨done, trial, after, ran, same, copied⟩ := memory_exactPass limit (hasSummary strategy)
      resumable valid meter
      (rowsLeft (shaveExcess (rowsLeft (candidates meter (mem.result out) (hasSummary strategy)))
        (size - limit : Int) (candidates meter (mem.result out) (hasSummary strategy)))) empty.grown
      ((shaveExcess_shaved _ _ _ _).drawn drawn)
    have some : candidates meter (mem.result out) (hasSummary strategy) ≠ [] := by
      intro none
      rw [none] at stuck
      exact stuck rfl
    have trims := passes_trim (build (mem.result out) limit (hasSummary strategy) resumable)
      (rowsLeft (shaveExcess (rowsLeft (candidates meter (mem.result out) (hasSummary strategy)))
        (size - limit : Int) (candidates meter (mem.result out) (hasSummary strategy))))
      (not_le.mp small) some
    rw [same] at trims
    rw [ran, same]
    dsimp only
    have present : ∀ c ∈ done, c.id ∈ trial.map Prod.fst := by
      intro c member
      obtain ⟨addr, here, -, -⟩ := valid.step (trims.drawn c member).step
      rw [copied.keys]
      exact Assoc.mem_keys_iff.mpr ⟨_, here⟩
    have back : Memory.commit out trial done = trial :=
      commit_eq distinct present copied.keys copied.keys.symm fun id other =>
        (copied.others id other).symm
    refine ⟨_, _, _, rfl, copied.grown, fun whole => ?_, by rw [back, copied.result]⟩
    rw [(report_of_trims trims).1] at whole
    cases whole

end Building

structure Bounding (enc : Encoder) (strategy : ResultStrategy) (resumable : String → Bool)
    (size limit : Nat) (mem mem' : Memory) (out out' : List (String × Entry)) (rep : BoundReport) :
    Prop where
  cells : Extends mem mem'
  cut : rep.truncated = true →
    CutTo enc strategy limit (mem.result out) (mem'.result out') rep ∧
    ∃ cands, LoopsEnd (jsonMeter enc) strategy resumable (mem.result out) size limit cands ∧
      mem'.result out' = build (mem.result out) limit (hasSummary strategy) resumable cands
  whole : rep.truncated = false → out' = out ∧ mem'.result out' = mem.result out
  one : (size ≤ limit ∧ rep.truncated = false ∧ rep.unbounded = false) ∨
    (limit < size ∧ rep.truncated = true ∧ rep.unbounded = false) ∨
    (limit < size ∧ rep.truncated = false ∧ rep.unbounded = true)

theorem response_bounding (enc : Encoder) (strategy : ResultStrategy) (resumable : String → Bool)
    {mem : Memory} {out : List (String × Entry)} {size : Nat} (limit : Nat) (valid : Valid mem out)
    (distinct : (out.map Prod.fst).Nodup)
    (measured : (jsonMeter enc).textSize (mem.result out) = some size) :
    ∃ out' mem' rep,
      mem.boundResponse (jsonMeter enc) strategy resumable out size limit = (out', mem', rep) ∧
      Bounding enc strategy resumable size limit mem mem' out out' rep := by
  obtain ⟨out', mem', rep, ran, cells, whole, same⟩ :=
    memory_boundResponse limit resumable valid distinct (jsonMeter enc) strategy size
  refine ⟨out', mem', rep, ran, cells, ?_, ?_, ?_⟩
  · intro truncated
    rcases boundResponse_cases (jsonMeter enc) strategy resumable (mem.result out) size limit with
      ⟨-, made⟩ | ⟨-, made⟩ | ⟨-, cands, trims, ends, made⟩
    · rw [(Prod.mk.inj (same.symm.trans made)).2] at truncated
      cases truncated
    · rw [(Prod.mk.inj (same.symm.trans made)).2] at truncated
      cases truncated
    · obtain ⟨result, rfl⟩ := Prod.mk.inj (same.symm.trans made)
      have all : AllMarshal enc 1 (mem.result out) := by
        refine marshals_obj.mp ?_
        exact Option.isSome_iff_exists.mpr ⟨size, measured⟩
      have distinct : ((mem.result out).map Prod.fst).Nodup := by
        rw [Memory.result, List.map_map]
        exact distinct
      obtain ⟨first, shaved, run⟩ := ends
      rw [result]
      exact ⟨build_cutTo distinct all trims run.fits, cands, ⟨first, shaved, run⟩, rfl⟩
  · intro kept
    rw [whole kept, (cells.result valid).2]
    exact ⟨rfl, rfl⟩
  · rcases boundResponse_cases (jsonMeter enc) strategy resumable (mem.result out) size limit with
      ⟨small, made⟩ | ⟨large, made⟩ | ⟨large, cands, trims, -, made⟩
    · rw [(Prod.mk.inj (same.symm.trans made)).2]
      exact .inl ⟨small, rfl, rfl⟩
    · rw [(Prod.mk.inj (same.symm.trans made)).2]
      exact .inr (.inr ⟨large, rfl, rfl⟩)
    · rw [(Prod.mk.inj (same.symm.trans made)).2]
      exact .inr (.inl ⟨large, report_of_trims trims⟩)

def storedRows : Memory := ⟨[[("data", .slice 0 40)]], [fortyRows]⟩

theorem response_bounding_forty_rows :
    ∃ out' mem' rep,
      storedRows.boundResponse (jsonMeter plain) ⟨"collect", "", false⟩ (fun _ => false)
        [("queues", .step 0)] 520 500 = (out', mem', rep) ∧ rep.truncated = true ∧
      Bounding plain ⟨"collect", "", false⟩ (fun _ => false) 520 500 storedRows mem'
        [("queues", .step 0)] out' rep := by
  have valid : Valid storedRows [("queues", .step 0)] := by
    intro e member
    obtain rfl := List.mem_singleton.mp member
    refine ⟨by decide, ?_, by decide⟩
    intro f inside
    obtain rfl := List.mem_singleton.mp inside
    exact Nat.zero_lt_one
  have measured : (jsonMeter plain).textSize (storedRows.result [("queues", .step 0)]) =
      some 520 := by decide +kernel
  obtain ⟨out', mem', rep, ran, bounding⟩ := response_bounding plain ⟨"collect", "", false⟩
    (fun _ => false) 500 valid (by decide) measured
  obtain ⟨_, _, _, again, -, -, same⟩ := memory_boundResponse 500 (fun _ => false) valid (by decide)
    (jsonMeter plain) ⟨"collect", "", false⟩ 520
  obtain ⟨rfl, rfl, rfl⟩ := Prod.mk.injEq .. ▸ again.symm.trans ran
  have report : (boundResponse _ _ _ fortyQueues _ _).2 = rep := congrArg Prod.snd same
  exact ⟨_, _, _, ran, report ▸ fortyQueues_truncated, bounding⟩

end BrokerMcp.Proof.Composite
