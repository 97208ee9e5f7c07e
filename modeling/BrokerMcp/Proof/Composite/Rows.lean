import BrokerMcp.Proof.Composite.FanOut
import BrokerMcp.Proof.Composite.Pages

namespace BrokerMcp.Proof.Composite
open Resilience BrokerMcp.Composite
open Transition

variable {ce : CompositeExecutor} {host : Host} {step : Step} {execCtx : ExecuteContext}
variable {ended : Bool} {fan fan' : FanOut} {a : FanAction}

structure Accounted (host : Host) (step : Step) (execCtx : ExecuteContext) (items : List Value)
    (workers : List Worker) (byKey : Object) (skipped : Nat) : Prop where
  rows : ∀ (i : Nat) (raw : Value), items[i]? = some raw →
    readRow host step execCtx i raw = .ok none ∨
      ∃ worker ∈ workers, ∃ data, worker.index = i ∧
        readRow host step execCtx i raw = .ok (some (worker.row, worker.key)) ∧
        worker.thread = .finished (.ok data) ∧ byKey.lookup worker.key = some (.obj data)
  skipped : skipped = items.zipIdx.countP (isSkipped host step execCtx)
  once : (keptKeys host step execCtx items).Nodup
  only : (byKey.map Prod.fst).Perm (keptKeys host step execCtx items)

theorem keysOf_eq (dispatched : Dispatched host step execCtx fan) :
    keysOf fan.workers = ((rowsDone fan).filterMap (kept host step execCtx)).map (·.2.2) := by
  rw [← dispatched.heads, List.map_map]
  rfl

theorem keysOf_all (dispatched : Dispatched host step execCtx fan)
    (all : fan.next = fan.items.length) :
    keysOf fan.workers = keptKeys host step execCtx fan.items := by
  rw [keysOf_eq dispatched, rowsDone, all, List.take_of_length_le (by simp), keptKeys]

theorem finished_of_returned (recorded : Recorded ce host step execCtx fan) {result : Object}
    (returned : fan.loop = .returned (.ok result)) {w : Nat} {worker : Worker}
    (here : fan.workers[w]? = some worker) :
    ∃ data, worker.thread = .finished (.ok data) := by
  obtain ⟨joined, sound, -⟩ := recorded.returned result returned
  have settled := joined worker (List.mem_of_getElem? here)
  have past := recorded.past w worker here settled
  have failed := recorded.failed w worker here settled
  cases thread : worker.thread with
  | running | calling => simp [thread, Thread.isOver, Thread.result?] at past
  | panicked kind => simpa [sound] using failed _ (by rw [thread]; rfl)
  | finished outcome =>
      cases outcome with
      | ok data => exact ⟨data, rfl⟩
      | error err => simpa [sound] using failed err (by rw [thread]; rfl)

theorem perm_keys (recorded : Recorded ce host step execCtx fan)
    (nodup : (keysOf fan.workers).Nodup) {result : Object}
    (returned : fan.loop = .returned (.ok result)) :
    (fan.byKey.map Prod.fst).Perm (keysOf fan.workers) := by
  rw [List.perm_ext_iff_of_nodup recorded.distinct nodup]
  intro key
  rw [Assoc.mem_keys_iff]
  constructor
  · rintro ⟨value, found⟩
    obtain ⟨w, worker, here, rfl, -⟩ := (recorded.byKey key value).mp found
    exact List.mem_map_of_mem (List.mem_of_getElem? here)
  · intro member
    obtain ⟨worker, stands, rfl⟩ := List.mem_map.mp member
    obtain ⟨w, here⟩ := List.mem_iff_getElem?.mp stands
    obtain ⟨data, finished⟩ := finished_of_returned recorded returned here
    exact ⟨.obj data, (recorded.byKey _ _).mpr ⟨w, worker, here, rfl, data, finished, rfl⟩⟩

theorem accounted_of_all (dispatched : Dispatched host step execCtx fan)
    (recorded : Recorded ce host step execCtx fan) {result : Object}
    (returned : fan.loop = .returned (.ok result)) (all : fan.next = fan.items.length) :
    Accounted host step execCtx fan.items fan.workers fan.byKey fan.skipped := by
  have whole : rowsDone fan = fan.items.zipIdx := by
    rw [rowsDone, all, List.take_of_length_le (by simp)]
  constructor
  · intro i raw here
    have member : (raw, i) ∈ rowsDone fan := by
      rw [whole, List.mem_iff_getElem?]
      exact ⟨i, by simp [here]⟩
    obtain ⟨found, read⟩ := dispatched.valid (raw, i) member
    cases found with
    | none => exact .inl read
    | some found =>
        obtain ⟨row, key⟩ := found
        have head : (i, row, key) ∈ fan.workers.map Worker.head := by
          rw [dispatched.heads]
          exact List.mem_filterMap.mpr ⟨(raw, i), member, by simp only [kept, read]⟩
        obtain ⟨worker, stands, same⟩ := List.mem_map.mp head
        obtain ⟨rfl, rfl, rfl⟩ :
            worker.index = i ∧ worker.row = row ∧ worker.key = key := by
          simpa [Worker.head] using same
        obtain ⟨w, here⟩ := List.mem_iff_getElem?.mp stands
        obtain ⟨data, finished⟩ := finished_of_returned recorded returned here
        exact .inr ⟨worker, stands, data, rfl, read, finished,
          (recorded.byKey _ _).mpr ⟨w, worker, here, rfl, data, finished, rfl⟩⟩
  · rw [dispatched.skipped, whole]
  · rw [← keysOf_all dispatched all]
    exact dispatched.nodup
  · rw [← keysOf_all dispatched all]
    exact perm_keys recorded dispatched.nodup returned

/-- The loop breaks off although no row has failed. -/
def BreaksOff (p : FanCall × FanEvent) : Prop :=
  p.2 = .take .select ∧ p.1.ended = true ∧ p.1.fan.failure = none

structure Whole (fan : FanOut) : Prop where
  waiting : fan.loop = .waiting → fan.next = fan.items.length ∨ fan.failure.isSome = true
  returned : ∀ result, fan.loop = .returned (.ok result) → fan.next = fan.items.length

def Stopped (host : Host) (step : Step) (execCtx : ExecuteContext) (fan : FanOut) : Prop :=
  (fan.loop = .waiting ∨ ∃ result, fan.loop = .returned result) ∧
    ∃ raw row key, fan.items[fan.next]? = some raw ∧
      readRow host step execCtx fan.next raw = .ok (some (row, key))

theorem Whole.move (whole : Whole fan) (dispatched : Dispatched host step execCtx fan)
    (moves : FanMoves ce host step execCtx ended fan a fan')
    (goes : a = .select → ended = true → fan.failure.isSome = true) : Whole fan' := by
  cases moves with
  | exhausts _ last =>
      have past := List.getElem?_eq_none_iff.mp last
      exact ⟨fun _ => .inl (Nat.le_antisymm dispatched.within past), by simp⟩
  | rejects _ _ | takes _ _ _ _ | spawns _ _ _ _ | fails _ _ _ => exact ⟨by simp, by simp⟩
  | skips dispatching _ _ => exact ⟨by simp [dispatching], by simp [dispatching]⟩
  | breaks _ past => exact ⟨fun _ => .inr (past.elim (goes rfl) id), by simp⟩
  | advances _ _ => exact ⟨whole.waiting, whole.returned⟩
  | settles _ _ _ =>
      refine ⟨fun waiting => ?_, whole.returned⟩
      exact (whole.waiting waiting).imp_right isSome_firstError
  | succeeds waiting _ sound =>
      refine ⟨by simp, fun _ _ => ?_⟩
      rcases whole.waiting waiting with all | failed
      · exact all
      · simp [sound] at failed

theorem Stopped.move (stopped : Stopped host step execCtx fan)
    (moves : FanMoves ce host step execCtx ended fan a fan') : Stopped host step execCtx fan' := by
  obtain ⟨loop, left⟩ := stopped
  cases moves with
  | exhausts dispatching _ | rejects dispatching _ | skips dispatching _ _
  | takes dispatching _ _ _ => simp [dispatching] at loop
  | breaks selecting _ | spawns selecting _ _ _ => simp [selecting] at loop
  | advances _ _ | settles _ _ _ => exact ⟨loop, left⟩
  | fails _ _ _ | succeeds _ _ _ => exact ⟨.inr ⟨_, rfl⟩, left⟩

theorem stopped_of_breaks (dispatched : Dispatched host step execCtx fan)
    (moves : FanMoves ce host step execCtx ended fan .select fan') (past : ended = true) :
    Stopped host step execCtx fan' := by
  generalize next : fan' = after at moves ⊢
  cases moves with
  | @breaks row key selecting _ =>
      obtain ⟨-, -, raw, here, read⟩ := dispatched.selecting row key selecting
      exact ⟨.inl rfl, raw, row, key, here, read⟩
  | spawns _ live _ _ => simp [past] at live

theorem Stopped.not_accounted (stopped : Stopped host step execCtx fan)
    (dispatched : Dispatched host step execCtx fan)
    (recorded : Recorded ce host step execCtx fan) {result : Object}
    (returned : fan.loop = .returned (.ok result)) {skipped : Nat} :
    ¬ Accounted host step execCtx fan.items fan.workers fan.byKey skipped := by
  intro accounted
  obtain ⟨-, raw, row, key, here, read⟩ := stopped
  have same := (perm_keys recorded dispatched.nodup returned).symm.trans accounted.only
  have short := same.length_eq
  rw [keysOf_eq dispatched, keptKeys, List.length_map, List.length_map] at short
  have split : fan.items.zipIdx =
      rowsDone fan ++ [(raw, fan.next)] ++ fan.items.zipIdx.drop (fan.next + 1) := by
    rw [rowsDone, ← zipIdx_take_succ here, List.take_append_drop]
  rw [split, List.filterMap_append, List.filterMap_append] at short
  simp [kept, read] at short

structure Sound (ce : CompositeExecutor) (host : Host) (step : Step) (execCtx : ExecuteContext)
    (items : List Value) (fan : FanOut) : Prop where
  items : fan.items = items
  dispatched : Dispatched host step execCtx fan
  recorded : Recorded ce host step execCtx fan

theorem sound_start {start : FanOut} (begun : fetchFanOut ce step execCtx = .ok start) :
    Sound ce host step execCtx start.items start ∧ Whole start := by
  obtain ⟨items, rfl⟩ := fetchFanOut_ok begun
  refine ⟨⟨rfl, ?_, ?_⟩, ⟨by simp, by simp⟩⟩
  · constructor <;> simp [rowsDone, keysOf]
  · constructor <;> simp [Holds]

theorem Sound.move {items : List Value} (sound : Sound ce host step execCtx items fan)
    (moves : FanMoves ce host step execCtx ended fan a fan') :
    Sound ce host step execCtx items fan' := by
  refine ⟨?_, sound.dispatched.move moves, sound.recorded.move sound.dispatched.nodup moves⟩
  rw [← sound.items]
  cases moves <;> rfl

theorem next_cases {s t : FanCall} {event : FanEvent}
    (taken : s.next ce host step execCtx event = some t) :
    event = .cancel ∧ t.fan = s.fan ∨
      ∃ a, event = .take a ∧ FanMoves ce host step execCtx s.ended s.fan a t.fan := by
  cases event with
  | cancel =>
      obtain rfl := Option.some.inj taken
      exact .inl ⟨rfl, rfl⟩
  | take a =>
      obtain ⟨fan, acts, rfl⟩ := Option.map_eq_some_iff.mp taken
      exact .inr ⟨a, rfl, act_moves acts⟩

section runs

variable {start : FanOut} {s t : FanCall} {history : List (FanCall × FanEvent)}

theorem run_fan {Inv : FanOut → Prop} (run : Run (FanCall.next ce host step execCtx) s history t)
    (first : Inv s.fan)
    (preserved : ∀ ended fan a fan', Inv fan → FanMoves ce host step execCtx ended fan a fan' →
      Inv fan') : Inv t.fan ∧ ∀ p ∈ history, Inv p.1.fan := by
  refine run.invariant (motive := fun s => Inv s.fan) first ?_
  intro s event t inv taken
  rcases next_cases taken with ⟨-, same⟩ | ⟨a, -, moves⟩
  · exact same ▸ inv
  · exact preserved s.ended s.fan a t.fan inv moves

theorem run_sound (begun : fetchFanOut ce step execCtx = .ok start)
    (run : Run (FanCall.next ce host step execCtx) ⟨start, ended⟩ history s) :
    Sound ce host step execCtx start.items s.fan ∧
      ∀ p ∈ history, Sound ce host step execCtx start.items p.1.fan :=
  run_fan run (sound_start begun).1 fun _ _ _ _ sound moves => sound.move moves

theorem run_whole (begun : fetchFanOut ce step execCtx = .ok start)
    (run : Run (FanCall.next ce host step execCtx) ⟨start, ended⟩ history s)
    (unbroken : ∀ p ∈ history, ¬ BreaksOff p) : Whole s.fan := by
  have both : Sound ce host step execCtx start.items s.fan ∧ Whole s.fan := by
    refine run.invariant_of
      (motive := fun s => Sound ce host step execCtx start.items s.fan ∧ Whole s.fan) unbroken
      (sound_start begun) ?_
    rintro s event t ⟨sound, whole⟩ unbroken taken
    rcases next_cases taken with ⟨-, same⟩ | ⟨a, rfl, moves⟩
    · exact same ▸ ⟨sound, whole⟩
    · refine ⟨sound.move moves, whole.move sound.dispatched moves ?_⟩
      rintro rfl ended
      by_contra none
      exact unbroken ⟨rfl, ended, by simpa using none⟩
  exact both.2

theorem run_stopped (begun : fetchFanOut ce step execCtx = .ok start)
    (run : Run (FanCall.next ce host step execCtx) ⟨start, ended⟩ history s)
    {p : FanCall × FanEvent} (member : p ∈ history) (broken : BreaksOff p) :
    Stopped host step execCtx s.fan := by
  have sound := (run_sound begun run).2 p member
  obtain ⟨before, after, rfl⟩ := List.append_of_mem member
  obtain ⟨middle, -, rest⟩ := run.split
  obtain ⟨q, event⟩ := p
  obtain ⟨rfl, past, -⟩ := broken
  cases rest with
  | @cons _ next _ _ _ taken rest =>
      have first : Stopped host step execCtx next.fan := by
        rcases next_cases taken with ⟨impossible, -⟩ | ⟨a, same, moves⟩
        · cases impossible
        · cases same
          exact stopped_of_breaks sound.dispatched moves past
      exact (run_fan rest first fun _ _ _ _ stopped moves => stopped.move moves).1

theorem unbroken_of_uncancelled (run : Run (FanCall.next ce host step execCtx) s history t)
    (live : s.ended = false) (uncancelled : ∀ p ∈ history, p.2 ≠ .cancel) :
    ∀ p ∈ history, ¬ BreaksOff p := by
  induction run with
  | nil => simp
  | @cons s next _ event _ taken _ ih =>
      have kept : next.ended = s.ended := by
        cases event with
        | cancel => exact absurd rfl (uncancelled _ List.mem_cons_self)
        | take a =>
            obtain ⟨fan, -, rfl⟩ := Option.map_eq_some_iff.mp taken
            rfl
      intro p member broken
      rcases List.mem_cons.mp member with rfl | later
      · exact absurd broken.2.1 (by simp [live])
      · exact ih (kept.trans live) (fun p member => uncancelled p (List.mem_cons_of_mem _ member)) p
          later broken

end runs

theorem fanOutResult_byKey {byKey byKey' : Object} {skipped skipped' : Nat}
    (same : fanOutResult byKey skipped = fanOutResult byKey' skipped') : byKey = byKey' := by
  have first := (List.cons.inj same).1
  exact Value.obj.inj (Prod.mk.inj first).2

/-- A fan-out that returns no error has finished every row that it started with the data of its calls.
It accounts for every row of its parent exactly if its loop never broke off before a row failed. -/
theorem fanOut_accounts_iff (ce : CompositeExecutor) (host : Host) (step : Step)
    (execCtx : ExecuteContext) {start : FanOut} {ended : Bool} {s : FanCall}
    {history : List (FanCall × FanEvent)} {result : Object}
    (begun : fetchFanOut ce step execCtx = .ok start)
    (run : Run (FanCall.next ce host step execCtx) ⟨start, ended⟩ history s)
    (returned : s.fan.loop = .returned (.ok result)) :
    (∀ worker ∈ s.fan.workers, ∃ data client, worker.thread = .finished (.ok data) ∧
        runSingle ce host step client { execCtx with item := some worker.row } = .ok data) ∧
      ((∃ byKey skipped, result = fanOutResult byKey skipped ∧
          Accounted host step execCtx start.items s.fan.workers byKey skipped) ↔
        ∀ p ∈ history, ¬ BreaksOff p) := by
  have sound := (run_sound begun run).1
  obtain ⟨-, -, made⟩ := sound.recorded.returned result returned
  refine ⟨?_, ?_, ?_⟩
  · intro worker member
    obtain ⟨w, here⟩ := List.mem_iff_getElem?.mp member
    obtain ⟨data, finished⟩ := finished_of_returned sound.recorded returned here
    obtain ⟨client, own⟩ := sound.recorded.own w worker here _ finished
    exact ⟨data, client, finished, mapError_ok own⟩
  · rintro ⟨byKey, skipped, same, accounted⟩ p member broken
    obtain rfl := fanOutResult_byKey (made.symm.trans same)
    have stopped := run_stopped begun run member broken
    rw [← sound.items] at accounted
    exact stopped.not_accounted sound.dispatched sound.recorded returned accounted
  · intro unbroken
    have whole := run_whole begun run unbroken
    have all := whole.returned result returned
    refine ⟨s.fan.byKey, s.fan.skipped, made, ?_⟩
    exact sound.items ▸ accounted_of_all sound.dispatched sound.recorded returned all

def vpnHost : Host where
  template name text execCtx :=
    let item := execCtx.item.getD []
    if name = "forEachIf" then
      .ok (match item.lookup "enabled", item.lookup "state", item.lookup "msgVpnConnections" with
        | some (.bool true), some (.str "up"), some (.float n) => if n = 0 then "false" else "true"
        | _, _, _ => "false")
    else if name = "msgVpnName" then .ok ((item.str? "msgVpnName").getD "")
    else .ok text
  parseCursor uri := .ok uri
  toInt q := q.num.tdiv q.den
  bodyChecks _ _ _ := .ok ()

def realClients : Step where
  id := "real-clients"
  operation := "monitor/getMsgVpnClients"
  args := [("msgVpnName", "\x7b\x7b.Item.msgVpnName\x7d\x7d"), ("count", "100"),
    ("forceFullPage", "true"), ("where", "clientUsername!=#*")]
  select := ["clientName"]
  parallel := false
  followPages := false
  forEach := "vpns"
  forEachIf := "\x7b\x7band .Item.enabled (eq .Item.state \"up\") " ++
    "(ne (index .Item \"msgVpnConnections\") 0.0)\x7d\x7d"
  forEachKey := "msgVpnName"
  concurrency := 0
  optionalArgs := ["forceFullPage"]
  bodyChecks := []
  resumable := false

def vpnExecutor : CompositeExecutor where
  operations := [
    ("monitor/getMsgVpns", ⟨⟨"getMsgVpns", "GET"⟩, [⟨"count", "query"⟩, ⟨"select", "query"⟩], none⟩),
    ("monitor/getMsgVpnClients", ⟨⟨"getMsgVpnClients", "GET"⟩,
      [⟨"msgVpnName", "path"⟩, ⟨"count", "query"⟩, ⟨"where", "query"⟩, ⟨"select", "query"⟩], none⟩)]
  maxPages := defaultMaxPages

def vpnRow (name : String) (connections : Rat) : Value :=
  .obj [("msgVpnName", .str name), ("enabled", .bool true), ("state", .str "up"),
    ("msgVpnConnections", .float connections)]

def vpnRows : List Value := [vpnRow "default" 2, vpnRow "spare" 0, vpnRow "trading" 5]

def afterVpns : ExecuteContext := ⟨[], [("vpns", [("data", .arr vpnRows)])], none⟩

def noClients : Object := [("data", .arr [])]

def probes (w : Nat) : List FanEvent :=
  [.take .check, .take .select, .take (.worker w .call), .take (.worker w .answer),
    .take (.worker w (.finish fun _ _ _ => .ok noClients)), .take (.settle w)]

theorem fanOut_accounts_vpns : ∃ start s history,
    fetchFanOut vpnExecutor realClients afterVpns = .ok start ∧
    Run (FanCall.next vpnExecutor vpnHost realClients afterVpns) ⟨start, false⟩ history s ∧
    s.fan.loop = .returned (.ok (fanOutResult
      [("default", .obj noClients), ("trading", .obj noClients)] 1)) ∧
    ∃ byKey skipped,
      fanOutResult [("default", .obj noClients), ("trading", .obj noClients)] 1 =
        fanOutResult byKey skipped ∧
      Accounted vpnHost realClients afterVpns start.items s.fan.workers byKey skipped := by
  obtain ⟨start, begun, s, done, returned⟩ : ∃ start,
      fetchFanOut vpnExecutor realClients afterVpns = .ok start ∧ ∃ s,
      exec (FanCall.next vpnExecutor vpnHost realClients afterVpns) ⟨start, false⟩
        (probes 0 ++ .take .check :: probes 1 ++ [.take .check, .take .wait]) = some s ∧
      s.fan.loop = .returned (.ok (fanOutResult
        [("default", .obj noClients), ("trading", .obj noClients)] 1)) := ⟨_, rfl, _, rfl, rfl⟩
  have run := run_of_exec done
  refine ⟨start, s, _, begun, run, returned, ?_⟩
  refine (fanOut_accounts_iff vpnExecutor vpnHost realClients afterVpns begun run returned).2.mpr ?_
  refine unbroken_of_uncancelled run rfl fun p member cancelled => ?_
  have event := action_of_mem_trace member
  simp [cancelled, probes] at event

/-- The caller gives up after the first of two probes has been answered. The second message VPN is
neither probed nor skipped, and there is no error. -/
theorem fanOut_drops_row : ∃ start s history result,
    fetchFanOut vpnExecutor realClients afterVpns = .ok start ∧
    Run (FanCall.next vpnExecutor vpnHost realClients afterVpns) ⟨start, false⟩ history s ∧
    s.fan.loop = .returned (.ok result) ∧
    ¬ ∃ byKey skipped, result = fanOutResult byKey skipped ∧
      Accounted vpnHost realClients afterVpns start.items s.fan.workers byKey skipped := by
  obtain ⟨start, begun, items, s, done, returned⟩ : ∃ start,
      fetchFanOut vpnExecutor realClients afterVpns = .ok start ∧ start.items = vpnRows ∧ ∃ s,
      exec (FanCall.next vpnExecutor vpnHost realClients afterVpns) ⟨start, false⟩
        (probes 0 ++ [.take .check, .take .check, .cancel, .take .select, .take .wait]) = some s ∧
      s.fan.loop = .returned (.ok (fanOutResult [("default", .obj noClients)] 1)) :=
    ⟨_, rfl, rfl, _, rfl, rfl⟩
  refine ⟨start, s, _, _, begun, run_of_exec done, returned, ?_⟩
  rintro ⟨byKey, skipped, same, accounted⟩
  obtain rfl := fanOutResult_byKey same
  have short := accounted.only.length_eq
  rw [items] at short
  exact absurd short (by decide)

end BrokerMcp.Proof.Composite
