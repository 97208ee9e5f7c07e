import BrokerMcp.Composite.Executor

namespace BrokerMcp.Proof.Composite
open Resilience BrokerMcp.Composite

theorem bind_ok {ε α β : Type} {x : Except ε α} {f : α → Except ε β} {b : β}
    (done : (x >>= f) = .ok b) : ∃ a, x = .ok a ∧ f a = .ok b := by
  cases x with
  | error err => cases done
  | ok a => exact ⟨a, rfl, done⟩

theorem mapError_ok {ε ε' α : Type} {f : ε → ε'} {x : Except ε α} {a : α}
    (done : x.mapError f = .ok a) : x = .ok a := by
  cases x with
  | error err => cases done
  | ok b =>
      obtain rfl := Except.ok.inj done
      rfl

section Loop

variable (host : Host) (step : Step) (call : Nat → Object → Except Chain Object) (baseArgs : Object)
  (pageSize : Int) (maxResults : Nat)

def asked (args : Object) (items : List Value) : Object :=
  let remaining := maxResults - items.length
  if step.resumable && decide ((remaining : Int) < pageSize) then
    withArg args "count" (.str (toString remaining))
  else args

inductive Paged : Nat → Nat → Object → List Value → Fetched → Prop where
  | capped {n : Nat} {args : Object} {items : List Value} :
      Paged 0 n args items ⟨n, items, true, true, ""⟩
  | empty {room n : Nat} {args data : Object} {items : List Value} :
      call n (asked step pageSize maxResults args items) = .ok data →
      extractDataItems data = [] → Paged (room + 1) n args items ⟨n + 1, items, false, false, ""⟩
  | enough {room n : Nat} {args data : Object} {items : List Value} {cursor : String} :
      call n (asked step pageSize maxResults args items) = .ok data →
      extractDataItems data ≠ [] →
      maxResults - items.length ≤ (extractDataItems data).length →
      offerCursor host step (maxResults - items.length) (extractDataItems data).length
        (extractNextPageURI data) = .ok cursor →
      Paged (room + 1) n args items
        ⟨n + 1, items ++ (extractDataItems data).take (maxResults - items.length),
          decide ((extractDataItems data).length > maxResults - items.length) ||
            decide (extractNextPageURI data ≠ ""), false, cursor⟩
  | last {room n : Nat} {args data : Object} {items : List Value} :
      call n (asked step pageSize maxResults args items) = .ok data →
      extractDataItems data ≠ [] →
      (extractDataItems data).length < maxResults - items.length →
      extractNextPageURI data = "" →
      Paged (room + 1) n args items
        ⟨n + 1, items ++ extractDataItems data, false, false, ""⟩
  | more {room n : Nat} {args data : Object} {items : List Value} {cursor : String}
      {fetched : Fetched} :
      call n (asked step pageSize maxResults args items) = .ok data →
      extractDataItems data ≠ [] →
      (extractDataItems data).length < maxResults - items.length →
      extractNextPageURI data ≠ "" →
      cursorFromNextURI host (extractNextPageURI data) = .ok cursor →
      Paged room (n + 1) (appendCursor baseArgs cursor) (items ++ extractDataItems data) fetched →
      Paged (room + 1) n args items fetched

variable {host step call baseArgs pageSize maxResults}

theorem fetchPages_paged {room n : Nat} {args : Object} {items : List Value} {fetched : Fetched}
    (done : fetchPages host step call baseArgs pageSize maxResults room n args items = .ok fetched) :
    Paged host step call baseArgs pageSize maxResults room n args items fetched := by
  induction room generalizing n args items with
  | zero =>
      obtain rfl := Except.ok.inj done
      exact .capped
  | succ room ih =>
      unfold fetchPages at done
      obtain ⟨data, called, done⟩ := bind_ok done
      dsimp only at done
      split_ifs at done with none full unlinked
      · obtain rfl := Except.ok.inj done
        exact .empty called (List.length_eq_zero_iff.mp none)
      · obtain ⟨cursor, offered, done⟩ := bind_ok done
        obtain rfl := Except.ok.inj done
        exact .enough called (by simpa using none) full offered
      · obtain rfl := Except.ok.inj done
        exact .last called (by simpa using none) (by omega) unlinked
      · obtain ⟨cursor, found, done⟩ := bind_ok done
        exact .more called (by simpa using none) (by omega) unlinked (mapError_ok found) (ih done)

end Loop

theorem resolveMaxResults_range (host : Host) (params : Object) :
    0 < resolveMaxResults host params ∧ resolveMaxResults host params ≤ capMax := by
  have limited (n : Int) (m : Nat)
      (eq : m = if n ≤ 0 then defaultMax else if n > capMax then capMax else n.toNat) :
      0 < m ∧ m ≤ capMax := by
    subst eq
    split_ifs with low high
    · decide
    · decide
    · omega
  unfold resolveMaxResults
  split
  · exact limited _ _ rfl
  · exact limited _ _ rfl
  · decide

section Sequence

variable (pages : Nat → Except Chain Object)

def rowsAt (i : Nat) : List Value :=
  match pages i with
  | .ok data => extractDataItems data
  | .error _ => []

def linkAt (i : Nat) : String :=
  match pages i with
  | .ok data => extractNextPageURI data
  | .error _ => ""

def fetchedRows (n : Nat) : List Value := (List.range n).flatMap (rowsAt pages)

/-- The first `n` pages have rows, fewer than `maxResults`, and each links to the next; page `n` has
none and links to a further one. -/
structure StallsAt (maxResults n : Nat) : Prop where
  before : ∀ i < n, rowsAt pages i ≠ [] ∧ linkAt pages i ≠ ""
  wanted : (fetchedRows pages n).length < maxResults
  empty : rowsAt pages n = []
  linked : linkAt pages n ≠ ""

def Stalls (maxResults maxPages : Nat) : Prop := ∃ n < maxPages, StallsAt pages maxResults n

structure Complete (maxResults maxPages : Nat) (out : Paginated) : Prop where
  rows : ∃ rows, out.result.arr? "data" = some rows ∧ rows <+: fetchedRows pages out.fetched.calls ∧
    rows.length ≤ maxResults
  calls : out.fetched.calls ≤ maxPages
  whole : out.result.lookup "truncated" = some (.bool false) →
    out.result.arr? "data" = some (fetchedRows pages out.fetched.calls) ∧ linkAt pages (out.fetched.calls - 1) = ""

variable {pages}

theorem fetchedRows_succ (n : Nat) :
    fetchedRows pages (n + 1) = fetchedRows pages n ++ rowsAt pages n := by
  simp [fetchedRows, List.range_succ]

variable (pages) in
theorem fetchedRows_le {m n : Nat} (le : m ≤ n) :
    (fetchedRows pages m).length ≤ (fetchedRows pages n).length := by
  induction n, le using Nat.le_induction with
  | base => exact le_rfl
  | succ n _ ih =>
      rw [fetchedRows_succ, List.length_append]
      omega

variable {host : Host} {step : Step} {call : Nat → Object → Except Chain Object} {baseArgs : Object}
  {pageSize : Int} {maxResults room n : Nat} {args : Object} {items : List Value} {fetched : Fetched}

theorem rowsAt_of_answer {data : Object} (answers : ∀ n args data, call n args = .ok data →
    pages n = .ok data) (called : call n args = .ok data) :
    rowsAt pages n = extractDataItems data ∧ linkAt pages n = extractNextPageURI data := by
  have page := answers n args data called
  simp [rowsAt, linkAt, page]

variable (pages) in
structure Kept (maxResults maxPages : Nat) (fetched : Fetched) : Prop where
  rows : fetched.allItems <+: fetchedRows pages fetched.calls
  length : fetched.allItems.length ≤ maxResults
  calls : fetched.calls ≤ maxPages
  whole : fetched.truncated = false → fetched.allItems = fetchedRows pages fetched.calls ∧
    ∃ n, fetched.calls = n + 1 ∧ (linkAt pages n = "" ∨ StallsAt pages maxResults n)

theorem Paged.kept (answers : ∀ n args data, call n args = .ok data → pages n = .ok data)
    (paged : Paged host step call baseArgs pageSize maxResults room n args items fetched)
    (entered : items = fetchedRows pages n) (wanted : items.length < maxResults)
    (before : ∀ i < n, rowsAt pages i ≠ [] ∧ linkAt pages i ≠ "") :
    Kept pages maxResults (n + room) fetched := by
  induction paged with
  | @capped n args items =>
      exact ⟨entered ▸ List.prefix_rfl, wanted.le, le_rfl, nofun⟩
  | @empty room n args data items called none =>
      obtain ⟨rows, link⟩ := rowsAt_of_answer answers called
      have all : items = fetchedRows pages (n + 1) := by
        rw [fetchedRows_succ, rows, none, List.append_nil, entered]
      refine ⟨all ▸ List.prefix_rfl, wanted.le, by dsimp only; omega, fun _ => ⟨all, n, rfl, ?_⟩⟩
      by_cases linked : linkAt pages n = ""
      · exact .inl linked
      · exact .inr ⟨before, entered ▸ wanted, rows.trans none, linked⟩
  | @enough room n args data items cursor called some full offered =>
      obtain ⟨rows, link⟩ := rowsAt_of_answer answers called
      refine ⟨?_, ?_, by dsimp only; omega, ?_⟩
      · rw [fetchedRows_succ, rows, entered]
        exact (List.prefix_append_right_inj _).mpr (List.take_prefix _ _)
      · simp only [List.length_append, List.length_take]
        omega
      · intro whole
        simp only [Bool.or_eq_false_iff, decide_eq_false_iff_not, not_lt, not_not] at whole
        refine ⟨?_, n, rfl, .inl (link.trans whole.2)⟩
        rw [fetchedRows_succ, rows, List.take_of_length_le whole.1, entered]
  | @last room n args data items called some short unlinked =>
      obtain ⟨rows, link⟩ := rowsAt_of_answer answers called
      have all : items ++ extractDataItems data = fetchedRows pages (n + 1) := by
        rw [fetchedRows_succ, rows, entered]
      refine ⟨all ▸ List.prefix_rfl, ?_, by dsimp only; omega,
        fun _ => ⟨all, n, rfl, .inl (link.trans unlinked)⟩⟩
      simp only [List.length_append]
      omega
  | @more room n args data items cursor fetched called some short linked found _ ih =>
      obtain ⟨rows, link⟩ := rowsAt_of_answer answers called
      have all : items ++ extractDataItems data = fetchedRows pages (n + 1) := by
        rw [fetchedRows_succ, rows, entered]
      have kept := ih all (by simp only [List.length_append]; omega) (by
        intro i le
        rcases Nat.lt_succ_iff_lt_or_eq.mp le with earlier | rfl
        · exact before i earlier
        · exact ⟨rows ▸ some, link ▸ linked⟩)
      exact ⟨kept.rows, kept.length, by have := kept.calls; omega, kept.whole⟩

theorem Paged.stalled (answers : ∀ n args data, call n args = .ok data → pages n = .ok data)
    (paged : Paged host step call baseArgs pageSize maxResults room n args items fetched)
    (entered : items = fetchedRows pages n) {k : Nat} (stalls : StallsAt pages maxResults k)
    (start : n ≤ k) (within : k < n + room) : fetched.truncated = false ∧ fetched.calls = k + 1 := by
  induction paged with
  | capped => omega
  | @empty room n args data items called none =>
      obtain ⟨rows, -⟩ := rowsAt_of_answer answers called
      rcases start.eq_or_lt with rfl | past
      · exact ⟨rfl, rfl⟩
      · exact absurd (rows.trans none) (stalls.before n past).1
  | @enough room n args data items cursor called some full offered =>
      obtain ⟨rows, -⟩ := rowsAt_of_answer answers called
      rcases start.eq_or_lt with rfl | past
      · exact absurd (rows.symm.trans stalls.empty) some
      · have reached := fetchedRows_le pages past
        have wanted := stalls.wanted
        rw [fetchedRows_succ, List.length_append, rows, ← entered] at reached
        omega
  | @last room n args data items called some short unlinked =>
      obtain ⟨rows, link⟩ := rowsAt_of_answer answers called
      rcases start.eq_or_lt with rfl | past
      · exact absurd (rows.symm.trans stalls.empty) some
      · exact absurd (link.trans unlinked) (stalls.before n past).2
  | @more room n args data items cursor fetched called some short linked found _ ih =>
      obtain ⟨rows, link⟩ := rowsAt_of_answer answers called
      rcases start.eq_or_lt with rfl | past
      · exact absurd (rows.symm.trans stalls.empty) some
      · exact ih (by rw [fetchedRows_succ, rows, entered]) past (by omega)

end Sequence

section Result

variable (maxPages maxResults : Nat) (resumed : Bool) (fetched : Fetched)

theorem pagedResult_data :
    (pagedResult maxPages maxResults resumed fetched).arr? "data" = some fetched.allItems := rfl

theorem pagedResult_truncated :
    (pagedResult maxPages maxResults resumed fetched).lookup "truncated" =
      some (.bool fetched.truncated) := rfl

end Result

theorem fetchPaginated_fetched {ce : CompositeExecutor} {host : Host} {step : Step} {client : Client}
    {execCtx : ExecuteContext} {out : Paginated}
    (done : fetchPaginated ce host step client execCtx = .ok out) :
    ∃ op baseArgs fetched, prepare ce host step execCtx = .ok (op, baseArgs) ∧
      fetchAll ce host step execCtx.params
        (fun n args => (client n op args).mapError (inStep step)) baseArgs = .ok fetched ∧
      out = ⟨fetched, pagedResult ce.maxPages (resolveMaxResults host execCtx.params)
        (resumeCursor step execCtx.params ≠ "") fetched⟩ := by
  unfold fetchPaginated at done
  obtain ⟨⟨op, baseArgs⟩, prepared, done⟩ := bind_ok done
  obtain ⟨fetched, loop, done⟩ := bind_ok done
  exact ⟨op, baseArgs, fetched, prepared, loop, (Except.ok.inj done).symm⟩

theorem fetchPaginated_ok {ce : CompositeExecutor} {host : Host} {step : Step} {client : Client}
    {execCtx : ExecuteContext} {op : Operation} {baseArgs : Object} {fetched : Fetched}
    (prepared : prepare ce host step execCtx = .ok (op, baseArgs))
    (loop : fetchAll ce host step execCtx.params
      (fun n args => (client n op args).mapError (inStep step)) baseArgs = .ok fetched) :
    fetchPaginated ce host step client execCtx =
      .ok ⟨fetched, pagedResult ce.maxPages (resolveMaxResults host execCtx.params)
        (resumeCursor step execCtx.params ≠ "") fetched⟩ := by
  unfold fetchPaginated
  rw [prepared]
  show (fetchAll ce host step execCtx.params
    (fun n args => (client n op args).mapError (inStep step)) baseArgs >>= _) = _
  rw [loop]
  rfl

/-- A paginated step keeps its promise exactly when no page it comes to is empty and links on. -/
theorem fetchPaginated_complete_iff (ce : CompositeExecutor) (host : Host) (step : Step)
    (execCtx : ExecuteContext) (pages : Nat → Except Chain Object) (out : Paginated)
    (done : fetchPaginated ce host step (fun n _ _ => pages n) execCtx = .ok out) :
    Complete pages (resolveMaxResults host execCtx.params) ce.maxPages out ↔
      ¬ Stalls pages (resolveMaxResults host execCtx.params) ce.maxPages := by
  obtain ⟨op, baseArgs, fetched, -, loop, rfl⟩ := fetchPaginated_fetched done
  have paged := fetchPages_paged loop
  have answers : ∀ n (args data : Object), (pages n).mapError (inStep step) = .ok data →
      pages n = .ok data := fun _ _ _ => mapError_ok
  have kept := paged.kept answers rfl (resolveMaxResults_range host execCtx.params).1 (by simp)
  rw [Nat.zero_add] at kept
  constructor
  · rintro complete ⟨n, within, stalls⟩
    obtain ⟨whole, calls⟩ := paged.stalled answers rfl stalls (Nat.zero_le n) (by omega)
    have linked := (complete.whole (by rw [pagedResult_truncated, whole])).2
    dsimp only at linked
    rw [calls] at linked
    exact stalls.linked linked
  · intro fluent
    refine ⟨⟨_, pagedResult_data .., kept.rows, kept.length⟩, kept.calls, fun whole => ?_⟩
    rw [pagedResult_truncated] at whole
    obtain ⟨all, n, calls, unlinked | stalls⟩ := kept.whole (by simpa using whole)
    · refine ⟨by rw [pagedResult_data, all], ?_⟩
      dsimp only
      rw [calls]
      exact unlinked
    · have within := kept.calls
      exact absurd ⟨n, by omega, stalls⟩ fluent

def textHost : Host where
  template _ text _ := .ok text
  parseCursor uri := .ok (String.ofList (uri.toList.drop 8))
  toInt q := q.num.tdiv q.den
  bodyChecks _ _ _ := .ok ()

def queuesStep : Step where
  id := "queues"
  operation := "monitor/getMsgVpnQueues"
  args := [("msgVpnName", "default"), ("count", "100")]
  select := []
  parallel := false
  followPages := true
  forEach := ""
  forEachIf := ""
  forEachKey := ""
  concurrency := 0
  optionalArgs := []
  bodyChecks := []
  resumable := true

def queuesExecutor : CompositeExecutor where
  operations := [("monitor/getMsgVpnQueues", ⟨⟨"getMsgVpnQueues", "GET"⟩,
    [⟨"msgVpnName", "path"⟩, ⟨"count", "query"⟩, ⟨"cursor", "query"⟩], none⟩)]
  maxPages := defaultMaxPages

def queuePage (names : List String) (link : String) : Object :=
  [("data", .arr (names.map .str))] ++
    if link = "" then [] else [("meta", .obj [("paging", .obj [("nextPageUri", .str link)])])]

def noParams : ExecuteContext := ⟨[], [], none⟩

def twoPages : Nat → Except Chain Object
  | 0 => .ok (queuePage ["q1"] "?cursor=q2")
  | 1 => .ok (queuePage ["q2"] "")
  | _ => .ok (queuePage [] "")

def emptySecondPage : Nat → Except Chain Object
  | 0 => .ok (queuePage ["q1"] "?cursor=q2")
  | 1 => .ok (queuePage [] "?cursor=q3")
  | _ => .ok (queuePage ["q3"] "")

def bothQueues : Paginated where
  fetched := ⟨2, [.str "q1", .str "q2"], false, false, ""⟩
  result := [("data", .arr [.str "q1", .str "q2"]), ("truncated", .bool false)]

def firstQueue : Paginated where
  fetched := ⟨2, [.str "q1"], false, false, ""⟩
  result := [("data", .arr [.str "q1"]), ("truncated", .bool false)]

theorem fetchPaginated_complete_two_pages :
    fetchPaginated queuesExecutor textHost queuesStep (fun n _ _ => twoPages n) noParams =
        .ok bothQueues ∧
      Complete twoPages 100 1000 bothQueues := by
  refine ⟨rfl, (fetchPaginated_complete_iff queuesExecutor textHost queuesStep noParams twoPages _
    rfl).mpr ?_⟩
  rintro ⟨_ | _ | n, -, stalls⟩
  · cases stalls.empty
  · cases stalls.empty
  · exact stalls.linked rfl

theorem fetchPaginated_stalls_on_empty_page :
    fetchPaginated queuesExecutor textHost queuesStep (fun n _ _ => emptySecondPage n) noParams =
        .ok firstQueue ∧
      ¬ Complete emptySecondPage 100 1000 firstQueue := by
  refine ⟨rfl, fun complete => ?_⟩
  have linked : linkAt emptySecondPage 1 = "" := (complete.whole rfl).2
  exact absurd linked (by decide)

end BrokerMcp.Proof.Composite
