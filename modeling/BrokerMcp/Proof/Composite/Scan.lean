import BrokerMcp.Proof.Composite.Arguments
import BrokerMcp.Proof.Composite.Bound

namespace BrokerMcp.Proof.Composite
open Resilience BrokerMcp.Composite
open Text

def StartsAt (cursorAt : Nat → String) (args : Object) (p : Nat) : Prop :=
  args.lookup "cursor" = none ∧ p = 0 ∨ args.lookup "cursor" = some (.str (cursorAt p))

structure Page (host : Host) (rows : List Value) (cursorAt : Nat → String) (p got : Nat)
    (data : Object) : Prop where
  items : extractDataItems data = (rows.drop p).take got
  linked : p + got < rows.length → extractNextPageURI data ≠ "" ∧
    host.parseCursor (extractNextPageURI data) = .ok (cursorAt (p + got))
  unlinked : ¬ p + got < rows.length → extractNextPageURI data = ""

structure Positional (host : Host) (rows : List Value) (cursorAt : Nat → String)
    (client : Client) : Prop where
  named : ∀ p, cursorAt p ≠ ""
  answers : ∀ n op args p text count, StartsAt cursorAt args p →
    args.lookup "count" = some (.str text) → atoi text = (count, true) → 0 < count →
    ∃ (got : Nat) (data : Object), client n op args = .ok data ∧ (got : Int) ≤ count ∧ (p < rows.length → 0 < got) ∧
      Page host rows cursorAt p got data

structure Chunk (rows : List Value) (cursorAt : Nat → String) (p m : Nat) (fetched : Fetched) :
    Prop where
  items : fetched.allItems = (rows.drop p).take m
  truncated : fetched.truncated = decide (p + m < rows.length)
  nextCursor : fetched.nextCursor = if p + m < rows.length then cursorAt (p + m) else ""

section Call

variable {host : Host} {step : Step} {rows : List Value} {cursorAt : Nat → String} {client : Client}
  {op : Operation} {baseArgs : Object} {pageSize : Int} {m : Nat}

theorem asked_starts {args : Object} {items : List Value} {p : Nat}
    (starts : StartsAt cursorAt args p) : StartsAt cursorAt (asked step pageSize m args items) p := by
  unfold asked StartsAt
  dsimp only
  split_ifs
  · rw [lookup_withArg, if_neg (by decide)]
    exact starts
  · exact starts

theorem asked_count {args : Object} {items : List Value} {text : String}
    (flagged : step.resumable = true) (counted : args.lookup "count" = some (.str text))
    (read : atoi text = (pageSize, true)) (positive : 0 < pageSize) (small : m ≤ capMax)
    (wanted : items.length < m) :
    ∃ text count, (asked step pageSize m args items).lookup "count" = some (.str text) ∧
      atoi text = (count, true) ∧ 0 < count ∧ count ≤ (m - items.length : Nat) := by
  unfold asked
  rw [flagged]
  dsimp only
  split_ifs with clamp
  · refine ⟨_, _, by rw [lookup_withArg, if_pos rfl], atoi_toString ?_, by omega, Int.le_refl _⟩
    have cap : capMax = 500 := rfl
    have large : maxInt = 2 ^ 63 - 1 := rfl
    omega
  · simp only [Bool.true_and, decide_eq_true_eq] at clamp
    exact ⟨text, pageSize, counted, read, positive, by omega⟩

theorem cursorFromNextURI_ok {uri cursor : String} (parsed : host.parseCursor uri = .ok cursor)
    (named : cursor ≠ "") : cursorFromNextURI host uri = .ok cursor := by
  simp [cursorFromNextURI, parsed, named]

theorem fetchPages_succ {call : Nat → Object → Except Chain Object} {room n : Nat}
    {args data : Object} {items : List Value}
    (called : call n (asked step pageSize m args items) = .ok data) :
    fetchPages host step call baseArgs pageSize m (room + 1) n args items =
      let got := extractDataItems data
      let nextURI := extractNextPageURI data
      let remaining := m - items.length
      if got.length = 0 then .ok ⟨n + 1, items, false, false, ""⟩
      else if remaining ≤ got.length then
        (offerCursor host step remaining got.length nextURI).map fun cursor =>
          ⟨n + 1, items ++ got.take remaining,
            decide (got.length > remaining) || decide (nextURI ≠ ""), false, cursor⟩
      else if nextURI = "" then .ok ⟨n + 1, items ++ got, false, false, ""⟩
      else
        ((cursorFromNextURI host nextURI).mapError (inStep step)).bind fun cursor =>
          fetchPages host step call baseArgs pageSize m room (n + 1)
            (appendCursor baseArgs cursor) (items ++ got) := by
  rw [fetchPages]
  unfold asked at called
  dsimp only at called ⊢
  rw [called]
  rfl

theorem take_past {p j m : Nat} (past : rows.length ≤ p + j) (last : ¬ p + m < rows.length) :
    (rows.drop p).take j = (rows.drop p).take m := by
  rw [List.take_of_length_le (by rw [List.length_drop]; omega),
    List.take_of_length_le (by rw [List.length_drop]; omega)]

theorem chunk_last {p m n : Nat} {items : List Value} (last : ¬ p + m < rows.length)
    (shape : items = (rows.drop p).take m) :
    Chunk rows cursorAt p m ⟨n, items, false, false, ""⟩ :=
  ⟨shape, by simp [last], by rw [if_neg last]⟩

/-- From position `p` on with `k` rows there, the loop ends with the next `m` rows and the cursor
after them, unless it runs out of pages. -/
theorem fetchPages_chunk (positional : Positional host rows cursorAt client)
    (flagged : step.resumable = true) {text : String}
    (counted : baseArgs.lookup "count" = some (.str text)) (read : atoi text = (pageSize, true))
    (positive : 0 < pageSize) (small : m ≤ capMax) {p k room n : Nat} {args : Object}
    {items : List Value} (starts : StartsAt cursorAt args (p + k))
    (here : args.lookup "count" = some (.str text)) (sofar : items = (rows.drop p).take k)
    (length : items.length = k) (wanted : k < m) :
    ∃ fetched, fetchPages host step (fun n args => (client n op args).mapError (inStep step)) baseArgs
        pageSize m room n args items = .ok fetched ∧
      (fetched.pageLimitHit = false → Chunk rows cursorAt p m fetched) := by
  induction room generalizing k n args items with
  | zero => exact ⟨_, rfl, nofun⟩
  | succ room ih =>
      obtain ⟨text', count, asks, reads, some, few⟩ :=
        asked_count flagged here read positive small (length ▸ wanted)
      obtain ⟨got, data, answered, most, least, page⟩ := positional.answers n op _ (p + k) text' count
        (asked_starts starts) asks reads some
      have called : (client n op (asked step pageSize m args items)).mapError (inStep step) =
          .ok data := by rw [answered]; rfl
      have fewer : got ≤ m - k := by omega
      have size : (extractDataItems data).length = min got (rows.length - (p + k)) := by
        rw [page.items, List.length_take, List.length_drop]
      have together : items ++ extractDataItems data = (rows.drop p).take (k + got) := by
        rw [page.items, sofar, List.take_add, List.drop_drop]
      rw [fetchPages_succ called]
      dsimp only
      rw [length]
      by_cases more : p + k + got < rows.length
      · obtain ⟨linked, parsed⟩ := page.linked more
        have found := cursorFromNextURI_ok parsed (positional.named _)
        have full : (extractDataItems data).length = got := by omega
        rw [if_neg (by have := least (by omega); omega)]
        by_cases done : m - k ≤ got
        · have exactly : k + got = m := by omega
          rw [if_pos (by omega), offerCursor, if_pos ⟨flagged, by omega, linked⟩, found]
          refine ⟨_, rfl, fun _ => ⟨?_, ?_, ?_⟩⟩
          · rw [List.take_of_length_le (by omega), together, exactly]
          · have rest : p + m < rows.length := by omega
            simp [linked, rest]
          · rw [if_pos (by omega)]
            exact congrArg cursorAt (by omega)
        · rw [if_neg (by omega), if_neg linked, found]
          refine ih (k := k + got) (.inr ?_) ?_ together ?_ (by omega)
          · rw [appendCursor, lookup_withArg, if_pos rfl, Nat.add_assoc]
          · rw [appendCursor, lookup_withArg, if_neg (by decide)]
            exact counted
          · rw [List.length_append, length, full]
      · have unlinked := page.unlinked more
        have last : ¬ p + m < rows.length := by omega
        by_cases none : (extractDataItems data).length = 0
        · rw [if_pos none]
          refine ⟨_, rfl, fun _ => chunk_last last ?_⟩
          rw [sofar]
          refine take_past ?_ last
          by_contra left
          have := least (by omega)
          omega
        · rw [if_neg none]
          by_cases done : m - k ≤ (extractDataItems data).length
          · rw [if_pos done, offerCursor, if_neg (fun offers => offers.2.2 unlinked)]
            have exactly : k + got = m := by omega
            refine ⟨_, rfl, fun _ => ?_⟩
            rw [List.take_of_length_le (by omega), together, exactly, unlinked]
            have fits : ¬ (extractDataItems data).length > m - k := by omega
            simp only [fits, ne_eq, not_true_eq_false, decide_false, Bool.or_self]
            exact chunk_last last rfl
          · rw [if_neg done, if_pos unlinked]
            refine ⟨_, rfl, fun _ => chunk_last last ?_⟩
            rw [together]
            exact take_past (by omega) last

end Call

theorem fetchAll_chunk {ce : CompositeExecutor} {host : Host} {step : Step} {rows : List Value}
    {cursorAt : Nat → String} {client : Client} (resumable : Resumable step) (literal : Literal host)
    (positional : Positional host rows cursorAt client) {execCtx : ExecuteContext} {op : Operation}
    {baseArgs : Object} (prepared : prepare ce host step execCtx = .ok (op, baseArgs)) {p : Nat}
    (starts : resumeCursor step execCtx.params = "" ∧ p = 0 ∨
      resumeCursor step execCtx.params = cursorAt p) :
    ∃ fetched, fetchAll ce host step execCtx.params
        (fun n args => (client n op args).mapError (inStep step)) baseArgs = .ok fetched ∧
      (fetched.pageLimitHit = false →
        Chunk rows cursorAt p (resolveMaxResults host execCtx.params) fetched) := by
  obtain ⟨free, positive, text, counted, read⟩ := resumable.prepared literal prepared
  obtain ⟨wanted, small⟩ := resolveMaxResults_range host execCtx.params
  unfold fetchAll
  rcases starts with ⟨first, rfl⟩ | later
  · rw [first]
    exact fetchPages_chunk positional resumable.flagged counted read positive small
      (.inl ⟨free, rfl⟩) counted rfl rfl wanted
  · rw [later]
    simp only [ne_eq, positional.named p, not_false_eq_true, ↓reduceIte]
    refine fetchPages_chunk positional resumable.flagged counted read positive small
      (.inr ?_) ?_ rfl rfl wanted
    · rw [appendCursor, lookup_withArg, if_pos rfl]
      rfl
    · rw [appendCursor, lookup_withArg, if_neg (by decide)]
      exact counted

section Chain

variable (ce : CompositeExecutor) (host : Host) (step : Step) (rows : List Value)
  (cursorAt : Nat → String)

structure Called (cursor : String) (maxResults : Nat) (out : Paginated) : Prop where
  call : ∃ client execCtx, Positional host rows cursorAt client ∧
    resumeCursor step execCtx.params = cursor ∧
    resolveMaxResults host execCtx.params = maxResults ∧
    fetchPaginated ce host step client execCtx = .ok out
  pages : out.fetched.pageLimitHit = false

def Cut (result : Object) (kept : List Value) : Prop :=
  ∃ meter tool out size limit fields all, Object.obj? out step.id = some result ∧
    (boundToolResponse meter tool out size limit).1.obj? step.id = some fields ∧
    result.arr? "data" = some all ∧ fields.arr? "data" = some kept ∧ kept.length < all.length

/-- The results of a chain of calls and the cursor of the next one, `none` at the end. A call that
was cut to some rows is followed by one with the same cursor, and its result does not count. -/
inductive Scan : List Object → Option String → Prop where
  | start : Scan [] (some "")
  | call {results : List Object} {cursor : String} {maxResults : Nat} {out : Paginated} :
      Scan results (some cursor) → Called ce host step rows cursorAt cursor maxResults out →
      Scan (results ++ [out.result]) (out.result.str? "nextCursor")
  | cut {results : List Object} {cursor : String} {maxResults : Nat} {out : Paginated}
      {kept : List Value} :
      Scan results (some cursor) → Called ce host step rows cursorAt cursor maxResults out →
      Cut step out.result kept → 0 < kept.length → Scan results (some cursor)

def rowsOf (results : List Object) : List Value :=
  results.flatMap fun result => (result.arr? "data").getD []

structure Flagged (got : List Value) (result : Object) : Prop where
  truncated : result.lookup "truncated" = some (.bool (decide (got.length < rows.length)))
  cursor : (result.str? "nextCursor").isSome = true ↔ got.length < rows.length

variable {ce host step rows cursorAt}

theorem pagedResult_nextCursor {maxPages maxResults p m : Nat} {resumed : Bool} {fetched : Fetched}
    (chunk : Chunk rows cursorAt p m fetched) (named : ∀ p, cursorAt p ≠ "") :
    (pagedResult maxPages maxResults resumed fetched).str? "nextCursor" =
      if p + m < rows.length then some (cursorAt (p + m)) else none := by
  have truncated := chunk.truncated
  have cursor := chunk.nextCursor
  unfold pagedResult
  by_cases more : p + m < rows.length
  · rw [if_pos more] at cursor ⊢
    rw [truncated, cursor, if_pos (named _), decide_eq_true more, if_pos rfl]
    cases resumed <;> rfl
  · rw [if_neg more]
    rw [truncated, decide_eq_false more, if_neg Bool.false_ne_true]
    cases resumed <;> rfl

theorem Called.chunk (resumable : Resumable step) (literal : Literal host) {cursor : String}
    {m p : Nat} {out : Paginated} (called : Called ce host step rows cursorAt cursor m out)
    (starts : cursor = "" ∧ p = 0 ∨ cursor = cursorAt p) :
    out.result.arr? "data" = some ((rows.drop p).take m) ∧
      out.result.lookup "truncated" = some (.bool (decide (p + m < rows.length))) ∧
      out.result.str? "nextCursor" =
        if p + m < rows.length then some (cursorAt (p + m)) else none := by
  obtain ⟨⟨client, execCtx, positional, rfl, rfl, done⟩, pages⟩ := called
  obtain ⟨op, baseArgs, fetched, prepared, loop, rfl⟩ := fetchPaginated_fetched done
  obtain ⟨fetched', loop', chunk⟩ := fetchAll_chunk resumable literal positional prepared starts
  obtain rfl := Except.ok.inj (loop.symm.trans loop')
  have chunk := chunk pages
  refine ⟨?_, ?_, pagedResult_nextCursor chunk positional.named⟩
  · rw [pagedResult_data, chunk.items]
  · rw [pagedResult_truncated, chunk.truncated]

theorem rowsOf_append (results : List Object) (result : Object) {items : List Value}
    (data : result.arr? "data" = some items) :
    rowsOf (results ++ [result]) = rowsOf results ++ items := by
  simp [rowsOf, data]

theorem Cut.take {result : Object} {kept all : List Value} (cut : Cut step result kept)
    (data : result.arr? "data" = some all) :
    kept.length < all.length ∧ kept = all.take kept.length := by
  obtain ⟨meter, tool, out, size, limit, fields, all', present, bounded, data', rest, less⟩ := cut
  obtain rfl := Option.some.inj (data'.symm.trans data)
  refine ⟨less, ?_⟩
  unfold Object.obj? at bounded
  rcases boundResponse_trimmed meter tool.result _ out size limit step.id with
    same | ⟨c, drawn, named, -, trimmed⟩
  · rw [boundToolResponse, same] at bounded
    obtain rfl := Option.some.inj (present.symm.trans bounded)
    obtain rfl := Option.some.inj (data'.symm.trans rest)
    omega
  · rw [boundToolResponse, trimmed] at bounded
    obtain rfl := Option.some.inj bounded
    rw [trimmedStep_data] at rest
    obtain rfl := Option.some.inj rest
    rw [← named] at present
    obtain rfl := Option.some.inj (drawn.step.symm.trans present)
    obtain rfl := Option.some.inj (drawn.items.symm.trans data')
    rw [List.length_take, Nat.min_eq_left drawn.keep]

variable (rows cursorAt) in
structure Stands (results : List Object) (next : Option String) : Prop where
  got : rowsOf results = rows.take (rowsOf results).length
  flagged : ∀ i result, results[i]? = some result →
    Flagged rows (rowsOf (results.take (i + 1))) result
  ended : next = none → rowsOf results = rows
  resumes : ∀ cursor, next = some cursor → cursor = "" ∧ (rowsOf results).length = 0 ∨
    cursor = cursorAt (rowsOf results).length

theorem Scan.stands (resumable : Resumable step) (literal : Literal host) {results : List Object}
    {next : Option String} (scan : Scan ce host step rows cursorAt results next) :
    Stands rows cursorAt results next := by
  induction scan with
  | start =>
      refine ⟨rfl, by simp, nofun, fun cursor first => .inl ⟨?_, rfl⟩⟩
      exact (Option.some.inj first).symm
  | cut _ _ _ _ ih => exact ih
  | @call results cursor m out _ called ih =>
      obtain ⟨data, truncated, offered⟩ := called.chunk resumable literal (ih.resumes cursor rfl)
      have all := rowsOf_append results out.result data
      have within : (rowsOf results).length ≤ rows.length := by
        have same := congrArg List.length ih.got
        rw [List.length_take] at same
        omega
      have length : (rowsOf (results ++ [out.result])).length =
          (rowsOf results).length + min m (rows.length - (rowsOf results).length) := by
        rw [all, List.length_append, List.length_take, List.length_drop]
      have joined : rowsOf (results ++ [out.result]) = rows.take ((rowsOf results).length + m) := by
        rw [all, List.take_add, ← ih.got]
      have more : (rowsOf (results ++ [out.result])).length < rows.length ↔
          (rowsOf results).length + m < rows.length := by omega
      have upTo : rowsOf (results ++ [out.result]) =
          rows.take (rowsOf (results ++ [out.result])).length := by
        rw [joined, List.length_take, List.take_eq_take_min]
      refine ⟨upTo, ?_, ?_, ?_⟩
      · intro i result found
        rcases Nat.lt_or_ge i results.length with earlier | last
        · rw [List.getElem?_append_left earlier] at found
          rw [List.take_append_of_le_length (by omega)]
          exact ih.flagged i result found
        · rw [List.getElem?_append_right last, List.getElem?_singleton] at found
          split_ifs at found
          obtain rfl := Option.some.inj found
          rw [List.take_of_length_le (by simp; omega)]
          refine ⟨by rw [truncated, decide_eq_decide.mpr more.symm], ?_⟩
          rw [offered, more]
          split_ifs with left
          · exact iff_of_true rfl left
          · exact iff_of_false Bool.false_ne_true left
      · intro none
        rw [offered] at none
        split_ifs at none with left
        rw [joined, List.take_of_length_le (by omega)]
      · intro next offers
        rw [offered] at offers
        split_ifs at offers with left
        obtain rfl := Option.some.inj offers
        exact .inr (congrArg cursorAt (by omega))

end Chain

/-- The results of a chain of calls on a resumable step concatenate to the list of rows, each says
whether there are more, each further call is answered, and after a result that the size cap cut a
call with the same cursor and no larger `maxResults` returns the first of the rows that were kept. -/
theorem scan_lossless (ce : CompositeExecutor) (host : Host) (step : Step) (rows : List Value)
    (cursorAt : Nat → String) (resumable : Resumable step) (literal : Literal host)
    (results : List Object) (next : Option String)
    (scan : Scan ce host step rows cursorAt results next) :
    rowsOf results <+: rows ∧ (next = none → rowsOf results = rows) ∧
      (∀ i result, results[i]? = some result →
        Flagged rows (rowsOf (results.take (i + 1))) result) ∧
      (∀ cursor client execCtx, next = some cursor → Positional host rows cursorAt client →
        resumeCursor step execCtx.params = cursor →
        (∃ prepared, prepare ce host step execCtx = .ok prepared) →
        ∃ out, fetchPaginated ce host step client execCtx = .ok out) ∧
      (∀ cursor m out kept m' again, next = some cursor →
        Called ce host step rows cursorAt cursor m out → Cut step out.result kept →
        Called ce host step rows cursorAt cursor m' again → m' ≤ kept.length →
        again.result.arr? "data" = some (kept.take m')) := by
  have stands := scan.stands resumable literal
  refine ⟨stands.got ▸ List.take_prefix _ _, stands.ended, stands.flagged, ?_, ?_⟩
  · rintro cursor client execCtx here positional rfl ⟨⟨op, baseArgs⟩, prepared⟩
    obtain ⟨fetched, loop, -⟩ := fetchAll_chunk resumable literal positional prepared
      (stands.resumes _ here)
    exact ⟨_, fetchPaginated_ok prepared loop⟩
  · intro cursor m out kept m' again here called cut repeated bound
    obtain ⟨data, -, -⟩ := called.chunk resumable literal (stands.resumes cursor here)
    obtain ⟨less, first⟩ := cut.take data
    rw [(repeated.chunk resumable literal (stands.resumes cursor here)).1]
    rw [List.length_take] at less
    rw [first, List.take_take, List.take_take]
    congr 2
    omega

def positionOf (args : Object) : Nat := ((args.str? "cursor").bind fun c => digits? c.toList).getD 0

def countOf (args : Object) : Nat := (atoi ((args.str? "count").getD "")).1.toNat

def positionClient (rows : List Value) : Client := fun _ _ args =>
  .ok ([("data", .arr ((rows.drop (positionOf args)).take (countOf args)))] ++
    if positionOf args + countOf args < rows.length then
      [("meta", .obj [("paging", .obj [("nextPageUri",
        .str ("?cursor=" ++ toString (positionOf args + countOf args)))])])]
    else [])

theorem positionClient_positional (rows : List Value) :
    Positional textHost rows (fun p => toString p) (positionClient rows) := by
  constructor
  · intro p empty
    have read := digits?_toString p
    rw [empty] at read
    cases read
  · intro n op args p text count starts counted read positive
    have here : positionOf args = p := by
      unfold positionOf Object.str?
      rcases starts with ⟨first, rfl⟩ | later
      · rw [first]
        rfl
      · rw [later]
        show (digits? (toString p).toList).getD 0 = p
        rw [digits?_toString]
        rfl
    have size : countOf args = count.toNat := by simp [countOf, Object.str?, counted, Value.str?, read]
    refine ⟨count.toNat, _, rfl, by omega, fun _ => by omega, ?_⟩
    rw [here, size]
    refine ⟨rfl, fun more => ?_, fun last => ?_⟩
    · rw [if_pos more]
      show "?cursor=" ++ toString (p + count.toNat) ≠ "" ∧
        Except.ok (String.ofList (("?cursor=" ++ toString (p + count.toNat)).toList.drop 8)) =
          Except.ok (toString (p + count.toNat))
      rw [String.toList_append]
      refine ⟨fun empty => ?_, congrArg Except.ok String.ofList_toList⟩
      have chars := congrArg String.toList empty
      rw [String.toList_append] at chars
      cases chars
    · rw [if_neg last]
      rfl

def threeQueues : List Value := [.str "q1", .str "q2", .str "q3"]

def firstTwo : ExecuteContext := ⟨[("maxResults", .int 2)], [], none⟩

def theRest : ExecuteContext := ⟨[("cursor", .str "2")], [], none⟩

theorem queuesStep_resumable : Resumable queuesStep :=
  ⟨rfl, ⟨[⟨"cursor", "string"⟩], "", rfl⟩, rfl⟩

theorem scan_three_queues : ∃ results,
    Scan queuesExecutor textHost queuesStep threeQueues (fun p => toString p) results none ∧
      rowsOf results = threeQueues := by
  have literal : Literal textHost := fun _ _ _ _ => rfl
  have positional := positionClient_positional threeQueues
  have begun : Scan queuesExecutor textHost queuesStep threeQueues (fun p => toString p) []
    (some "") := .start
  have first := begun.call ⟨⟨_, firstTwo, positional, rfl, rfl, rfl⟩, rfl⟩
  have second := first.call ⟨⟨_, theRest, positional, rfl, rfl, rfl⟩, rfl⟩
  exact ⟨_, second, (scan_lossless queuesExecutor textHost queuesStep threeQueues _
    queuesStep_resumable literal _ _ second).2.1 rfl⟩

end BrokerMcp.Proof.Composite
