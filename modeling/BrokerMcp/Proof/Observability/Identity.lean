import BrokerMcp.Observability.Correlation

namespace BrokerMcp.Proof.Observability
open BrokerMcp.Observability
open Text (Bytes)

structure Usable (id : Bytes) : Prop where
  present : 1 ≤ id.length
  short : id.length ≤ 128
  plain : ∀ c ∈ id, 0x21 ≤ c ∧ c ≤ 0x7E

theorem printable_iff {c : UInt8} : printable c = true ↔ 0x21 ≤ c ∧ c ≤ 0x7E := by
  simp [printable, UInt8.not_lt]

theorem trimLeft_of_head {seqs : List Bytes} {s : Bytes}
    (apart : ∀ c, s.head? = some c → ∀ seq ∈ seqs, seq ≠ [] ∧ seq.head? ≠ some c) :
    trimLeft seqs 0 s = s := by
  cases s with
  | nil => rfl
  | cons c rest =>
      have none : seqs.find? (fun seq => seq.isPrefixOf (c :: rest)) = none := by
        apply List.find?_eq_none.mpr
        intro seq member
        obtain ⟨some, differ⟩ := apart c rfl seq member
        cases seq with
        | nil => exact absurd rfl some
        | cons d seq =>
            have other : d ≠ c := by
              rintro rfl
              exact differ rfl
            simp [other]
      rw [trimLeft, spaceLen, none]
      rfl

theorem trimSpace_plain {s : Bytes} (plain : ∀ c ∈ s, 0x21 ≤ c ∧ c ≤ 0x7E) : trimSpace s = s := by
  -- no space has a printable byte at either end
  let marks (seq : Bytes) : Bool := seq.head?.any fun c => !printable c
  have starts : spaces.all marks = true := by decide
  have ends : (spaces.map List.reverse).all marks = true := by decide
  have apart : ∀ {seqs : List Bytes} {t : Bytes}, seqs.all marks = true →
      (∀ c ∈ t, 0x21 ≤ c ∧ c ≤ 0x7E) → trimLeft seqs 0 t = t := by
    intro seqs t outside inside
    apply trimLeft_of_head
    intro c head seq member
    have marked := List.all_eq_true.mp outside seq member
    constructor
    · rintro rfl
      cases marked
    · intro first
      have shown := printable_iff.mpr (inside c (List.mem_of_head? head))
      simp [marks, first, shown] at marked
  have reversed : ∀ c ∈ s.reverse, 0x21 ≤ c ∧ c ≤ 0x7E := by
    intro c member
    exact plain c (List.mem_reverse.mp member)
  rw [trimSpace, apart starts plain, apart ends reversed, List.reverse_reverse]

theorem sanitize_some {v id : Bytes} (done : sanitize v = some id) : Usable id := by
  unfold sanitize at done
  simp only at done
  split_ifs at done with bad clean
  obtain rfl := Option.some.inj done
  obtain ⟨some, short⟩ := not_or.mp bad
  refine ⟨List.length_pos_iff.mpr some, Nat.not_lt.mp short, ?_⟩
  intro c member
  exact printable_iff.mp (List.all_eq_true.mp clean c member)

theorem Usable.sanitized {id : Bytes} (usable : Usable id) : sanitize id = some id := by
  unfold sanitize
  simp only
  rw [trimSpace_plain usable.plain, if_neg, if_pos]
  · apply List.all_eq_true.mpr
    intro c member
    exact printable_iff.mpr (usable.plain c member)
  · rw [not_or]
    exact ⟨List.length_pos_iff.mp usable.present, Nat.not_lt.mpr usable.short⟩

theorem isDigit_plain {c : UInt8} (digit : Hex.isDigit c = true) : 0x21 ≤ c ∧ c ≤ 0x7E := by
  simp only [Hex.isDigit, Bool.or_eq_true, Bool.and_eq_true, decide_eq_true_eq,
    UInt8.le_iff_toNat_le] at digit ⊢
  simp only [UInt8.reduceToNat] at digit ⊢
  omega

theorem isDigit_ne_dash {c : UInt8} (digit : Hex.isDigit c = true) : c ≠ 45 := by
  rintro rfl
  exact absurd digit (by decide)

theorem validTraceID_iff {s : Bytes} : validTraceID s = true ↔
    s.length = 32 ∧ s ≠ zeroTraceID ∧ isLowerHex s = true := by
  rw [validTraceID, Bool.and_eq_true, Bool.and_eq_true, decide_eq_true_iff, decide_eq_true_iff,
    and_assoc]
  rfl

theorem isLowerHex_iff {s : Bytes} :
    isLowerHex s = true ↔ s ≠ [] ∧ ∀ c ∈ s, Hex.isDigit c = true := by
  simp [isLowerHex]

theorem usable_of_valid {id : Bytes} (valid : validTraceID id = true) : Usable id := by
  obtain ⟨length, -, hex⟩ := validTraceID_iff.mp valid
  refine ⟨by omega, by omega, fun c member => ?_⟩
  exact isDigit_plain ((isLowerHex_iff.mp hex).2 c member)

theorem traceIDFromTraceparent_valid {h id : Bytes} (found : traceIDFromTraceparent h = some id) :
    validTraceID id = true := by
  unfold traceIDFromTraceparent at found
  simp only at found
  split_ifs at found
  split at found
  · split_ifs at found with _ _ _ _ invalid
    obtain rfl := Option.some.inj found
    simpa using invalid
  · cases found

theorem fromHeader_usable {h : Header} {id : Bytes} (found : fromHeader h = some id) : Usable id := by
  unfold fromHeader at found
  split at found
  · rename_i traceID parsed
    obtain rfl := Option.some.inj found
    exact usable_of_valid (traceIDFromTraceparent_valid parsed)
  · exact sanitize_some found

theorem newSpanID_hex {draw : Option (Vector UInt8 8)} {span : Bytes} (drawn : newSpanID draw = some span) :
    span.length = 16 ∧ isLowerHex span = true := by
  unfold newSpanID at drawn
  cases draw with
  | none => cases drawn
  | some b =>
      simp only at drawn
      split_ifs at drawn
      obtain rfl := Option.some.inj drawn
      have length : (Hex.encode b.toList).length = 16 := by
        rw [Hex.length_encode, Vector.length_toList]
      refine ⟨length, isLowerHex_iff.mpr ⟨?_, fun c member => Hex.isDigit_of_mem_encode member⟩⟩
      intro empty
      rw [empty] at length
      cases length

theorem traceIDFromTraceparent_written {id span : Bytes} (valid : validTraceID id = true)
    (length : span.length = 16) (hex : isLowerHex span = true) :
    traceIDFromTraceparent (ascii "00-" ++ id ++ ascii "-" ++ span ++ ascii "-01") = some id := by
  have undashed : ∀ s, isLowerHex s = true → (45 : UInt8) ∉ s := by
    intro s digits member
    exact isDigit_ne_dash ((isLowerHex_iff.mp digits).2 45 member) rfl
  have joined : ascii "00-" ++ id ++ ascii "-" ++ span ++ ascii "-01" =
      List.intercalate [45] [ascii "00", id, span, ascii "01"] := by
    simp [List.intercalate, ascii]
  have parts : (ascii "00-" ++ id ++ ascii "-" ++ span ++ ascii "-01").splitOn 45 =
      [ascii "00", id, span, ascii "01"] := by
    rw [joined]
    refine List.splitOn_intercalate 45 ?_ (by simp)
    intro part member
    simp only [List.mem_cons, List.not_mem_nil, or_false] at member
    rcases member with rfl | rfl | rfl | rfl
    · decide
    · exact undashed _ (validTraceID_iff.mp valid).2.2
    · exact undashed _ hex
    · decide
  have some : ascii "00-" ++ id ++ ascii "-" ++ span ++ ascii "-01" ≠ [] := by simp [ascii]
  unfold traceIDFromTraceparent
  rw [if_neg some, parts]
  simp only
  have version : isLowerHex (ascii "00") = true := by decide
  have flags : isLowerHex (ascii "01") = true := by decide
  rw [if_neg (by simp [length, ascii]), if_neg (by decide), if_neg (by simp), version, hex, flags, valid]
  rfl

theorem formatUUID_usable (b : Vector UInt8 16) : Usable (formatUUID b) := by
  have length : (formatUUID b).length = 36 := by
    simp [formatUUID, Hex.length_encode, List.length_take, List.length_drop]
  refine ⟨by omega, by omega, fun c member => ?_⟩
  simp only [formatUUID, List.mem_append, List.mem_singleton] at member
  have dash : (0x21 : UInt8) ≤ 45 ∧ (45 : UInt8) ≤ 0x7E := by decide
  have hex : ∀ {bytes}, c ∈ Hex.encode bytes → 0x21 ≤ c ∧ c ≤ 0x7E := fun written =>
    isDigit_plain (Hex.isDigit_of_mem_encode written)
  rcases member with (((((((h | rfl) | h) | rfl) | h) | rfl) | h) | rfl) | h
  all_goals first | exact dash | exact hex h

theorem generate_usable (source : Entropy) : Usable (generate source) := formatUUID_usable _

theorem resolveID_usable (source : Entropy) (h : Header) : Usable (resolveID source h) := by
  unfold resolveID
  split
  · rename_i found
    exact fromHeader_usable found
  · exact generate_usable source

theorem get_set (h : Header) (name : String) (v : Bytes) : (h.set name v).get name = v := by
  rw [Header.get, Header.set, Assoc.lookup_put, if_pos rfl]
  rfl

theorem get_set_of_ne (h : Header) {name other : String} (apart : other ≠ name) (v : Bytes) :
    (h.set name v).get other = h.get other := by
  rw [Header.get, Header.set, Assoc.lookup_put, if_neg apart]
  rfl

theorem traceparent_ne : headerTraceparent ≠ headerCorrelationID := by decide

theorem fromHeader_of_trace {h : Header} {id : Bytes}
    (parsed : traceIDFromTraceparent (h.get headerTraceparent) = some id) : fromHeader h = some id := by
  rw [fromHeader, parsed]

theorem fromHeader_of_id {h : Header} {id : Bytes}
    (none : traceIDFromTraceparent (h.get headerTraceparent) = none)
    (written : h.get headerCorrelationID = id) (usable : Usable id) : fromHeader h = some id := by
  rw [fromHeader, none, written]
  exact usable.sanitized

theorem fromHeader_rewritten (source : Entropy) (h : Header) :
    fromHeader (h.set headerCorrelationID (resolveID source h)) = some (resolveID source h) := by
  have kept := get_set_of_ne h traceparent_ne (resolveID source h)
  cases parsed : traceIDFromTraceparent (h.get headerTraceparent) with
  | some id =>
      have resolved : resolveID source h = id := by rw [resolveID, fromHeader_of_trace parsed]
      rw [← kept, ← resolved] at parsed
      exact fromHeader_of_trace parsed
  | none =>
      rw [← kept] at parsed
      exact fromHeader_of_id parsed (get_set _ _ _) (resolveID_usable source h)

theorem fromHeader_setHeaders {ctx : Context} (usable : Usable ctx.from)
    (draw : Option (Vector UInt8 8)) {fresh : Header} (none : fresh.get headerTraceparent = []) :
    fromHeader (setHeaders ctx draw fresh) = some ctx.from := by
  have some : ctx.from ≠ [] := List.length_pos_iff.mp usable.present
  have bare : fromHeader (fresh.set headerCorrelationID ctx.from) = Option.some ctx.from := by
    refine fromHeader_of_id ?_ (get_set _ _ _) usable
    rw [get_set_of_ne _ traceparent_ne, none]
    rfl
  unfold setHeaders
  simp only
  rw [if_neg some]
  split_ifs with valid
  · cases drawn : newSpanID draw with
    | none => exact bare
    | some span =>
        obtain ⟨length, hex⟩ := newSpanID_hex drawn
        apply fromHeader_of_trace
        rw [get_set]
        exact traceIDFromTraceparent_written valid length hex
  · exact bare

theorem resolveID_of_found {source : Entropy} {h : Header} {id : Bytes} (found : fromHeader h = some id) :
    resolveID source h = id := by
  rw [resolveID, found]

theorem from_applyRequestExtra {h : Header} {id : Bytes} (found : fromHeader h = some id) (ctx : Context)
    (hasTokenInfo : Bool) : (applyRequestExtra ctx h hasTokenInfo true).from = id := by
  unfold applyRequestExtra
  simp only [found]
  rfl

theorem correlation_identity_survives (source : Entropy) (w : Header) (r : Request) :
    let response := (middleware source w r).1
    let passed := (middleware source w r).2
    let id := passed.ctx.from
    Usable id ∧
    response.get headerCorrelationID = id ∧
    (∀ ctx hasTokenInfo, (applyRequestExtra ctx passed.header hasTokenInfo true).from = id) ∧
    ∀ draw fresh source' w' ctx', fresh.get headerTraceparent = [] →
      (middleware source' w' ⟨setHeaders passed.ctx draw fresh, ctx'⟩).2.ctx.from = id := by
  intro response passed id
  have usable : Usable id := resolveID_usable source r.header
  refine ⟨usable, get_set _ _ _, ?_, ?_⟩
  · intro ctx hasTokenInfo
    exact from_applyRequestExtra (fromHeader_rewritten source r.header) ctx hasTokenInfo
  · intro draw fresh source' w' ctx' none
    exact resolveID_of_found (fromHeader_setHeaders usable draw none)

theorem correlation_identity_survives_trace :
    let passed := (middleware ⟨Vector.replicate 16 0, 0⟩ []
      ⟨[(headerTraceparent, [ascii "00-4bf92f3577b34da6a3ce929d0e0e4736-00f067aa0ba902b7-01"])],
        ⟨none, none⟩⟩).2
    passed.ctx.from = ascii "4bf92f3577b34da6a3ce929d0e0e4736" ∧
      (middleware ⟨Vector.replicate 16 0, 0⟩ []
        ⟨setHeaders passed.ctx (some (Vector.replicate 8 1)) [], ⟨none, none⟩⟩).2.ctx.from =
          passed.ctx.from := by
  intro passed
  refine ⟨by decide +kernel, ?_⟩
  exact (correlation_identity_survives ⟨Vector.replicate 16 0, 0⟩ [] _).2.2.2 _ [] _ _ _ rfl

end BrokerMcp.Proof.Observability
