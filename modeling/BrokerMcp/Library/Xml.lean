import Mathlib.Data.List.Basic
import Mathlib.Tactic.Common

namespace Xml

def inCharacterRange (c : Char) : Bool :=
  c = '\t' || c = '\n' || c = '\r' || (0x20 ≤ c.toNat && c.toNat ≤ 0xD7FF) ||
    (0xE000 ≤ c.toNat && c.toNat ≤ 0xFFFD) || (0x10000 ≤ c.toNat && c.toNat ≤ 0x10FFFF)

def replacement : Char := '\uFFFD'

def escapeChar (c : Char) : List Char :=
  if c = '"' then ['&', '#', '3', '4', ';']
  else if c = '\'' then ['&', '#', '3', '9', ';']
  else if c = '&' then ['&', 'a', 'm', 'p', ';']
  else if c = '<' then ['&', 'l', 't', ';']
  else if c = '>' then ['&', 'g', 't', ';']
  else if c = '\t' then ['&', '#', 'x', '9', ';']
  else if c = '\n' then ['&', '#', 'x', 'A', ';']
  else if c = '\r' then ['&', '#', 'x', 'D', ';']
  else if inCharacterRange c then [c]
  else [replacement]

def escapeText (s : List Char) : List Char := s.flatMap escapeChar

def legal (c : Char) : Char := if inCharacterRange c then c else replacement

theorem escapeChar_illegal {c : Char} (range : inCharacterRange c = false) :
    escapeChar c = [replacement] := by
  have other : ∀ d, inCharacterRange d = true → c ≠ d := by
    rintro d here rfl
    cases range.symm.trans here
  simp only [escapeChar, range, other _ (by decide : inCharacterRange '"' = true),
    other _ (by decide : inCharacterRange '\'' = true),
    other _ (by decide : inCharacterRange '&' = true),
    other _ (by decide : inCharacterRange '<' = true),
    other _ (by decide : inCharacterRange '>' = true),
    other _ (by decide : inCharacterRange '\t' = true),
    other _ (by decide : inCharacterRange '\n' = true),
    other _ (by decide : inCharacterRange '\r' = true), Bool.false_eq_true, ↓reduceIte]

theorem escapeText_map_legal (s : List Char) : escapeText (s.map legal) = escapeText s := by
  have each : ∀ c, escapeChar (legal c) = escapeChar c := by
    intro c
    unfold legal
    split_ifs with range
    · rfl
    · rw [escapeChar_illegal (c := c) (by simpa using range)]
      decide
  rw [escapeText, List.flatMap_map]
  simp only [each]
  rfl

inductive Token where
  | opening (name : List Char)
  | closing (name : List Char)
  | empty (name : List Char)
  | text (content : List Char)
deriving DecidableEq

def isName (name : List Char) : Bool :=
  !name.isEmpty && name.all fun c => c.isAlphanum || c = '-'

def tag (chars : List Char) : Option Token :=
  if isName chars then some (.opening chars)
  else if chars.head? = some '/' ∧ isName chars.tail then some (.closing chars.tail)
  else if chars.getLast? = some '/' ∧ isName chars.dropLast then some (.empty chars.dropLast)
  else none

def digit (base : Nat) (c : Char) : Option Nat :=
  let value :=
    if c.isDigit then c.toNat - '0'.toNat
    else if 'a' ≤ c ∧ c ≤ 'f' then c.toNat - 'a'.toNat + 10
    else if 'A' ≤ c ∧ c ≤ 'F' then c.toNat - 'A'.toNat + 10
    else base
  if value < base then some value else none

def number (base : Nat) (digits : List Char) : Option Char :=
  if digits.isEmpty then none
  else
    match digits.foldlM (fun n c => (digit base c).map (base * n + ·)) 0 with
    | some n => if inCharacterRange (Char.ofNat n) then some (Char.ofNat n) else none
    | none => none

def reference (name : List Char) : Option Char :=
  match name with
  | ['a', 'm', 'p'] => some '&'
  | ['l', 't'] => some '<'
  | ['g', 't'] => some '>'
  | ['q', 'u', 'o', 't'] => some '"'
  | ['a', 'p', 'o', 's'] => some '\''
  | '#' :: 'x' :: digits => number 16 digits
  | '#' :: digits => number 10 digits
  | _ => none

inductive Mode where
  | inText (content : List Char)
  | inTag (content chars : List Char)
  | inReference (content name : List Char)

def flush (content : List Char) : List Token := if content = [] then [] else [.text content]

def read : Mode → List Char → Option (List Token)
  | .inText content, [] => some (flush content)
  | .inText content, c :: rest =>
      if c = '<' then read (.inTag content []) rest
      else if c = '&' then read (.inReference content []) rest
      else if inCharacterRange c then read (.inText (content ++ [c])) rest
      else none
  | .inTag _ _, [] => none
  | .inTag content chars, c :: rest =>
      if c = '>' then
        match tag chars with
        | some token => (read (.inText []) rest).map (flush content ++ token :: ·)
        | none => none
      else read (.inTag content (chars ++ [c])) rest
  | .inReference _ _, [] => none
  | .inReference content name, c :: rest =>
      if c = ';' then
        match reference name with
        | some c => read (.inText (content ++ [c])) rest
        | none => none
      else read (.inReference content (name ++ [c])) rest

def document (chars : List Char) : Option (List Token) := read (.inText []) chars

/-- Every tag that is opened is closed, innermost first; `opened` are the tags around. -/
def balanced : List (List Char) → List Token → Bool
  | opened, [] => opened.isEmpty
  | opened, .opening name :: rest => balanced (name :: opened) rest
  | name :: opened, .closing name' :: rest => name = name' && balanced opened rest
  | [], .closing _ :: _ => false
  | opened, .empty _ :: rest => balanced opened rest
  | opened, .text _ :: rest => balanced opened rest

def Token.print : Token → List Char
  | .opening name => '<' :: name ++ ['>']
  | .closing name => '<' :: '/' :: name ++ ['>']
  | .empty name => '<' :: name ++ ['/', '>']
  | .text content => escapeText content

def print (tokens : List Token) : List Char := tokens.flatMap Token.print

def Token.named : Token → Bool
  | .opening name => isName name
  | .closing name => isName name
  | .empty name => isName name
  | .text _ => true

/-- What is read of printed tokens after the text `content`: texts that meet are one text. -/
def readBack : List Char → List Token → List Token
  | content, [] => flush content
  | content, .text more :: rest => readBack (content ++ more.map legal) rest
  | content, token :: rest => flush content ++ token :: readBack [] rest

theorem read_plain {c : Char} (content rest : List Char) (range : inCharacterRange c = true)
    (angle : c ≠ '<') (ampersand : c ≠ '&') :
    read (.inText content) (c :: rest) = read (.inText (content ++ [c])) rest := by
  rw [read, if_neg angle, if_neg ampersand, if_pos range]

theorem read_escapeChar (content : List Char) (c : Char) (rest : List Char) :
    read (.inText content) (escapeChar c ++ rest) = read (.inText (content ++ [legal c])) rest := by
  unfold escapeChar
  split_ifs with quote apostrophe ampersand less greater tab newline carriage range
  · rw [quote]
    rfl
  · rw [apostrophe]
    rfl
  · rw [ampersand]
    rfl
  · rw [less]
    rfl
  · rw [greater]
    rfl
  · rw [tab]
    rfl
  · rw [newline]
    rfl
  · rw [carriage]
    rfl
  · rw [List.singleton_append, read_plain content rest range less ampersand, legal, if_pos range]
  · rw [List.singleton_append, read_plain content rest (by decide) (by decide) (by decide), legal,
      if_neg range]

theorem read_escapeText (content s rest : List Char) :
    read (.inText content) (escapeText s ++ rest) =
      read (.inText (content ++ s.map legal)) rest := by
  induction s generalizing content with
  | nil => simp [escapeText]
  | cons c s ih =>
      rw [escapeText, List.flatMap_cons, List.append_assoc, read_escapeChar]
      have later := ih (content ++ [legal c])
      rw [escapeText] at later
      rw [later, List.map_cons, List.append_assoc, List.singleton_append]

theorem read_tag {chars : List Char} {token : Token} (plain : '>' ∉ chars)
    (named : tag chars = some token) (content rest : List Char) :
    read (.inText content) ('<' :: chars ++ '>' :: rest) =
      (read (.inText []) rest).map (flush content ++ token :: ·) := by
  have scanned : ∀ before chars : List Char, '>' ∉ chars →
      read (.inTag content before) (chars ++ '>' :: rest) =
        read (.inTag content (before ++ chars)) ('>' :: rest) := by
    intro before chars plain
    induction chars generalizing before with
    | nil => simp
    | cons c chars ih =>
        obtain ⟨other, later⟩ := not_or.mp (mt List.mem_cons.mpr plain)
        rw [List.cons_append, read, if_neg (Ne.symm other), ih _ later, List.append_assoc,
          List.singleton_append]
  rw [List.cons_append, read, if_pos rfl, scanned [] chars plain, List.nil_append, read, if_pos rfl,
    named]

theorem not_mem_of_isName {name : List Char} {c : Char} (named : isName name = true)
    (foreign : (c.isAlphanum || c = '-') = false) : c ∉ name := by
  intro member
  simp only [isName, Bool.and_eq_true, List.all_eq_true] at named
  exact Bool.false_ne_true (foreign.symm.trans (named.2 c member))

theorem not_isName {name : List Char} (slash : '/' ∈ name) : isName name = false := by
  cases named : isName name with
  | false => rfl
  | true => exact absurd slash (not_mem_of_isName named (by decide))

theorem tag_opening {name : List Char} (named : isName name = true) :
    tag name = some (.opening name) := if_pos named

theorem tag_closing {name : List Char} (named : isName name = true) :
    tag ('/' :: name) = some (.closing name) := by
  have slashed : isName ('/' :: name) = false := not_isName (.head _)
  simp [tag, slashed, named]

theorem tag_empty {name : List Char} (named : isName name = true) :
    tag (name ++ ['/']) = some (.empty name) := by
  have unnamed : isName (name ++ ['/']) = false := not_isName (by simp)
  have first : ¬ ((name ++ ['/']).head? = some '/' ∧ isName (name ++ ['/']).tail = true) := by
    rintro ⟨slash, -⟩
    cases name with
    | nil => simp [isName] at named
    | cons c name =>
        obtain rfl : c = '/' := by simpa using slash
        exact not_mem_of_isName named (by decide) (.head _)
  rw [tag, unnamed, if_neg Bool.false_ne_true, if_neg first]
  simp [named]

theorem read_print (content : List Char) (tokens : List Token)
    (named : ∀ token ∈ tokens, token.named = true) :
    read (.inText content) (print tokens) = some (readBack content tokens) := by
  induction tokens generalizing content with
  | nil => rfl
  | cons token rest ih =>
      obtain ⟨here, later⟩ := List.forall_mem_cons.mp named
      have next : read (.inText []) (rest.flatMap Token.print) = some (readBack [] rest) := ih [] later
      rw [print, List.flatMap_cons]
      cases token with
      | text more =>
          rw [Token.print, read_escapeText]
          exact ih _ later
      | opening name =>
          have inside := not_mem_of_isName here (c := '>') (by decide)
          have shown := read_tag inside (tag_opening here) content (rest.flatMap Token.print)
          simpa [Token.print, next, readBack] using shown
      | closing name =>
          have inside : '>' ∉ '/' :: name := by
            simpa using not_mem_of_isName here (c := '>') (by decide)
          have shown := read_tag inside (tag_closing here) content (rest.flatMap Token.print)
          simpa [Token.print, next, readBack] using shown
      | empty name =>
          have inside : '>' ∉ name ++ ['/'] := by
            simpa using not_mem_of_isName here (c := '>') (by decide)
          have shown := read_tag inside (tag_empty here) content (rest.flatMap Token.print)
          simpa [Token.print, next, readBack] using shown

end Xml
