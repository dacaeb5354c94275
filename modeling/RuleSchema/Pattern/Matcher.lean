import RuleSchema.Pattern.Node

/-!
# Matching

A pattern is matched from a place in a text, with a continuation that says whether the match may
end where it does; the ways of matching are tried in the order of preference of the pattern, and
the first one that the continuation accepts wins.  A repetition makes no further round from a place
where its last round started, so that every match ends.

* `Node.run` matches a pattern.
* `Node.search`, `Node.matchStart`, `Node.fullMatch` ask for a match anywhere, at the start, and of
  the whole text.
-/

namespace RuleSchema.Pattern

/-- A place in a text, with the texts of the groups that have matched. -/
structure Cursor where
  /-- The characters before the place, the nearest first. -/
  before : List Char
  rest : List Char
  groups : List (Nat × List Char)

/-- Tries the ways to match from a place until the continuation accepts one. -/
abbrev Matcher := Cursor → (Cursor → Option Cursor) → Option Cursor

namespace Cursor

/-- The place before a text. -/
def start (s : List Char) : Cursor := ⟨[], s, []⟩

/-- The place after the next character. -/
def advance (c : Cursor) : Option Cursor :=
  match c.rest with
  | [] => none
  | x :: rest => some { c with before := x :: c.before, rest := rest }

/-- The place `n` characters further back. -/
def back? (c : Cursor) : Nat → Option Cursor
  | 0 => some c
  | n + 1 =>
    match c.before with
    | [] => none
    | x :: before => back? { c with before := before, rest := x :: c.rest } n

/-- Whether the character at a place is a word character. -/
def isWord (ascii : Bool) : List Char → Bool
  | [] => false
  | c :: _ => Category.word.holds ascii c

end Cursor

/-- Whether an anchor holds at a place. -/
def Anchor.holds (c : Cursor) : Anchor → Bool
  | .textStart => c.before.isEmpty
  | .textEnd => c.rest.isEmpty
  | .lastLineEnd => c.rest.isEmpty || c.rest = ['\n']
  | .lineStart => c.before.isEmpty || c.before.head? = some '\n'
  | .lineEnd => c.rest.isEmpty || c.rest.head? = some '\n'
  | .wordBoundary negated ascii =>
    !(c.before.isEmpty && c.rest.isEmpty) &&
      (Cursor.isWord ascii c.before != Cursor.isWord ascii c.rest) != negated

/-- The place after a text that is compared with what follows. -/
def matchText (fold : Text.CaseFold) : List Char → Cursor → Option Cursor
  | [], c => some c
  | x :: xs, c =>
    match c.rest with
    | [] => none
    | y :: rest =>
      if fold.lowered x.toNat = fold.lowered y.toNat then
        matchText fold xs { c with before := y :: c.before, rest := rest }
      else none

/-- Exactly `n` rounds of a body. -/
def times (body : Matcher) : Nat → Matcher
  | 0 => fun c k => k c
  | n + 1 => fun c k => body c fun d => times body n d k

/-- Whether another round may start at a place. -/
def mayRepeat (budget? : Option Nat) (last? : Option Nat) (c : Cursor) : Bool :=
  budget? != some 0 && last? != some c.rest.length

/-- Rounds of a body, as many as possible first. -/
def greedyRounds (body : Matcher) : Nat → Option Nat → Option Nat → Matcher
  | 0, _, _ => fun c k => k c
  | fuel + 1, budget?, last? => fun c k =>
    if mayRepeat budget? last? c then
      match body c fun d =>
        greedyRounds body fuel (budget?.map (· - 1)) (some c.rest.length) d k with
      | some r => some r
      | none => k c
    else k c

/-- Rounds of a body, as few as possible first. -/
def lazyRounds (body : Matcher) : Nat → Option Nat → Option Nat → Matcher
  | 0, _, _ => fun c k => k c
  | fuel + 1, budget?, last? => fun c k =>
    match k c with
    | some r => some r
    | none =>
      if mayRepeat budget? last? c then
        body c fun d =>
          lazyRounds body fuel (budget?.map (· - 1)) (some c.rest.length) d k
      else none

/-- Rounds of a body, each in its first way, as many as there are. -/
def possessiveRounds (body : Matcher) : Nat → Option Nat → Option Nat → Cursor → Cursor
  | 0, _, _, c => c
  | fuel + 1, budget?, last?, c =>
    if mayRepeat budget? last? c then
      match body c some with
      | some d => possessiveRounds body fuel (budget?.map (· - 1)) (some c.rest.length) d
      | none => c
    else c

/-- A body in its first way alone. -/
def once (body : Matcher) : Matcher := fun c k =>
  match body c some with
  | some d => k d
  | none => none

namespace Node

/-- Matches a pattern from a place. -/
def run : Node → Matcher
  | .empty => fun c k => k c
  | .set s => fun c k =>
    match c.rest with
    | [] => none
    | x :: rest =>
      if s.holds x then k { c with before := x :: c.before, rest := rest } else none
  | .anchor a => fun c k => if a.holds c then k c else none
  | .seq a b => fun c k => a.run c fun d => b.run d k
  | .alt a b => fun c k =>
    match a.run c k with
    | some r => some r
    | none => b.run c k
  | .repeat greed least most? body => fun c k =>
    let budget? := most?.map (· - least)
    let fuel := c.rest.length + 2
    match greed with
    | .greedy => times body.run least c fun d => greedyRounds body.run fuel budget? none d k
    | .lazy => times body.run least c fun d => lazyRounds body.run fuel budget? none d k
    | .possessive =>
      times (once body.run) least c fun d =>
        k (possessiveRounds body.run fuel budget? none d)
  | .group index body => fun c k =>
    body.run c fun d =>
      k { d with groups := (index, c.rest.take (c.rest.length - d.rest.length)) :: d.groups }
  | .atomic body => once body.run
  | .ahead false body => fun c k =>
    match body.run c some with
    | some d => k { c with groups := d.groups }
    | none => none
  | .ahead true body => fun c k =>
    match body.run c some with
    | some _ => none
    | none => k c
  | .behind false width body => fun c k =>
    match (c.back? width).bind fun b => body.run b some with
    | some d => k { c with groups := d.groups }
    | none => none
  | .behind true width body => fun c k =>
    match (c.back? width).bind fun b => body.run b some with
    | some _ => none
    | none => k c
  | .reference fold index => fun c k =>
    match c.groups.lookup index with
    | some s => (matchText fold s c).bind k
    | none => none
  | .conditional index yes no => fun c k =>
    match c.groups.lookup index with
    | some _ => yes.run c k
    | none => no.run c k

/-- Whether a pattern matches at a place. -/
def matchesAt (n : Node) (c : Cursor) : Bool := (n.run c some).isSome

/-- Whether a pattern matches at the start of a text. -/
def matchStart (n : Node) (s : List Char) : Bool := n.matchesAt (.start s)

/-- Whether a pattern matches a whole text. -/
def fullMatch (n : Node) (s : List Char) : Bool :=
  (n.run (.start s) fun c => if c.rest.isEmpty then some c else none).isSome

/-- Whether a pattern matches at a place between `before` and `rest` or later. -/
def searchFrom (n : Node) (before : List Char) : List Char → Bool
  | [] => n.matchesAt ⟨before, [], []⟩
  | x :: rest => n.matchesAt ⟨before, x :: rest, []⟩ || searchFrom n (x :: before) rest

/-- Whether a pattern matches somewhere in a text. -/
def search (n : Node) (s : List Char) : Bool := n.searchFrom [] s

end Node

end RuleSchema.Pattern
