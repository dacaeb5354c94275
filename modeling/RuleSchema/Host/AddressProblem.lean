import RuleSchema.Host.Address
import RuleSchema.Text.Quoted

/-!
# What is wrong with an address

A text that is to be the address of a host may fail to be one in many ways; the first that is found
is reported.

* `Ipv4.problem?` looks for what is wrong with four numbers, `Ipv6.problem?` with groups.
-/

namespace RuleSchema

namespace Ipv4

/-- What is wrong with one of the numbers. -/
inductive OctetProblem where
  | empty | notDecimal | tooLong | leadingZero | tooGreat
deriving DecidableEq

/-- A text as a message shows it. -/
def shown (s : List Char) : String := Text.quoted (String.ofList s)

/-- What is wrong with a number, as a message. -/
def OctetProblem.message (s : List Char) : OctetProblem → String
  | .empty => "Empty octet not permitted"
  | .notDecimal => "Only decimal digits permitted in " ++ shown s
  | .tooLong => "At most 3 characters permitted in " ++ shown s
  | .leadingZero => "Leading zeros are not permitted in " ++ shown s
  | .tooGreat => "Octet " ++ String.ofList s ++ " (> 255) not permitted"

/-- What is wrong with one of the numbers. -/
def octetProblem? (s : List Char) : Option OctetProblem :=
  if s.isEmpty then some .empty
  else if !s.all Char.isDigit then some .notDecimal
  else if 3 < s.length then some .tooLong
  else if s ≠ ['0'] && s.head? = some '0' then some .leadingZero
  else if 255 < s.foldl (fun n c => n * 10 + digitValue c) 0 then some .tooGreat
  else none

/-- What is wrong with a text that is to be four numbers, as a message. -/
def problem? (s : List Char) : Option String :=
  let pieces := Text.splitOn '.' s
  if s.isEmpty then some "Address cannot be empty"
  else if pieces.length ≠ 4 then some ("Expected 4 octets in " ++ shown s)
  else
    pieces.findSome? fun piece =>
      (octetProblem? piece).map fun p => p.message piece ++ " in " ++ shown s

theorem octetProblem?_eq_none {s : List Char} (h : octetProblem? s = none) :
    s ≠ [] ∧ s.all Char.isDigit ∧ s.length ≤ 3 := by
  unfold octetProblem? at h
  split at h
  · simp at h
  · split at h
    · simp at h
    · split at h
      · simp at h
      · refine ⟨?_, ?_, by omega⟩ <;> simp_all

end Ipv4

namespace Ipv6

open Ipv4 (shown)

/-- What is wrong with a group, as a message. -/
def groupProblem? (s : List Char) : Option String :=
  if !s.all (Ipv4.isDigitOf 16) then some ("Only hex digits permitted in " ++ shown s)
  else if 4 < s.length then some ("At most 4 characters permitted in " ++ shown s)
  else none

/-- The pieces between colons, four decimal numbers at the end counting as two groups. -/
def pieces (s : List Char) : Except String (List (List Char)) :=
  let ps := Text.splitOn ':' s
  match ps.getLast? with
  | some last =>
    if last.contains '.' then
      match Ipv4.problem? last with
      | some message => .error message
      | none => .ok (ps.dropLast ++ [['0'], ['0']])
    else .ok ps
  | none => .ok ps

/-- The indices of empty pieces, the two ends apart. -/
def gaps (ps : List (List Char)) : List Nat :=
  (List.range ps.length).filter fun i => 0 < i && i + 1 < ps.length && (ps.getD i []).isEmpty

/-- What is wrong with a colon at an end. -/
def endMessage (leading : Bool) : String :=
  (if leading then "Leading" else "Trailing") ++ " ':' only permitted as part of '::'"

/-- What is wrong with the arrangement of pieces: how many there are and where some are empty. -/
def arrangementProblem? (ps : List (List Char)) : Option String :=
  let openStart := (ps.headD []).isEmpty
  let openEnd := (ps.getLastD []).isEmpty
  match gaps ps with
  | [] =>
    if ps.length ≠ 8 then some "Exactly 8 parts expected without '::'"
    else if openStart then some (endMessage true)
    else if openEnd then some (endMessage false)
    else none
  | [gap] =>
    let before := gap - if openStart then 1 else 0
    let after := ps.length - gap - 1 - if openEnd then 1 else 0
    if openStart && 0 < before then some (endMessage true)
    else if openEnd && 0 < after then some (endMessage false)
    else if 8 ≤ before + after then some "Expected at most 7 other parts with '::'"
    else none
  | _ => some "At most one '::' permitted"

/-- What is wrong with pieces. -/
def piecesProblem? (ps : List (List Char)) : Option String :=
  if 9 < ps.length then some "At most 8 colons permitted"
  else arrangementProblem? ps <|> ps.findSome? groupProblem?

/-- What is wrong with a text that is to be an address without a zone. -/
def bareProblem? (s : List Char) : Option String :=
  if s.isEmpty then some "Address cannot be empty"
  else
    let problem := if (Text.splitOn ':' s).length < 3 then some "At least 3 parts expected"
      else
        match pieces s with
        | .error message => some message
        | .ok ps => piecesProblem? ps
    problem.map fun message => message ++ " in " ++ shown s

/-- What is wrong with a text that is to be an address, possibly with a zone after a percent
sign. -/
def problem? (s : List Char) : Option String :=
  if s.contains '/' then some ("Unexpected '/' in " ++ shown s)
  else
    match Text.cutAt '%' s with
    | (bare, none) => bareProblem? bare
    | (bare, some zone) =>
      if zone.isEmpty || zone.contains '%' then
        some ("Invalid IPv6 address: \"" ++ shown s ++ "\"")
      else bareProblem? bare

end Ipv6

end RuleSchema
