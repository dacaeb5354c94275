import RuleSchema.Pattern.Basic
import RuleSchema.Pattern.Literal

/-!
# How patterns are read

The reader of patterns is followed over pieces of a pattern.  What a piece is read as does not
depend on what stands around it, except that a mark of repetition after it would belong to its last
part; so pieces are put together as the patterns are, and nothing after this file follows the
reader token by token.

* `Ready s rest groups`: the state of the reader before `rest`, after `groups` groups were opened.
* `Item`: a piece that is read as one part.  `Adds`: one that is read as a sequence of parts.
  `Choice`: one that is read as alternatives.
* `item_char`, `item_plain`, `item_digit`, `item_any` and so on: the pieces of one token.
* `Item.optional`, `Item.star`, `Item.times`, `Item.between`: a piece with a mark of repetition.
* `Choice.group`, `Choice.plain`, `Choice.ahead`: alternatives in parentheses.
* `parse_of_adds`: **a piece is read as a whole pattern.**
-/

namespace RuleSchema.Pattern

open Parse

/-! ### States of the reader -/

/-- The state of a reader without options before `rest`, after some groups were opened. -/
def Ready (s : ParseState) (rest : List Char) (groups : Nat) : Prop :=
  ∃ position widths, s = { rest, position, flags := {}, groups, widths }

theorem bind_of_ok {α β : Type} {x : Parse α} {f : α → Parse β} {s u : ParseState} {a : α}
    (h : x s = .ok (a, u)) : (x >>= f) s = f a u := by
  change (x s >>= fun r => f r.1 r.2) = _
  rw [h]
  rfl

section

variable {s : ParseState} {t : Token} {c : Char} {cs rest : List Char} {g fuel : Nat} {first : Bool}
  {found : List Part}

/-! ### Tokens -/

theorem first?_char (hc : c ≠ '\\') : Token.first? (c :: rest) = some (.char c) := by
  unfold Token.first?
  split
  · next h => cases h
  · next h => cases h; exact absurd rfl hc
  · next h => cases h; exact absurd rfl hc
  · next h => cases h; rfl

theorem first?_chars (ht : t ≠ .char '\\') : Token.first? (t.chars ++ rest) = some t := by
  cases t with
  | char c => exact first?_char fun hc => ht (congrArg Token.char hc)
  | escape c => rfl

theorem peek?_ready (h : Ready s cs g) : peek? s = .ok (Token.first? cs, s) := by
  obtain ⟨n, ws, rfl⟩ := h
  rfl

theorem checkEnd_ready (hcs : cs ≠ ['\\']) (h : Ready s cs g) : checkEnd s = .ok ((), s) := by
  obtain ⟨n, ws, rfl⟩ := h
  rw [checkEnd, bind_of_ok (x := get) rfl]
  exact congrFun (if_neg hcs) _

/-- The next token is passed, unless a single backslash follows. -/
theorem advance_ready (ht : t ≠ .char '\\') (hrest : rest ≠ ['\\'])
    (h : Ready s (t.chars ++ rest) g) : ∃ s', Ready s' rest g ∧ advance s = .ok ((), s') := by
  obtain ⟨n, ws, rfl⟩ := h
  have hnext : Ready
      { rest, position := n + t.chars.length, flags := {}, groups := g, widths := ws } rest g :=
    ⟨_, _, rfl⟩
  refine ⟨_, hnext, ?_⟩
  rw [advance, bind_of_ok (x := get) rfl]
  dsimp only
  rw [first?_chars ht, bind_of_ok (x := set _) rfl, List.drop_left]
  exact checkEnd_ready hrest hnext

theorem accept_ready (hc : c ≠ '\\') (hrest : rest ≠ ['\\']) (h : Ready s (c :: rest) g) :
    ∃ s', Ready s' rest g ∧ accept c s = .ok (true, s') := by
  obtain ⟨s', hs', hadvance⟩ := advance_ready (t := .char c) (by simpa using hc) hrest h
  refine ⟨s', hs', ?_⟩
  rw [accept, bind_of_ok (peek?_ready h), first?_char hc, if_pos rfl, bind_of_ok hadvance]
  rfl

theorem accept_other (hc : Token.first? cs ≠ some (.char c)) (h : Ready s cs g) :
    accept c s = .ok (false, s) := by
  rw [accept, bind_of_ok (peek?_ready h), if_neg hc]
  rfl

theorem next?_ready (hc : c ≠ '\\') (hrest : rest ≠ ['\\']) (h : Ready s (c :: rest) g) :
    ∃ s', Ready s' rest g ∧ next? s = .ok (some (.char c), s') := by
  obtain ⟨s', hs', hadvance⟩ := advance_ready (t := .char c) (by simpa using hc) hrest h
  refine ⟨s', hs', ?_⟩
  rw [next?, bind_of_ok (peek?_ready h), first?_char hc, bind_of_ok hadvance]
  rfl

/-- How the reader goes on after it has passed a token. -/
def partsAfter (fuel : Nat) (first : Bool) (found : List Part) (start : Nat) (t : Token) :
    Parse Node :=
  match t with
  | .escape c => do parts fuel first (⟨← escape c, false⟩ :: found)
  | .char '[' => do parts fuel first (⟨← charSet, false⟩ :: found)
  | .char '.' => parts fuel first (⟨.set (.any false), false⟩ :: found)
  | .char '^' => parts fuel first (⟨.anchor .textStart, false⟩ :: found)
  | .char '$' => parts fuel first (⟨.anchor .lastLineEnd, false⟩ :: found)
  | .char '?' => do parts fuel first (← repeatLast start 0 (some 1) found)
  | .char '*' => do parts fuel first (← repeatLast start 0 none found)
  | .char '+' => do parts fuel first (← repeatLast start 1 none found)
  | .char '\x7b' => do
    match ← bounds? with
    | none => parts fuel first (⟨← literal 123, false⟩ :: found)
    | some (least, most?) => parts fuel first (← repeatLast start least most? found)
  | .char '(' => do
    match ← groupPart fuel start (first && found.isEmpty) with
    | none => parts fuel first found
    | some p => parts fuel first (p :: found)
  | .char c => do parts fuel first (⟨← literal c.toNat, false⟩ :: found)

/-- The reader passes a token of a sequence. -/
theorem parts_token (ht : t ≠ .char '\\') (hbar : t ≠ .char '|') (hclose : t ≠ .char ')')
    (hrest : rest ≠ ['\\']) (h : Ready s (t.chars ++ rest) g) :
    ∃ s', Ready s' rest g ∧ ∀ fuel first found,
      parts (fuel + 1) first found s = partsAfter fuel first found s.position t s' := by
  obtain ⟨s', hs', hadvance⟩ := advance_ready ht hrest h
  refine ⟨s', hs', fun fuel first found => ?_⟩
  rw [parts, bind_of_ok (peek?_ready h), first?_chars ht]
  dsimp only
  rw [if_neg (by simp [hbar, hclose]), bind_of_ok (a := s) (u := s) rfl, bind_of_ok hadvance,
    bind_of_ok (a := s') (u := s') rfl]
  obtain ⟨n, ws, rfl⟩ := hs'
  rfl

/-- A sequence ends before a bar, before a closing parenthesis and at the end. -/
theorem parts_stop (fuel : Nat) (first : Bool) (found : List Part) (h : Ready s rest g)
    (hrest : rest = [] ∨ ∃ cs, rest = '|' :: cs ∨ rest = ')' :: cs) :
    parts (fuel + 1) first found s = .ok (sequenceOf found.reverse, s) := by
  rw [parts, bind_of_ok (peek?_ready h)]
  rcases hrest with rfl | ⟨cs, rfl | rfl⟩
  · rfl
  · rw [first?_char (by decide)]
    rfl
  · rw [first?_char (by decide)]
    rfl

end

/-! ### Pieces -/

/-- The characters that start a mark of repetition. -/
def repetitionMarks : List Char := ['?', '*', '+', '\x7b']

/-- What may follow a part of a pattern: no single backslash, and no mark of repetition. -/
def Quiet (cs : List Char) : Prop := cs ≠ ['\\'] ∧ ∀ c ∈ cs.head?, c ∉ repetitionMarks

/-- A piece that is read as one part, while the groups from `g` up to `g'` are opened. -/
structure Item (cs : List Char) (g : Nat) (p : Part) (g' : Nat) : Prop where
  nonempty : cs ≠ []
  quiet : Quiet cs
  reads : ∀ (fuel : Nat) (first : Bool) (found : List Part) {s : ParseState} {rest : List Char},
    rest ≠ ['\\'] → Ready s (cs ++ rest) g → ∃ k s', Ready s' rest g' ∧
      parts (fuel + 3 * cs.length) first found s = parts (fuel + k) first (p :: found) s'

/-- A piece that is read as a sequence of parts, unless a mark of repetition follows. -/
structure Adds (cs : List Char) (g : Nat) (ps : List Part) (g' : Nat) : Prop where
  quiet : Quiet cs
  reads : ∀ (fuel : Nat) (first : Bool) (found : List Part) {s : ParseState} {rest : List Char},
    Quiet rest → Ready s (cs ++ rest) g → ∃ k s', Ready s' rest g' ∧
      parts (fuel + 3 * cs.length) first found s
        = parts (fuel + k) first (ps.reverse ++ found) s'

/-- A piece that is read as alternatives before a closing parenthesis. -/
structure Choice (cs : List Char) (g : Nat) (n : Node) (g' : Nat) : Prop where
  quiet : Quiet cs
  reads : ∀ (fuel : Nat) {s : ParseState} {rest : List Char},
    Ready s (cs ++ ')' :: rest) g → ∃ s', Ready s' (')' :: rest) g' ∧
      alternativesAfter (fuel + 3 * cs.length + 2) s = .ok (n, s')

section

variable {s : ParseState} {t : Token} {c : Char} {cs ds rest : List Char} {g g₁ g' fuel : Nat}
  {p : Part} {ps qs : List Part} {n : Node}

theorem quiet_nil : Quiet [] := ⟨by decide, fun c hc => by cases hc⟩

theorem quiet_cons (hc : c ∉ repetitionMarks) (hone : c ≠ '\\' ∨ cs ≠ []) : Quiet (c :: cs) := by
  refine ⟨?_, fun d hd => ?_⟩
  · rintro h
    obtain ⟨rfl, rfl⟩ := List.cons.inj h
    exact hone.elim (fun h => h rfl) fun h => h rfl
  · rwa [← Option.some.inj hd]

/-- A single backslash is not made of two pieces. -/
theorem append_ne_backslash (hcs : cs ≠ ['\\']) (hds : ds ≠ ['\\']) : cs ++ ds ≠ ['\\'] := by
  intro h
  rcases List.append_eq_singleton_iff.mp h with ⟨-, h⟩ | ⟨h, -⟩
  · exact hds h
  · exact hcs h

theorem Quiet.append (hcs : Quiet cs) (hds : Quiet ds) : Quiet (cs ++ ds) := by
  refine ⟨append_ne_backslash hcs.1 hds.1, ?_⟩
  cases cs with
  | nil => exact hds.2
  | cons c cs => exact hcs.2

/-- A quiet piece does not start with the mark `c`. -/
theorem Quiet.first_ne (h : Quiet cs) (hc : c ∈ repetitionMarks) :
    Token.first? cs ≠ some (.char c) := by
  cases cs with
  | nil => exact fun h => by cases h
  | cons d cs =>
    intro heq
    have hd : d ≠ c := fun hd => h.2 d rfl (hd ▸ hc)
    unfold Token.first? at heq
    split at heq
    · cases heq
    · cases heq
    · cases heq
    · next hcons =>
      obtain ⟨rfl, rfl⟩ := List.cons.inj hcons
      exact hd (Token.char.inj (Option.some.inj heq))

theorem Item.adds (h : Item cs g p g') : Adds cs g [p] g' :=
  ⟨h.quiet, fun fuel first found _ _ hrest => h.reads fuel first found hrest.1⟩

theorem adds_nil : Adds [] g [] g :=
  ⟨quiet_nil, fun _ _ _ _ _ _ hs => ⟨0, _, hs, rfl⟩⟩

/-- **One piece after another.** -/
theorem Adds.append (h : Adds cs g ps g₁) (h' : Adds ds g₁ qs g') :
    Adds (cs ++ ds) g (ps ++ qs) g' := by
  refine ⟨h.quiet.append h'.quiet, ?_⟩
  intro fuel first found s rest hrest hs
  rw [List.append_assoc] at hs
  obtain ⟨k, s₁, hs₁, hrun⟩ := h.reads (fuel + 3 * ds.length) first found
    (h'.quiet.append hrest) hs
  obtain ⟨k', s', hs', hrun'⟩ := h'.reads (fuel + k) first (ps.reverse ++ found) hrest hs₁
  have hfuel : fuel + 3 * (cs ++ ds).length = fuel + 3 * ds.length + 3 * cs.length := by
    rw [List.length_append]
    omega
  have hleft : fuel + 3 * ds.length + k = fuel + k + 3 * ds.length := by omega
  refine ⟨k + k', s', hs', ?_⟩
  rw [hfuel, hrun, hleft, hrun', List.reverse_append, List.append_assoc, Nat.add_assoc]

/-- What a part is read from: a first token, and what belongs to it. -/
theorem item_of_token (ht : t ≠ .char '\\') (hbar : t ≠ .char '|') (hclose : t ≠ .char ')')
    (hquiet : Quiet (t.chars ++ cs)) (hcs : cs ≠ ['\\'])
    (h : ∀ fuel first found start {s rest}, rest ≠ ['\\'] → Ready s (cs ++ rest) g →
      ∃ s', Ready s' rest g' ∧ partsAfter (fuel + 3 * cs.length + 2) first found start t s
        = parts (fuel + 3 * cs.length + 2) first (p :: found) s') :
    Item (t.chars ++ cs) g p g' := by
  refine ⟨by cases t <;> exact List.cons_ne_nil _ _, hquiet, ?_⟩
  intro fuel first found s rest hrest hs
  rw [List.append_assoc] at hs
  obtain ⟨s₁, hs₁, hrun⟩ := parts_token ht hbar hclose (append_ne_backslash hcs hrest) hs
  obtain ⟨k, hk⟩ : ∃ k, 3 * t.chars.length = k + 3 := by
    cases t with
    | char c => exact ⟨0, rfl⟩
    | escape c => exact ⟨3, rfl⟩
  obtain ⟨s', hs', hafter⟩ := h (fuel + k) first found s.position hrest hs₁
  have hfuel : fuel + 3 * (t.chars ++ cs).length = fuel + k + 3 * cs.length + 2 + 1 := by
    rw [List.length_append]
    omega
  refine ⟨k + 3 * cs.length + 2, s', hs', ?_⟩
  rw [hfuel, hrun, hafter]
  congr 1
  omega

/-- A part that is one token. -/
theorem item_of_one (ht : t ≠ .char '\\') (hbar : t ≠ .char '|') (hclose : t ≠ .char ')')
    (hquiet : Quiet t.chars)
    (h : ∀ {fuel first found start s rest}, Ready s rest g →
      partsAfter fuel first found start t s = parts fuel first (p :: found) s) :
    Item t.chars g p g := by
  rw [← List.append_nil t.chars] at hquiet ⊢
  exact item_of_token ht hbar hclose hquiet (by decide) fun _ _ _ _ _ _ _ hs => ⟨_, hs, h hs⟩

/-! ### Single tokens -/

/-- The pattern of a character. -/
def charNode (c : Char) : Node := .set (.single .exact c.toNat)

/-- A character that means something stands for itself after a backslash. -/
theorem escape_special (hc : c ∈ specialChars) (h : Ready s rest g) :
    escape c s = .ok (charNode c, s) := by
  obtain ⟨n, ws, rfl⟩ := h
  simp only [specialChars, List.mem_cons, List.not_mem_nil, or_false] at hc
  rcases hc with rfl | rfl | rfl | rfl | rfl | rfl | rfl | rfl | rfl | rfl | rfl | rfl | rfl | rfl |
    rfl | rfl | rfl | rfl | rfl | rfl | rfl | rfl | rfl | rfl <;> rfl

/-- The characters that mean something outside sets. -/
def metaChars : List Char :=
  ['\\', '[', '.', '^', '$', '?', '*', '+', '\x7b', '(', ')', '|']

/-- A character that means nothing stands for itself. -/
theorem item_plain (g : Nat) (hc : c ∉ metaChars) : Item [c] g ⟨charNode c, false⟩ g := by
  have hne : ∀ d ∈ metaChars, Token.char c ≠ .char d := fun d hd h => hc (Token.char.inj h ▸ hd)
  have hmark : c ∉ repetitionMarks := fun hmem => hc <| by
    have hmarks : repetitionMarks ⊆ metaChars := by decide
    exact hmarks hmem
  change Item (Token.char c).chars g _ g
  refine item_of_one (hne _ (by decide)) (hne _ (by decide)) (hne _ (by decide))
    (quiet_cons hmark (.inl fun h => hne '\\' (by decide) (congrArg _ h))) fun hs => ?_
  obtain ⟨n, ws, rfl⟩ := hs
  rw [partsAfter]
  · rfl
  -- the other tokens are marks, which `c` is not
  all_goals exact fun h => hne _ (by decide) (congrArg _ h)

/-- **A character**, with a backslash before it if it means something, is read as itself. -/
theorem item_char (c : Char) (g : Nat) : Item (escapeChar c) g ⟨charNode c, false⟩ g := by
  by_cases hc : c ∈ specialChars
  · have hchars : escapeChar c = (Token.escape c).chars :=
      if_pos (List.contains_iff_mem.mpr hc)
    rw [hchars]
    refine item_of_one (by simp) (by simp) (by simp)
      (quiet_cons (by decide) (.inr (List.cons_ne_nil c []))) fun hs => ?_
    rw [partsAfter, bind_of_ok (escape_special hc hs)]
  · have hchars : escapeChar c = [c] := if_neg (mt List.contains_iff_mem.mp hc)
    have hmeta : metaChars ⊆ specialChars := by decide
    rw [hchars]
    exact item_plain g fun h => hc (hmeta h)

/-- The pattern of a digit. -/
def digitNode : Node := .set ⟨false, .exact, [.category .digit false false]⟩

theorem item_digit (g : Nat) : Item ['\\', 'd'] g ⟨digitNode, false⟩ g := by
  refine item_of_one (t := .escape 'd') (by simp) (by simp) (by simp)
    (quiet_cons (by decide) (.inr (by decide))) fun hs => ?_
  obtain ⟨n, ws, rfl⟩ := hs
  rfl

theorem item_any (g : Nat) : Item ['.'] g ⟨.set (.any false), false⟩ g :=
  item_of_one (t := .char '.') (by decide) (by decide) (by decide)
    (quiet_cons (by decide) (.inl (by decide))) fun _ => rfl

theorem item_textStart (g : Nat) : Item ['^'] g ⟨.anchor .textStart, false⟩ g :=
  item_of_one (t := .char '^') (by decide) (by decide) (by decide)
    (quiet_cons (by decide) (.inl (by decide))) fun _ => rfl

theorem item_lastLineEnd (g : Nat) : Item ['$'] g ⟨.anchor .lastLineEnd, false⟩ g :=
  item_of_one (t := .char '$') (by decide) (by decide) (by decide)
    (quiet_cons (by decide) (.inl (by decide))) fun _ => rfl

/-- The set of the digits of ASCII, given by its first and its last one. -/
theorem item_digitRange (g : Nat) :
    Item ['[', '0', '-', '9', ']'] g ⟨.set ⟨false, .exact, [.range 48 57]⟩, false⟩ g := by
  change Item ((Token.char '[').chars ++ ['0', '-', '9', ']']) _ _ _
  refine item_of_token (by decide) (by decide) (by decide)
    (quiet_cons (by decide) (.inl (by decide))) (by decide) ?_
  intro fuel first found start s rest hrest hs
  have hcaret : Token.first? ('0' :: '-' :: '9' :: ']' :: rest) ≠ some (.char '^') := by
    rw [first?_char (by decide)]
    decide
  obtain ⟨s₁, hs₁, hzero⟩ := next?_ready (by decide) (by simp) hs
  obtain ⟨s₂, hs₂, hdash⟩ := accept_ready (by decide) (by simp) hs₁
  obtain ⟨s₃, hs₃, hnine⟩ := next?_ready (by decide) (by simp) hs₂
  obtain ⟨s₄, hs₄, hclose⟩ := next?_ready (by decide) hrest hs₃
  have hitems : ∀ start fuel, setItems start (fuel + 2) [] s = .ok ([.range 48 57], s₄) := by
    intro start fuel
    rw [setItems, bind_of_ok hzero]
    dsimp only
    rw [if_neg (by decide), bind_of_ok (x := setMember _) rfl, bind_of_ok hdash, if_pos rfl,
      bind_of_ok hnine]
    dsimp only
    rw [if_neg (by decide), bind_of_ok (x := setRange _ _ _) rfl, setItems, bind_of_ok hclose]
    rfl
  have hset : charSet s = .ok (.set ⟨false, .exact, [.range 48 57]⟩, s₄) := by
    rw [charSet, bind_of_ok (x := get) rfl, bind_of_ok (accept_other hcaret hs),
      bind_of_ok (x := get) rfl]
    obtain ⟨n, ws, rfl⟩ := hs
    obtain ⟨m, vs, rfl⟩ := hs₄
    exact bind_of_ok (hitems _ (rest.length + 3))
  refine ⟨s₄, hs₄, ?_⟩
  rw [partsAfter, bind_of_ok hset]

/-! ### Repetitions -/

/-- Whether a part may be repeated. -/
def Part.isRepeatable (p : Part) : Bool :=
  p.grouped || match p.node with
    | .anchor _ | .repeat .. => false
    | _ => true

/-- The last part is repeated, as often as possible first. -/
theorem repeatLast_ready (hp : p.isRepeatable = true) (hrest : Quiet rest) (hs : Ready s rest g)
    (start least : Nat) (most? : Option Nat) (found : List Part) :
    repeatLast start least most? (p :: found) s
      = .ok (⟨.repeat .greedy least most? p.node, false⟩ :: found, s) := by
  have hgreed : greedMark s = .ok (.greedy, s) := by
    rw [greedMark, bind_of_ok (accept_other (hrest.first_ne (by decide)) hs)]
    rw [if_neg (by decide), bind_of_ok (accept_other (hrest.first_ne (by decide)) hs)]
    rfl
  have hrun : ∀ node, (do
      let greed ← greedMark
      return ⟨.repeat greed least most? node, false⟩ :: found : Parse (List Part)) s
        = .ok (⟨.repeat .greedy least most? node, false⟩ :: found, s) := fun node => by
    rw [bind_of_ok hgreed]
    rfl
  obtain ⟨node, grouped⟩ := p
  cases grouped with
  | true => cases node <;> exact hrun _
  | false => cases node <;> first | exact hrun _ | cases hp

/-- **A part with a mark of repetition** after it. -/
theorem Item.marked (h : Item cs g p g') (hp : p.isRepeatable = true) {m : Char} {ms : List Char}
    (hm : m ∈ repetitionMarks) (hms : ms ≠ ['\\']) (least : Nat) (most? : Option Nat)
    (hread : ∀ fuel first found start {s rest}, rest ≠ ['\\'] → Ready s (ms ++ rest) g' →
      ∃ s', Ready s' rest g' ∧ partsAfter fuel first found start (.char m) s
        = (repeatLast start least most? found >>= fun found => parts fuel first found) s') :
    Adds (cs ++ m :: ms) g [⟨.repeat .greedy least most? p.node, false⟩] g' := by
  have hproper : m ≠ '\\' ∧ m ≠ '|' ∧ m ≠ ')' := by
    have hmarks : ∀ m ∈ repetitionMarks, m ≠ '\\' ∧ m ≠ '|' ∧ m ≠ ')' := by
      simp [repetitionMarks]
    exact hmarks m hm
  have hquiet : Quiet (cs ++ m :: ms) := by
    refine ⟨append_ne_backslash h.quiet.1 fun heq => hproper.1 (List.cons.inj heq).1, ?_⟩
    cases cs with
    | nil => exact absurd rfl h.nonempty
    | cons c cs => exact h.quiet.2
  refine ⟨hquiet, ?_⟩
  intro fuel first found s rest hrest hs
  rw [List.append_assoc] at hs
  have hmark : m :: ms ++ rest ≠ ['\\'] := fun heq => hproper.1 (List.cons.inj heq).1
  obtain ⟨k, s₁, hs₁, hrun⟩ := h.reads (fuel + 3 + 3 * ms.length) first found hmark hs
  obtain ⟨s₂, hs₂, htoken⟩ := parts_token (t := .char m) (by simpa using hproper.1)
    (by simpa using hproper.2.1) (by simpa using hproper.2.2) (append_ne_backslash hms hrest.1) hs₁
  obtain ⟨s', hs', hafter⟩ := hread (fuel + 2 + 3 * ms.length + k) first (p :: found)
    s₁.position hrest.1 hs₂
  rw [bind_of_ok (repeatLast_ready hp hrest hs' ..)] at hafter
  have hfuel : fuel + 3 * (cs ++ m :: ms).length = fuel + 3 + 3 * ms.length + 3 * cs.length := by
    rw [List.length_append, List.length_cons]
    omega
  have hleft : fuel + 3 + 3 * ms.length + k = fuel + 2 + 3 * ms.length + k + 1 := by omega
  refine ⟨2 + 3 * ms.length + k, s', hs', ?_⟩
  rw [hfuel, hrun, hleft, htoken, hafter]
  congr 1
  omega

/-- A part that may be left out. -/
theorem Item.optional (h : Item cs g p g') (hp : p.isRepeatable = true) :
    Adds (cs ++ ['?']) g [⟨.repeat .greedy 0 (some 1) p.node, false⟩] g' :=
  h.marked hp (by decide) (by decide) 0 (some 1) fun _ _ _ _ _ _ _ hs => ⟨_, hs, rfl⟩

/-- A part any number of times. -/
theorem Item.star (h : Item cs g p g') (hp : p.isRepeatable = true) :
    Adds (cs ++ ['*']) g [⟨.repeat .greedy 0 none p.node, false⟩] g' :=
  h.marked hp (by decide) (by decide) 0 none fun _ _ _ _ _ _ _ hs => ⟨_, hs, rfl⟩

/-- One character of a class before another character. -/
theorem takeWhile_one {q : Char → Bool} {d : Char} (hc : c ≠ '\\') (hq : q c = true)
    (hd : d ≠ '\\') (hqd : q d = false) (hs : Ready s (c :: d :: rest) g) :
    ∃ s', Ready s' (d :: rest) g ∧ ∀ n, takeWhile q (n + 2) s = .ok ([c], s') := by
  have hrest : d :: rest ≠ ['\\'] := fun heq => hd (List.cons.inj heq).1
  obtain ⟨s', hs', hadvance⟩ := advance_ready (t := .char c) (by simpa using hc) hrest hs
  refine ⟨s', hs', fun n => ?_⟩
  rw [takeWhile, bind_of_ok (peek?_ready hs), first?_char hc]
  dsimp only
  rw [if_pos hq, bind_of_ok hadvance, takeWhile, bind_of_ok (x := _ >>= _) (a := [])]
  · rfl
  · rw [bind_of_ok (peek?_ready hs'), first?_char hd]
    dsimp only
    rw [hqd]
    rfl

/-- The number that a digit is. -/
def digitNumber (d : Char) : Nat := d.toNat - 48

theorem repetitionCount_digit {d : Char} (hd : d.isDigit = true) :
    repetitionCount [d] s = .ok (digitNumber d, s) := by
  have hlast : d.toNat ≤ 57 := by
    simp only [Char.isDigit, Bool.and_eq_true, decide_eq_true_eq] at hd
    exact hd.2
  have hvalue : Numeral.digitsValue ([d].map fun d => d.toNat - 48) = digitNumber d := by
    simp [Numeral.digitsValue, digitNumber]
  have hsmall : ¬ repetitionLimit ≤ digitNumber d := by
    rw [repetitionLimit, digitNumber]
    omega
  rw [repetitionCount, hvalue, if_neg hsmall]
  rfl

/-- One number of rounds in braces. -/
theorem bounds?_exact {d : Char} (hd : d.isDigit = true) (hrest : rest ≠ ['\\'])
    (hs : Ready s (d :: '\x7d' :: rest) g) : ∃ s', Ready s' rest g ∧
      bounds? s = .ok (some (digitNumber d, some (digitNumber d)), s') := by
  have hproper : d ≠ '\\' ∧ d ≠ '\x7d' := by
    constructor <;> (rintro rfl; cases hd)
  obtain ⟨s₁, hs₁, hlow⟩ := takeWhile_one (q := Char.isDigit) hproper.1 hd (by decide)
    (by decide) hs
  obtain ⟨s', hs', hclose⟩ := accept_ready (by decide) hrest hs₁
  have hcomma : Token.first? ('\x7d' :: rest) ≠ some (.char ',') := by
    rw [first?_char (by decide)]
    decide
  have hroom : s.rest.length = rest.length + 2 := by
    obtain ⟨n, ws, rfl⟩ := hs
    rfl
  refine ⟨s', hs', ?_⟩
  rw [bounds?, bind_of_ok (peek?_ready hs), first?_char hproper.1,
    if_neg (by simpa using hproper.2), bind_of_ok (x := get) rfl, bind_of_ok (x := get) rfl]
  dsimp only
  rw [hroom, bind_of_ok (hlow _), bind_of_ok (accept_other hcomma hs₁), if_neg (by decide),
    bind_of_ok (x := pure _) rfl, bind_of_ok hclose, if_neg (by decide), if_neg (by simp),
    bind_of_ok (repetitionCount_digit hd), if_neg (by simp), bind_of_ok (repetitionCount_digit hd),
    if_neg (Nat.lt_irrefl _)]
  rfl

/-- The least and the most number of rounds in braces. -/
theorem bounds?_between {d e : Char} (hd : d.isDigit = true) (he : e.isDigit = true)
    (hle : digitNumber d ≤ digitNumber e) (hrest : rest ≠ ['\\'])
    (hs : Ready s (d :: ',' :: e :: '\x7d' :: rest) g) : ∃ s', Ready s' rest g ∧
      bounds? s = .ok (some (digitNumber d, some (digitNumber e)), s') := by
  have hproper : ∀ d : Char, d.isDigit = true → d ≠ '\\' ∧ d ≠ '\x7d' := by
    rintro d hd
    constructor <;> (rintro rfl; cases hd)
  have hhigh : e :: '\x7d' :: rest ≠ ['\\'] := fun heq => (hproper e he).1 (List.cons.inj heq).1
  obtain ⟨s₁, hs₁, hlow⟩ := takeWhile_one (q := Char.isDigit) (hproper d hd).1 hd (by decide)
    (by decide) hs
  obtain ⟨s₂, hs₂, hcomma⟩ := accept_ready (by decide) hhigh hs₁
  obtain ⟨s₃, hs₃, hhigh⟩ := takeWhile_one (q := Char.isDigit) (hproper e he).1 he (by decide)
    (by decide) hs₂
  obtain ⟨s', hs', hclose⟩ := accept_ready (by decide) hrest hs₃
  have hroom : s.rest.length = rest.length + 2 + 2 := by
    obtain ⟨n, ws, rfl⟩ := hs
    rfl
  refine ⟨s', hs', ?_⟩
  rw [bounds?, bind_of_ok (peek?_ready hs), first?_char (hproper d hd).1,
    if_neg (by simpa using (hproper d hd).2), bind_of_ok (x := get) rfl, bind_of_ok (x := get) rfl]
  dsimp only
  rw [hroom, bind_of_ok (hlow _), bind_of_ok hcomma, if_pos rfl, bind_of_ok (hhigh _),
    bind_of_ok hclose, if_neg (by decide), if_neg (by simp), bind_of_ok (repetitionCount_digit hd),
    if_neg (by simp), bind_of_ok (repetitionCount_digit he), if_neg (Nat.not_lt.mpr hle)]
  rfl

/-- A part a number of times. -/
theorem Item.times (h : Item cs g p g') (hp : p.isRepeatable = true) {d : Char}
    (hd : d.isDigit = true) : Adds (cs ++ ['\x7b', d, '\x7d']) g
      [⟨.repeat .greedy (digitNumber d) (some (digitNumber d)) p.node, false⟩] g' := by
  refine h.marked hp (by decide) (by simp) _ _ fun _ _ _ _ _ _ hrest hs => ?_
  obtain ⟨s', hs', hbounds⟩ := bounds?_exact hd hrest hs
  exact ⟨s', hs', by rw [partsAfter, bind_of_ok hbounds]⟩

/-- A part a number of times between two. -/
theorem Item.between (h : Item cs g p g') (hp : p.isRepeatable = true) {d e : Char}
    (hd : d.isDigit = true) (he : e.isDigit = true) (hle : digitNumber d ≤ digitNumber e) :
    Adds (cs ++ ['\x7b', d, ',', e, '\x7d']) g
      [⟨.repeat .greedy (digitNumber d) (some (digitNumber e)) p.node, false⟩] g' := by
  refine h.marked hp (by decide) (by simp) _ _ fun _ _ _ _ _ _ hrest hs => ?_
  obtain ⟨s', hs', hbounds⟩ := bounds?_between hd he hle hrest hs
  exact ⟨s', hs', by rw [partsAfter, bind_of_ok hbounds]⟩

/-! ### Alternatives -/

theorem alternatives_eq (fuel : Nat) : alternatives fuel false = alternativesAfter fuel := by
  cases fuel <;> rfl

/-- A sequence before a closing parenthesis. -/
theorem Adds.choice (h : Adds cs g ps g') : Choice cs g (sequenceOf ps) g' := by
  refine ⟨h.quiet, ?_⟩
  intro fuel s rest hs
  have hquiet : Quiet (')' :: rest) := quiet_cons (by decide) (.inl (by decide))
  obtain ⟨k, s', hs', hrun⟩ := h.reads (fuel + 1) false [] hquiet hs
  have hstop := parts_stop (fuel + k) false (ps.reverse ++ []) hs' (.inr ⟨rest, .inr rfl⟩)
  have hbar : Token.first? (')' :: rest) ≠ some (.char '|') := by
    rw [first?_char (by decide)]
    decide
  have hfuel : fuel + 3 * cs.length + 2 = fuel + 1 + 3 * cs.length + 1 := by omega
  have hleft : fuel + 1 + k = fuel + k + 1 := by omega
  rw [hleft, hstop, List.append_nil, List.reverse_reverse] at hrun
  refine ⟨s', hs', ?_⟩
  rw [hfuel, alternativesAfter, bind_of_ok hrun, bind_of_ok (accept_other hbar hs')]
  rfl

/-- A sequence before a bar, and the alternatives after it. -/
theorem Adds.or (h : Adds cs g ps g₁) (h' : Choice ds g₁ n g') :
    Choice (cs ++ '|' :: ds) g (.alt (sequenceOf ps) n) g' := by
  have hbar : Quiet ('|' :: ds) := quiet_cons (by decide) (.inl (by decide))
  refine ⟨h.quiet.append hbar, ?_⟩
  intro fuel s rest hs
  rw [List.append_assoc] at hs
  have hquiet : Quiet ('|' :: ds ++ ')' :: rest) := quiet_cons (by decide) (.inl (by decide))
  obtain ⟨k, s₁, hs₁, hrun⟩ := h.reads (fuel + 3 * ds.length + 4) false [] hquiet hs
  have hstop := parts_stop (fuel + 3 * ds.length + 3 + k) false (ps.reverse ++ []) hs₁
    (.inr ⟨_, .inl rfl⟩)
  have hclose : ds ++ ')' :: rest ≠ ['\\'] := append_ne_backslash h'.quiet.1 (by simp)
  obtain ⟨s₂, hs₂, haccept⟩ := accept_ready (by decide) hclose hs₁
  obtain ⟨s', hs', hothers⟩ := h'.reads (fuel + 2 + 3 * cs.length) hs₂
  have hfuel : fuel + 3 * (cs ++ '|' :: ds).length + 2
      = fuel + 3 * ds.length + 4 + 3 * cs.length + 1 := by
    rw [List.length_append, List.length_cons]
    omega
  have hleft : fuel + 3 * ds.length + 4 + k = fuel + 3 * ds.length + 3 + k + 1 := by omega
  have hright : fuel + 3 * ds.length + 4 + 3 * cs.length
      = fuel + 2 + 3 * cs.length + 3 * ds.length + 2 := by omega
  rw [hleft, hstop, List.append_nil, List.reverse_reverse] at hrun
  refine ⟨s', hs', ?_⟩
  rw [hfuel, alternativesAfter, bind_of_ok hrun, bind_of_ok haccept, if_pos rfl, hright,
    bind_of_ok hothers]
  rfl

/-- The body of a group, and the parenthesis that closes it. -/
theorem Choice.closed (h : Choice cs g n g') (hrest : rest ≠ ['\\'])
    (hs : Ready s (cs ++ ')' :: rest) g) (start fuel : Nat) :
    ∃ s₁ s', alternatives (fuel + 3 * cs.length + 2) false s = .ok (n, s₁) ∧
      closing start s₁ = .ok ((), s') ∧ Ready s' rest g' := by
  obtain ⟨s₁, hs₁, hbody⟩ := h.reads fuel hs
  obtain ⟨s', hs', haccept⟩ := accept_ready (by decide) hrest hs₁
  refine ⟨s₁, s', ?_, ?_, hs'⟩
  · rw [alternatives_eq, hbody]
  · rw [closing, bind_of_ok haccept]
    rfl

/-- What an opening parenthesis opens, and its body. -/
theorem item_of_group {mark : List Char} (hmark : mark ++ cs ≠ ['\\'])
    (h : ∀ (start fuel : Nat) (atStart : Bool) {s : ParseState} {rest : List Char},
      rest ≠ ['\\'] → Ready s (mark ++ (cs ++ ')' :: rest)) g → ∃ s', Ready s' rest g' ∧
        groupPart (fuel + 3 * cs.length + 3) start atStart s = .ok (some p, s')) :
    Item ('(' :: (mark ++ cs ++ [')'])) g p g' := by
  have hbody : mark ++ cs ++ [')'] ≠ ['\\'] := append_ne_backslash hmark (by decide)
  change Item ((Token.char '(').chars ++ (mark ++ cs ++ [')'])) _ _ _
  refine item_of_token (by decide) (by decide) (by decide)
    (quiet_cons (by decide) (.inl (by decide))) hbody ?_
  intro fuel first found start s rest hrest hs
  rw [List.append_assoc, List.append_assoc] at hs
  have hfuel : fuel + 3 * (mark ++ cs ++ [')']).length + 2
      = fuel + 3 * mark.length + 2 + 3 * cs.length + 3 := by
    rw [List.length_append, List.length_append, List.length_singleton]
    omega
  obtain ⟨s', hs', hgroup⟩ := h start (fuel + 3 * mark.length + 2) (first && found.isEmpty) hrest hs
  refine ⟨s', hs', ?_⟩
  rw [partsAfter, hfuel, bind_of_ok hgroup]

/-- **A group** that captures what it matches. -/
theorem Choice.group (h : Choice cs (g + 1) n g') :
    Item ('(' :: (cs ++ [')'])) g ⟨.group g n, true⟩ g' := by
  change Item ('(' :: ([] ++ cs ++ [')'])) _ _ _
  refine item_of_group h.quiet.1 ?_
  intro start fuel atStart s rest hrest hs
  have hquiet : Quiet (cs ++ ')' :: rest) :=
    h.quiet.append (quiet_cons (by decide) (.inl (by decide)))
  have hopening : opening start s = .ok (.group none, s) := by
    rw [opening, bind_of_ok (accept_other (hquiet.first_ne (by decide)) hs)]
    rfl
  obtain ⟨s₁, hs₁, hopen⟩ : ∃ s₁, Ready s₁ (cs ++ ')' :: rest) (g + 1) ∧
      openGroup none s = .ok (g, s₁) := by
    obtain ⟨m, ws, rfl⟩ := hs
    exact ⟨_, ⟨m, ws, rfl⟩, rfl⟩
  obtain ⟨s₂, s₃, hbody, hclosing, hs₃⟩ := h.closed hrest hs₁ start fuel
  obtain ⟨s', hs', hclose⟩ : ∃ s', Ready s' rest g' ∧ closeGroup g n s₃ = .ok ((), s') := by
    obtain ⟨m, ws, rfl⟩ := hs₃
    exact ⟨_, ⟨m, _, rfl⟩, rfl⟩
  refine ⟨s', hs', ?_⟩
  rw [groupPart, bind_of_ok hopening]
  dsimp only
  rw [bind_of_ok hopen, bind_of_ok hbody, bind_of_ok hclosing, bind_of_ok hclose]
  rfl

/-- A parenthesis that captures nothing, and one that looks ahead. -/
theorem opening_marked {o : Opening} (start : Nat)
    (hmark : c = ':' ∧ o = .plain ∨ c = '=' ∧ o = .ahead false) (hcs : cs ≠ ['\\'])
    (hs : Ready s ('?' :: c :: cs) g) :
    ∃ s', Ready s' cs g ∧ opening start s = .ok (o, s') := by
  have hc : c ≠ '\\' := by rcases hmark with ⟨rfl, -⟩ | ⟨rfl, -⟩ <;> decide
  have hrest : c :: cs ≠ ['\\'] := fun heq => hc (List.cons.inj heq).1
  obtain ⟨s₁, hs₁, hquestion⟩ := accept_ready (by decide) hrest hs
  obtain ⟨s', hs', hnext⟩ := next?_ready hc hcs hs₁
  refine ⟨s', hs', ?_⟩
  rw [opening, bind_of_ok hquestion, if_neg (by decide), bind_of_ok hnext]
  rcases hmark with ⟨rfl, rfl⟩ | ⟨rfl, rfl⟩ <;> rfl

/-- Alternatives in parentheses with a mark after the first one. -/
theorem Choice.opened (h : Choice cs g n g') {o : Opening} (hopen : c = ':' ∧ o = .plain ∨
      c = '=' ∧ o = .ahead false) (hp : o = .plain ∧ p = ⟨n, true⟩ ∨
      o = .ahead false ∧ p = ⟨.ahead false n, true⟩) :
    Item ('(' :: (['?', c] ++ cs ++ [')'])) g p g' := by
  refine item_of_group (by simp) ?_
  intro start fuel atStart s rest hrest hs
  have hinside : cs ++ ')' :: rest ≠ ['\\'] := append_ne_backslash h.quiet.1 (by simp)
  obtain ⟨s₁, hs₁, hopening⟩ := opening_marked start hopen hinside hs
  obtain ⟨s₂, s', hbody, hclosing, hs'⟩ := h.closed hrest hs₁ start fuel
  refine ⟨s', hs', ?_⟩
  rw [groupPart, bind_of_ok hopening]
  rcases hp with ⟨rfl, rfl⟩ | ⟨rfl, rfl⟩
  · dsimp only
    rw [bind_of_ok hbody, bind_of_ok hclosing]
    rfl
  · dsimp only
    rw [bind_of_ok hbody, bind_of_ok hclosing]
    rfl

/-- A group that captures nothing. -/
theorem Choice.plain (h : Choice cs g n g') :
    Item ('(' :: (['?', ':'] ++ cs ++ [')'])) g ⟨n, true⟩ g' :=
  h.opened (.inl ⟨rfl, rfl⟩) (.inl ⟨rfl, rfl⟩)

/-- A look ahead. -/
theorem Choice.ahead (h : Choice cs g n g') :
    Item ('(' :: (['?', '='] ++ cs ++ [')'])) g ⟨.ahead false n, true⟩ g' :=
  h.opened (.inr ⟨rfl, rfl⟩) (.inr ⟨rfl, rfl⟩)

end

/-! ### Whole patterns -/

/-- **A piece is read as a whole pattern.** -/
theorem parse_of_adds {cs : List Char} {g' : Nat} {ps : List Part} (h : Adds cs 1 ps g') :
    parse (String.ofList cs) {} = .ok (sequenceOf ps, {}) := by
  have hstart : Ready { rest := cs, flags := {} } (cs ++ []) 1 := by
    rw [List.append_nil]
    exact ⟨0, [], rfl⟩
  obtain ⟨k, s, hs, hrun⟩ := h.reads 9 true [] quiet_nil hstart
  have hstop := parts_stop (8 + k) true (ps.reverse ++ []) hs (.inl rfl)
  have hleft : 9 + k = 8 + k + 1 := by omega
  rw [hleft, hstop, List.append_nil, List.reverse_reverse] at hrun
  rw [List.append_nil] at hstart
  have hfuel : 3 * cs.length + 10 = 9 + 3 * cs.length + 1 := by omega
  have halternatives : alternatives (3 * cs.length + 10) true { rest := cs, flags := {} }
      = .ok (sequenceOf ps, s) := by
    rw [hfuel, alternatives, bind_of_ok hrun, bind_of_ok (accept_other (by simp [Token.first?]) hs)]
    rfl
  have hwhole : wholePattern { rest := cs, flags := {} } = .ok (sequenceOf ps, s) := by
    rw [wholePattern, bind_of_ok (checkEnd_ready h.quiet.1 hstart), bind_of_ok (x := get) rfl]
    obtain ⟨n, ws, rfl⟩ := hs
    exact bind_of_ok halternatives
  obtain ⟨n, ws, rfl⟩ := hs
  rw [parse, String.toList_ofList]
  change (wholePattern _ >>= _) = _
  rw [hwhole]
  rfl

/-- A pattern that can be read compiles. -/
theorem compile_of_parse {source : String} {n : Node} (h : parse source {} = .ok (n, {}))
    (path : String) : compile source {} "" path = .ok ⟨source, {}, n⟩ := by
  have hsource : ofSource source (PatternFlags.union {} {}) = .ok ⟨source, {}, n⟩ := by
    rw [ofSource]
    change (parse source {} >>= _) = _
    rw [h]
    rfl
  have hletters : letterFlags "".toList = .ok {} := rfl
  rw [compile, hletters]
  dsimp only
  rw [hsource]

end RuleSchema.Pattern
