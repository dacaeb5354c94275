import RuleSchema.Pattern.Matcher

/-!
# What a pattern reads

The matcher tries the ways in which a pattern can match one after the other, in an order of
preference, and asks a continuation after each.  Whether it finds a match does not depend on that
order: it finds one just if the pattern can read some stretch of the text that the continuation
accepts.  What a pattern can read is said here without any order, for the regular patterns, which
neither commit to their first way nor refer to what their groups have matched.

A repetition makes no round from a place where its last round has started.  No match is lost by
that: a round that reads nothing can be left out, and no other round ends where it starts.

* `Node.Reads` says which stretches of a text a pattern reads.
* `Finds m R`: the matcher `m` finds the stretches with the property `R`.
* `greedyRounds_finds`: the rounds of a repetition, whatever its preference.
* `run_finds`: **the matcher finds what a pattern reads.**
* `matchStart_iff`, `fullMatch_iff` and `search_iff`: matches at the start of a text, of the whole
  text, and anywhere.
-/

namespace RuleSchema.Pattern

/-! ### Stretches of a text -/

/-- A property of a stretch of a text: of the characters before it, the nearest first, of its own
characters, and of what follows it. -/
abbrev Stretch := List Char → List Char → List Char → Prop

/-- The stretches that `n` stretches with a property make up, one after the other. -/
def Rounds (R : Stretch) : Nat → Stretch
  | 0 => fun _ w _ => w = []
  | n + 1 => fun before w rest => ∃ u v, w = u ++ v ∧ R before u (v ++ rest) ∧
      Rounds R n (u.reverse ++ before) v rest

/-- Whether a pattern neither commits to its first way nor refers to its groups. -/
def Node.isRegular : Node → Bool
  | .empty | .set _ | .anchor _ => true
  | .seq a b | .alt a b => a.isRegular && b.isRegular
  | .repeat greed _ _ body => greed != .possessive && body.isRegular
  | .group _ body | .ahead _ body => body.isRegular
  | .atomic _ | .behind .. | .reference .. | .conditional .. => false

/-- The stretches that a regular pattern reads. -/
def Node.Reads : Node → Stretch
  | .empty => fun _ w _ => w = []
  | .set s => fun _ w _ => ∃ c, s.holds c = true ∧ w = [c]
  | .anchor a => fun before w rest => w = [] ∧ a.holds ⟨before, rest, []⟩ = true
  | .seq a b => fun before w rest => ∃ u v, w = u ++ v ∧ a.Reads before u (v ++ rest) ∧
      b.Reads (u.reverse ++ before) v rest
  | .alt a b => fun before w rest => a.Reads before w rest ∨ b.Reads before w rest
  | .repeat _ least most? body => fun before w rest => ∃ n,
      (∀ most, most? = some most → n ≤ most - least) ∧ Rounds body.Reads (least + n) before w rest
  | .group _ body => body.Reads
  | .ahead negated body => fun before w rest => w = [] ∧
      ((∃ u v, rest = u ++ v ∧ body.Reads before u v) ↔ negated = false)
  | .atomic _ | .behind .. | .reference .. | .conditional .. => fun _ _ _ => False

theorem rounds_add {R : Stretch} : ∀ {m n : Nat} {before w rest : List Char},
    Rounds R (m + n) before w rest ↔ ∃ u v, w = u ++ v ∧ Rounds R m before u (v ++ rest) ∧
      Rounds R n (u.reverse ++ before) v rest := by
  intro m
  induction m with
  | zero =>
    intro n before w rest
    rw [Nat.zero_add]
    constructor
    · intro h
      exact ⟨[], w, rfl, rfl, h⟩
    · rintro ⟨u, v, rfl, rfl, h⟩
      exact h
  | succ m ih =>
    intro n before w rest
    rw [Nat.succ_add]
    constructor
    · rintro ⟨u, v, rfl, hu, hv⟩
      obtain ⟨v₁, v₂, rfl, hv₁, hv₂⟩ := ih.mp hv
      refine ⟨u ++ v₁, v₂, (List.append_assoc ..).symm, ⟨u, v₁, rfl, ?_, hv₁⟩, ?_⟩
      · rwa [← List.append_assoc]
      · rwa [List.reverse_append, List.append_assoc]
    · rintro ⟨_, v₂, rfl, ⟨u, v₁, rfl, hu, hv₁⟩, hv₂⟩
      refine ⟨u, v₁ ++ v₂, List.append_assoc .., ?_, ih.mpr ⟨v₁, v₂, rfl, hv₁, ?_⟩⟩
      · rwa [List.append_assoc]
      · rwa [← List.append_assoc, ← List.reverse_append]

/-! ### Matchers -/

/-- Whether a continuation accepts a place whatever the groups have matched. -/
def Blind (k : Cursor → Option Cursor) : Prop :=
  ∀ c : Cursor, (k c).isSome = (k { c with groups := [] }).isSome

/-- A matcher finds the stretches with a property: it comes to a place that the continuation
accepts just if there is such a place after one of them. -/
def Finds (m : Matcher) (R : Stretch) : Prop :=
  ∀ (c : Cursor) (k : Cursor → Option Cursor), Blind k →
    ((m c k).isSome = true ↔ ∃ w rest, c.rest = w ++ rest ∧ R c.before w rest ∧
      (k ⟨w.reverse ++ c.before, rest, []⟩).isSome = true)

section

variable {m : Matcher} {R : Stretch} {k : Cursor → Option Cursor} {c : Cursor}
  {before w rest : List Char}

theorem blind_some : Blind some := fun _ => rfl

theorem Finds.blind (h : Finds m R) (hk : Blind k) : Blind fun c => m c k := fun c =>
  Bool.eq_iff_iff.mpr ((h c k hk).trans (h { c with groups := [] } k hk).symm)

/-- A matcher alone. -/
theorem Finds.isSome (h : Finds m R) (c : Cursor) :
    (m c some).isSome = true ↔ ∃ w rest, c.rest = w ++ rest ∧ R c.before w rest := by
  rw [h c some blind_some]
  simp

/-- Reading nothing. -/
theorem blind_iff (hk : Blind k) (c : Cursor) :
    (k c).isSome = true ↔ ∃ w rest, c.rest = w ++ rest ∧ w = [] ∧
      (k ⟨w.reverse ++ c.before, rest, []⟩).isSome = true := by
  rw [hk c]
  constructor
  · intro h
    exact ⟨[], c.rest, rfl, rfl, h⟩
  · rintro ⟨_, rest, hrest, rfl, h⟩
    rw [List.nil_append] at hrest
    rwa [hrest]

/-- One matcher after another. -/
theorem Finds.seq {m' : Matcher} {R' : Stretch} (h : Finds m R) (h' : Finds m' R') :
    Finds (fun c k => m c fun d => m' d k) fun before w rest => ∃ u v, w = u ++ v ∧
      R before u (v ++ rest) ∧ R' (u.reverse ++ before) v rest := by
  intro c k hk
  rw [h c _ (h'.blind hk)]
  constructor
  · rintro ⟨u, rest', hc, hu, hsome⟩
    obtain ⟨v, rest, hrest, hv, hsome⟩ := (h' _ k hk).mp hsome
    obtain rfl : rest' = v ++ rest := hrest
    refine ⟨u ++ v, rest, by rw [hc, List.append_assoc], ⟨u, v, rfl, hu, hv⟩, ?_⟩
    rwa [List.reverse_append, List.append_assoc]
  · rintro ⟨_, rest, hc, ⟨u, v, rfl, hu, hv⟩, hsome⟩
    refine ⟨u, v ++ rest, by rw [hc, List.append_assoc], hu, (h' _ k hk).mpr ⟨v, rest, rfl, hv, ?_⟩⟩
    rwa [List.reverse_append, List.append_assoc] at hsome

theorem times_finds (h : Finds m R) : ∀ n : Nat, Finds (times m n) (Rounds R n)
  | 0 => fun c _ hk => blind_iff hk c
  | n + 1 => h.seq (times_finds h n)

/-! ### Repetitions -/

/-- Trying more rounds does not lose the way without. -/
theorem greedyRounds_of_stop (h : (k c).isSome = true) (fuel : Nat) (budget? last? : Option Nat) :
    (greedyRounds m fuel budget? last? c k).isSome = true := by
  cases fuel with
  | zero => exact h
  | succ fuel =>
    rw [greedyRounds]
    dsimp only
    split
    · split
      · rfl
      · exact h
    · exact h

/-- One round more, or none. -/
theorem greedyRounds_succ (fuel : Nat) (budget? last? : Option Nat) :
    (greedyRounds m (fuel + 1) budget? last? c k).isSome = true ↔
      (k c).isSome = true ∨ mayRepeat budget? last? c = true ∧
        (m c fun d => greedyRounds m fuel (budget?.map (· - 1)) (some c.rest.length) d k).isSome
          = true := by
  rw [greedyRounds]
  dsimp only
  split
  · next hmay =>
    simp only [hmay, true_and]
    cases m c fun d => greedyRounds m fuel (budget?.map (· - 1)) (some c.rest.length) d k with
    | none => simp
    | some d => simp
  · next hmay => simp [hmay]

/-- The last round is not made from where it would have to start. -/
theorem mayRepeat_iff {budget? last? : Option Nat} :
    mayRepeat budget? last? c = true ↔ budget? ≠ some 0 ∧ last? ≠ some c.rest.length := by
  simp [mayRepeat]

theorem greedyRounds_blind (h : Finds m R) (hk : Blind k) :
    ∀ (fuel : Nat) (budget? last? : Option Nat),
    Blind fun c => greedyRounds m fuel budget? last? c k
  | 0, _, _ => hk
  | fuel + 1, budget?, last? => fun c => by
    have hnext := greedyRounds_blind h hk fuel (budget?.map (· - 1)) (some c.rest.length)
    have hrounds := h.blind hnext c
    dsimp only at hrounds ⊢
    rw [Bool.eq_iff_iff, greedyRounds_succ, greedyRounds_succ, hk c, hrounds]
    rfl

/-- What is found by some rounds is read by some. -/
theorem rounds_of_greedyRounds (h : Finds m R) (hk : Blind k) :
    ∀ {fuel : Nat} {budget? last? : Option Nat} {c : Cursor},
      (greedyRounds m fuel budget? last? c k).isSome = true →
        ∃ n w rest, (∀ most, budget? = some most → n ≤ most) ∧ c.rest = w ++ rest ∧
          Rounds R n c.before w rest ∧ (k ⟨w.reverse ++ c.before, rest, []⟩).isSome = true := by
  intro fuel
  have hstop : ∀ {budget? : Option Nat} {c : Cursor}, (k c).isSome = true →
      ∃ n w rest, (∀ most, budget? = some most → n ≤ most) ∧ c.rest = w ++ rest ∧
        Rounds R n c.before w rest ∧ (k ⟨w.reverse ++ c.before, rest, []⟩).isSome = true := by
    intro budget? c hc
    obtain ⟨w, rest, hrest, hw, hsome⟩ := (blind_iff hk c).mp hc
    exact ⟨0, w, rest, fun _ _ => Nat.zero_le _, hrest, hw, hsome⟩
  induction fuel with
  | zero => exact hstop
  | succ fuel ih =>
    intro budget? last? c hc
    rcases (greedyRounds_succ fuel budget? last?).mp hc with hc | ⟨hmay, hc⟩
    · exact hstop hc
    · obtain ⟨u, rest', hrest', hu, hc⟩ := (h c _ (greedyRounds_blind h hk _ _ _)).mp hc
      obtain ⟨n, v, rest, hn, hrest, hv, hsome⟩ := ih hc
      obtain rfl : rest' = v ++ rest := hrest
      refine ⟨n + 1, u ++ v, rest, fun most hmost => ?_, by rw [hrest', List.append_assoc],
        ⟨u, v, rfl, hu, hv⟩, ?_⟩
      · have hpos : most ≠ 0 := fun h0 => (mayRepeat_iff.mp hmay).1 (by rw [hmost, h0])
        have := hn (most - 1) (by rw [hmost]; rfl)
        omega
      · rwa [List.reverse_append, List.append_assoc]

/-- What some rounds read is found.  A round that reads nothing is left out, so that every other
one starts behind the last. -/
theorem greedyRounds_of_rounds (h : Finds m R) (hk : Blind k) :
    ∀ {n fuel : Nat} {budget? last? : Option Nat} {before w rest : List Char},
      Rounds R n before w rest → (k ⟨w.reverse ++ before, rest, []⟩).isSome = true →
      (∀ most, budget? = some most → n ≤ most) → last? ≠ some (w ++ rest).length →
      w.length < fuel →
        (greedyRounds m fuel budget? last? ⟨before, w ++ rest, []⟩ k).isSome = true := by
  intro n
  induction n with
  | zero =>
    rintro fuel budget? last? before w rest rfl hsome - - -
    exact greedyRounds_of_stop hsome fuel budget? last?
  | succ n ih =>
    rintro fuel budget? last? before w rest ⟨u, v, rfl, hu, hv⟩ hsome hn hlast hfuel
    cases u with
    | nil =>
      exact ih hv hsome (fun most hmost => Nat.le_of_succ_le (hn most hmost)) hlast hfuel
    | cons x u =>
      obtain ⟨fuel, rfl⟩ : ∃ f, fuel = f + 1 := ⟨fuel - 1, by omega⟩
      have hmay : mayRepeat budget? last? ⟨before, x :: u ++ v ++ rest, []⟩ = true :=
        mayRepeat_iff.mpr ⟨fun h0 => Nat.not_succ_le_zero n (hn 0 h0), hlast⟩
      rw [greedyRounds_succ]
      refine .inr ⟨hmay, (h _ _ (greedyRounds_blind h hk _ _ _)).mpr
        ⟨x :: u, v ++ rest, List.append_assoc .., hu, ih hv ?_ ?_ ?_ ?_⟩⟩
      · rwa [List.reverse_append, List.append_assoc] at hsome
      · intro most hmost
        obtain ⟨b, rfl, rfl⟩ := Option.map_eq_some_iff.mp hmost
        have := hn b rfl
        omega
      · simp only [List.length_append, List.length_cons, ne_eq, Option.some.injEq]
        omega
      · simp only [List.length_append, List.length_cons] at hfuel
        omega

/-- The order of preference does not matter. -/
theorem lazyRounds_isSome (h : Finds m R) (hk : Blind k) :
    ∀ (fuel : Nat) (budget? last? : Option Nat) (c : Cursor),
      (lazyRounds m fuel budget? last? c k).isSome
      = (greedyRounds m fuel budget? last? c k).isSome := by
  intro fuel
  induction fuel with
  | zero => intro _ _ _; rfl
  | succ fuel ih =>
    intro budget? last? c
    have hblind := greedyRounds_blind h hk fuel (budget?.map (· - 1)) (some c.rest.length)
    have hlazy : Blind fun d =>
        lazyRounds m fuel (budget?.map (· - 1)) (some c.rest.length) d k := by
      intro d
      rw [ih, ih]
      exact hblind d
    have hbody : (m c fun d =>
          lazyRounds m fuel (budget?.map (· - 1)) (some c.rest.length) d k).isSome = true ↔
        (m c fun d =>
          greedyRounds m fuel (budget?.map (· - 1)) (some c.rest.length) d k).isSome = true := by
      rw [h c _ hlazy, h c _ hblind]
      simp only [ih]
    rw [Bool.eq_iff_iff, greedyRounds_succ, ← hbody, lazyRounds]
    dsimp only
    cases hc : k c with
    | some d => simp
    | none =>
      cases mayRepeat budget? last? c with
      | true => simp
      | false => simp

/-- **The rounds of a repetition**, with as many characters to read as there may be rounds. -/
theorem greedyRounds_finds (h : Finds m R) (hk : Blind k) {fuel : Nat} (budget? : Option Nat)
    (hfuel : c.rest.length < fuel) :
    (greedyRounds m fuel budget? none c k).isSome = true ↔
      ∃ w rest, c.rest = w ++ rest ∧
        (∃ n, (∀ most, budget? = some most → n ≤ most) ∧ Rounds R n c.before w rest) ∧
        (k ⟨w.reverse ++ c.before, rest, []⟩).isSome = true := by
  constructor
  · intro hc
    obtain ⟨n, w, rest, hn, hrest, hw, hsome⟩ := rounds_of_greedyRounds h hk hc
    exact ⟨w, rest, hrest, ⟨n, hn, hw⟩, hsome⟩
  · rintro ⟨w, rest, hrest, ⟨n, hn, hw⟩, hsome⟩
    have hlength : w.length < fuel := by
      rw [hrest, List.length_append] at hfuel
      omega
    have hnone : (none : Option Nat) ≠ some (w ++ rest).length := by simp
    have hfound := greedyRounds_of_rounds h hk hw hsome hn hnone hlength
    have hblind := greedyRounds_blind h hk fuel budget? none c
    dsimp only at hblind
    rw [hblind, hrest]
    exact hfound

end

/-! ### Patterns -/

/-- A repetition after its least number of rounds. -/
theorem rounds_finds {m : Matcher} {R : Stretch} (h : Finds m R) (least : Nat)
    (most? : Option Nat) :
    Finds (fun c k => times m least c fun d =>
        greedyRounds m (c.rest.length + 2) (most?.map (· - least)) none d k)
      fun before w rest => ∃ n, (∀ most, most? = some most → n ≤ most - least) ∧
        Rounds R (least + n) before w rest := by
  intro c k hk
  rw [times_finds h least c _ (greedyRounds_blind h hk _ _ _)]
  have hbound : ∀ n, (∀ most, most?.map (· - least) = some most → n ≤ most) ↔
      ∀ most, most? = some most → n ≤ most - least := by
    intro n
    cases most? <;> simp
  constructor
  · rintro ⟨u, rest', hc, hu, hsome⟩
    have hfuel : rest'.length < c.rest.length + 2 := by
      rw [hc, List.length_append]
      omega
    obtain ⟨v, rest, hrest, ⟨n, hn, hv⟩, hsome⟩ := (greedyRounds_finds h hk _ hfuel).mp hsome
    obtain rfl : rest' = v ++ rest := hrest
    refine ⟨u ++ v, rest, by rw [hc, List.append_assoc],
      ⟨n, (hbound n).mp hn, rounds_add.mpr ⟨u, v, rfl, hu, hv⟩⟩, ?_⟩
    rwa [List.reverse_append, List.append_assoc]
  · rintro ⟨_, rest, hc, ⟨n, hn, hrounds⟩, hsome⟩
    obtain ⟨u, v, rfl, hu, hv⟩ := rounds_add.mp hrounds
    have hfuel : (v ++ rest).length < c.rest.length + 2 := by
      simp only [hc, List.length_append]
      omega
    refine ⟨u, v ++ rest, by rw [hc, List.append_assoc], hu,
      (greedyRounds_finds h hk _ hfuel).mpr ⟨v, rest, rfl, ⟨n, (hbound n).mpr hn, hv⟩, ?_⟩⟩
    rwa [List.reverse_append, List.append_assoc] at hsome

section

variable {a b body : Node}

theorem set_finds (s : CharSet) : Finds (Node.set s).run (Node.set s).Reads := by
  rintro ⟨before, rest, groups⟩ k hk
  rw [Node.run]
  constructor
  · intro h
    cases rest with
    | nil => cases h
    | cons x rest =>
      dsimp only at h
      split at h
      · next hx => exact ⟨[x], rest, rfl, ⟨x, hx, rfl⟩, (hk _).symm.trans h⟩
      · cases h
  · rintro ⟨_, rest, rfl, ⟨x, hx, rfl⟩, h⟩
    dsimp only [List.singleton_append]
    rw [if_pos hx]
    exact (hk _).trans h

theorem anchor_finds (a : Anchor) : Finds (Node.anchor a).run (Node.anchor a).Reads := by
  intro c k hk
  have hplace : a.holds c = a.holds ⟨c.before, c.rest, []⟩ := by cases a <;> rfl
  have hif : ((Node.anchor a).run c k).isSome = true ↔
      a.holds ⟨c.before, c.rest, []⟩ = true ∧ (k c).isSome = true := by
    rw [← hplace, Node.run]
    dsimp only
    split
    · next ha => exact ⟨fun h => ⟨ha, h⟩, And.right⟩
    · next ha => exact ⟨fun h => absurd h Bool.false_ne_true, fun h => absurd h.1 ha⟩
  rw [hif, blind_iff hk]
  constructor
  · rintro ⟨ha, _, rest, hrest, rfl, h⟩
    rw [hrest] at ha
    exact ⟨[], rest, hrest, ⟨rfl, ha⟩, h⟩
  · rintro ⟨_, rest, hrest, ⟨rfl, ha⟩, h⟩
    rw [hrest]
    exact ⟨ha, [], rest, rfl, rfl, h⟩

theorem alt_finds (ha : Finds a.run a.Reads) (hb : Finds b.run b.Reads) :
    Finds (Node.alt a b).run (Node.alt a b).Reads := by
  intro c k hk
  have heither : ((Node.alt a b).run c k).isSome = true ↔
      (a.run c k).isSome = true ∨ (b.run c k).isSome = true := by
    rw [Node.run]
    dsimp only
    cases a.run c k <;> simp
  rw [heither, ha c k hk, hb c k hk]
  constructor
  · rintro (⟨w, rest, hrest, hw, h⟩ | ⟨w, rest, hrest, hw, h⟩)
    · exact ⟨w, rest, hrest, .inl hw, h⟩
    · exact ⟨w, rest, hrest, .inr hw, h⟩
  · rintro ⟨w, rest, hrest, hw | hw, h⟩
    · exact .inl ⟨w, rest, hrest, hw, h⟩
    · exact .inr ⟨w, rest, hrest, hw, h⟩

theorem group_finds (index : Nat) (h : Finds body.run body.Reads) :
    Finds (Node.group index body).run (Node.group index body).Reads := by
  intro c k hk
  have hplace : ∀ (d : Cursor) groups, (k { d with groups }).isSome = (k d).isSome :=
    fun d groups => (hk { d with groups }).trans (hk d).symm
  have hgroup : Blind fun d =>
      k { d with groups := (index, c.rest.take (c.rest.length - d.rest.length)) :: d.groups } :=
    fun d => (hplace d _).trans ((hk d).trans (hplace ⟨d.before, d.rest, []⟩ _).symm)
  refine (h c _ hgroup).trans ?_
  simp only [fun before rest groups => hplace ⟨before, rest, []⟩ groups]
  rfl

/-- A look ahead, which ends where it starts. -/
theorem ahead_finds (negated : Bool) (h : Finds body.run body.Reads) :
    Finds (Node.ahead negated body).run (Node.ahead negated body).Reads := by
  intro c k hk
  have hplace : ∀ groups, (k { c with groups }).isSome = (k c).isSome :=
    fun groups => (hk { c with groups }).trans (hk c).symm
  have hif : ((Node.ahead negated body).run c k).isSome = true ↔
      ((body.run c some).isSome = true ↔ negated = false) ∧ (k c).isSome = true := by
    cases negated with
    | false =>
      rw [Node.run]
      dsimp only
      cases body.run c some with
      | none => simp
      | some d => simp [hplace]
    | true =>
      rw [Node.run]
      dsimp only
      cases body.run c some <;> simp
  rw [hif, h.isSome, blind_iff hk]
  constructor
  · rintro ⟨hbody, _, rest, hrest, rfl, hsome⟩
    rw [hrest] at hbody
    exact ⟨[], rest, hrest, ⟨rfl, hbody⟩, hsome⟩
  · rintro ⟨_, rest, hrest, ⟨rfl, hbody⟩, hsome⟩
    rw [hrest]
    exact ⟨hbody, [], rest, rfl, rfl, hsome⟩

/-- A repetition, in whichever order it prefers its rounds. -/
theorem repeat_finds {greed : Greed} (hgreed : greed ≠ .possessive) (least : Nat)
    (most? : Option Nat) (h : Finds body.run body.Reads) :
    Finds (Node.repeat greed least most? body).run (Node.repeat greed least most? body).Reads := by
  intro c k hk
  refine Iff.trans ?_ (rounds_finds h least most? c k hk)
  cases greed with
  | possessive => exact absurd rfl hgreed
  | greedy => rfl
  | lazy =>
    have hgreedy := greedyRounds_blind h hk (c.rest.length + 2) (most?.map (· - least)) none
    have hlazy : Blind fun d =>
        lazyRounds body.run (c.rest.length + 2) (most?.map (· - least)) none d k := by
      intro d
      dsimp only
      rw [lazyRounds_isSome h hk, lazyRounds_isSome h hk]
      exact hgreedy d
    rw [times_finds h least c _ hgreedy]
    refine (times_finds h least c _ hlazy).trans ?_
    simp only [lazyRounds_isSome h hk]

end

/-- **The matcher finds what a pattern reads.** -/
theorem run_finds {n : Node} (hn : n.isRegular = true) : Finds n.run n.Reads := by
  induction n with
  | empty => exact fun c k hk => blind_iff hk c
  | set s => exact set_finds s
  | anchor a => exact anchor_finds a
  | seq a b iha ihb =>
    obtain ⟨ha, hb⟩ := Bool.and_eq_true_iff.mp hn
    exact (iha ha).seq (ihb hb)
  | alt a b iha ihb =>
    obtain ⟨ha, hb⟩ := Bool.and_eq_true_iff.mp hn
    exact alt_finds (iha ha) (ihb hb)
  | «repeat» greed least most? body ih =>
    obtain ⟨hgreed, hbody⟩ := Bool.and_eq_true_iff.mp hn
    exact repeat_finds (bne_iff_ne.mp hgreed) least most? (ih hbody)
  | group index body ih => exact group_finds index (ih hn)
  | ahead negated body ih => exact ahead_finds negated (ih hn)
  | atomic | behind | reference | conditional => cases hn

/-! ### Texts -/

section

variable {n : Node} {s : List Char}

theorem matchesAt_iff (hn : n.isRegular = true) (c : Cursor) : n.matchesAt c = true ↔
    ∃ w rest, c.rest = w ++ rest ∧ n.Reads c.before w rest := (run_finds hn).isSome c

/-- **A match at the start of a text.** -/
theorem matchStart_iff (hn : n.isRegular = true) :
    n.matchStart s = true ↔ ∃ w rest, s = w ++ rest ∧ n.Reads [] w rest := matchesAt_iff hn _

/-- **A match of a whole text.** -/
theorem fullMatch_iff (hn : n.isRegular = true) : n.fullMatch s = true ↔ n.Reads [] s [] := by
  have hend : Blind fun c => if c.rest.isEmpty then some c else none := by
    rintro ⟨before, rest, groups⟩
    cases rest <;> rfl
  rw [Node.fullMatch, run_finds hn _ _ hend]
  constructor
  · rintro ⟨w, rest, hs, hw, h⟩
    cases rest with
    | nil => rwa [show s = w from hs.trans (List.append_nil w)]
    | cons c rest => cases h
  · intro h
    exact ⟨s, [], (List.append_nil s).symm, h, rfl⟩

theorem searchFrom_iff (hn : n.isRegular = true) : ∀ {s before : List Char},
    n.searchFrom before s = true ↔
      ∃ a w rest, s = a ++ (w ++ rest) ∧ n.Reads (a.reverse ++ before) w rest := by
  intro s
  induction s with
  | nil =>
    intro before
    rw [Node.searchFrom, matchesAt_iff hn]
    constructor
    · rintro ⟨w, rest, hs, hw⟩
      exact ⟨[], w, rest, hs, hw⟩
    · rintro ⟨a, w, rest, hs, hw⟩
      obtain ⟨rfl, hnil⟩ := List.append_eq_nil_iff.mp hs.symm
      exact ⟨w, rest, hnil.symm, hw⟩
  | cons x s ih =>
    intro before
    rw [Node.searchFrom, Bool.or_eq_true, matchesAt_iff hn, ih]
    constructor
    · rintro (⟨w, rest, hs, hw⟩ | ⟨a, w, rest, rfl, hw⟩)
      · exact ⟨[], w, rest, hs, hw⟩
      · refine ⟨x :: a, w, rest, rfl, ?_⟩
        rwa [List.reverse_cons, List.append_assoc]
    · rintro ⟨a, w, rest, hs, hw⟩
      cases a with
      | nil => exact .inl ⟨w, rest, hs, hw⟩
      | cons y a =>
        obtain ⟨rfl, rfl⟩ := List.cons.inj hs
        refine .inr ⟨a, w, rest, rfl, ?_⟩
        rwa [List.reverse_cons, List.append_assoc] at hw

/-- **A match anywhere in a text.** -/
theorem search_iff (hn : n.isRegular = true) : n.search s = true ↔
    ∃ a w rest, s = a ++ (w ++ rest) ∧ n.Reads a.reverse w rest := by
  rw [Node.search, searchFrom_iff hn]
  simp only [List.append_nil]

end

end RuleSchema.Pattern
