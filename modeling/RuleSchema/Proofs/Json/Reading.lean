import RuleSchema.Json.Canonical
import RuleSchema.Json.Reader
import RuleSchema.Proofs.Json.Sorting
import RuleSchema.Proofs.Number.Numerals

/-!
# Reading what was written

A sorted document is written in some style and read again.  The reader takes what the writer put
for a character off the text, up to the closing quote, and the digits of a number up to the first
character that is none.  Around and between the parts of lists and mappings it skips the blanks that
a style adds.  So every text is read as the value it was written for, wherever it stands: as an item
or the content of an entry, as long as a part of a document may be followed by what follows it.

* `JsonStyle.IsReadable` are the styles that only add blanks.
* `Json.Reads` says of a text that it is read as a value, wherever it stands.
* `readText_quoted`, `readNumber_int`, `reads_list`, `reads_mapping`: the four kinds of parts.
* `read_toJson`: **what is written is read back.**
-/

namespace RuleSchema

/-- Blanks of a document. -/
def Json.Blanks (s : List Char) : Prop := ∀ c ∈ s, Json.isSpace c = true

/-- Styles in which characters are themselves and only blanks are added between the parts. -/
structure JsonStyle.IsReadable (style : JsonStyle) : Prop where
  wide : style.asciiOnly = false
  items : ∃ s, style.itemSeparator.toList = ',' :: s ∧ Json.Blanks s
  keys : ∃ s, style.keySeparator.toList = ':' :: s ∧ Json.Blanks s
  lines : ∀ indent, style.indent? = some indent → Json.Blanks indent.toList

namespace Json

section

variable {style : JsonStyle} {fuel opened : Nat} {c : Char} {cs r rest s : List Char}

/-! ### Blanks -/

theorem skipSpace_blanks (hs : Blanks s) : skipSpace (s ++ r) = skipSpace r :=
  List.dropWhile_append_of_pos hs

theorem skipSpace_cons (hc : isSpace c = false) : skipSpace (c :: s) = c :: s :=
  List.dropWhile_cons_of_neg (by simp [hc])

theorem lineBreak_blanks (h : style.IsReadable) (level : Nat) :
    Blanks (style.lineBreak level).toList := by
  rw [JsonStyle.lineBreak]
  cases hindent : style.indent? with
  | none => exact fun c hc => absurd hc List.not_mem_nil
  | some indent =>
    intro c hc
    rw [String.toList_append, String.toList_join] at hc
    rcases List.mem_append.mp hc with hc | hc
    · rw [List.mem_singleton.mp hc]
      rfl
    · obtain ⟨s, hs, hc⟩ := List.mem_flatMap.mp hc
      rw [List.eq_of_mem_replicate hs] at hc
      exact h.lines indent hindent c hc

/-! ### Texts -/

/-- The code of a control character is read as its number. -/
theorem fourDigits?_hexDigits : ∀ n < 32, (Text.hexDigits 4 n).toList.length = 4 ∧
    fourDigits? (Text.hexDigits 4 n).toList = some n := by
  decide

theorem fourDigits?_append (hs : s.length = 4) : fourDigits? (s ++ r) = fourDigits? s := by
  match s with
  | [_, _, _, _] => rfl

theorem readText_escapeUnit (hc : c.toNat < 32) (hrest : rest ≠ [])
    (h : readText opened fuel rest = .ok (cs, r)) :
    readText opened (fuel + 1) ((JsonStyle.escapeUnit c.toNat).toList ++ rest)
      = .ok (c :: cs, r) := by
  obtain ⟨hlength, hdigits⟩ := fourDigits?_hexDigits c.toNat hc
  generalize hds : (Text.hexDigits 4 c.toNat).toList = ds at hlength hdigits
  have htext : (JsonStyle.escapeUnit c.toNat).toList ++ rest = '\\' :: 'u' :: (ds ++ rest) := by
    rw [JsonStyle.escapeUnit, String.toList_append, hds]
    rfl
  have hlong : ¬ (ds ++ rest).length ≤ 4 := by
    have hpos := List.length_pos_iff.mpr hrest
    rw [List.length_append]
    omega
  have hdrop : (ds ++ rest).drop 4 = rest := by rw [← hlength, List.drop_left]
  have hunit : unitChar c.toNat rest = (c, 0) := by
    unfold unitChar
    dsimp only
    rw [if_neg (by simp; omega), if_neg (by simp; omega), Char.ofNat_toNat]
  rw [htext, readText, if_neg hlong, fourDigits?_append hlength, hdigits]
  simp only [hdrop, hunit, Nat.add_zero, h]
  rfl

theorem readText_escaped {e : Char} (he : escaped? e = some c)
    (h : readText opened fuel rest = .ok (cs, r)) :
    readText opened (fuel + 1) ('\\' :: e :: rest) = .ok (c :: cs, r) := by
  have hu : e ≠ 'u' := by
    rintro rfl
    cases he
  rw [readText.eq_6 opened fuel e rest hu, he, h]
  rfl

theorem readText_plain (hquote : c ≠ '"') (hslash : c ≠ '\\') (hc : ¬ c.toNat < 32)
    (h : readText opened fuel rest = .ok (cs, r)) :
    readText opened (fuel + 1) (c :: rest) = .ok (c :: cs, r) := by
  rw [readText.eq_7 opened fuel c rest hquote (fun hc => absurd hc hslash)
    (fun _ hc => absurd hc hslash) (fun _ _ hc => absurd hc hslash), if_neg hc, h]
  rfl

/-- **A character of a text** is read as itself, in whatever way it is written. -/
theorem readText_char (hwide : style.asciiOnly = false) (hrest : rest ≠ [])
    (h : readText opened fuel rest = .ok (cs, r)) :
    readText opened (fuel + 1) ((style.charText c).toList ++ rest) = .ok (c :: cs, r) := by
  have hnumber : ∀ {d : Char}, c.toNat = d.toNat → c = d := Char.toNat_inj.mp
  rw [JsonStyle.charText]
  by_cases hquote : c = '"'
  · rw [if_pos hquote, hquote]
    exact readText_escaped rfl h
  by_cases hslash : c = '\\'
  · rw [if_neg hquote, if_pos hslash, hslash]
    exact readText_escaped rfl h
  rw [if_neg hquote, if_neg hslash]
  by_cases hnewline : c = '\n'
  · rw [if_pos hnewline, hnewline]
    exact readText_escaped rfl h
  by_cases hreturn : c = '\r'
  · rw [if_neg hnewline, if_pos hreturn, hreturn]
    exact readText_escaped rfl h
  by_cases htab : c = '\t'
  · rw [if_neg hnewline, if_neg hreturn, if_pos htab, htab]
    exact readText_escaped rfl h
  rw [if_neg hnewline, if_neg hreturn, if_neg htab]
  by_cases hback : c.toNat = 8
  · rw [if_pos hback, hnumber (d := '\x08') hback]
    exact readText_escaped rfl h
  by_cases hfeed : c.toNat = 12
  · rw [if_neg hback, if_pos hfeed, hnumber (d := '\x0c') hfeed]
    exact readText_escaped rfl h
  rw [if_neg hback, if_neg hfeed, hwide]
  by_cases hcontrol : c.toNat < 32
  · rw [if_pos (by simp [hcontrol])]
    exact readText_escapeUnit hcontrol hrest h
  · rw [if_neg (by simp [hcontrol]), if_pos (by simp), String.toList_singleton]
    exact readText_plain hquote hslash hcontrol h

/-- The characters of a text between quotes. -/
def body (style : JsonStyle) (cs : List Char) : List Char :=
  cs.flatMap fun c => (style.charText c).toList

theorem escapeUnit_ne_nil (n : Nat) : (JsonStyle.escapeUnit n).toList ≠ [] := by
  simp [JsonStyle.escapeUnit]

theorem charText_ne_nil : (style.charText c).toList ≠ [] := by
  unfold JsonStyle.charText
  generalize c.toNat = n
  dsimp only
  split_ifs
  -- the characters with an escape of their own
  iterate 7 (· decide)
  · exact escapeUnit_ne_nil n
  · simp
  · exact escapeUnit_ne_nil n
  · rw [String.toList_append]
    exact List.append_ne_nil_of_left_ne_nil (escapeUnit_ne_nil _) _

theorem length_le_body : cs.length ≤ (body style cs).length := by
  induction cs with
  | nil => exact Nat.le_refl 0
  | cons c cs ih =>
    have hpos : 0 < (style.charText c).toList.length := List.length_pos_iff.mpr charText_ne_nil
    rw [body, List.flatMap_cons, List.length_append, List.length_cons]
    rw [body] at ih
    omega

/-- **A text between quotes** is read up to the closing one. -/
theorem readText_body (hwide : style.asciiOnly = false) (h : cs.length < fuel) :
    readText opened fuel (body style cs ++ '"' :: r) = .ok (cs, r) := by
  induction cs generalizing fuel with
  | nil => exact readText.eq_3 opened fuel r (Nat.ne_zero_of_lt h)
  | cons c cs ih =>
    obtain ⟨fuel, rfl⟩ := Nat.exists_eq_add_one_of_ne_zero (Nat.ne_zero_of_lt h)
    rw [body, List.flatMap_cons, List.append_assoc]
    apply readText_char hwide (by simp)
    exact ih (Nat.lt_of_succ_lt_succ h)

theorem quoted_toList (t : String) :
    (style.quoted t).toList ++ r = '"' :: (body style t.toList ++ '"' :: r) := by
  simp [JsonStyle.quoted, String.toList_join, List.flatMap_map, body]

/-- A quoted text is read as the text. -/
theorem readText_quoted (hwide : style.asciiOnly = false) (t : String) :
    readText opened ((body style t.toList ++ '"' :: r).length + 1) (body style t.toList ++ '"' :: r)
      = .ok (t.toList, r) := by
  apply readText_body hwide
  have hbody : t.toList.length ≤ (body style t.toList).length := length_le_body
  rw [List.length_append]
  omega

/-! ### Numbers -/

/-- What may follow a value: a blank, or what ends or separates the parts of a document. -/
def Follows (r : List Char) : Prop :=
  ∀ c s, r = c :: s → isSpace c = true ∨ c = ',' ∨ c = ']' ∨ c = '\x7d'

theorem Follows.blanks (h : Follows r) (hs : Blanks s) : Follows (s ++ r) := by
  cases s with
  | nil => exact h
  | cons c s =>
    rintro d t heq
    obtain ⟨rfl, -⟩ := List.cons.inj heq
    exact .inl (hs _ List.mem_cons_self)

/-- No character of a number is one that may follow it. -/
theorem Follows.head (h : Follows (c :: s)) :
    c.isDigit = false ∧ c ≠ '.' ∧ c ≠ 'e' ∧ c ≠ 'E' := by
  have hc := h c s rfl
  simp only [isSpace, Bool.or_eq_true, decide_eq_true_eq, or_assoc] at hc
  rcases hc with rfl | rfl | rfl | rfl | rfl | rfl | rfl <;> decide

theorem Follows.fraction? (h : Follows r) : fraction? r = none := by
  cases r with
  | nil => rfl
  | cons c s =>
    rw [Json.fraction?]
    rintro s' ⟨⟩
    exact h.head.2.1 rfl

theorem Follows.exponent? (h : Follows r) : exponent? r = none := by
  cases r with
  | nil => rfl
  | cons c s =>
    obtain ⟨-, -, he, hE⟩ := h.head
    rw [Json.exponent?, if_neg (by simp [he, hE])]

theorem Follows.takeDigits (h : Follows r) {ds : List Char} (hds : ∀ c ∈ ds, c.isDigit = true) :
    Numeral.takeDigits Numeral.asciiDigit? (ds ++ r) = (ds.map fun c => c.toNat - 48, r) := by
  induction ds with
  | nil =>
    cases r with
    | nil => rfl
    | cons c s =>
      have hc : Numeral.asciiDigit? c = none := if_neg (by simp [h.head.1])
      rw [List.nil_append, Numeral.takeDigits, hc]
      rfl
  | cons c ds ih =>
    have hc : Numeral.asciiDigit? c = some (c.toNat - 48) := if_pos (hds c List.mem_cons_self)
    rw [List.cons_append, Numeral.takeDigits, hc, ih fun d hd => hds d (List.mem_cons_of_mem _ hd)]
    rfl

/-- The numeral of a number that is not zero does not start with a zero. -/
theorem toDigits_head (n : Nat) (hn : 0 < n) : ∃ c ds, Nat.toDigits 10 n = c :: ds ∧ c ≠ '0' := by
  induction n using Nat.strongRecOn with
  | ind n ih =>
    by_cases hlt : n < 10
    · refine ⟨n.digitChar, [], Nat.toDigits_of_lt_base hlt, ?_⟩
      rw [Ne, Nat.digitChar_eq_zero]
      omega
    · obtain ⟨c, ds, hds, hc⟩ := ih (n / 10) (by omega) (by omega)
      refine ⟨c, ds ++ [(n % 10).digitChar], ?_, hc⟩
      rw [Nat.toDigits_of_base_le (by omega) (by omega), hds, List.cons_append]

/-- **A whole number** is read as itself. -/
theorem readNumber_int {n : Int} (hn : Binary64.digitCount n.natAbs ≤ digitLimit)
    (hr : Follows r) : readNumber ((toString n).toList ++ r) = .ok (.int n, r) := by
  have hdigits := Numeral.toDigits_digit n.natAbs
  obtain ⟨values, hvalues⟩ : ∃ values, (Nat.toDigits 10 n.natAbs).map (fun c => c.toNat - 48)
    = values := ⟨_, rfl⟩
  have htake := hr.takeDigits hdigits
  have hvalue := Numeral.digitsValue_toDigits n.natAbs
  have hne : values ≠ [] := by simp [← hvalues]
  have hlimit : ¬ digitLimit < values.length := by
    rw [← hvalues, List.length_map]
    exact Nat.not_lt.mpr hn
  rw [hvalues] at htake hvalue
  rw [Numeral.int_toList]
  rcases Nat.eq_zero_or_pos n.natAbs with hzero | hpos
  · obtain rfl := Int.natAbs_eq_zero.mp hzero
    rw [if_neg (Int.lt_irrefl 0)]
    change readNumber ('0' :: r) = _
    rw [readNumber.eq_3]
    simp [hr.fraction?, hr.exponent?, digitLimit, Numeral.digitsValue]
  · -- neither a zero nor a sign comes first, so that all digits are taken
    obtain ⟨c, ds, hds, hc⟩ := toDigits_head n.natAbs hpos
    have hfirst : ∀ rest, Nat.toDigits 10 n.natAbs ++ r = '0' :: rest → False := by
      intro rest heq
      rw [hds] at heq
      exact hc (List.cons.inj heq).1
    have hsign : ∀ rest, Nat.toDigits 10 n.natAbs ++ r = '-' :: rest → False := by
      intro rest heq
      rw [hds] at heq hdigits
      have hminus := hdigits c List.mem_cons_self
      rw [(List.cons.inj heq).1] at hminus
      cases hminus
    by_cases hneg : n < 0
    · have hself : -(Numeral.digitsValue values : Int) = n := by omega
      rw [if_pos hneg, List.cons_append, readNumber.eq_2 _ hfirst, htake]
      simp [hr.fraction?, hr.exponent?, hne, hlimit, hself]
    · have hself : (Numeral.digitsValue values : Int) = n := by omega
      rw [if_neg hneg, readNumber.eq_4 _ hsign hfirst, htake]
      simp [hr.fraction?, hr.exponent?, hne, hlimit, hself]

/-! ### Values -/

/-- Characters with which a value can start. -/
def opens (c : Char) : Bool := !isSpace c && c != ']' && c != '\ufeff'

/-- A text that is read as a value, wherever it stands. -/
structure Reads (s : List Char) (v : Value) : Prop where
  start : ∃ c t, s = c :: t ∧ opens c = true
  value : ∀ {fuel r}, Follows r → s.length ≤ fuel → readValue fuel (s ++ r) = .ok (v, r)

/-- A text that is neither a text, nor a list, nor a mapping is read as a word or a number. -/
theorem readValue_scalar (hc : c ≠ '"' ∧ c ≠ '[' ∧ c ≠ '\x7b') :
    readValue (fuel + 1) (c :: s) = readScalar (c :: s) := by
  obtain ⟨hquote, hbracket, hbrace⟩ := hc
  rw [readValue.eq_def]
  simp [hquote, hbracket, hbrace]

theorem reads_null : Reads "null".toList .null where
  start := ⟨'n', _, rfl, rfl⟩
  value := by
    rintro (_ | fuel) r - hfuel
    · cases hfuel
    · exact readValue_scalar (by decide)

theorem reads_bool (b : Bool) : Reads (if b then "true" else "false").toList (.bool b) where
  start := by cases b <;> exact ⟨_, _, rfl, rfl⟩
  value := by
    rintro (_ | fuel) r - hfuel
    · cases b <;> cases hfuel
    · cases b <;> exact readValue_scalar (by decide)

/-- No word starts with a digit, or with a sign and a digit. -/
theorem readScalar_digit (hc : c.isDigit = true) :
    readScalar (c :: s) = readNumber (c :: s) ∧
      readScalar ('-' :: c :: s) = readNumber ('-' :: c :: s) := by
  have hne : ∀ d : Char, d.isDigit = false → d ≠ c := by
    rintro d hd rfl
    rw [hc] at hd
    cases hd
  constructor
  · simp [readScalar, words, Text.after?, hne]
  · simp [readScalar, words, Text.after?, hne]

theorem opens_digit (hc : c.isDigit = true) : opens c = true ∧ c ≠ '"' ∧ c ≠ '[' ∧ c ≠ '\x7b' := by
  obtain ⟨hfirst, hlast⟩ := Pattern.isDigit_iff.mp hc
  have hne : ∀ d : Char, d.isDigit = false → c ≠ d := by
    rintro d hd rfl
    rw [hc] at hd
    cases hd
  simp [opens, isSpace, hne]

theorem reads_int {n : Int} (hn : Binary64.digitCount n.natAbs ≤ digitLimit) :
    Reads (toString n).toList (.int n) := by
  obtain ⟨d, ds, hds⟩ := List.exists_cons_of_ne_nil (Nat.toDigits_ne_nil (n := n.natAbs) (b := 10))
  have hd : d.isDigit = true := Numeral.toDigits_digit n.natAbs d (hds ▸ List.mem_cons_self)
  obtain ⟨hopens, hscalar⟩ := opens_digit hd
  have htext := Numeral.int_toList n
  rw [hds] at htext
  have hnumber : ∀ {r}, Follows r → readNumber ((toString n).toList ++ r) = .ok (.int n, r) :=
    readNumber_int hn
  by_cases hneg : n < 0
  · rw [if_pos hneg] at htext
    rw [htext] at hnumber ⊢
    refine ⟨⟨_, _, rfl, rfl⟩, fun {fuel r} hr hfuel => ?_⟩
    obtain ⟨fuel, rfl⟩ := Nat.exists_eq_add_one_of_ne_zero (Nat.ne_zero_of_lt hfuel)
    rw [← hnumber hr]
    exact (readValue_scalar (by decide)).trans (readScalar_digit hd).2
  · rw [if_neg hneg] at htext
    rw [htext] at hnumber ⊢
    refine ⟨⟨_, _, rfl, hopens⟩, fun {fuel r} hr hfuel => ?_⟩
    obtain ⟨fuel, rfl⟩ := Nat.exists_eq_add_one_of_ne_zero (Nat.ne_zero_of_lt hfuel)
    rw [← hnumber hr]
    exact (readValue_scalar hscalar).trans (readScalar_digit hd).1

theorem reads_quoted (hwide : style.asciiOnly = false) (t : String) :
    Reads (style.quoted t).toList (.text t) := by
  have htext : (style.quoted t).toList = '"' :: (body style t.toList ++ ['"']) := by
    rw [← quoted_toList, List.append_nil]
  refine ⟨⟨_, _, htext, rfl⟩, fun {fuel r} _ hfuel => ?_⟩
  rw [htext] at hfuel
  obtain ⟨fuel, rfl⟩ := Nat.exists_eq_add_one_of_ne_zero (Nat.ne_zero_of_lt hfuel)
  rw [quoted_toList, readValue.eq_2, readText_quoted hwide]
  exact congrArg (fun t => Except.ok (Value.text t, r)) String.ofList_toList

/-! ### Lists and mappings -/

theorem Reads.skip {v : Value} (h : Reads s v) : skipSpace (s ++ r) = s ++ r := by
  obtain ⟨c, t, rfl, hc⟩ := h.start
  apply skipSpace_cons
  simp [opens] at hc
  exact hc.1.1

/-- What follows the first of some parts between brackets: the other ones, each after a comma, and
the closing bracket on its line. -/
def others (comma line close : List Char) : List (List Char) → List Char
  | [] => line ++ close
  | p :: ps => comma ++ (p ++ others comma line close ps)

/-- The text of parts between two brackets. -/
theorem bracketed_toList {level : Nat} {opening closing : String} {o c : Char}
    (hopening : opening.toList = [o]) (hclosing : closing.toList = [c]) :
    (style.bracketed level opening closing []).toList = [o, c] ∧
      ∀ (part : String) parts, (style.bracketed level opening closing (part :: parts)).toList =
        o :: ((style.lineBreak (level + 1)).toList ++ (part.toList ++
          others (style.itemSeparator ++ style.lineBreak (level + 1)).toList
            (style.lineBreak level).toList [c] (parts.map String.toList))) := by
  refine ⟨by simp [JsonStyle.bracketed, hopening, hclosing], fun part parts => ?_⟩
  have hjoin : (Text.joinWith (style.itemSeparator ++ style.lineBreak (level + 1))
      (part :: parts)).toList ++ ((style.lineBreak level).toList ++ [c]) =
      part.toList ++ others (style.itemSeparator ++ style.lineBreak (level + 1)).toList
        (style.lineBreak level).toList [c] (parts.map String.toList) := by
    rw [Text.joinWith]
    induction parts generalizing part with
    | nil => simp [others]
    | cons q qs ih =>
      rw [String.intercalate_cons_cons, List.map_cons, others, ← ih, String.toList_append,
        String.toList_append, List.append_assoc, List.append_assoc]
  rw [← hjoin]
  simp [JsonStyle.bracketed, hopening, hclosing]

section

variable {comma line blanks p : List Char} {ps : List (List Char)} {x : Value} {xs : List Value}
  {done es : Entries Value} {e : Value × Value}

theorem follows_cons (hc : c = ',' ∨ c = ']' ∨ c = '\x7d') : Follows (c :: s) := by
  rintro d t ⟨⟩
  exact .inr hc

/-- One item is read, and the next ones or the closing bracket are to follow. -/
theorem readItems_item (hp : Reads p x) (hfollows : Follows rest) (hfuel : p.length ≤ fuel) :
    readItems (fuel + 1) (p ++ rest) =
      match skipSpace rest with
      | ']' :: rest => return ([x], rest)
      | ',' :: rest => do
        let (xs, rest) ← readItems fuel (skipSpace rest)
        return (x :: xs, rest)
      | rest => problemAt .expectingComma rest := by
  rw [readItems.eq_2, hp.value hfollows hfuel]
  rfl

/-- **The items of a list** are read up to the closing bracket. -/
theorem readItems_others (hcomma : comma = ',' :: blanks) (hblanks : Blanks blanks)
    (hline : Blanks line) (hp : Reads p x) (hps : List.Forall₂ Reads ps xs)
    (hfuel : (p ++ others comma line [']'] ps).length ≤ fuel) :
    readItems fuel (p ++ (others comma line [']'] ps ++ r)) = .ok (x :: xs, r) := by
  induction hps generalizing p x fuel with
  | nil =>
    rw [others] at hfuel ⊢
    simp only [List.length_append, List.length_singleton] at hfuel
    obtain ⟨fuel, rfl⟩ : ∃ n, fuel = n + 1 := ⟨fuel - 1, by omega⟩
    have hfollows : Follows (']' :: r) := follows_cons (.inr (.inl rfl))
    rw [List.append_assoc, List.singleton_append,
      readItems_item hp (hfollows.blanks hline) (by omega), skipSpace_blanks hline,
      skipSpace_cons rfl]
    rfl
  | @cons q y qs ys hq _ ih =>
    rw [others] at hfuel ⊢
    have hlong : 1 ≤ comma.length := by simp [hcomma]
    simp only [List.length_append] at hfuel
    obtain ⟨fuel, rfl⟩ : ∃ n, fuel = n + 1 := ⟨fuel - 1, by omega⟩
    have hrest : readItems fuel (q ++ (others comma line [']'] qs ++ r)) = .ok (y :: ys, r) := by
      apply ih hq
      rw [List.length_append]
      omega
    rw [hcomma, List.append_assoc, List.cons_append, ← hcomma,
      readItems_item hp (follows_cons (.inl rfl)) (by omega), skipSpace_cons rfl]
    change (readItems fuel (skipSpace (blanks ++ _)) >>= _) = _
    rw [skipSpace_blanks hblanks, List.append_assoc, hq.skip, hrest]
    rfl

/-- A text that is read as an entry of a mapping: its name, and its content after the colon. -/
def ReadsEntry (style : JsonStyle) (s : List Char) (e : Value × Value) : Prop :=
  ∃ n t, e.1 = .text n ∧ s = (style.quoted n).toList ++ (style.keySeparator.toList ++ t) ∧
    Reads t e.2

/-- One entry is put to those before it, and the next ones or the closing brace are to follow. -/
theorem readEntries_entry (hstyle : style.IsReadable) (he : ReadsEntry style p e)
    (hfollows : Follows rest) (hfuel : p.length ≤ fuel) :
    readEntries (fuel + 1) done (p ++ rest) =
      match skipSpace rest with
      | '\x7d' :: rest => .ok (done.put e.1 e.2, rest)
      | ',' :: rest => readEntries fuel (done.put e.1 e.2) (skipSpace rest)
      | rest => problemAt .expectingComma rest := by
  obtain ⟨n, t, hn, rfl, ht⟩ := he
  obtain ⟨colon, hcolon, hblanks⟩ := hstyle.keys
  simp only [List.length_append] at hfuel
  have hvalue := ht.value hfollows (show t.length ≤ fuel by omega)
  rw [hn, List.append_assoc, List.append_assoc, hcolon, quoted_toList, readEntries.eq_2,
    readText_quoted hstyle.wide, List.cons_append]
  simp only [bind, Except.bind, skipSpace_cons (show isSpace ':' = false from rfl),
    skipSpace_blanks hblanks, ht.skip, hvalue, String.ofList_toList]
  rfl

theorem ReadsEntry.skip (h : ReadsEntry style p e) : skipSpace (p ++ r) = p ++ r := by
  obtain ⟨n, t, -, rfl, -⟩ := h
  rw [List.append_assoc, quoted_toList]
  exact skipSpace_cons rfl

/-- An entry with a new name is put at the end. -/
theorem put_keyed (h : Entries.IsKeyed (done ++ e :: es)) : done.put e.1 e.2 = done ++ [e] := by
  obtain ⟨n, hn⟩ := h.texts e (by simp)
  obtain ⟨k, x⟩ := e
  obtain rfl : k = .text n := hn
  exact Schema.put_of_none h.at?_before

/-- **The entries of a mapping** are read up to the closing brace, one after the other. -/
theorem readEntries_others (hstyle : style.IsReadable) (hcomma : comma = ',' :: blanks)
    (hblanks : Blanks blanks) (hline : Blanks line) (hp : ReadsEntry style p e)
    (hps : List.Forall₂ (ReadsEntry style) ps es) (hkeyed : Entries.IsKeyed (done ++ e :: es))
    (hfuel : (p ++ others comma line ['\x7d'] ps).length ≤ fuel) :
    readEntries fuel done (p ++ (others comma line ['\x7d'] ps ++ r))
      = .ok (done ++ e :: es, r) := by
  induction hps generalizing done p e fuel with
  | nil =>
    rw [others] at hfuel ⊢
    simp only [List.length_append, List.length_singleton] at hfuel
    obtain ⟨fuel, rfl⟩ : ∃ n, fuel = n + 1 := ⟨fuel - 1, by omega⟩
    have hfollows : Follows ('\x7d' :: r) := follows_cons (.inr (.inr rfl))
    rw [List.append_assoc, List.singleton_append, ← put_keyed hkeyed]
    rw [readEntries_entry hstyle hp (hfollows.blanks hline) (by omega), skipSpace_blanks hline,
      skipSpace_cons rfl]
    rfl
  | @cons q f _ fs hq _ ih =>
    rw [others] at hfuel ⊢
    have hlong : 1 ≤ comma.length := by simp [hcomma]
    simp only [List.length_append] at hfuel
    obtain ⟨fuel, rfl⟩ : ∃ n, fuel = n + 1 := ⟨fuel - 1, by omega⟩
    rw [hcomma, List.append_assoc, List.cons_append, ← hcomma,
      readEntries_entry hstyle hp (follows_cons (.inl rfl)) (by omega), skipSpace_cons rfl]
    change readEntries fuel (done.put e.1 e.2) (skipSpace (blanks ++ _)) = _
    rw [skipSpace_blanks hblanks, List.append_assoc, hq.skip, put_keyed hkeyed]
    rw [List.append_cons done e (f :: fs)] at hkeyed ⊢
    apply ih hq hkeyed
    rw [List.length_append]
    omega

/-- What does not close a list at once is read item by item. -/
theorem readValue_list (hrest : ∀ t, skipSpace rest ≠ ']' :: t)
    (hxs : readItems fuel (skipSpace rest) = .ok (xs, r)) :
    readValue (fuel + 1) ('[' :: rest) = .ok (.list xs, r) := by
  rw [readValue.eq_3]
  split
  · next t heq => exact absurd heq (hrest t)
  · rw [hxs]
    rfl

theorem readValue_mapping (hrest : ∀ t, skipSpace rest ≠ '\x7d' :: t)
    (hes : readEntries fuel [] (skipSpace rest) = .ok (es, r)) :
    readValue (fuel + 1) ('\x7b' :: rest) = .ok (.mapping es, r) := by
  rw [readValue.eq_4]
  split
  · next t heq => exact absurd heq (hrest t)
  · rw [hes]
    rfl

/-- The comma and the line break between two parts. -/
theorem separator_toList (hstyle : style.IsReadable) (level : Nat) :
    ∃ blanks, (style.itemSeparator ++ style.lineBreak level).toList = ',' :: blanks ∧
      Blanks blanks := by
  obtain ⟨s, hs, hblanks⟩ := hstyle.items
  refine ⟨s ++ (style.lineBreak level).toList, by rw [String.toList_append, hs]; rfl, ?_⟩
  intro c hc
  rcases List.mem_append.mp hc with hc | hc
  · exact hblanks c hc
  · exact lineBreak_blanks hstyle level c hc

/-- **A list** is read from its items between brackets. -/
theorem reads_list (hstyle : style.IsReadable) {level : Nat} {parts : List String}
    (h : List.Forall₂ (fun part x => Reads part.toList x) parts xs) :
    Reads (style.bracketed level "[" "]" parts).toList (.list xs) := by
  cases h with
  | nil =>
    rw [(bracketed_toList (c := ']') rfl rfl).1]
    refine ⟨⟨'[', _, rfl, rfl⟩, fun {fuel r} _ hfuel => ?_⟩
    obtain ⟨fuel, rfl⟩ := Nat.exists_eq_add_one_of_ne_zero (Nat.ne_zero_of_lt hfuel)
    exact readValue.eq_3 fuel (']' :: r)
  | @cons p x ps _ hp hps =>
    obtain ⟨blanks, hcomma, hblanks⟩ := separator_toList hstyle (level + 1)
    have hline := lineBreak_blanks hstyle (level + 1)
    rw [(bracketed_toList (c := ']') rfl rfl).2]
    refine ⟨⟨'[', _, rfl, rfl⟩, fun {fuel r} _ hfuel => ?_⟩
    simp only [List.length_cons, List.length_append] at hfuel
    obtain ⟨fuel, rfl⟩ : ∃ n, fuel = n + 1 := ⟨fuel - 1, by omega⟩
    rw [List.cons_append, List.append_assoc, List.append_assoc]
    have hskip : ∀ s, skipSpace ((style.lineBreak (level + 1)).toList ++ (p.toList ++ s))
        = p.toList ++ s := fun s => (skipSpace_blanks hline).trans hp.skip
    apply readValue_list
    · intro t
      rw [hskip]
      obtain ⟨c, t', hstart, hc⟩ := hp.start
      rw [hstart]
      intro heq
      rw [(List.cons.inj heq).1] at hc
      cases hc
    · rw [hskip]
      apply readItems_others hcomma hblanks (lineBreak_blanks hstyle level) hp
      · exact List.forall₂_map_left_iff.mpr hps
      · rw [List.length_append]
        omega

/-- **A mapping** is read from its entries between braces. -/
theorem reads_mapping (hstyle : style.IsReadable) {level : Nat} {parts : List String}
    (hkeyed : es.IsKeyed)
    (h : List.Forall₂ (fun part e => ReadsEntry style part.toList e) parts es) :
    Reads (style.bracketed level "\x7b" "\x7d" parts).toList (.mapping es) := by
  cases h with
  | nil =>
    rw [(bracketed_toList (c := '\x7d') rfl rfl).1]
    refine ⟨⟨'\x7b', _, rfl, rfl⟩, fun {fuel r} _ hfuel => ?_⟩
    obtain ⟨fuel, rfl⟩ := Nat.exists_eq_add_one_of_ne_zero (Nat.ne_zero_of_lt hfuel)
    exact readValue.eq_4 fuel ('\x7d' :: r)
  | @cons p e ps _ hp hps =>
    obtain ⟨blanks, hcomma, hblanks⟩ := separator_toList hstyle (level + 1)
    have hline := lineBreak_blanks hstyle (level + 1)
    rw [(bracketed_toList (c := '\x7d') rfl rfl).2]
    refine ⟨⟨'\x7b', _, rfl, rfl⟩, fun {fuel r} _ hfuel => ?_⟩
    simp only [List.length_cons, List.length_append] at hfuel
    obtain ⟨fuel, rfl⟩ : ∃ n, fuel = n + 1 := ⟨fuel - 1, by omega⟩
    rw [List.cons_append, List.append_assoc, List.append_assoc]
    have hskip : ∀ s, skipSpace ((style.lineBreak (level + 1)).toList ++ (p.toList ++ s))
        = p.toList ++ s := fun s => (skipSpace_blanks hline).trans hp.skip
    apply readValue_mapping
    · intro t
      rw [hskip]
      obtain ⟨n, t', -, hstart, -⟩ := hp
      rw [hstart, List.append_assoc, quoted_toList]
      rintro ⟨⟩
    · rw [hskip]
      apply readEntries_others hstyle hcomma hblanks (lineBreak_blanks hstyle level) hp
      · exact List.forall₂_map_left_iff.mpr hps
      · exact hkeyed
      · rw [List.length_append]
        omega

end

end

end Json

/-! ### Documents -/

section

open Json

variable {style : JsonStyle} {v : Value} {xs : List Value} {es : Entries Value} {level : Nat}
  {parts : List String}

theorem wholeText_ok {n : Int} (hn : Binary64.digitCount n.natAbs ≤ digitLimit) :
    wholeText n = .ok (toString n) := by
  have hlong : (decide (digitLimit < Binary64.digitCount n.natAbs)) = false := by simpa using hn
  rw [wholeText]
  simp [hlong]

theorem jsonItems_ok (h : List.Forall₂ (fun x part => x.jsonAt style level = .ok part) xs parts) :
    Value.jsonItems style level xs = .ok parts := by
  induction h with
  | nil => rfl
  | cons hx _ ih =>
    rw [Value.jsonItems, hx, ih]
    rfl

theorem jsonEntries_ok (h : List.Forall₂ (fun e part => ∃ n text, e.1 = .text n ∧
      e.2.jsonAt style level = .ok text ∧ part = style.quoted n ++ style.keySeparator ++ text)
        es parts) : Value.jsonEntries style level es = .ok parts := by
  induction h with
  | nil => rfl
  | @cons e _ _ _ he _ ih =>
    obtain ⟨n, text, hn, htext, rfl⟩ := he
    obtain ⟨k, x⟩ := e
    obtain rfl : k = .text n := hn
    rw [Value.jsonEntries, htext, ih]
    rfl

/-- **A sorted document is written**, and its text is read as the document. -/
theorem jsonAt_reads (hstyle : style.IsReadable) (hv : v.IsSorted) :
    ∀ level, ∃ text, v.jsonAt style level = .ok text ∧ Reads text.toList v := by
  induction hv with
  | null => exact fun level => ⟨_, rfl, reads_null⟩
  | bool b => exact fun level => ⟨_, rfl, reads_bool b⟩
  | int hn => exact fun level => ⟨_, wholeText_ok hn, reads_int hn⟩
  | text s => exact fun level => ⟨_, rfl, reads_quoted hstyle.wide s⟩
  | list _ ih =>
    intro level
    obtain ⟨parts, hparts⟩ := exists_forall₂ fun x hx => ih x hx (level + 1)
    have hitems := jsonItems_ok (hparts.imp fun _ _ h => h.1)
    refine ⟨style.bracketed level "[" "]" parts, ?_,
      reads_list hstyle (hparts.flip.imp fun _ _ h => h.2)⟩
    rw [Value.jsonAt, hitems]
    rfl
  | @mapping es hkeyed _ _ ih =>
    intro level
    obtain ⟨parts, hparts⟩ : ∃ parts : List String, List.Forall₂ (fun e part =>
        ∃ n text, e.1 = .text n ∧ (e.2.jsonAt style (level + 1) = .ok text ∧
          Reads text.toList e.2) ∧ part = style.quoted n ++ style.keySeparator ++ text)
        es parts := by
      refine exists_forall₂ fun e he => ?_
      obtain ⟨n, hn⟩ := hkeyed.texts e he
      obtain ⟨text, htext⟩ := ih e he (level + 1)
      exact ⟨_, n, text, hn, htext, rfl⟩
    have hentries : Value.jsonEntries style (level + 1) es = .ok parts :=
      jsonEntries_ok (hparts.imp fun _ _ ⟨n, text, hn, htext, hpart⟩ =>
        ⟨n, text, hn, htext.1, hpart⟩)
    refine ⟨style.bracketed level "\x7b" "\x7d" parts, ?_,
      reads_mapping hstyle hkeyed (hparts.flip.imp fun part e h => ?_)⟩
    · rw [Value.jsonAt, hentries]
      rfl
    · obtain ⟨n, text, hn, htext, rfl⟩ := h
      refine ⟨n, text.toList, hn, ?_, htext.2⟩
      rw [String.toList_append, String.toList_append, List.append_assoc]

/-- **What is written is read back.** -/
theorem read_toJson (hstyle : style.IsReadable) (hv : v.IsSorted) :
    ∃ text, v.toJson style = .ok text ∧ Json.read text = .ok v := by
  obtain ⟨text, htext, hreads⟩ := jsonAt_reads hstyle hv 0
  refine ⟨text, htext, ?_⟩
  have hvalue : readValue (2 * text.toList.length + 2) (text.toList ++ []) = .ok (v, []) :=
    hreads.value nofun (by omega)
  have hskip : skipSpace (text.toList ++ []) = text.toList ++ [] := hreads.skip
  obtain ⟨c, s, hstart, hc⟩ := hreads.start
  rw [List.append_nil] at hvalue hskip
  rw [Json.read]
  split
  · next t hmark =>
    rw [hmark] at hstart
    rw [← (List.cons.inj hstart).1] at hc
    cases hc
  · rw [hskip, hvalue]
    rfl

end

end RuleSchema
