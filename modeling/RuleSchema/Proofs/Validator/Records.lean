import Mathlib.Data.List.Induction
import RuleSchema.Proofs.Compile.Unique
import RuleSchema.Proofs.Projection.Rules
import RuleSchema.Proofs.Validator.Presence

/-!
# The entries of a record

A record validates the key and the value of each entry, and puts the two into the mapping that it
gives.  What it puts in are therefore the validated entries, in their order, but for those whose
value has come out absent.

Putting an entry in replaces what is under an equal key.  So the mapping has one entry for each of
the validated ones just if no two of the validated keys are equal, and then it is the list of them.
Different keys may well be equal once they are validated, because a rule may trim a key, fold its
case or fill it up: then the entry that comes last under a key takes the place of the others.

* `Entries.PutTogether` says what mapping is made of some entries, and `putTogether` proves it.
* `validateEntry` validates one entry, `kept` leaves out those with an absent value.
* `validateEntries_iff`: what the entries of a record become.
* `record_entries_kept`: **every entry is kept just if the validated keys are different.**
-/

namespace RuleSchema

open Eval

/-! ### Putting entries together -/

namespace Entries

variable {es ps qs : Entries Value} {p : Value × Value} {n : String} {k x : Value}

/-- No two of the keys are equal. -/
def KeysApart (es : Entries Value) : Prop := es.Pairwise fun a b => b.1.equals a.1 = false

instance : DecidablePred KeysApart := fun es => inferInstanceAs (Decidable (es.Pairwise _))

/-- What is made of some entries when they are put in one after the other. -/
structure PutTogether (ps qs : Entries Value) : Prop where
  /-- They stay as they are just if their keys are different. -/
  same : qs = ps ↔ ps.KeysApart
  /-- Otherwise there are fewer. -/
  length : qs.length = ps.length ↔ ps.KeysApart
  /-- The keys that stay keep their order. -/
  order : qs.keys.Sublist ps.keys
  /-- What is put in last under a text is what is found under it. -/
  last : ∀ n, qs.at? n = Entries.at? ps.reverse n

theorem keysApart_concat :
    KeysApart (ps ++ [p]) ↔ ps.KeysApart ∧ ∀ e ∈ ps, p.1.equals e.1 = false := by
  simp [KeysApart, List.pairwise_append]

theorem ofPairs_concat : ofPairs (ps ++ [p]) = (ofPairs ps).put p.1 p.2 := by
  simp [ofPairs]

/-- An entry more, or the same number if the key is there already. -/
theorem length_put (es : Entries Value) (k x : Value) : (es.put k x).length = es.length ∨
    (∀ e ∈ es, k.equals e.1 = false) ∧ (es.put k x).length = es.length + 1 := by
  have hkeys : ∀ fs : Entries Value, fs.keys.length = fs.length := fun fs => List.length_map _
  rcases keys_put es k x with h | ⟨hnew, h⟩
  · left
    rw [← hkeys, h, hkeys]
  · right
    refine ⟨hnew, ?_⟩
    rw [← hkeys, h, List.length_append, hkeys, List.length_singleton]

theorem length_ofPairs_le (ps : Entries Value) : (ofPairs ps).length ≤ ps.length := by
  induction ps using List.reverseRecOn with
  | nil => simp [ofPairs]
  | append_singleton ps p ih =>
    have hput := length_put (ofPairs ps) p.1 p.2
    rw [ofPairs_concat, List.length_append, List.length_singleton]
    omega

/-- Entries with different keys stay as they are. -/
theorem ofPairs_of_apart (h : ps.KeysApart) : ofPairs ps = ps := by
  induction ps using List.reverseRecOn with
  | nil => rfl
  | append_singleton ps p ih =>
    obtain ⟨hps, hnew⟩ := keysApart_concat.mp h
    rw [ofPairs_concat, ih hps]
    exact put_new hnew

/-- If none of them is lost then their keys are different. -/
theorem keysApart_of_length (h : (ofPairs ps).length = ps.length) : ps.KeysApart := by
  induction ps using List.reverseRecOn with
  | nil => exact .nil
  | append_singleton ps p ih =>
    have hle := length_ofPairs_le ps
    rw [ofPairs_concat, List.length_append, List.length_singleton] at h
    rcases length_put (ofPairs ps) p.1 p.2 with hsame | ⟨hnew, hmore⟩
    · omega
    · have hps : KeysApart ps := ih (by omega)
      rw [ofPairs_of_apart hps] at hnew
      exact keysApart_concat.mpr ⟨hps, hnew⟩

theorem keys_ofPairs : (ofPairs ps).keys.Sublist ps.keys := by
  induction ps using List.reverseRecOn with
  | nil => exact .slnil
  | append_singleton ps p ih =>
    have hkeys : keys (ps ++ [p]) = keys ps ++ [p.1] := List.map_append
    rw [ofPairs_concat, hkeys]
    rcases keys_put (ofPairs ps) p.1 p.2 with h | ⟨_, h⟩
    · rw [h]
      exact ih.trans (List.sublist_append_left _ _)
    · rw [h]
      exact ih.append (.refl _)

/-- What is put in under a key that is equal to a text is found under the text. -/
theorem at?_put_equal (hk : k.equals (.text n) = true) : (es.put k x).at? n = some x := by
  rw [Schema.equals_text, Value.equals_iff_text rfl] at hk
  have hsame : ∀ l : Value, k.equals l = (Value.text n).equals l := by
    intro l
    rw [Bool.eq_iff_iff, Value.equals_iff_text hk, Value.equals_iff_text rfl]
  have hput : es.put k x = es.put (.text n) x ∨ es.put k x = es ++ [(k, x)] ∧ es.at? n = none := by
    induction es with
    | nil => exact .inr ⟨rfl, rfl⟩
    | cons e es ih =>
      rw [put, put, hsame e.1, Schema.at?_cons]
      by_cases he : (Value.text n).equals e.1 = true
      · left
        rw [if_pos he, if_pos he]
      · rw [if_neg he, if_neg he, if_neg he]
        rcases ih with ih | ⟨ih, hnone⟩
        · left
          rw [ih]
        · right
          exact ⟨by rw [ih]; rfl, hnone⟩
  rcases hput with hput | ⟨hput, hnone⟩
  · rw [hput, Schema.at?_put_self]
  · have hfound : (Value.text n).equals k = true := by rwa [Value.equals_iff_text rfl]
    rw [hput, Schema.at?_append, hnone, Schema.at?_cons, if_pos hfound]
    rfl

theorem at?_ofPairs : (ofPairs ps).at? n = Entries.at? ps.reverse n := by
  induction ps using List.reverseRecOn with
  | nil => rfl
  | append_singleton ps p ih =>
    rw [ofPairs_concat, List.reverse_append, List.reverse_singleton, List.singleton_append,
      Schema.at?_cons, ← Schema.equals_text]
    by_cases hp : p.1.equals (.text n) = true
    · rw [if_pos hp, at?_put_equal hp]
    · rw [if_neg hp, Schema.at?_put_other (by simpa using hp), ih]

/-- **What is made of some entries** that are put in one after the other. -/
theorem putTogether (ps : Entries Value) : PutTogether ps (ofPairs ps) where
  same := ⟨fun h => keysApart_of_length (congrArg List.length h), ofPairs_of_apart⟩
  length := ⟨keysApart_of_length, fun h => congrArg List.length (ofPairs_of_apart h)⟩
  order := keys_ofPairs
  last := fun _ => at?_ofPairs

end Entries

/-! ### The entries of a record -/

/-- The validated key and the validated value of an entry. -/
def validateEntry (keys values : Validator) (e : Value × Value) :
    Eval PayloadError (Value × Value) := do
  return (← keys.validate e.1, ← values.validate e.2)

/-- The entries whose value is present. -/
def kept (es : Entries Value) : Entries Value := es.filter fun e => !e.2.isAbsent

theorem kept_cons_absent {p : Value × Value} {es : Entries Value} (h : p.2.isAbsent = true) :
    kept (p :: es) = kept es := by
  simp [kept, h]

theorem kept_cons_present {p : Value × Value} {es : Entries Value} (h : ¬ p.2.isAbsent = true) :
    kept (p :: es) = p :: kept es := by
  simp [kept, h]

theorem kept_of_present {es : Entries Value} (h : ∀ e ∈ es, e.2.isAbsent = false) :
    kept es = es :=
  List.filter_eq_self.mpr fun e he => by simp [h e he]

section

variable {keys values : Validator} {done out : Entries Value} {e : Value × Value} {t u : Tally}

theorem putEntry_ok_iff {k x : Value} :
    putEntry done k x = .ok out ↔ k.unkeyable? = none ∧ out = done.put k x := by
  rw [putEntry]
  cases k.unkeyable? with
  | some kind => simp
  | none => simp [eq_comm]

theorem validateEntry_ok_iff {p : Value × Value} : validateEntry keys values e t = (.ok p, u) ↔
    ∃ s, keys.validate e.1 t = (.ok p.1, s) ∧ values.validate e.2 s = (.ok p.2, u) := by
  rw [validateEntry, bind_ok_iff]
  constructor
  · rintro ⟨k, s, hk, h⟩
    obtain ⟨x, s', hx, h⟩ := bind_ok h
    obtain ⟨rfl, rfl⟩ := pure_ok h
    exact ⟨s, hk, hx⟩
  · rintro ⟨s, hk, hx⟩
    exact ⟨p.1, s, hk, bind_of_ok hx⟩

/-- One entry of a record is left out, or put in if its key can be one. -/
theorem validateEntries_cons {rest : Entries Value} :
    validateEntries keys values done (e :: rest) t = (.ok out, u) ↔
      ∃ p s, validateEntry keys values e t = (.ok p, s) ∧
        if p.2.isAbsent then validateEntries keys values done rest s = (.ok out, u)
        else p.1.unkeyable? = none ∧
          validateEntries keys values (done.put p.1 p.2) rest s = (.ok out, u) := by
  rw [validateEntries]
  simp only [bind_ok_iff, part_ok_iff, validateEntry_ok_iff]
  constructor
  · rintro ⟨k, s, hk, x, s', hx, h⟩
    refine ⟨(k, x), s', ⟨s, hk, hx⟩, ?_⟩
    dsimp only
    split
    · next hx => rwa [if_pos hx] at h
    · next hx =>
      rw [if_neg hx] at h
      obtain ⟨done', s'', hdone, h⟩ := bind_ok h
      obtain ⟨hput, rfl⟩ := ofFault_ok hdone
      obtain ⟨hkey, rfl⟩ := putEntry_ok_iff.mp hput
      exact ⟨hkey, h⟩
  · rintro ⟨p, s', ⟨s, hk, hx⟩, h⟩
    refine ⟨p.1, s, hk, p.2, s', hx, ?_⟩
    split
    · next hx => rwa [if_pos hx] at h
    · next hx =>
      rw [if_neg hx] at h
      rw [putEntry_ok_iff.mpr ⟨h.1, rfl⟩, ofFault_ok_eq, pure_bind]
      exact h.2

/-- **What the entries of a record become**: they are validated one by one, and those with a
present value are put to what is there. -/
theorem validateEntries_iff {es : Entries Value} :
    validateEntries keys values done es t = (.ok out, u) ↔
      ∃ pairs, es.mapM (validateEntry keys values) t = (.ok pairs, u) ∧
        (∀ p ∈ kept pairs, p.1.unkeyable? = none) ∧
          out = (kept pairs).foldl (fun fs p => fs.put p.1 p.2) done := by
  induction es generalizing done t with
  | nil =>
    constructor
    · intro h
      obtain ⟨rfl, rfl⟩ := pure_ok h
      exact ⟨[], rfl, by simp [kept], rfl⟩
    · rintro ⟨pairs, hpairs, -, rfl⟩
      obtain ⟨rfl, rfl⟩ := pure_ok hpairs
      rfl
  | cons e es ih =>
    rw [validateEntries_cons, List.mapM_cons]
    simp only [bind_ok_iff]
    constructor
    · rintro ⟨p, s, hp, h⟩
      split at h
      · next hx =>
        obtain ⟨pairs, hpairs, hkept⟩ := ih.mp h
        refine ⟨p :: pairs, ⟨p, s, hp, pairs, u, hpairs, rfl⟩, ?_⟩
        rwa [kept_cons_absent hx]
      · next hx =>
        obtain ⟨pairs, hpairs, hkeys, hout⟩ := ih.mp h.2
        refine ⟨p :: pairs, ⟨p, s, hp, pairs, u, hpairs, rfl⟩, ?_⟩
        rw [kept_cons_present hx]
        exact ⟨List.forall_mem_cons.mpr ⟨h.1, hkeys⟩, hout⟩
    · rintro ⟨pairs, ⟨p, s, hp, rest, s', hrest, h⟩, hkept⟩
      obtain ⟨rfl, rfl⟩ := pure_ok h
      refine ⟨p, s, hp, ?_⟩
      split
      · next hx =>
        rw [kept_cons_absent hx] at hkept
        exact ih.mpr ⟨rest, hrest, hkept⟩
      · next hx =>
        rw [kept_cons_present hx] at hkept
        obtain ⟨hkey, hkeys⟩ := List.forall_mem_cons.mp hkept.1
        exact ⟨hkey, ih.mpr ⟨rest, hrest, hkeys, hkept.2⟩⟩

theorem mapM_length {es pairs : Entries Value}
    (h : es.mapM (validateEntry keys values) t = (.ok pairs, u)) : pairs.length = es.length :=
  (mapM_ok h).length_eq.symm

end

section

variable {c : CommonOptions} {key value : Rule} {ctx : Strictness} {d : Validator}

/-- **What a record becomes.**  It is accepted just if all its keys and values are and the keys
can be keys, and it becomes what the validated entries with a present value make when they are put
in one after the other.  If no value is dropped then every entry is kept, in its order and with its
validated key and value, just if the validated keys are all different; otherwise there are fewer
entries than in the input, and what came last under a key has replaced the others. -/
theorem record_entries_kept (h : (Rule.record c key value).CompilesTo ctx d) :
    ∃ keys values, key.CompilesTo ctx keys ∧ value.CompilesTo ctx values ∧
      ∀ (es : Entries Value) (t : Tally),
        (∀ w u, d.validate (.mapping es) t = (.ok w, u) ↔
          ∃ pairs, es.mapM (validateEntry keys values) t = (.ok pairs, u) ∧
            (∀ p ∈ kept pairs, p.1.unkeyable? = none) ∧
              w = .mapping (Entries.ofPairs (kept pairs))) ∧
        ∀ pairs u, es.mapM (validateEntry keys values) t = (.ok pairs, u) →
          (∀ p ∈ pairs, p.2.isAbsent = false) →
            kept pairs = pairs ∧ pairs.length = es.length ∧
              Entries.PutTogether pairs (Entries.ofPairs pairs) := by
  obtain ⟨keys, values, _, _, s, hkeys, hvalues, -, -, hs, hd⟩ := h.record
  refine ⟨keys, values, hkeys, hvalues, fun es t => ⟨fun w u => ?_, ?_⟩⟩
  · have hrun : d.validate (.mapping es) t = (.ok w, u) ↔
        recordStep keys values (.mapping es) t = (.ok w, u) := by
      rw [validate_lone hd.stages hs ⟨rfl, rfl⟩]
      exact ⟨mapReason_ok, mapReason_of_ok⟩
    rw [hrun]
    constructor
    · intro h
      obtain ⟨out, s, hout, h⟩ := bind_ok h
      obtain ⟨rfl, rfl⟩ := pure_ok h
      obtain ⟨pairs, hpairs, hkeys, rfl⟩ := validateEntries_iff.mp hout
      exact ⟨pairs, hpairs, hkeys, rfl⟩
    · rintro ⟨pairs, hpairs, hkeys, rfl⟩
      exact bind_of_ok (validateEntries_iff.mpr ⟨pairs, hpairs, hkeys, rfl⟩)
  · intro pairs u hpairs hpresent
    exact ⟨kept_of_present hpresent, mapM_length hpairs, Entries.putTogether pairs⟩

/-- Two keys that are trimmed to one: the second entry takes the place of the first. -/
theorem record_entries_kept_trimmed :
    let r := Rule.record {} (.string {} { trim := true }) (.any {})
    let es : Entries Value := [(.text " a", .int 1), (.text "a", .int 2)]
    ∃ d, r.CompilesTo {} d ∧
      d.validate (.mapping es) [] = (.ok (.mapping [(.text "a", .int 2)]), []) ∧
      ∃ pairs, pairs.length = es.length ∧ ¬ Entries.KeysApart pairs ∧
        Entries.PutTogether pairs [(.text "a", .int 2)] := by
  intro r es
  obtain ⟨d, hd⟩ : ∃ d, r.CompilesTo {} d := ⟨_, "$", [], [], rfl⟩
  obtain ⟨keys, values, hkeys, hvalues, hpairs⟩ : ∃ keys values : Validator,
      (Rule.string {} { trim := true }).CompilesTo {} keys ∧ (Rule.any {}).CompilesTo {} values ∧
        es.mapM (validateEntry keys values) []
          = (.ok [(.text "a", .int 1), (.text "a", .int 2)], []) :=
    ⟨_, _, ⟨"$", [], [], rfl⟩, ⟨"$", [], [], rfl⟩, rfl⟩
  obtain ⟨keys', values', hkeys', hvalues', hall⟩ := record_entries_kept hd
  obtain rfl := hkeys.unique hkeys'
  obtain rfl := hvalues.unique hvalues'
  obtain ⟨hruns, hkept⟩ := hall es []
  obtain ⟨-, hlength, htogether⟩ := hkept _ _ hpairs (by decide)
  exact ⟨d, hd, (hruns _ _).mpr ⟨_, hpairs, by decide, rfl⟩, _, hlength, by decide, htogether⟩

end

end RuleSchema
