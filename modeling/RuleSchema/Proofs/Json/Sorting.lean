import RuleSchema.Proofs.Compile.Stages
import RuleSchema.Proofs.Value.Equality

/-!
# Sorted documents

A document with whole numbers, in which tuples may stand for lists, can be sorted.  What comes out
has no tuples and its mappings are sorted by key at every depth; sorting it again changes nothing.
Two documents are sorted into one just if they are the same but for the order of keys and for which
of their lists are tuples.

* `Value.IsWhole` are these documents, and `Value.IsSorted` the sorted ones.
* `Value.SameDocument` is sameness but for the order of keys, and for tuples.
* `sortDeep_isWhole` and `sortDeep_isSorted`: **a document is sorted once.**
* `sortDeep_eq_iff`: **which documents are sorted into one.**
-/

namespace RuleSchema

namespace Entries

variable {α β γ δ : Type} {es fs : Entries α}

/-- The text of the key of an entry. -/
def nameOf (e : Value × α) : String := (e.1.text?).getD ""

theorem IsKeyed.name_inj (h : es.IsKeyed) {e f : Value × α} (he : e ∈ es) (hf : f ∈ es)
    (hname : nameOf e = nameOf f) : e = f := by
  obtain ⟨m, hm⟩ := h.texts e he
  obtain ⟨n, hn⟩ := h.texts f hf
  apply List.inj_on_of_nodup_map h.nodup he hf
  rw [nameOf, nameOf, hm, hn] at hname
  rw [hm, hn]
  exact congrArg Value.text hname

/-- Entries with the same content under every name are the same, but for their order. -/
theorem IsKeyed.perm_of_at? (hes : es.IsKeyed) (hfs : fs.IsKeyed)
    (h : ∀ n, es.at? n = fs.at? n) : es.Perm fs := by
  have hmem : ∀ {gs hs : Entries α}, gs.IsKeyed → hs.IsKeyed → (∀ n, gs.at? n = hs.at? n) →
      ∀ e ∈ gs, e ∈ hs := by
    rintro gs hs hgs hhs hsame ⟨k, x⟩ he
    obtain ⟨n, rfl⟩ := hgs.texts _ he
    apply hhs.at?_eq_some.mp
    rw [← hsame]
    exact hgs.at?_eq_some.mpr he
  apply (List.perm_ext_iff_of_nodup (.of_map _ hes.nodup) (.of_map _ hfs.nodup)).mpr
  intro e
  constructor
  · exact hmem hes hfs h e
  · exact hmem hfs hes (fun n => (h n).symm) e

/-- Entries that are made, content by content, of entries that are alike. -/
theorem Alike.transport {R : α → β → Prop} {S : α → γ → Prop} {T : β → δ → Prop}
    {Q : γ → δ → Prop} {gs : Entries β} {us : Entries γ} {vs : Entries δ} (h : Alike R es gs)
    (hes : List.Forall₂ (SameKey S) es us) (hgs : List.Forall₂ (SameKey T) gs vs)
    (hQ : ∀ {x y u v}, R x y → S x u → T y v → Q u v) : Alike Q us vs := by
  intro n
  have hname : Option.Rel R (es.find? (.text n)) (gs.find? (.text n)) := h n
  have hu := find?_sameKey hes (.text n)
  have hv := find?_sameKey hgs (.text n)
  rw [at?, at?]
  generalize es.find? (.text n) = x? at hname hu
  generalize gs.find? (.text n) = y? at hname hv
  generalize find? us (.text n) = u? at hu ⊢
  generalize find? vs (.text n) = v? at hv ⊢
  cases hname with
  | none =>
    cases hu
    cases hv
    exact .none
  | some hxy =>
    cases hu with
    | some hu =>
      cases hv with
      | some hv => exact .some (hQ hxy hu hv)

theorem IsKeyed.at?_perm (hes : es.IsKeyed) (h : es.Perm fs) (n : String) :
    es.at? n = fs.at? n := at?_shuffled (.swapped hes h) n

theorem sameKey_flip {R : α → β → Prop} {gs : Entries β}
    (h : List.Forall₂ (SameKey R) es gs) : List.Forall₂ (SameKey (flip R)) gs es :=
  h.flip.imp fun _ _ h => ⟨h.1.symm, h.2⟩

theorem Alike.eq (h : Alike (· = ·) es fs) (n : String) : es.at? n = fs.at? n := by
  have hname := h n
  generalize es.at? n = x? at hname ⊢
  generalize fs.at? n = y? at hname ⊢
  cases hname with
  | none => rfl
  | some hxy => rw [hxy]

end Entries

namespace Value

open Entries (nameOf)

/-- A document with whole numbers that can be written; tuples may stand for lists. -/
inductive IsWhole : Value → Prop
  | null : IsWhole .null
  | bool (b : Bool) : IsWhole (.bool b)
  | int {n : Int} : Binary64.digitCount n.natAbs ≤ digitLimit → IsWhole (.int n)
  | text (s : String) : IsWhole (.text s)
  | items {v : Value} {xs : List Value} : v.items? = some xs → (∀ x ∈ xs, IsWhole x) → IsWhole v
  | mapping {es : Entries Value} : es.IsKeyed → (∀ e ∈ es, IsWhole e.2) → IsWhole (.mapping es)

/-- A document with whole numbers and without tuples whose mappings are sorted. -/
inductive IsSorted : Value → Prop
  | null : IsSorted .null
  | bool (b : Bool) : IsSorted (.bool b)
  | int {n : Int} : Binary64.digitCount n.natAbs ≤ digitLimit → IsSorted (.int n)
  | text (s : String) : IsSorted (.text s)
  | list {xs : List Value} : (∀ x ∈ xs, IsSorted x) → IsSorted (.list xs)
  | mapping {es : Entries Value} : es.IsKeyed → (es.Pairwise fun e f => nameOf e < nameOf f) →
      (∀ e ∈ es, IsSorted e.2) → IsSorted (.mapping es)

/-- The same document, but for the order of keys at every depth, and for which lists are tuples.
Truth values are no numbers. -/
inductive SameDocument : Value → Value → Prop
  | null : SameDocument .null .null
  | bool (b : Bool) : SameDocument (.bool b) (.bool b)
  | int (n : Int) : SameDocument (.int n) (.int n)
  | text (s : String) : SameDocument (.text s) (.text s)
  -- by pairs and by names: inside another relation this one would have no induction
  | items {v w : Value} {xs ys : List Value} : v.items? = some xs → w.items? = some ys →
      xs.length = ys.length → (∀ {x y}, (x, y) ∈ xs.zip ys → SameDocument x y) → SameDocument v w
  | mapping {es fs : Entries Value} : (∀ n, (es.at? n).isSome = (fs.at? n).isSome) →
      (∀ {n x y}, es.at? n = some x → fs.at? n = some y → SameDocument x y) →
      SameDocument (.mapping es) (.mapping fs)

/-- What a value is sorted into. -/
abbrev SortsTo (v w : Value) : Prop := sortDeep v = .ok w

section

variable {a b v w : Value} {xs ys : List Value} {es mid : Entries Value}

/-! ### What sorting does -/

theorem sortsTo_items (hv : v.items? = some xs) (h : List.Forall₂ SortsTo xs ys) :
    SortsTo v (.list ys) := by
  have hitems : sortDeepItems xs = .ok ys := by
    clear hv
    induction h with
    | nil => rfl
    | cons hx _ ih =>
      rw [sortDeepItems, show sortDeep _ = _ from hx, ih]
      rfl
  cases v <;> cases hv <;> rw [SortsTo, sortDeep, hitems] <;> rfl

theorem sequenceEntries_map (es : Entries Value) :
    sequenceEntries (es.map fun e => (e.1, Except.ok e.2)) = .ok es := by
  induction es with
  | nil => rfl
  | cons e es ih =>
    rw [sequenceEntries] at ih ⊢
    rw [List.map_cons, List.mapM_cons, ih]
    rfl

/-- Entries are sorted by their names, whatever stands under them. -/
theorem sortKeys_map {α β : Type} {f : α → β} {es : Entries α} (hes : es.IsKeyed) :
    sortKeys (es.map fun e => (e.1, f e.2))
      = .ok ((sortedBy nameOf es).map fun e => (e.1, f e.2)) := by
  have hkeyed := hes.map f
  rw [sortKeys, keyClash?_keyed hkeyed, mergeSort_texts hkeyed.texts]
  -- the order is that of the names, which what stands under them does not change
  apply congrArg Except.ok
  exact (List.map_mergeSort (f := fun e : Value × α => (e.1, f e.2)) fun _ _ _ _ => rfl).symm

theorem sortsTo_mapping (hes : es.IsKeyed) (h : List.Forall₂ (SameKey SortsTo) es mid) :
    SortsTo (.mapping es) (.mapping (sortedBy nameOf mid)) := by
  have hmid : mid.IsKeyed := hes.of_keys (keys_of_sameKey h)
  have hentries : sortDeepEntries es = mid.map fun e => (e.1, Except.ok e.2) := by
    clear hes hmid
    induction h with
    | nil => rfl
    | @cons e f _ _ he _ ih =>
      rw [sortDeepEntries, ih, List.map_cons, he.1, show sortDeep e.2 = _ from he.2]
  rw [SortsTo, sortDeep, hentries, sortKeys_map hmid]
  change (sequenceEntries _ >>= _) = _
  rw [sequenceEntries_map]
  rfl

/-! ### Sorted documents -/

theorem isKeyed_sortedBy (h : es.IsKeyed) : Entries.IsKeyed (sortedBy nameOf es) :=
  h.perm sortedBy_perm.symm

theorem sortedBy_names (h : es.IsKeyed) :
    (sortedBy nameOf es).Pairwise fun e f => nameOf e < nameOf f := by
  apply sortedBy_strict
  apply List.Nodup.map_on _ (.of_map _ h.nodup)
  intro e he f hf
  exact h.name_inj he hf

/-- **A document can be sorted**, into a sorted one. -/
theorem sortDeep_isWhole (hv : v.IsWhole) : ∃ w, SortsTo v w ∧ w.IsSorted := by
  induction hv with
  | null => exact ⟨_, rfl, .null⟩
  | bool b => exact ⟨_, rfl, .bool b⟩
  | int hn => exact ⟨_, rfl, .int hn⟩
  | text s => exact ⟨_, rfl, .text s⟩
  | items hv _ ih =>
    obtain ⟨ys, hys⟩ := exists_forall₂ ih
    refine ⟨.list ys, sortsTo_items hv (hys.imp fun _ _ h => h.1), .list fun y hy => ?_⟩
    obtain ⟨x, -, -, hsorted⟩ := exists_of_mem_right hys hy
    exact hsorted
  | @mapping es hkeyed _ ih =>
    obtain ⟨mid, hmid⟩ : ∃ mid : Entries Value,
        List.Forall₂ (SameKey fun x y => SortsTo x y ∧ y.IsSorted) es mid :=
      exists_forall₂ fun e he => by
        obtain ⟨y, hy⟩ := ih e he
        exact ⟨(e.1, y), rfl, hy⟩
    have hmid' : Entries.IsKeyed mid := hkeyed.of_keys (keys_of_sameKey hmid)
    refine ⟨_, sortsTo_mapping hkeyed (hmid.imp fun _ _ h => ⟨h.1, h.2.1⟩),
      .mapping (isKeyed_sortedBy hmid') (sortedBy_names hmid') fun f hf => ?_⟩
    obtain ⟨e, -, -, -, hsorted⟩ := exists_of_mem_right hmid (sortedBy_perm.subset hf)
    exact hsorted

/-- **A sorted document stays as it is** when it is sorted. -/
theorem sortDeep_isSorted (hv : v.IsSorted) : SortsTo v v := by
  induction hv with
  | null | bool | int | text => rfl
  | list _ ih => exact sortsTo_items rfl (List.forall₂_same.mpr ih)
  | @mapping es hkeyed hsorted _ ih =>
    have hself : sortedBy nameOf es = es := by
      apply sortedBy_perm.eq_of_pairwise _ (sortedBy_names hkeyed) hsorted
      intro e f _ _ hef hfe
      exact absurd (String.lt_trans hef hfe) (String.lt_irrefl _)
    have hmapping := sortsTo_mapping hkeyed (List.forall₂_same.mpr fun e he => ⟨rfl, ih e he⟩)
    rwa [hself] at hmapping

/-! ### Documents that are sorted into one -/

theorem SortsTo.unique {u : Value} (hv : SortsTo u v) (hw : SortsTo u w) : v = w :=
  Except.ok.inj (hv.symm.trans hw)

theorem IsWhole.item (hv : v.IsWhole) (hxs : v.items? = some xs) : ∀ x ∈ xs, x.IsWhole := by
  cases hv with
  | items hxs' hv =>
    obtain rfl := Option.some.inj (hxs.symm.trans hxs')
    exact hv
  | _ => cases hxs

theorem IsWhole.entries (h : (Value.mapping es).IsWhole) :
    es.IsKeyed ∧ ∀ e ∈ es, e.2.IsWhole := by
  cases h with
  | items h => cases h
  | mapping hkeyed hes => exact ⟨hkeyed, hes⟩

/-- What the items of a list or a tuple are sorted into. -/
theorem IsWhole.sort_items (hv : v.IsWhole) (hxs : v.items? = some xs) :
    ∃ ys, List.Forall₂ SortsTo xs ys ∧ SortsTo v (.list ys) := by
  obtain ⟨ys, hys⟩ := exists_forall₂ fun x hx => by
    obtain ⟨y, hy, -⟩ := sortDeep_isWhole (hv.item hxs x hx)
    exact ⟨y, hy⟩
  exact ⟨ys, hys, sortsTo_items hxs hys⟩

/-- What the entries of a mapping are sorted into. -/
theorem IsWhole.sort_entries (h : (Value.mapping es).IsWhole) :
    ∃ mid : Entries Value, mid.IsKeyed ∧ List.Forall₂ (SameKey SortsTo) es mid ∧
      SortsTo (.mapping es) (.mapping (sortedBy nameOf mid)) := by
  obtain ⟨hkeyed, hes⟩ := h.entries
  obtain ⟨mid, hmid⟩ : ∃ mid : Entries Value, List.Forall₂ (SameKey SortsTo) es mid :=
    exists_forall₂ fun e he => by
      obtain ⟨y, hy, -⟩ := sortDeep_isWhole (hes e he)
      exact ⟨(e.1, y), rfl, hy⟩
  exact ⟨mid, hkeyed.of_keys (keys_of_sameKey hmid), hmid, sortsTo_mapping hkeyed hmid⟩

/-- What has been sorted, told from what came out. -/
theorem IsWhole.of_sortsTo (hv : v.IsWhole) (h : SortsTo v w) :
    match w with
    | .list ys => ∃ xs, v.items? = some xs ∧ List.Forall₂ SortsTo xs ys
    | .mapping fs => ∃ (es mid : Entries Value), v = .mapping es ∧ mid.IsKeyed ∧
        List.Forall₂ (SameKey SortsTo) es mid ∧ fs = sortedBy nameOf mid
    | w => v = w := by
  cases hv with
  | null | bool | int | text =>
    obtain rfl := Except.ok.inj h
    rfl
  | items hxs hv =>
    obtain ⟨ys, hys, hlist⟩ := (IsWhole.items hxs hv).sort_items hxs
    obtain rfl := h.unique hlist
    exact ⟨_, hxs, hys⟩
  | mapping hkeyed hes =>
    obtain ⟨mid, hkeyed', hmid, hmapping⟩ := (IsWhole.mapping hkeyed hes).sort_entries
    obtain rfl := h.unique hmapping
    exact ⟨_, mid, rfl, hkeyed', hmid, rfl⟩

/-- Documents that are the same are sorted into one. -/
theorem SameDocument.sortDeep_eq (h : a.SameDocument b) (ha : a.IsWhole) (hb : b.IsWhole) :
    sortDeep a = sortDeep b := by
  induction h with
  | null | bool | int | text => rfl
  | @items v w xs ys hxs hys hlength _ ih =>
    obtain ⟨us, hus, hv⟩ := ha.sort_items hxs
    obtain ⟨vs, hvs, hw⟩ := hb.sort_items hys
    have hitems : List.Forall₂ (fun x y => sortDeep x = sortDeep y) xs ys := by
      refine List.forall₂_iff_zip.mpr ⟨hlength, fun {x y} hmem => ?_⟩
      obtain ⟨hx, hy⟩ := List.of_mem_zip hmem
      exact ih hmem (ha.item hxs x hx) (hb.item hys y hy)
    have hsorted : List.Forall₂ (· = ·) us vs :=
      forall₂_transport hitems hus hvs fun hxy hx hy => Except.ok.inj (hx.symm.trans (hxy.trans hy))
    rw [List.forall₂_eq_eq_eq] at hsorted
    rw [hv, hw, hsorted]
  | @mapping es fs hnames _ ih =>
    obtain ⟨mid, hkeyed, hmid, hv⟩ := ha.sort_entries
    obtain ⟨mid', hkeyed', hmid', hw⟩ := hb.sort_entries
    obtain ⟨hes, hwhole⟩ := ha.entries
    obtain ⟨hfs, hwhole'⟩ := hb.entries
    have halike : Entries.Alike (fun x y => sortDeep x = sortDeep y) es fs := by
      refine fun n => optionRel_iff.mpr ⟨hnames n, fun x y hx hy => ?_⟩
      exact ih hx hy (hwhole _ (hes.at?_eq_some.mp hx)) (hwhole' _ (hfs.at?_eq_some.mp hy))
    have hsorted : Entries.Alike (· = ·) mid mid' :=
      halike.transport hmid hmid' fun hxy hx hy => Except.ok.inj (hx.symm.trans (hxy.trans hy))
    have hperm : mid.Perm mid' := hkeyed.perm_of_at? hkeyed' hsorted.eq
    rw [hv, hw, sortedBy_congr hperm fun e he f hf => hkeyed.name_inj he hf]

/-- Documents that are sorted into one are the same. -/
theorem sameDocument_of_sortsTo (ha : a.IsWhole) :
    ∀ {b w}, b.IsWhole → SortsTo a w → SortsTo b w → a.SameDocument b := by
  induction ha with
  | @items _ xs hxs hv ih =>
    intro b w hb hw hb'
    obtain ⟨ys, hys, hlist⟩ := (IsWhole.items hxs hv).sort_items hxs
    obtain rfl := hlist.unique hw
    obtain ⟨xs', hxs', hys'⟩ := hb.of_sortsTo hb'
    have hboth : List.Forall₂ (fun x x' => ∃ y, SortsTo x y ∧ SortsTo x' y) xs xs' :=
      forall₂_transport (List.forall₂_same.mpr fun y _ => Eq.refl y) hys.flip hys'.flip
        fun hxy hx hy => ⟨_, hx, hxy ▸ hy⟩
    obtain ⟨hlength, hitems⟩ := List.forall₂_iff_zip.mp hboth
    refine .items hxs hxs' hlength fun {x x'} hmem => ?_
    obtain ⟨y, hx, hx'⟩ := hitems hmem
    exact ih x (List.of_mem_zip hmem).1 (hb.item hxs' x' (List.of_mem_zip hmem).2) hx hx'
  | @mapping es hes' hes ih =>
    intro b w hb hw hb'
    obtain ⟨mid, hkeyed', hmid, hmapping⟩ := (IsWhole.mapping hes' hes).sort_entries
    obtain rfl := hmapping.unique hw
    obtain ⟨fs, mid', rfl, hkeyed'', hmid', hsorted⟩ := hb.of_sortsTo hb'
    have hperm : mid.Perm mid' :=
      sortedBy_perm.symm.trans ((List.Perm.of_eq hsorted).trans sortedBy_perm)
    have halike : Entries.Alike Eq mid mid' := by
      intro n
      rw [hkeyed'.at?_perm hperm]
      exact optionRel_iff.mpr ⟨rfl, fun x y hx hy => Option.some.inj (hx.symm.trans hy)⟩
    have hboth : Entries.Alike (fun x x' => ∃ y, SortsTo x y ∧ SortsTo x' y) es fs :=
      halike.transport (Entries.sameKey_flip hmid) (Entries.sameKey_flip hmid')
        fun hxy hx hy => ⟨_, hx, hxy ▸ hy⟩
    obtain ⟨hkeyed, hcontents⟩ := hb.entries
    refine .mapping (fun n => (optionRel_iff.mp (hboth n)).1) fun {n x x'} hx hx' => ?_
    obtain ⟨y, hy, hy'⟩ := (optionRel_iff.mp (hboth n)).2 x x' hx hx'
    exact ih _ (hes'.at?_eq_some.mp hx) (hcontents _ (hkeyed.at?_eq_some.mp hx')) hy hy'
  | _ =>
    intro b w hb hw hb'
    obtain rfl := Except.ok.inj hw
    have hsame : b = _ := hb.of_sortsTo hb'
    rw [hsame]
    constructor

/-- **Documents are sorted into one** just if they are the same, but for the order of keys and for
tuples. -/
theorem sortDeep_eq_iff (ha : a.IsWhole) (hb : b.IsWhole) :
    sortDeep a = sortDeep b ↔ a.SameDocument b := by
  obtain ⟨w, hw, -⟩ := sortDeep_isWhole hb
  constructor
  · intro h
    exact sameDocument_of_sortsTo ha hb (h.trans hw) hw
  · intro h
    exact h.sortDeep_eq ha hb

/-- Every document is the same as itself. -/
theorem SameDocument.refl (h : v.IsWhole) : v.SameDocument v :=
  (sortDeep_eq_iff h h).mp rfl

/-- Two entries change places. -/
theorem SameDocument.swap {m n : String} (h : m ≠ n) {x x' y y' : Value} (hx : x.SameDocument x')
    (hy : y.SameDocument y') :
    SameDocument (.mapping [(.text m, x), (.text n, y)])
      (.mapping [(.text n, y'), (.text m, x')]) := by
  have halike : Entries.Alike SameDocument [(.text m, x), (.text n, y)]
      [(.text n, y'), (.text m, x')] := by
    refine (Entries.alike_iff (Entries.isKeyed_pair h) (Entries.isKeyed_pair h.symm)).mpr ⟨rfl, ?_⟩
    refine List.forall_mem_cons.mpr ⟨⟨(.text m, x'), ?_, rfl, hx⟩, ?_⟩
    · exact List.mem_cons_of_mem _ (List.mem_singleton_self _)
    · exact List.forall_mem_singleton.mpr ⟨_, List.mem_cons_self, rfl, hy⟩
  refine .mapping (fun k => (optionRel_iff.mp (halike k)).1) fun {k z z'} hz hz' => ?_
  exact (optionRel_iff.mp (halike k)).2 z z' hz hz'

end

end Value

end RuleSchema
