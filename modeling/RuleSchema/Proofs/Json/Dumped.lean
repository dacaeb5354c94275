import RuleSchema.Proofs.Json.Reading

/-!
# What the canonical text tells

The canonical text of a document is that of the sorted document, and reading it gives the sorted
document back.  So two documents have one text just if they are sorted into one, which is to say
that they are the same but for the order of keys and for tuples.  Their fingerprints are equal in
the same case, and otherwise only where the digest has the same value for the bytes of two different
texts.

* `DumpedAs` says all that is known of one document and its text.
* `toUtf8_injective`: different texts have different bytes.
* `documents_dumped`: **which documents have one text, and which have one fingerprint.**
-/

namespace RuleSchema

/-- A document, what it is sorted into, and its canonical text. -/
structure DumpedAs (indent? : Option String) (v w : Value) (text : String) : Prop where
  sorted : sortDeep v = .ok w
  sortedOnce : sortDeep w = .ok w
  dumped : dumpJson v indent? = .ok text
  dumpedSorted : dumpJson w indent? = .ok text
  readBack : Json.read text = .ok w

/-- Two texts whose bytes are different and have the same digest. -/
def Collide (s t : String) : Prop :=
  Text.toUtf8 s ≠ Text.toUtf8 t ∧ Sha256.hex (Text.toUtf8 s) = Sha256.hex (Text.toUtf8 t)

section

variable {a b v w : Value} {indent? : Option String} {s t : String}

/-! ### Texts -/

theorem isReadable_compact : JsonStyle.compact.IsReadable where
  wide := rfl
  items := ⟨[], rfl, fun _ hc => absurd hc List.not_mem_nil⟩
  keys := ⟨[], rfl, fun _ hc => absurd hc List.not_mem_nil⟩
  lines := nofun

theorem isReadable_indented {indent : String} (h : Json.Blanks indent.toList) :
    (JsonStyle.indented indent).IsReadable where
  wide := rfl
  items := ⟨[], show ",".toList = [','] from rfl, fun _ hc => absurd hc List.not_mem_nil⟩
  keys := ⟨[' '], show ": ".toList = [':', ' '] from rfl,
    fun _ hc => List.mem_singleton.mp hc ▸ rfl⟩
  lines := fun _ hindent => Option.some.inj hindent ▸ h

/-- A canonical text is that of the sorted document, in a style that adds only blanks. -/
theorem dumpJson_style (h : ∀ indent, indent? = some indent → Json.Blanks indent.toList) :
    ∃ style : JsonStyle, style.IsReadable ∧
      ∀ {v w}, sortDeep v = .ok w → dumpJson v indent? = w.toJson style := by
  cases indent? with
  | none =>
    refine ⟨.compact, isReadable_compact, fun hv => ?_⟩
    rw [dumpJson, hv]
    rfl
  | some indent =>
    refine ⟨.indented indent, isReadable_indented (h indent rfl), fun hv => ?_⟩
    rw [dumpJson, hv]
    rfl

/-- **A document has a canonical text**, which is that of the sorted document and is read as the
sorted document. -/
theorem exists_dumpedAs (hv : v.IsWhole)
    (h : ∀ indent, indent? = some indent → Json.Blanks indent.toList) :
    ∃ w text, DumpedAs indent? v w text := by
  obtain ⟨w, hw, hsorted⟩ := Value.sortDeep_isWhole hv
  have hself : sortDeep w = .ok w := Value.sortDeep_isSorted hsorted
  obtain ⟨style, hreadable, hstyle⟩ := dumpJson_style h
  obtain ⟨text, htext, hread⟩ := read_toJson hreadable hsorted
  exact ⟨w, text, hw, hself, (hstyle hw).trans htext, (hstyle hself).trans htext, hread⟩

/-- Documents have one text just if they are sorted into one. -/
theorem DumpedAs.text_eq_iff (hv : DumpedAs indent? a v s) (hw : DumpedAs indent? b w t) :
    s = t ↔ v = w := by
  constructor
  · rintro rfl
    exact Except.ok.inj (hv.readBack.symm.trans hw.readBack)
  · rintro rfl
    exact Except.ok.inj (hv.dumpedSorted.symm.trans hw.dumpedSorted)

theorem DumpedAs.sorted_eq_iff (hv : DumpedAs indent? a v s) (hw : DumpedAs indent? b w t)
    (ha : a.IsWhole) (hb : b.IsWhole) : v = w ↔ a.SameDocument b := by
  rw [← Value.sortDeep_eq_iff ha hb, hv.sorted, hw.sorted, Except.ok.injEq]

/-! ### Fingerprints -/

theorem toList_loop (bs : ByteArray) (i : Nat) (r : List UInt8) :
    ByteArray.toList.loop bs i r = r.reverse ++ bs.data.toList.drop i := by
  fun_induction ByteArray.toList.loop bs i r with
  | case1 i r h ih =>
    have hi : i < bs.data.toList.length := h
    have hget : bs.get! i = bs.data.toList[i] := getElem!_pos bs.data i h
    rw [ih, hget, List.drop_eq_getElem_cons hi, List.reverse_cons, List.append_assoc]
    rfl
  | case2 i r h =>
    have hlength : bs.data.toList.length ≤ i := Nat.not_lt.mp h
    rw [List.drop_of_length_le hlength, List.append_nil]

/-- **Different texts have different bytes.** -/
theorem toUtf8_injective (h : Text.toUtf8 s = Text.toUtf8 t) : s = t := by
  have hlist : ∀ bs : ByteArray, bs.toList = bs.data.toList := by
    intro bs
    rw [ByteArray.toList, toList_loop]
    rfl
  rw [Text.toUtf8, Text.toUtf8, hlist, hlist] at h
  apply String.toByteArray_inj.mp
  exact ByteArray.ext (Array.toList_inj.mp h)

/-- Equal fingerprints are those of one text, or of two texts that collide. -/
theorem fingerprint_texts (hs : dumpJson a none = .ok s) (ht : dumpJson b none = .ok t) :
    ∃ x y, fingerprint a = .ok x ∧ fingerprint b = .ok y ∧ (x = y ↔ s = t ∨ Collide s t) := by
  refine ⟨"sha256:" ++ Sha256.hex (Text.toUtf8 s), "sha256:" ++ Sha256.hex (Text.toUtf8 t),
    ?_, ?_, ?_⟩
  · rw [fingerprint, hs]
    rfl
  · rw [fingerprint, ht]
    rfl
  · constructor
    · intro h
      have hdigest : Sha256.hex (Text.toUtf8 s) = Sha256.hex (Text.toUtf8 t) := by
        simpa using h
      by_cases heq : s = t
      · exact .inl heq
      · exact .inr ⟨fun hbytes => heq (toUtf8_injective hbytes), hdigest⟩
    · rintro (rfl | h)
      · rfl
      · rw [h.2]

/-- **What the canonical text tells.**  Every document with whole numbers has one, on one line or
indented by blanks; it is the text of the sorted document as well, which is sorted once and for all,
and it is read as the sorted document.  Two documents have one text just if they are the same but
for the order of keys and for tuples.  They have one fingerprint in the same case, or if their
one-line texts collide. -/
theorem documents_dumped (ha : a.IsWhole) (hb : b.IsWhole)
    (h : ∀ indent, indent? = some indent → Json.Blanks indent.toList) :
    ∃ v w s t, DumpedAs indent? a v s ∧ DumpedAs indent? b w t ∧
      (s = t ↔ a.SameDocument b) ∧ (v = w ↔ a.SameDocument b) ∧
      ∃ p q x y, DumpedAs none a v p ∧ DumpedAs none b w q ∧
        fingerprint a = .ok x ∧ fingerprint b = .ok y ∧
        (x = y ↔ a.SameDocument b ∨ Collide p q) := by
  obtain ⟨v, s, hv⟩ := exists_dumpedAs ha h
  obtain ⟨w, t, hw⟩ := exists_dumpedAs hb h
  obtain ⟨v', p, hv'⟩ : ∃ v' p, DumpedAs none a v' p := exists_dumpedAs ha nofun
  obtain ⟨w', q, hw'⟩ : ∃ w' q, DumpedAs none b w' q := exists_dumpedAs hb nofun
  obtain rfl : v = v' := Except.ok.inj (hv.sorted.symm.trans hv'.sorted)
  obtain rfl : w = w' := Except.ok.inj (hw.sorted.symm.trans hw'.sorted)
  have hsame := hv.sorted_eq_iff hw ha hb
  obtain ⟨x, y, hx, hy, hprints⟩ := fingerprint_texts hv'.dumped hw'.dumped
  refine ⟨v, w, s, t, hv, hw, (hv.text_eq_iff hw).trans hsame, hsame, p, q, x, y, hv', hw', hx, hy,
    ?_⟩
  rw [hprints, hv'.text_eq_iff hw', hsame]

/-- A tuple for a list and keys in another order, with a text that has to be escaped: one text. -/
theorem documents_dumped_pair :
    let a := Value.mapping [(.text "b", .tuple [.int (-1), .bool true]),
      (.text "a", .mapping [(.text "y", .null), (.text "x", .text "\u00fc\"\n")])]
    let b := Value.mapping [(.text "a", .mapping [(.text "x", .text "\u00fc\"\n"),
      (.text "y", .null)]), (.text "b", .list [.int (-1), .bool true])]
    a.IsWhole ∧ b.IsWhole ∧ a.SameDocument b ∧
      ∃ w s, DumpedAs (some "  ") a w s ∧ DumpedAs (some "  ") b w s := by
  intro a b
  have hint : Binary64.digitCount (-1 : Int).natAbs ≤ digitLimit := by decide
  have hitems : ∀ x ∈ [Value.int (-1), .bool true], x.IsWhole :=
    List.forall_mem_cons.mpr ⟨.int hint, List.forall_mem_singleton.mpr (.bool true)⟩
  have ha : a.IsWhole := by
    refine .mapping (Entries.isKeyed_pair (by decide)) ?_
    refine List.forall_mem_cons.mpr ⟨.items rfl hitems, List.forall_mem_singleton.mpr ?_⟩
    refine .mapping (Entries.isKeyed_pair (by decide)) ?_
    exact List.forall_mem_cons.mpr ⟨.null, List.forall_mem_singleton.mpr (.text _)⟩
  have hb : b.IsWhole := by
    refine .mapping (Entries.isKeyed_pair (by decide)) ?_
    refine List.forall_mem_cons.mpr ⟨?_, List.forall_mem_singleton.mpr (.items rfl hitems)⟩
    refine .mapping (Entries.isKeyed_pair (by decide)) ?_
    exact List.forall_mem_cons.mpr ⟨.text _, List.forall_mem_singleton.mpr .null⟩
  have hsame : a.SameDocument b := by
    refine .swap (by decide) (.items rfl rfl rfl fun {x y} hmem => ?_) ?_
    · have hpairs := List.forall₂_same.mpr fun x hx => Value.SameDocument.refl (hitems x hx)
      exact (List.forall₂_iff_zip.mp hpairs).2 hmem
    · exact .swap (by decide) .null (.text _)
  have hblanks : ∀ indent, some "  " = some indent → Json.Blanks indent.toList := by
    rintro indent ⟨⟩ c hc
    have hc : c = ' ' := by simpa using hc
    rw [hc]
    rfl
  obtain ⟨v, w, s, t, hv, hw, htext, hsorted, -⟩ := documents_dumped ha hb hblanks
  obtain rfl := htext.mpr hsame
  obtain rfl := hsorted.mpr hsame
  exact ⟨ha, hb, hsame, v, s, hv, hw⟩

end

end RuleSchema
