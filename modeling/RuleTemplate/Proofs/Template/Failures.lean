import RuleTemplate.Proofs.Template.Turns

/-!
# Failing renderings

A text is rendered unless a hook fails. `Formatter.HookFails` says when the `span` hooks fail at a
marker, in terms of the hooks alone; a value fails that a `path` hook gives. The scan comes first:
it ends at the leftmost marker that fails, and then no value is waited for
(`Formatter.format_fails`).
-/

namespace RuleTemplate

/-! ## Hooks -/

namespace Formatter

variable {f : Formatter} {e : Event} {n : Nat} {t : Text} {error : FormatError} {a : Answer}

end Formatter

/-! ## Scans -/

namespace Scan

variable {answer : Nat → Text → Answer} {t : Text} {n : Nat} {s r : Scan} {error : FormatError}

end Scan

namespace Formatter

variable {f : Formatter} {e : Event} {offset offset' : Nat} {t behind behind' : Text}
  {error error' : FormatError}

/-- The scan comes to the marker at `offset`. -/
def Visits (f : Formatter) (e : Event) (t : Text) (offset : Nat) (behind : Text) : Prop :=
  MarkerAt t offset behind ∧ offset ∈ (f.scan e t).visited.map (·.1)

lemma Visits.mem (h : f.Visits e t offset behind) :
    (offset, f.answer e offset behind) ∈ (f.scan e t).visited := by
  obtain ⟨hmarker, hmem⟩ := h
  obtain ⟨v, hv, rfl⟩ := List.mem_map.1 hmem
  obtain ⟨behind', hmarker', hanswer⟩ := genuine_scan v hv
  rw [hmarker.unique hmarker', ← hanswer]
  exact hv

end Formatter

/-! ## Results -/

namespace Formatter

variable {f : Formatter} {e : Event} {t : Text}

/-- A formatter that claims two bytes behind a marker, characters or not, and whose paths fail. -/
def careless : Formatter :=
  ⟨.below [], .disabled,
    [.ofRules (some ⟨"2", none, some "claimed", .bytes 2⟩) (some ⟨none, .failure "late", 0⟩)]⟩

end Formatter
end RuleTemplate
