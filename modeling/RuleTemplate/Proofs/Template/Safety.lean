import RuleTemplate.Proofs.Template.Turns

/-!
# Scans are safe

The offsets of a scan are in bytes, and hooks may claim any number of them. Still every slice is cut
between two characters, every turn brings the cursor forward, and at the end the parts and the
placeholders make up the template (`Formatter.scan_safe`).
-/

namespace RuleTemplate
namespace Scan

variable {answer : Nat → Text → Answer} {s : Scan} {t held rest : Text} {n offset : Nat}

/-- The two offsets of the scan cut the template between characters, and the literal text that is in
no part yet ends where the search goes on. -/
structure Safe (s : Scan) (t : Text) : Prop where
  literalStart : t.IsBorder s.literalStart
  cursor : t.IsBorder s.cursor
  le : s.literalStart ≤ s.cursor

/-- A turn at `offset` cuts the template between characters, stays within it, and goes on. -/
structure SafeTurn (s : Scan) (t : Text) (offset : Nat) (a : Answer) : Prop where
  cursor_le : s.cursor ≤ offset
  marker : t.IsBorder offset
  behind : t.IsBorder (offset + 1)
  consumed : ∀ p size, a.slot? = some (p, size) →
    t.IsBorder (offset + 1 + size) ∧ offset + 1 + size ≤ t.byteSize
  cursor_lt : s.cursor < (s.visit t offset a).cursor

lemma At.safe (h : s.At t held rest) : s.Safe t := by
  obtain ⟨found, rfl, hliteral, hcursor⟩ := h
  constructor
  · rw [hliteral]
    exact Text.isBorder_byteSize _ _
  · rw [hcursor, ← List.append_assoc]
    exact Text.isBorder_byteSize _ _
  · rw [hliteral, hcursor, Text.byteSize_append]
    exact Nat.le_add_right _ _

lemma safeTurn_of_markerAt {behind : Text} (h : MarkerAt t offset behind) (hle : s.cursor ≤ offset)
    (hfits : Fits answer) : s.SafeTurn t offset (answer offset behind) where
  cursor_le := hle
  marker := h.isBorder
  behind := by
    have hnothing : MarkerAt t offset ([] ++ behind) := h
    exact hnothing.isBorder_behind
  consumed := by
    intro p size hslot
    obtain ⟨used, rest, rfl, rfl⟩ := hfits _ _ _ _ hslot
    exact ⟨h.isBorder_behind, h.isBorder_behind.le_byteSize⟩
  cursor_lt := by
    rw [cursor_visit]
    omega

/-- Every turn is safe, and there are no more turns than markers. -/
lemma After.safe (hfits : Fits answer) (h : After answer t n s) :
    s.Safe t ∧ ∀ offset, s.next? t = some offset →
      n < t.count marker ∧ s.SafeTurn t offset (answerAt answer t offset) := by
  obtain ⟨held, rest, hinv⟩ := h.exists_inv hfits
  refine ⟨hinv.position.safe, ?_⟩
  intro offset hnext
  obtain ⟨before, behind, rfl, -, rfl, hmarker⟩ := hinv.position.exists_marker hnext
  -- the marker of this turn is in the text that no turn has come to
  have hturns := hinv.turns
  simp only [List.count_append, List.count_cons_self] at hturns
  refine ⟨by omega, ?_⟩
  rw [answerAt, hmarker.dropBytes]
  exact safeTurn_of_markerAt hmarker (Nat.le_add_right _ _) hfits

/-- The last turn is one of those. -/
lemma Ends.length_visited_le {r : Scan} (hfits : Fits answer) (h : After answer t n s)
    (hends : Ends answer t s r) : r.visited.length ≤ t.count marker := by
  cases hends with
  | close =>
    obtain ⟨held, rest, hinv⟩ := h.exists_inv hfits
    have hturns := hinv.turns
    rw [Scan.close, h.length_visited]
    omega
  | fail hnext =>
    obtain ⟨hlt, -⟩ := (h.safe hfits).2 _ hnext
    rw [visited_visit, List.length_append, h.length_visited]
    exact hlt

lemma Ends.assemble_eq {r : Scan} (hfits : Fits answer) (h : After answer t n s)
    (hends : Ends answer t s r) (hr : r.failure = none) :
    assemble r.parts ((r.placeholders t).map some) = t ∧
      r.parts.count .pending = r.pending.length ∧
      (r.placeholders t).length = r.pending.length := by
  cases hends with
  | fail => cases hr
  | close =>
    have htidy := h.tidy.close t
    refine ⟨?_, htidy.count_pending, htidy.length_placeholders t⟩
    obtain ⟨held, rest, hinv⟩ := h.exists_inv hfits
    have hlength : ((s.placeholders t).map some).length = s.parts.count .pending := by
      rw [List.length_map, h.tidy.length_placeholders, h.tidy.count_pending]
    have happend := assemble_append [.literal (held ++ rest)] [] hlength
    rw [hinv.position.adds_close.parts_eq]
    rw [List.append_nil] at happend
    refine happend.trans ?_
    simpa [assemble] using hinv.filled

end Scan

/-- Claims as many bytes as the digit behind the marker says. -/
def Extension.counting : Extension where
  span _ t := .ok ((t.head?.bind Text.digit?).map fun n => ⟨"claimed", n⟩)
  path _ _ := none

/-- A formatter with that extension. -/
def Formatter.counting : Formatter := ⟨.below [], .disabled, [.counting]⟩

namespace Formatter

/-- When no marker has failed, the placeholders in their parts are the template. -/
lemma assemble_scan {f : Formatter} {e : Event} {t : Text} (h : (f.scan e t).failure = none) :
    assemble (f.scan e t).parts (((f.scan e t).placeholders t).map some) = t ∧
      (f.scan e t).parts.count .pending = (f.scan e t).pending.length ∧
      ((f.scan e t).placeholders t).length = (f.scan e t).pending.length := by
  obtain ⟨n, s, hafter, hends⟩ := Scan.exists_ends (f.answer e) t
  exact hends.assemble_eq (fits_answer f e) hafter h

/-- Whatever the hooks claim, each turn of a scan cuts the template between characters, stays within
it and goes on, and there are no more turns than markers. A scan that does not fail finds parts that
make up the template when the placeholders are put in their places, one for each value. -/
theorem scan_safe (f : Formatter) (e : Event) (t : Text) :
    (∀ n s, Scan.After (f.answer e) t n s →
      s.Safe t ∧ ∀ offset, s.next? t = some offset →
        n < t.count marker ∧ s.SafeTurn t offset (Scan.answerAt (f.answer e) t offset)) ∧
    (∃ n s, Scan.After (f.answer e) t n s ∧ Scan.Ends (f.answer e) t s (f.scan e t)) ∧
    (f.scan e t).visited.length ≤ t.count marker ∧
    ((f.scan e t).failure = none →
      assemble (f.scan e t).parts (((f.scan e t).placeholders t).map some) = t ∧
      (f.scan e t).parts.count .pending = (f.scan e t).pending.length ∧
      ((f.scan e t).placeholders t).length = (f.scan e t).pending.length) := by
  have hfits := fits_answer f e
  obtain ⟨n, s, hafter, hends⟩ := Scan.exists_ends (f.answer e) t
  refine ⟨fun n s h => h.safe hfits, ⟨n, s, hafter, hends⟩,
    hends.length_visited_le hfits hafter, assemble_scan⟩

/-- A claim of no bytes and one of two characters with three bytes; a claim that ends within a
character. -/
theorem scan_safe_counting :
    (assemble (counting.scan .sample "$0 $3é").parts
      (((counting.scan .sample "$0 $3é").placeholders "$0 $3é").map some) = "$0 $3é" ∧
      (counting.scan .sample "$0 $3é").pending.length = 1) ∧
    (counting.scan .sample "$2é $").visited.length ≤ 2 := by
  obtain ⟨-, -, -, hassemble⟩ := scan_safe counting .sample "$0 $3é"
  obtain ⟨htemplate, hcount, -⟩ := hassemble (by decide +kernel)
  obtain ⟨-, -, hturns, -⟩ := scan_safe counting .sample "$2é $"
  refine ⟨⟨htemplate, ?_⟩, hturns⟩
  rw [← hcount]
  decide +kernel

end Formatter
end RuleTemplate
