import RuleTemplate.Proofs.Template.Placeholder
import RuleTemplate.Proofs.Template.Reading
import RuleTemplate.Proofs.Text.Pieces

/-!
# Placeholders in braces

A placeholder in braces ends with the last closing brace of the run of characters up to the next
blank. So it ends with its own brace exactly when no other one follows in that run, and what comes
next is then rendered on its own.

* `Formatter.exists_format_braced`: what it is rendered as, whatever text follows.
* `Text.exists_last_brace`: the run of any text, cut at its last closing brace.
-/

namespace RuleTemplate

namespace Text

variable {t : Text}

/-- A run that holds a closing brace, cut at the last one. -/
lemma exists_last_brace (h : '\x7d' ∈ run t) :
    ∃ inner rest, t = inner ++ '\x7d' :: rest ∧ (∀ c ∈ inner, isBlank c = false)
      ∧ '\x7d' ∉ run rest := by
  obtain ⟨inner, after, hrun, hafter⟩ := exists_last h
  have hblank : ∀ c ∈ inner ++ '\x7d' :: after, isBlank c = false :=
    fun c hc => isBlank_of_mem_run (hrun ▸ hc)
  refine ⟨inner, after ++ t.dropWhile fun c => !isBlank c, ?_,
    fun c hc => hblank c (List.mem_append_left _ hc), ?_⟩
  · have hsplit := List.takeWhile_append_dropWhile (p := fun c => !isBlank c) (l := t)
    rw [← run, hrun] at hsplit
    simpa using hsplit.symm
  · rw [run_append fun c hc => hblank c (List.mem_append_right _ (List.mem_cons_of_mem _ hc)),
      run_dropWhile, List.append_nil]
    exact hafter

end Text

/-- The names of built-in placeholders begin with letters. -/
lemma Builtin.exists_name_eq_cons (b : Builtin) :
    ∃ c rest, b.name = c :: rest ∧ c.toLower ≠ '\x7b' := by
  cases b <;> exact ⟨_, _, rfl, by decide⟩

/-- No built-in placeholder stands in braces. -/
lemma Builtin.find?_brace (t : Text) : Builtin.find? ('\x7b' :: t) = none := by
  rw [find?, List.find?_eq_none]
  intro b _ hb
  obtain ⟨c, rest, hname, hc⟩ := b.exists_name_eq_cons
  rw [begins, hname, List.length_cons, List.take_succ_cons, Text.sameLetters, Text.lower,
    Text.lower, List.map_cons, List.map_cons] at hb
  exact hc (List.cons.inj (eq_of_beq hb)).1.symm

namespace Formatter

variable {f : Formatter} {e : Event} {kind path t : Text}

/-- Without extensions, a placeholder in braces has the value at the end of its path, whatever
follows, as long as no other closing brace follows before the next blank. -/
lemma replacement_braced (hf : f.extensions = []) (hkind : '_' ∉ kind)
    (hpath : ∀ c ∈ path, Text.isBlank c = false) (ht : '\x7d' ∉ Text.run t) :
    f.replacement e (Placeholder.bracedText kind path ++ t)
      = some (((Node.record (.event e)).resolve (Placeholder.segments path)).1.bind Node.text?,
          Text.byteSize (Placeholder.bracedText kind path)) := by
  have hbuiltin : Builtin.find? (Placeholder.bracedText kind path ++ t) = none :=
    Builtin.find?_brace _
  have hparse := Placeholder.parse?_braced_append hkind hpath ht
  simp only [replacement, answer_of_extensions_eq_nil hf, hbuiltin, hparse]
  rfl

/-- What a placeholder in braces is rendered as, on its own and in front of a text that does not
begin with a run that holds a closing brace. -/
lemma exists_format_braced (hf : f.extensions = []) (hkind : '_' ∉ kind)
    (hpath : ∀ c ∈ path, Text.isBlank c = false) :
    ∃ x, f.format e (marker :: Placeholder.bracedText kind path) = .ok x ∧
      ∀ t, '\x7d' ∉ Text.run t →
        f.format e (marker :: (Placeholder.bracedText kind path ++ t))
          = .ok (x ++ reading (f.replacement e) t) := by
  have halone := replacement_braced (t := []) (e := e) hf hkind hpath List.not_mem_nil
  rw [List.append_nil] at halone
  exact ⟨_, format_marker (sound_of_nil hf) halone, fun t ht =>
    format_marker_append (sound_of_nil hf) (replacement_braced hf hkind hpath ht)⟩

/-- A placeholder in braces ends with its own brace, and what follows is rendered on its own, when
no other closing brace follows before the next blank. Otherwise the last such brace ends it, and its
path goes on up to there. -/
theorem format_braced_append (hf : f.extensions = []) (hkind : '_' ∉ kind)
    (hpath : ∀ c ∈ path, Text.isBlank c = false) (t : Text) :
    ('\x7d' ∉ Text.run t → Script.body? (Text.trim t) = none →
      ∃ x y, f.format e (marker :: Placeholder.bracedText kind path) = .ok x ∧
        f.format e t = .ok y ∧
        f.format e (marker :: (Placeholder.bracedText kind path ++ t)) = .ok (x ++ y)) ∧
    ('\x7d' ∈ Text.run t →
      ∃ inner rest x y, t = inner ++ '\x7d' :: rest ∧ '\x7d' ∉ Text.run rest ∧
        f.format e (marker :: Placeholder.bracedText kind (path ++ '\x7d' :: inner)) = .ok x ∧
        (Script.body? (Text.trim rest) = none → f.format e rest = .ok y) ∧
        f.format e (marker :: (Placeholder.bracedText kind path ++ t)) = .ok (x ++ y)) := by
  have hsound : ∀ x ∈ f.extensions, x.Sound e := by simp [hf]
  constructor
  · intro hrun hscript
    obtain ⟨x, halone, happend⟩ := exists_format_braced (e := e) hf hkind hpath
    exact ⟨x, _, halone, format_eq_reading_of_sound hsound hscript, happend t hrun⟩
  -- the longer path up to the last brace is that of a placeholder to which the same applies
  · intro hrun
    obtain ⟨inner, rest, rfl, hinner, hrest⟩ := Text.exists_last_brace hrun
    have hlonger : ∀ c ∈ path ++ '\x7d' :: inner, Text.isBlank c = false := by
      intro c hc
      rcases List.mem_append.1 hc with hc | hc
      · exact hpath c hc
      · rcases List.mem_cons.1 hc with rfl | hc
        · decide
        · exact hinner c hc
    obtain ⟨x, halone, happend⟩ := exists_format_braced (e := e) hf hkind hlonger
    refine ⟨inner, rest, x, _, rfl, hrest, halone,
      fun hscript => format_eq_reading_of_sound hsound hscript, ?_⟩
    have htext : Placeholder.bracedText kind path ++ (inner ++ '\x7d' :: rest)
        = Placeholder.bracedText kind (path ++ '\x7d' :: inner) ++ rest := by
      simp [Placeholder.bracedText]
    rw [htext]
    exact happend rest hrest

/-- A formatter without extensions. -/
def plain : Formatter := ⟨.below [], .disabled, []⟩

lemma isBlank_name : ∀ c ∈ ("name" : Text), Text.isBlank c = false := by
  have hall : ("name" : Text).all (fun c => !Text.isBlank c) = true := by decide
  simpa using hall

/-- A blank parts two placeholders; a brace right behind a placeholder is taken for its own. -/
theorem format_braced_samples :
    plain.format .sample "$\x7bEVENT_name\x7d $\x7bEVENT_name\x7d" = .ok "Manual Manual" ∧
    plain.format .sample "$\x7bEVENT_name\x7d\x7d" = .ok "null" := by
  have hkind : '_' ∉ ("EVENT" : Text) := by decide
  have happend := format_braced_append (f := plain) (e := .sample) rfl hkind isBlank_name
  constructor
  · have hscript : Script.body? (Text.trim " $\x7bEVENT_name\x7d") = none := by decide
    obtain ⟨x, y, hx, hy, h⟩ := (happend " $\x7bEVENT_name\x7d").1 (by decide) hscript
    have hx' : plain.format .sample "$\x7bEVENT_name\x7d" = .ok "Manual" := by decide +kernel
    have hy' : plain.format .sample " $\x7bEVENT_name\x7d" = .ok " Manual" := by decide +kernel
    cases hx.symm.trans hx'
    cases hy.symm.trans hy'
    exact h
  · obtain ⟨inner, rest, x, y, ht, -, hx, hy, h⟩ := (happend "\x7d").2 (by decide)
    -- the text is a single brace, so nothing stands before or behind it
    cases inner with
    | cons c inner => cases inner <;> cases (List.cons.inj ht).2
    | nil =>
      cases ht
      have hx' : plain.format .sample "$\x7bEVENT_name\x7d\x7d" = .ok "null" := by decide +kernel
      cases hx.symm.trans hx'
      cases (hy (by decide)).symm.trans rfl
      exact h

/-- A placeholder in braces does not always end with its own brace: next to another one it loses its
value. -/
theorem format_braced_adjacent :
    ¬ ∀ (f : Formatter) (e : Event) (kind path t : Text), f.extensions = [] → '_' ∉ kind →
      '\x7d' ∉ kind → '\x7d' ∉ path → (∀ c ∈ path, Text.isBlank c = false) →
      Script.body? (Text.trim t) = none →
      ∃ x y, f.format e (marker :: Placeholder.bracedText kind path) = .ok x ∧
        f.format e t = .ok y ∧
        f.format e (marker :: (Placeholder.bracedText kind path ++ t)) = .ok (x ++ y) := by
  intro h
  have hscript : Script.body? (Text.trim "$\x7bEVENT_name\x7d") = none := by decide
  obtain ⟨x, y, hx, hy, hxy⟩ := h plain .sample "EVENT" "name" "$\x7bEVENT_name\x7d" rfl (by decide)
    (by decide) (by decide) isBlank_name hscript
  have hone : plain.format .sample "$\x7bEVENT_name\x7d" = .ok "Manual" := by decide +kernel
  have htwo : plain.format .sample "$\x7bEVENT_name\x7d$\x7bEVENT_name\x7d" = .ok "null" := by
    decide +kernel
  cases hx.symm.trans hone
  cases hy.symm.trans hone
  cases hxy.symm.trans htwo

end Formatter
end RuleTemplate
