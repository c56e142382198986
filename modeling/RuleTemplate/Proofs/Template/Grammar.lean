import RuleTemplate.Proofs.Template.Placeholder
import RuleTemplate.Proofs.Text.Border
import RuleTemplate.Proofs.Text.Pieces

/-!
# The grammar of placeholders by path

`Placeholder.Spells` says with which placeholder a text begins, by its first underscore and the run
of characters behind that. Every text with an underscore begins with one placeholder, and that is
the one which is read (`Placeholder.parse?_spells`).
-/

namespace RuleTemplate.Placeholder

/-! ## Segments -/

/-- A segment of a path: it is not empty and holds no point and no white space. -/
structure Segment (s : Text) : Prop where
  ne_nil : s ≠ []
  point : '.' ∉ s
  isBlank : ∀ c ∈ s, Text.isBlank c = false

lemma segment_iff {s : Text} :
    Segment s ↔ s ≠ [] ∧ '.' ∉ s ∧ s.all (fun c => !Text.isBlank c) = true := by
  rw [List.all_eq_true]
  constructor
  · intro h
    exact ⟨h.ne_nil, h.point, fun c hc => by simp [h.isBlank c hc]⟩
  · rintro ⟨hne, hpoint, hall⟩
    exact ⟨hne, hpoint, fun c hc => by simpa using hall c hc⟩

/-- Whether a text is a segment can be decided. -/
instance (s : Text) : Decidable (Segment s) := decidable_of_iff _ segment_iff.symm

section
variable {first : Text} {others : List Text}

/-- A path leads through the segments that it is made of. -/
lemma segments_path (hfirst : Segment first) (hothers : ∀ s ∈ others, Segment s) :
    segments (first ++ others.flatMap ('.' :: ·)) = first :: others := by
  have hall : ∀ s ∈ first :: others, decide (s ≠ []) = true := by
    intro s hs
    rcases List.mem_cons.1 hs with rfl | hs
    · exact decide_eq_true hfirst.ne_nil
    · exact decide_eq_true (hothers s hs).ne_nil
  rw [segments, Text.splitAt_flatMap hfirst.point fun s hs => (hothers s hs).point,
    List.filter_eq_self.2 hall]

/-- There is no white space in a path. -/
lemma isBlank_path (hfirst : Segment first) (hothers : ∀ s ∈ others, Segment s) :
    ∀ c ∈ first ++ others.flatMap ('.' :: ·), Text.isBlank c = false := by
  intro c hc
  rcases List.mem_append.1 hc with hc | hc
  · exact hfirst.isBlank c hc
  · obtain ⟨s, hs, hc⟩ := List.mem_flatMap.1 hc
    rcases List.mem_cons.1 hc with rfl | hc
    · decide
    · exact (hothers s hs).isBlank c hc

end

/-- The pieces of a path between its points are these, in their order and without the empty ones. -/
def Divides (path : Text) (segments : List Text) : Prop :=
  ∃ pieces, pieces ≠ [] ∧ (∀ piece ∈ pieces, '.' ∉ piece) ∧ Text.joinWith ['.'] pieces = path ∧
    segments = pieces.filter (· ≠ [])

variable {t path : Text} {ss : List Text} {p q : Placeholder}

/-- A path is divided in one way. -/
lemma divides_iff : Divides path ss ↔ ss = segments path := by
  constructor
  · rintro ⟨pieces, hne, hpoint, rfl, rfl⟩
    rw [segments, Text.splitAt_joinWith hne hpoint]
  · rintro rfl
    exact ⟨Text.splitAt '.' path, Text.splitAt_ne_nil '.' path,
      fun piece hpiece => Text.not_mem_of_mem_splitAt hpiece, Text.joinWith_splitAt '.' path, rfl⟩

/-- In a path without white space, what is found between the points are segments. -/
lemma Divides.segment (h : Divides path ss) (hblank : ∀ c ∈ path, Text.isBlank c = false) :
    ∀ s ∈ ss, Segment s := by
  obtain ⟨pieces, -, hpoint, rfl, rfl⟩ := h
  intro s hs
  obtain ⟨hs, hne⟩ := List.mem_filter.1 hs
  exact ⟨of_decide_eq_true hne, hpoint s hs, fun c hc => hblank c (Text.mem_joinWith hs hc)⟩

/-! ## The two forms -/

/-- The text begins with the placeholder. -/
inductive Spells : Text → Placeholder → Prop
  /-- Behind an opening brace, the last closing brace of the run behind the first underscore ends
  it. -/
  | braced {kind rest path beyond : Text} {ss : List Text} (hkind : '_' ∉ kind)
    (hrun : Text.run rest = path ++ '\x7d' :: beyond) (hlast : '\x7d' ∉ beyond)
    (hpath : Divides path ss) :
    Spells ('\x7b' :: (kind ++ '_' :: rest)) ⟨kind, ss, '\x7b' :: (kind ++ '_' :: path ++ ['\x7d'])⟩
  /-- Otherwise it ends with that run. -/
  | bare {kind rest : Text} {ss : List Text} (hkind : '_' ∉ kind)
    (hopen : kind.head? = some '\x7b' → '\x7d' ∉ Text.run rest)
    (hpath : Divides (Text.run rest) ss) :
    Spells (kind ++ '_' :: rest) ⟨kind, ss, kind ++ '_' :: Text.run rest⟩

/-- No placeholder in braces is read, where there is no opening brace, or none closes it. -/
lemma braced?_eq_none {kind rest : Text} (hkind : '_' ∉ kind)
    (hopen : kind.head? = some '\x7b' → '\x7d' ∉ Text.run rest) :
    braced? (kind ++ '_' :: rest) = none := by
  by_cases hhead : kind.head? = some '\x7b'
  · obtain ⟨inner, rfl⟩ := List.head?_eq_some_iff.1 hhead
    have hinner : '_' ∉ inner := fun hmem => hkind (List.mem_cons_of_mem _ hmem)
    rw [List.cons_append, braced?_append hinner, beforeBrace?_eq_none (hopen hhead)]
    rfl
  · exact braced?_eq_none_of_head? hhead rest

/-- The placeholder with which a text begins is read. -/
lemma Spells.parse?_eq (h : Spells t p) : parse? t = some p := by
  cases h with
  | braced hkind hrun hlast hpath =>
    rw [divides_iff.1 hpath, parse?, braced?_append hkind, hrun, beforeBrace?_append _ hlast]
    simp [bracedText]
  | bare hkind hopen hpath =>
    rw [divides_iff.1 hpath, parse?, braced?_eq_none hkind hopen, bare?_append hkind]
    rfl

/-- A text with an underscore begins with a placeholder. -/
lemma exists_spells (h : '_' ∈ t) : ∃ p, Spells t p := by
  obtain ⟨kind, rest, rfl, hkind⟩ := List.eq_append_cons_of_mem h
  by_cases hbrace : kind.head? = some '\x7b' ∧ '\x7d' ∈ Text.run rest
  · obtain ⟨hopen, hclosed⟩ := hbrace
    obtain ⟨inner, rfl⟩ := List.head?_eq_some_iff.1 hopen
    obtain ⟨path, beyond, hrun, hlast⟩ := Text.exists_last hclosed
    have hinner : '_' ∉ inner := fun hmem => hkind (List.mem_cons_of_mem _ hmem)
    exact ⟨_, .braced hinner hrun hlast (divides_iff.2 rfl)⟩
  · exact ⟨_, .bare hkind (not_and.1 hbrace) (divides_iff.2 rfl)⟩

lemma parse?_eq_some_iff : parse? t = some p ↔ Spells t p := by
  constructor
  · intro h
    obtain ⟨kind, rest, -, rfl⟩ := exists_of_parse? h
    obtain ⟨q, hq⟩ := exists_spells (t := kind ++ '_' :: rest) (by simp)
    obtain rfl : q = p := Option.some.inj (hq.parse?_eq.symm.trans h)
    exact hq
  · exact Spells.parse?_eq

lemma parse?_eq_none_iff : parse? t = none ↔ '_' ∉ t := by
  constructor
  · intro h hmem
    obtain ⟨p, hp⟩ := exists_spells hmem
    rw [hp.parse?_eq] at h
    cases h
  · intro h
    by_contra hne
    obtain ⟨p, hp⟩ := Option.ne_none_iff_exists'.1 hne
    obtain ⟨kind, rest, -, rfl⟩ := exists_of_parse? hp
    simp at h

/-- What is found in the path of a placeholder are segments. -/
lemma Spells.segment (h : Spells t p) : ∀ s ∈ p.path, Segment s := by
  cases h with
  | @braced kind rest path beyond ss hkind hrun hlast hpath =>
    refine hpath.segment fun c hc => ?_
    have hmem : c ∈ Text.run rest := by
      rw [hrun]
      exact List.mem_append_left _ hc
    exact Text.isBlank_of_mem_run hmem
  | bare hkind hopen hpath => exact hpath.segment fun c hc => Text.isBlank_of_mem_run hc

/-- The underscore is in the text of a placeholder. -/
lemma Spells.size_pos (h : Spells t p) : 0 < p.size := by
  have hsource : ∃ before behind, p.source = before ++ '_' :: behind := by
    cases h with
    | @braced kind rest path beyond ss => exact ⟨'\x7b' :: kind, path ++ ['\x7d'], by simp⟩
    | @bare kind rest ss => exact ⟨kind, Text.run rest, rfl⟩
  obtain ⟨before, behind, hsource⟩ := hsource
  have hunderscore : Char.utf8Size '_' = 1 := rfl
  rw [size, hsource, Text.byteSize_append, Text.byteSize_cons, hunderscore]
  omega

/-- A placeholder is read off every text with an underscore, and it is the one with which the text
begins by the grammar. Its path is made of segments, and its size is that of a beginning of the
text. -/
theorem parse?_spells (t : Text) :
    (parse? t = none ↔ '_' ∉ t) ∧ (∀ p, parse? t = some p ↔ Spells t p) ∧
      ∀ p, parse? t = some p →
        (∀ s ∈ p.path, Segment s) ∧ 1 ≤ p.size ∧ p.size ≤ t.byteSize ∧ t.IsBorder p.size := by
  refine ⟨parse?_eq_none_iff, fun p => parse?_eq_some_iff, ?_⟩
  intro p hp
  have hspells := parse?_eq_some_iff.1 hp
  obtain ⟨rest, rfl⟩ := eq_source_append_of_parse? hp
  have hborder : (p.source ++ rest).IsBorder p.size := Text.isBorder_byteSize p.source rest
  exact ⟨hspells.segment, hspells.size_pos, hborder.le_byteSize, hborder⟩

/-- White space in the kind, an empty piece, and a brace within the path. -/
theorem parse?_spells_nested :
    parse? "\x7bé b_x..y\x7dz\x7d, c" = some ⟨"é b", ["x", "y\x7dz"], "\x7bé b_x..y\x7dz\x7d"⟩ ∧
      (⟨"é b", ["x", "y\x7dz"], "\x7bé b_x..y\x7dz\x7d"⟩ : Placeholder).size = 13 ∧
      parse? "\x7bé b" = none := by
  have hspells : Spells "\x7bé b_x..y\x7dz\x7d, c"
      ⟨"é b", ["x", "y\x7dz"], "\x7bé b_x..y\x7dz\x7d"⟩ := by
    have hdivides : Divides "x..y\x7dz" ["x", "y\x7dz"] :=
      ⟨["x", [], "y\x7dz"], by decide, by decide, by decide, by decide⟩
    exact @Spells.braced "é b" "x..y\x7dz\x7d, c" "x..y\x7dz" "," _ (by decide) (by decide)
      (by decide) hdivides
  obtain ⟨-, hread, hfacts⟩ := parse?_spells "\x7bé b_x..y\x7dz\x7d, c"
  have hparse := (hread _).2 hspells
  obtain ⟨-, -, hsize, -⟩ := hfacts _ hparse
  obtain ⟨hnone, -⟩ := parse?_spells "\x7bé b"
  exact ⟨hparse, by decide, hnone.2 (by decide)⟩

end RuleTemplate.Placeholder
