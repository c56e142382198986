import RuleTemplate.Proofs.Template.Appending
import RuleTemplate.Proofs.Template.Grammar

/-!
# Markers that stand for nothing

A marker stands for nothing exactly when no underscore follows it in the template. A placeholder
without braces ends at a blank, but its kind may hold blanks too: so a marker in front of a blank,
such as that of a price, takes all up to the next underscore, and the run there, for a placeholder
(`Formatter.format_stray_marker`).

A template can be cut in front of each marker that the scan comes to (`Formatter.reading_cut`): what
a placeholder means does not depend on the text behind it.
-/

namespace RuleTemplate

/-! ## Texts that are cut off -/

namespace Builtin

variable {t : Text} {b : Builtin}

lemma underscore_mem_name (b : Builtin) : '_' ∈ b.name := by cases b <;> decide

/-- The name of a built-in placeholder is in the first run of the text, and holds an underscore. -/
lemma underscore_mem_run (h : find? t = some b) : '_' ∈ Text.run t := by
  have hbegins : Text.sameLetters (t.take b.name.length) b.name = true :=
    List.find?_some (p := begins t) h
  have hlower := eq_of_beq hbegins
  have hblank : ∀ c ∈ t.take b.name.length, Text.isBlank c = false := by
    intro c hc
    have hmem : c.toLower ∈ Text.lower b.name := hlower ▸ List.mem_map_of_mem hc
    by_contra hne
    have hlowerBlank := Text.isBlank_toLower (Bool.not_eq_false _ ▸ hne)
    rw [isBlank_of_mem_name hmem] at hlowerBlank
    cases hlowerBlank
  have hmem : '_' ∈ Text.lower (t.take b.name.length) :=
    hlower ▸ List.mem_map_of_mem (f := Char.toLower) b.underscore_mem_name
  obtain ⟨c, hc, hunderscore⟩ := List.mem_map.1 hmem
  obtain rfl := Text.eq_of_toLower_eq_underscore hunderscore
  rw [← List.take_append_drop b.name.length t, Text.run_append hblank]
  exact List.mem_append_left _ hc

end Builtin

namespace Placeholder

variable {used held more : Text} {p : Placeholder}

/-- A placeholder is read also, when the text is cut off somewhere behind it. -/
lemma parse?_of_append (h : parse? (used ++ (held ++ more)) = some p) (hsource : p.source = used) :
    parse? (used ++ held) = some p := by
  have hspells := parse?_eq_some_iff.1 h
  generalize ht : used ++ (held ++ more) = t at h hspells
  cases hspells with
  | @braced kind rest path beyond ss hkind hrun hlast hpath =>
    subst hsource
    obtain rfl := divides_iff.1 hpath
    have hrest : rest = path ++ '\x7d' :: (held ++ more) := by simpa using ht.symm
    have hword : ∀ c ∈ path ++ ['\x7d'], Text.isBlank c = false := by
      intro c hc
      have hmem : c ∈ Text.run rest := by
        rw [hrun]
        simp only [List.mem_append, List.mem_cons, List.not_mem_nil, or_false] at hc ⊢
        tauto
      exact Text.isBlank_of_mem_run hmem
    have hbeyond : Text.run rest = path ++ '\x7d' :: Text.run (held ++ more) := by
      have happend := Text.run_append (t := held ++ more) hword
      simpa [hrest] using happend
    rw [hbeyond] at hrun
    have hnone : '\x7d' ∉ Text.run held := by
      intro hmem
      have hsame : Text.run (held ++ more) = beyond := by simpa using hrun
      exact hlast (hsame ▸ Text.mem_run_append hmem more)
    have hread := parse?_braced_append hkind
      (fun c hc => hword c (List.mem_append_left _ hc)) hnone
    simpa [bracedText] using hread
  | @bare kind rest ss hkind hopen hpath =>
    subst hsource
    have hsplit := List.takeWhile_append_dropWhile (p := fun c => !Text.isBlank c) (l := rest)
    have hbehind : held ++ more = rest.dropWhile fun c => !Text.isBlank c := by
      have hrest : Text.run rest ++ (held ++ more) = rest := by simpa using ht
      exact List.append_cancel_left (hrest.trans hsplit.symm)
    have hends : Text.run (held ++ more) = [] := by rw [hbehind, Text.run_dropWhile]
    exact parse?_append_of_endsRun (parse?_source h) (Text.endsRun_of_run_append hends)

end Placeholder

namespace Formatter

variable {f : Formatter} {e : Event} {n : Nat} {t a b used held more behind : Text} {p : Pending}

/-- A marker stands for nothing, when no underscore follows. -/
lemma slot?_eq_none_iff (hf : f.extensions = []) :
    (f.answer e n t).slot? = none ↔ '_' ∉ t := by
  rw [answer_of_extensions_eq_nil hf]
  cases hbuiltin : Builtin.find? t with
  | some b =>
    have hmem := Text.mem_of_mem_run (Builtin.underscore_mem_run hbuiltin)
    simp [Answer.slot?, hmem]
  | none =>
    rw [← Placeholder.parse?_eq_none_iff]
    cases Placeholder.parse? t <;> simp [Answer.slot?]

/-- A placeholder means the same, when the text is cut off somewhere behind it. -/
lemma slot?_of_append (hf : f.extensions = [])
    (h : (f.answer e n (used ++ (held ++ more))).slot? = some (p, Text.byteSize used)) :
    (f.answer e n (used ++ held)).slot? = some (p, Text.byteSize used) := by
  have htake : (used ++ (held ++ more)).take (used ++ held).length = used ++ held := by
    rw [← List.append_assoc, List.take_left]
  rw [answer_of_extensions_eq_nil hf] at h ⊢
  cases hbuiltin : Builtin.find? (used ++ (held ++ more)) with
  | some b =>
    rw [hbuiltin] at h
    obtain ⟨-, hsize⟩ := Prod.mk.inj (Option.some.inj h)
    obtain ⟨hused, -⟩ := Text.append_inj_of_byteSize
      (List.take_append_drop b.name.length (used ++ (held ++ more)))
      ((Builtin.byteSize_take_name hbuiltin).trans hsize)
    have hlength : b.name.length ≤ (used ++ held).length := by
      have hname := Text.length_eq_of_sameLetters
        (List.find?_some (p := Builtin.begins (used ++ (held ++ more))) hbuiltin)
      rw [hused] at hname
      rw [List.length_append]
      omega
    have hcut := Builtin.find?_take hbuiltin hlength
    rw [htake] at hcut
    rw [hcut]
    exact h
  | none =>
    rw [hbuiltin] at h
    have hcut := Builtin.find?_take_eq_none hbuiltin (used ++ held).length
    rw [htake] at hcut
    rw [hcut]
    cases hparse : Placeholder.parse? (used ++ (held ++ more)) with
    | none =>
      rw [hparse] at h
      cases h
    | some q =>
      rw [hparse] at h
      obtain ⟨-, hsize⟩ := Prod.mk.inj (Option.some.inj h)
      obtain ⟨rest, hsource⟩ := Placeholder.eq_source_append_of_parse? hparse
      obtain ⟨hused, -⟩ := Text.append_inj_of_byteSize hsource hsize.symm
      rw [Placeholder.parse?_of_append hparse hused.symm]
      exact h

/-! ## Cutting a template at a marker -/

/-- The markers that the reading comes to are in the text. -/
lemma exists_of_mem_behindMarkers (h : behind ∈ behindMarkers (f.replacement e) t) :
    ∃ before, t = before ++ marker :: behind := by
  induction t using f.markers_induct e with
  | literal rest hmem =>
    rw [behindMarkers_of_not_mem hmem] at h
    cases h
  | stays before rest hbefore hslot ih =>
    rw [behindMarkers_of_none hbefore hslot] at h
    rcases List.mem_cons.1 h with rfl | h
    · exact ⟨before, rfl⟩
    · obtain ⟨more, rfl⟩ := ih h
      exact ⟨before ++ marker :: more, by simp⟩
  | replaced before used rest p hbefore hslot ih =>
    rw [behindMarkers_of_some hbefore hslot] at h
    rcases List.mem_cons.1 h with rfl | h
    · exact ⟨before, rfl⟩
    · obtain ⟨more, rfl⟩ := ih h
      exact ⟨before ++ marker :: (used ++ more), by simp⟩

/-- A template is read in two parts, when it is cut in front of a marker that the reading comes
to. -/
lemma reading_cut (hf : f.extensions = [])
    (h : b ∈ behindMarkers (f.replacement e) (a ++ marker :: b)) :
    reading (f.replacement e) (a ++ marker :: b)
      = reading (f.replacement e) a ++ reading (f.replacement e) (marker :: b) := by
  -- on the whole text; the cut is at its first marker, or behind that
  generalize ht : a ++ marker :: b = t at h
  induction t using f.markers_induct e generalizing a with
  | literal rest hmem =>
    rw [← ht] at hmem
    simp at hmem
  | stays before behind hbefore hslot ih =>
    rw [behindMarkers_of_none hbefore hslot] at h
    rcases List.mem_cons.1 h with rfl | h
    · obtain rfl : a = before := List.append_cancel_right ht
      have hfirst := reading_append_of_none List.not_mem_nil (replacement_eq_none hslot)
      rw [reading_append_of_none hbefore (replacement_eq_none hslot), reading_of_not_mem hbefore]
      exact congrArg _ hfirst.symm
    · obtain ⟨more, rfl⟩ := exists_of_mem_behindMarkers h
      have hshape : a ++ marker :: b = (before ++ marker :: more) ++ marker :: b :=
        ht.trans (by simp)
      obtain rfl : a = before ++ marker :: more := List.append_cancel_right hshape
      have hstays : (f.answer e 0 more).slot? = none := by
        rw [slot?_eq_none_iff hf] at hslot ⊢
        exact fun hmem => hslot (List.mem_append_left _ hmem)
      rw [reading_append_of_none hbefore (replacement_eq_none hslot), ih rfl h,
        reading_append_of_none hbefore (replacement_eq_none hstays)]
      simp
  | replaced before used rest p hbefore hslot ih =>
    rw [behindMarkers_of_some hbefore hslot] at h
    rcases List.mem_cons.1 h with rfl | h
    · obtain rfl : a = before := List.append_cancel_right ht
      have hfirst := reading_of_some List.not_mem_nil hslot
      rw [reading_of_some hbefore hslot, reading_of_not_mem hbefore]
      exact congrArg _ hfirst.symm
    · obtain ⟨more, rfl⟩ := exists_of_mem_behindMarkers h
      have hshape : a ++ marker :: b = (before ++ marker :: (used ++ more)) ++ marker :: b :=
        ht.trans (by simp)
      obtain rfl : a = before ++ marker :: (used ++ more) := List.append_cancel_right hshape
      rw [reading_of_some hbefore hslot, ih rfl h,
        reading_of_some hbefore (slot?_of_append hf hslot)]
      simp

/-- The reading comes to the markers that the scan visits. -/
lemma mem_behindMarkers_of_visited (hf : f.extensions = [])
    (h : a.byteSize ∈ (f.scan e (a ++ marker :: b)).visited.map (·.1)) :
    b ∈ behindMarkers (f.replacement e) (a ++ marker :: b) := by
  rw [visited_scan hf, List.map_map] at h
  obtain ⟨behind, hbehind, hoffset⟩ := List.mem_map.1 h
  obtain ⟨before, ht⟩ := exists_of_mem_behindMarkers hbehind
  rw [Function.comp_apply, markerBefore] at hoffset
  have hsize : before.byteSize = a.byteSize := by
    have hone : marker.utf8Size = 1 := rfl
    rw [ht, Text.byteSize_append, Text.byteSize_cons, hone] at hoffset
    omega
  obtain ⟨-, hrest⟩ := Text.append_inj_of_byteSize ht hsize.symm
  obtain rfl : b = behind := (List.cons.inj hrest).2
  exact hbehind

/-! ## Markers in front of a blank -/

/-- Without an underscore there is no placeholder. -/
lemma reading_of_underscore_notMem (hf : f.extensions = []) (h : '_' ∉ t) :
    reading (f.replacement e) t = t := by
  induction t using f.markers_induct e with
  | literal rest hmem => exact reading_of_not_mem hmem
  | stays before behind hbefore hslot ih =>
    rw [reading_append_of_none hbefore (replacement_eq_none hslot)]
    rw [ih fun hmem => h (by simp [hmem])]
  | replaced before used rest p hbefore hslot ih =>
    have hnone : '_' ∉ used ++ rest := fun hmem =>
      h (List.mem_append_right _ (List.mem_cons_of_mem _ hmem))
    rw [(slot?_eq_none_iff hf).2 hnone] at hslot
    cases hslot

/-- A kind that the first run of a text does not reach the end of holds a blank. -/
lemma exists_isBlank_of_run {kind rest : Text} (hrun : '_' ∉ Text.run (kind ++ '_' :: rest)) :
    ∃ c ∈ kind, Text.isBlank c = true := by
  by_contra hnone
  have hword : ∀ c ∈ kind, Text.isBlank c = false := by
    intro c hc
    by_contra hblank
    exact hnone ⟨c, hc, Bool.not_eq_false _ ▸ hblank⟩
  have hunderscore : Text.run ('_' :: rest) = '_' :: Text.run rest :=
    List.takeWhile_cons_of_pos (by decide)
  rw [Text.run_append hword, hunderscore] at hrun
  exact hrun (List.mem_append_right _ (List.mem_cons_self ..))

/-- A marker in front of a blank takes all up to the next underscore for a kind, and the run there
for a path. -/
lemma reading_of_blank {kind rest : Text} (hf : f.extensions = []) (hkind : '_' ∉ kind)
    (hopen : (kind ++ '_' :: rest).head? ≠ some '\x7b')
    (hrun : '_' ∉ Text.run (kind ++ '_' :: rest)) :
    reading (f.replacement e) (marker :: (kind ++ '_' :: rest))
      = (((Node.record (.event e)).resolve (Placeholder.segments (Text.run rest))).1.bind
          Node.text?).getD fallback
        ++ reading (f.replacement e) (rest.dropWhile fun c => !Text.isBlank c) := by
  have hbuiltin : Builtin.find? (kind ++ '_' :: rest) = none := by
    by_contra hne
    obtain ⟨b, hb⟩ := Option.ne_none_iff_exists'.1 hne
    exact hrun (Builtin.underscore_mem_run hb)
  have hbrace : kind.head? = some '\x7b' → '\x7d' ∉ Text.run rest := by
    intro hhead
    obtain ⟨kind, rfl⟩ := List.head?_eq_some_iff.1 hhead
    exact absurd rfl hopen
  have hparse := (Placeholder.Spells.bare hkind hbrace (Placeholder.divides_iff.2 rfl)).parse?_eq
  have hsplit := List.takeWhile_append_dropWhile (p := fun c => !Text.isBlank c) (l := rest)
  have htext : kind ++ '_' :: rest
      = (kind ++ '_' :: Text.run rest) ++ rest.dropWhile fun c => !Text.isBlank c := by
    rw [List.append_assoc, List.cons_append, Text.run, hsplit]
  have hslot : (f.answer e 0 (kind ++ '_' :: rest)).slot?
      = some (.ready (((Node.record (.event e)).resolve
            (Placeholder.segments (Text.run rest))).1.bind Node.text?),
          Text.byteSize (kind ++ '_' :: Text.run rest)) := by
    rw [answer_of_extensions_eq_nil hf, hbuiltin, hparse]
    rfl
  rw [htext] at hslot ⊢
  exact reading_of_some List.not_mem_nil hslot

/-- What becomes of a marker that a blank follows before an underscore. The text of a placeholder
without braces holds no blank as long as its kind does not. When no underscore follows at all, the
marker stays with all that is behind it; otherwise there is a blank in the kind of a placeholder,
which goes on to the end of the run behind the first underscore. -/
theorem format_stray_marker (hf : f.extensions = []) :
    (∀ t p, Placeholder.braced? t = none → Placeholder.parse? t = some p →
      ((∀ c ∈ p.source, Text.isBlank c = false) ↔ ∀ c ∈ p.kind, Text.isBlank c = false)) ∧
    ∀ a b, Script.body? (Text.trim (a ++ marker :: b)) = none →
      a.byteSize ∈ (f.scan e (a ++ marker :: b)).visited.map (·.1) →
      b.head? ≠ some '\x7b' → '_' ∉ Text.run b →
      ('_' ∉ b →
        f.format e (a ++ marker :: b) = .ok (reading (f.replacement e) a ++ marker :: b)) ∧
      ∀ kind rest, '_' ∉ kind → b = kind ++ '_' :: rest →
        (∃ c ∈ kind, Text.isBlank c = true) ∧
        f.format e (a ++ marker :: b) = .ok (reading (f.replacement e) a
          ++ ((((Node.record (.event e)).resolve (Placeholder.segments (Text.run rest))).1.bind
              Node.text?).getD fallback
            ++ reading (f.replacement e) (rest.dropWhile fun c => !Text.isBlank c))) := by
  constructor
  · intro t p hbraced hparse
    cases Placeholder.parse?_eq_some_iff.1 hparse with
    | braced hkind hrun hlast hpath =>
      rw [Placeholder.braced?_append hkind, hrun, Placeholder.beforeBrace?_append _ hlast] at hbraced
      cases hbraced
    | @bare kind rest ss hkind hopen hpath =>
      have hpathBlank : ∀ c ∈ '_' :: Text.run rest, Text.isBlank c = false := by
        intro c hc
        rcases List.mem_cons.1 hc with rfl | hc
        · decide
        · exact Text.isBlank_of_mem_run hc
      exact ⟨fun h c hc => h c (List.mem_append_left _ hc),
        fun h => List.forall_mem_append.2 ⟨h, hpathBlank⟩⟩
  · intro a b hscript hvisited hopen hrun
    have hformat : f.format e (a ++ marker :: b)
        = .ok (reading (f.replacement e) a ++ reading (f.replacement e) (marker :: b)) := by
      rw [format_eq_reading_of_sound (sound_of_nil hf) hscript,
        reading_cut hf (mem_behindMarkers_of_visited hf hvisited)]
    constructor
    · intro hnone
      have hmarker : '_' ∉ marker :: b := by
        rintro (_ | ⟨_, hmem⟩)
        exact hnone hmem
      rw [hformat, reading_of_underscore_notMem hf hmarker]
    · rintro kind rest hkind rfl
      refine ⟨exists_isBlank_of_run hrun, ?_⟩
      rw [hformat, reading_of_blank hf hkind hopen hrun]

/-- A price at the end of a template stays; in front of a built-in placeholder, it takes that for
its own path. -/
theorem format_stray_price :
    plain.format .sample "by $app_NAME: $5, é" = .ok "by app: $5, é" ∧
      plain.format .sample "$5 for $APP_NAME now" = .ok "Manual now" := by
  obtain ⟨-, hmarkers⟩ := format_stray_marker (f := plain) (e := .sample) rfl
  constructor
  · obtain ⟨hstays, -⟩ := hmarkers "by $app_NAME: " "5, é" (by decide) (by decide +kernel)
      (by decide) (by decide)
    have hbefore : reading (plain.replacement .sample) "by $app_NAME: " = "by app: " := by
      decide +kernel
    rw [hbefore] at hstays
    exact hstays (by decide)
  · obtain ⟨-, htakes⟩ := hmarkers [] "5 for $APP_NAME now" (by decide) (by decide +kernel)
      (by decide) (by decide)
    obtain ⟨-, hformat⟩ := htakes "5 for $APP" "NAME now" (by decide) (by decide)
    exact hformat.trans (by decide +kernel)

/-- A placeholder without braces does not always end at the first blank, and a price may be lost with
the built-in placeholder behind it. -/
theorem format_price_builtin :
    (¬ ∀ t p, Placeholder.braced? t = none → Placeholder.parse? t = some p →
      ∀ c ∈ p.source, Text.isBlank c = false) ∧
    plain.format .sample "Costs $5, by $APP_NAME" = .ok "Costs Manual" ∧
    plain.format .sample "$APP_NAME" = .ok "app" := by
  refine ⟨?_, by decide +kernel, by decide +kernel⟩
  intro h
  have hblank := h "5, by $APP_NAME" ⟨"5, by $APP", ["NAME"], "5, by $APP_NAME"⟩ (by decide)
    (by decide) ' ' (by decide)
  exact absurd hblank (by decide)

end Formatter
end RuleTemplate
